import Mathlib.Tactic.Common

/-! Overflow-checked signed 64-bit arithmetic. Values are integers; a checked
operation answers `none` exactly where the machine operation would leave the
representable range, so no result below ever depends on wrap-around. -/
namespace LiveRoute.CheckedInt

def minInt64 : Int := -9223372036854775808
def maxInt64 : Int := 9223372036854775807

def InInt64 (n : Int) : Prop := minInt64 ≤ n ∧ n ≤ maxInt64

instance : DecidablePred InInt64 := fun _ => inferInstanceAs (Decidable (_ ∧ _))

def checkedAdd (left right : Int) : Option Int :=
  if (0 < right ∧ maxInt64 - right < left) ∨ (right < 0 ∧ left < minInt64 - right) then
    none
  else
    some (left + right)

def checkedSubtract (left right : Int) : Option Int :=
  if right = minInt64 then
    if left < 0 then some (left - right) else none
  else
    checkedAdd left (-right)

def checkedMilliseconds (seconds : UInt32) : Option Int :=
  if maxInt64 / 1000 < (seconds.toNat : Int) then none
  else some ((seconds.toNat : Int) * 1000)

def checkedAbsoluteDifference (left right : Int) : Option Int :=
  match checkedSubtract left right with
  | none => none
  | some difference =>
    if difference = minInt64 then none
    else if difference < 0 then some (-difference)
    else some difference

theorem inInt64_toInt (n : Int64) : InInt64 n.toInt := by
  have hlow := n.le_toInt
  have hhigh := n.toInt_lt
  unfold InInt64 minInt64 maxInt64
  omega

theorem checkedAdd_eq_some (hleft : InInt64 left) :
    checkedAdd left right = some sum ↔ sum = left + right ∧ InInt64 sum := by
  unfold InInt64 minInt64 maxInt64 at hleft
  unfold checkedAdd InInt64 minInt64 maxInt64
  split
  · simp only [reduceCtorEq, false_iff]
    omega
  · simp only [Option.some.injEq]
    omega

theorem checkedAdd_value (h : checkedAdd left right = some sum) : sum = left + right := by
  unfold checkedAdd at h
  split at h
  · contradiction
  · exact (Option.some.inj h).symm

theorem checkedSubtract_value (h : checkedSubtract left right = some difference) :
    difference = left - right := by
  unfold checkedSubtract at h
  split at h
  · split at h
    · exact (Option.some.inj h).symm
    · contradiction
  · have hvalue := checkedAdd_value h
    omega

theorem checkedSubtract_eq_some (hleft : InInt64 left) :
    checkedSubtract left right = some difference ↔
      difference = left - right ∧ InInt64 difference := by
  unfold checkedSubtract
  split
  next hmin =>
    unfold InInt64 minInt64 maxInt64 at *
    split
    · simp only [Option.some.injEq]
      omega
    · simp only [reduceCtorEq, false_iff]
      omega
  next =>
    rw [checkedAdd_eq_some hleft]
    constructor <;> rintro ⟨rfl, hrange⟩ <;> exact ⟨by omega, hrange⟩

@[simp] theorem checkedMilliseconds_eq :
    checkedMilliseconds seconds = some ((seconds.toNat : Int) * 1000) := by
  have hbound := seconds.toNat_lt
  unfold checkedMilliseconds maxInt64
  rw [if_neg]
  omega

theorem checkedAbsoluteDifference_nonneg
    (h : checkedAbsoluteDifference left right = some shift) : 0 ≤ shift := by
  unfold checkedAbsoluteDifference at h
  split at h
  · contradiction
  · split at h
    · contradiction
    · split at h <;> cases h <;> omega

end LiveRoute.CheckedInt
