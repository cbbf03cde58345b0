import LiveRoute.Library.Sequence
import Mathlib.Data.Prod.Lex
import Mathlib.Data.List.Lex
import Mathlib.Order.Defs.LinearOrder

/-! Scores of decision sequences and their lexicographic comparison. -/
namespace LiveRoute.Planner
open Sequence

structure ScheduledPlanKeyEntry where
  originalOrdinal : Nat
  (startUnixMs endUnixMs : Int)
deriving DecidableEq

structure CanonicalPlanKey where
  scheduledOrdinalsInOrder : List Nat
  scheduledEntries : List ScheduledPlanKeyEntry
  skippedOrdinals : List Nat
deriving DecidableEq

/-- The entry loop of the key check; `seen` holds the ordinals before it. -/
def entriesValid (skipped : List Nat) (seen : List Nat) :
    List Nat → List ScheduledPlanKeyEntry → Bool
  | ordinal :: ordinals, entry :: entries =>
    decide (ordinal = entry.originalOrdinal) && decide (entry.startUnixMs < entry.endUnixMs) &&
      !(skipped.contains entry.originalOrdinal) && !(seen.contains entry.originalOrdinal) &&
      entriesValid skipped (seen ++ [ordinal]) ordinals entries
  | _, _ => true

def isSorted : List Nat → Bool
  | first :: second :: rest => decide (first ≤ second) && isSorted (second :: rest)
  | _ => true

def CanonicalPlanKey.isValid (key : CanonicalPlanKey) : Bool :=
  decide (key.scheduledOrdinalsInOrder.length = key.scheduledEntries.length) &&
    isSorted key.skippedOrdinals && !hasAdjacentEqual key.skippedOrdinals &&
    entriesValid key.skippedOrdinals [] key.scheduledOrdinalsInOrder key.scheduledEntries

structure CandidateScore where
  skipsByPriority : List Nat
  (scheduledUtility totalLatenessMs totalPreferredShortfallMs totalTravelMs : Int)
  (changedActivityCount totalStartShiftMs finalScheduledEndUnixMs : Int)
  canonicalPlanKey : CanonicalPlanKey
deriving DecidableEq

def CandidateScore.isValid (score : CandidateScore) : Bool :=
  decide (0 ≤ score.totalLatenessMs) && decide (0 ≤ score.totalPreferredShortfallMs) &&
    decide (0 ≤ score.totalTravelMs) && decide (0 ≤ score.changedActivityCount) &&
    decide (0 ≤ score.totalStartShiftMs) && score.canonicalPlanKey.isValid

/-- `decision` is 0 for a scheduled and 1 for a skipped activity. -/
structure ExpansionDecision where
  (activityOrdinal decision : Nat)
  (startUnixMs endUnixMs : Int)
deriving DecidableEq

abbrev EntryOrder := Nat ×ₗ Int ×ₗ Int
abbrev KeyOrder := List Nat ×ₗ List EntryOrder ×ₗ List Nat
abbrev TieOrder := Int ×ₗ Int ×ₗ Int ×ₗ Int ×ₗ Int ×ₗ Int ×ₗ KeyOrder
abbrev DecisionOrder := Nat ×ₗ Nat ×ₗ Int ×ₗ Int

def ScheduledPlanKeyEntry.order (entry : ScheduledPlanKeyEntry) : EntryOrder :=
  toLex (entry.originalOrdinal, toLex (entry.startUnixMs, entry.endUnixMs))

def CanonicalPlanKey.order (key : CanonicalPlanKey) : KeyOrder :=
  toLex (key.scheduledOrdinalsInOrder,
    toLex (key.scheduledEntries.map ScheduledPlanKeyEntry.order, key.skippedOrdinals))

def CandidateScore.tieOrder (score : CandidateScore) : TieOrder :=
  toLex (score.totalLatenessMs, toLex (score.totalPreferredShortfallMs,
    toLex (score.totalTravelMs, toLex (score.changedActivityCount,
      toLex (score.totalStartShiftMs, toLex (score.finalScheduledEndUnixMs,
        score.canonicalPlanKey.order))))))

def ExpansionDecision.order (decision : ExpansionDecision) : DecisionOrder :=
  toLex (decision.activityOrdinal,
    toLex (decision.decision, toLex (decision.startUnixMs, decision.endUnixMs)))

def isBetterComplete (left right : CandidateScore) : Bool :=
  if left.skipsByPriority ≠ right.skipsByPriority then
    decide (left.skipsByPriority < right.skipsByPriority)
  else if left.scheduledUtility ≠ right.scheduledUtility then
    decide (right.scheduledUtility < left.scheduledUtility)
  else
    decide (left.tieOrder < right.tieOrder)

def isBetterPartial (left : CandidateScore) (leftDecisions : List ExpansionDecision)
    (right : CandidateScore) (rightDecisions : List ExpansionDecision) : Bool :=
  if isBetterComplete left right then true
  else if isBetterComplete right left then false
  else
    decide (leftDecisions.map ExpansionDecision.order < rightDecisions.map ExpansionDecision.order)

theorem isBetterComplete_irrefl (score : CandidateScore) :
    isBetterComplete score score = false := by
  simp [isBetterComplete]

theorem isBetterComplete_iff : isBetterComplete left right ↔
      left.skipsByPriority < right.skipsByPriority ∨ (left.skipsByPriority = right.skipsByPriority ∧
          (right.scheduledUtility < left.scheduledUtility ∨
            (left.scheduledUtility = right.scheduledUtility ∧
              left.tieOrder < right.tieOrder))) := by
  grind [isBetterComplete]

theorem isBetterComplete_trans (first second third : CandidateScore)
    (hfirst : isBetterComplete first second)
    (hsecond : isBetterComplete second third) : isBetterComplete first third := by
  rw [isBetterComplete_iff] at hfirst hsecond ⊢
  rcases hfirst with hskips | ⟨hskips, hfirst⟩
  · left
    rcases hsecond with hskips' | ⟨hskips', -⟩
    · exact lt_trans hskips hskips'
    · exact hskips' ▸ hskips
  · rcases hsecond with hskips' | ⟨hskips', hsecond⟩
    · exact .inl (hskips ▸ hskips')
    · refine .inr ⟨hskips.trans hskips', ?_⟩
      rcases hfirst with hutil | ⟨hutil, hfirst⟩
      · left
        rcases hsecond with hutil' | ⟨hutil', -⟩
        · exact lt_trans hutil' hutil
        · exact hutil' ▸ hutil
      · rcases hsecond with hutil' | ⟨hutil', hsecond⟩
        · exact .inl (hutil ▸ hutil')
        · exact .inr ⟨hutil.trans hutil', lt_trans hfirst hsecond⟩

end LiveRoute.Planner
