import Mathlib.Data.List.Basic

/-! Runs of a step function. A property that one step keeps exactly under a
condition holds throughout a run exactly when every step of it meets that
condition. -/
namespace LiveRoute.Runs
open List

variable {σ τ : Type} {step : σ → τ → σ}

/-- Every action of the history meets the condition in the state it acts on. -/
def Along (step : σ → τ → σ) (condition : σ → τ → Prop) : σ → List τ → Prop
  | _, [] => True
  | state, action :: rest => condition state action ∧ Along step condition (step state action) rest

instance decidableAlong (condition : σ → τ → Prop)
    [∀ state action, Decidable (condition state action)] :
    (state : σ) → (history : List τ) → Decidable (Along step condition state history)
  | _, [] => .isTrue trivial
  | state, action :: rest =>
    haveI := decidableAlong condition (step state action) rest
    inferInstanceAs
      (Decidable (condition state action ∧ Along step condition (step state action) rest))

theorem along_append_iff {condition : σ → τ → Prop} :
    Along step condition state (done ++ later) ↔
      Along step condition state done ∧ Along step condition (done.foldl step state) later := by
  induction done generalizing state with
  | nil => simp [Along]
  | cons _ _ ih => rw [cons_append, Along, Along, ih, and_assoc, foldl_cons]

theorem foldl_of_along {invariant : σ → Prop} {guard : σ → τ → Prop}
    (hinv : ∀ state action, invariant state → guard state action → invariant (step state action))
    (hstate : invariant state)
    (hguard : Along step guard state history) : invariant (history.foldl step state) := by
  induction history generalizing state with
  | nil => exact hstate
  | cons action _ ih => exact ih (hinv state action hstate hguard.1) hguard.2

theorem along_true (state : σ) (history : List τ) : Along step (fun _ _ => True) state history := by
  induction history generalizing state with
  | nil => trivial
  | cons action _ ih => exact ⟨trivial, ih (step state action)⟩

theorem along_iff_of_guard {invariant : σ → Prop} {guard condition other : σ → τ → Prop}
    (hinv : ∀ state action, invariant state → guard state action → invariant (step state action))
    (hiff : ∀ state action, invariant state → guard state action →
      (condition state action ↔ other state action)) (hstate : invariant state)
    (hguard : Along step guard state history) :
    Along step condition state history ↔ Along step other state history := by
  induction history generalizing state with
  | nil => exact Iff.rfl
  | cons action _ ih =>
    obtain ⟨hfirst, hrest⟩ := hguard
    exact and_congr (hiff state action hstate hfirst) (ih (hinv state action hstate hfirst) hrest)

theorem along_iff {invariant : σ → Prop} {condition other : σ → τ → Prop}
    (hinv : ∀ state action, invariant state → invariant (step state action))
    (hiff : ∀ state action, invariant state → (condition state action ↔ other state action))
    (hstate : invariant state) (history : List τ) :
    Along step condition state history ↔ Along step other state history :=
  along_iff_of_guard (fun state action h _ => hinv state action h)
    (fun state action h _ => hiff state action h) hstate (along_true state history)

/-- A property that no step restores holds after a run exactly when it held
before and every step of the run meets its condition. -/
theorem foldl_iff_along_of_invariant {invariant safe : σ → Prop} {condition : σ → τ → Prop}
    (hinv : ∀ state action, invariant state → invariant (step state action))
    (hstep : ∀ state action, invariant state →
      (safe (step state action) ↔ safe state ∧ condition state action))
    {state : σ} (hstate : invariant state) (history : List τ) :
    safe (history.foldl step state) ↔ safe state ∧ Along step condition state history := by
  induction history generalizing state with
  | nil => simp [Along]
  | cons action _ ih =>
    rw [foldl_cons, ih (hinv state action hstate), hstep state action hstate, and_assoc]
    rfl

theorem forall_prefix_cons_iff {property : List τ → Prop} :
    (∀ done, done <+: first :: rest → property done) ↔
      property [] ∧ ∀ done, done <+: rest → property (first :: done) := by
  constructor
  · intro h
    refine ⟨h [] nil_prefix, fun done hdone => h _ ?_⟩
    exact cons_prefix_cons.mpr ⟨rfl, hdone⟩
  · rintro ⟨hnil, hcons⟩ done hdone
    cases done with
    | nil => exact hnil
    | cons _ done =>
      obtain ⟨rfl, hrest⟩ := cons_prefix_cons.mp hdone
      exact hcons done hrest

/-- The exact rule for a safety property: `safe` is lost at the first step
that violates the condition, and never before. -/
theorem safe_iff_along {invariant safe : σ → Prop} {condition : σ → τ → Prop}
    (hinv : ∀ state action, invariant state → safe state → invariant (step state action))
    (hstep : ∀ state action, invariant state → safe state →
      (safe (step state action) ↔ condition state action))
    (hstate : invariant state) (hsafe : safe state) (history : List τ) :
    (∀ done, done <+: history → safe (done.foldl step state)) ↔
      Along step condition state history := by
  induction history generalizing state with
  | nil => simp [Along, hsafe]
  | cons action _ ih =>
    have hnext := hstep state action hstate hsafe
    rw [forall_prefix_cons_iff]
    constructor
    · rintro ⟨-, hlater⟩
      have hkept : safe (step state action) := hlater [] nil_prefix
      exact ⟨hnext.mp hkept, (ih (hinv state action hstate hsafe) hkept).mp hlater⟩
    · rintro ⟨hcond, hrest⟩
      have hkept : safe (step state action) := hnext.mpr hcond
      exact ⟨hsafe, (ih (hinv state action hstate hsafe) hkept).mpr hrest⟩

end LiveRoute.Runs
