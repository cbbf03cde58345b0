import Mathlib.Data.List.Induction

/-! Traces with an obligation: an entry that opens one forbids the guarded
entries until an entry closes it. -/
namespace LiveRoute.Traces
open List

variable {α : Type} {opens closes guarded : α → Bool} {trace : List α} {entry : α}

/-- Between an entry that opens and a later guarded one, an entry closes. -/
def Guards (opens closes guarded : α → Bool) (trace : List α) : Prop :=
  ∀ earlier first between last later, trace = earlier ++ first :: (between ++ last :: later) →
    opens first → guarded last → ∃ entry ∈ between, closes entry

/-- Some entry opened and none has closed since. -/
def isOpen (opens closes : α → Bool) (trace : List α) : Bool :=
  trace.foldl (fun waiting entry => opens entry || waiting && !closes entry) false

@[simp] theorem isOpen_nil : isOpen opens closes ([] : List α) = false := rfl

@[simp] theorem isOpen_append : isOpen opens closes (trace ++ [entry]) =
    (opens entry || isOpen opens closes trace && !closes entry) := by
  simp [isOpen]

theorem isOpen_iff : isOpen opens closes trace ↔
    ∃ earlier first between, trace = earlier ++ first :: between ∧ opens first ∧
      ∀ entry ∈ between, closes entry = false := by
  induction trace using List.reverseRecOn with
  | nil => simp
  | append_singleton trace entry ih =>
    rw [isOpen_append, Bool.or_eq_true, Bool.and_eq_true, ih, Bool.not_eq_true']
    constructor
    · rintro (hopens | ⟨⟨earlier, first, between, rfl, hopens, hbetween⟩, hentry⟩)
      · exact ⟨trace, entry, [], rfl, hopens, by simp⟩
      · refine ⟨earlier, first, between ++ [entry], by simp, hopens, ?_⟩
        simpa [or_imp, forall_and] using ⟨hbetween, hentry⟩
    · rintro ⟨earlier, first, between, htrace, hopens, hbetween⟩
      induction between using List.reverseRecOn with
      | nil =>
        obtain ⟨-, hentry⟩ := append_inj' htrace rfl
        cases hentry
        exact .inl hopens
      | append_singleton between =>
        rw [← cons_append, ← append_assoc] at htrace
        obtain ⟨hrest, hentry⟩ := append_inj' htrace rfl
        cases hentry
        rw [forall_mem_append] at hbetween
        exact .inr
          ⟨⟨earlier, first, between, hrest, hopens, hbetween.1⟩, hbetween.2 entry (by simp)⟩

theorem guards_nil : Guards opens closes guarded ([] : List α) := by
  intro earlier first between last later htrace
  simp at htrace

theorem guards_append_iff : Guards opens closes guarded (trace ++ [entry]) ↔
    Guards opens closes guarded trace ∧ (guarded entry → isOpen opens closes trace = false) := by
  constructor
  · intro h
    refine ⟨fun earlier first between last later htrace => ?_, fun hguarded => ?_⟩
    · exact h earlier first between last (later ++ [entry]) (by simp [htrace])
    · rw [← Bool.not_eq_true, isOpen_iff]
      rintro ⟨earlier, first, between, htrace, hopens, hbetween⟩
      obtain ⟨closing, hclose, hcloses⟩ :=
        h earlier first between entry [] (by simp [htrace]) hopens hguarded
      rw [hbetween closing hclose] at hcloses
      cases hcloses
  · rintro ⟨htrace, hentry⟩ earlier first between last later hsplit hopens hguarded
    induction later using List.reverseRecOn with
    | nil =>
      rw [← cons_append, ← append_assoc] at hsplit
      obtain ⟨hrest, hlast⟩ := append_inj' hsplit rfl
      cases hlast
      by_contra hnone
      have hopen : isOpen opens closes trace := by
        rw [isOpen_iff]
        refine ⟨earlier, first, between, hrest, hopens, fun closing hclose => ?_⟩
        rw [← Bool.not_eq_true]
        exact fun hcloses => hnone ⟨closing, hclose, hcloses⟩
      rw [hentry hguarded] at hopen
      cases hopen
    | append_singleton later =>
      rw [← cons_append, ← append_assoc, ← cons_append, ← append_assoc] at hsplit
      obtain ⟨hrest, -⟩ := append_inj' hsplit rfl
      exact htrace earlier first between last later (by simpa using hrest) hopens hguarded

end LiveRoute.Traces
