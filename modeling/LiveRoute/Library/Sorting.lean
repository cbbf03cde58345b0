import LiveRoute.Library.Sequence

/-! Sorting routines that are known by their contract only. Where they put
equivalent items is not specified, so their results agree exactly because a
comparison that tells all items apart leaves them no choice. -/
namespace LiveRoute.Sequence
open List

variable {α : Type}

structure StrictWeak (less : α → α → Bool) : Prop where
  asymm : ∀ left right, less left right → less right left = false
  negTrans : ∀ first second third, less first second = false → less second third = false →
    less first third = false

/-- The comparison is a strict weak order as far as the items go. -/
structure StrictWeakOn (less : α → α → Bool) (items : List α) : Prop where
  asymm : ∀ left ∈ items, ∀ right ∈ items, less left right → less right left = false
  negTrans : ∀ first ∈ items, ∀ second ∈ items, ∀ third ∈ items, less first second = false →
    less second third = false → less first third = false

/-- No two items of the list are equivalent. -/
def TellsApart (less : α → α → Bool) (items : List α) : Prop :=
  ∀ left ∈ items, ∀ right ∈ items, left ≠ right → less left right ∨ less right left

def InOrder (less : α → α → Bool) (items : List α) : Prop :=
  items.Pairwise fun left right => less right left = false

/-- A sort, which need not be stable. -/
structure SortRoutine (α : Type) where
  sort : (α → α → Bool) → List α → List α
  perm : ∀ {less items}, StrictWeakOn less items → (sort less items).Perm items
  sorted : ∀ {less items}, StrictWeakOn less items → InOrder less (sort less items)

/-- A sort of the first `count` items only. -/
structure PartialSortRoutine (α : Type) where
  partialSort : (α → α → Bool) → Nat → List α → List α
  perm : ∀ {less count items}, StrictWeakOn less items →
    (partialSort less count items).Perm items
  sorted : ∀ {less count items}, StrictWeakOn less items →
    InOrder less ((partialSort less count items).take count)
  least : ∀ {less count items}, StrictWeakOn less items →
    ∀ first ∈ (partialSort less count items).take count,
      ∀ rest ∈ (partialSort less count items).drop count, less rest first = false

section Determined

variable {less other : α → α → Bool} {items : List α}

theorem StrictWeakOn.subset (h : StrictWeakOn less items)
    (hsubset : others ⊆ items) : StrictWeakOn less others where
  asymm := fun left hleft right hright => h.asymm left (hsubset hleft) right (hsubset hright)
  negTrans := fun first hfirst second hsecond third hthird =>
    h.negTrans first (hsubset hfirst) second (hsubset hsecond) third (hsubset hthird)

theorem inOrder_orderedInsert (h : StrictWeakOn less (item :: items))
    (hsorted : InOrder less items) :
    InOrder less (items.orderedInsert (fun left right => less right left = false) item) := by
  induction items with
  | nil => exact pairwise_singleton _ _
  | cons first rest ih =>
    obtain ⟨hfirst, hrest⟩ := pairwise_cons.mp hsorted
    rw [orderedInsert_cons]
    split
    next hbefore =>
      refine pairwise_cons.mpr ⟨fun later hlater => ?_, hsorted⟩
      rcases mem_cons.mp hlater with rfl | hlater
      · exact hbefore
      · exact h.negTrans later (by simp [hlater]) first (by simp) item (by simp)
          (hfirst later hlater) hbefore
    next hafter =>
      have hless : less first item := by simpa using hafter
      refine pairwise_cons.mpr ⟨fun later hlater => ?_, ih (h.subset ?_) hrest⟩
      · rcases (mem_orderedInsert _).mp hlater with rfl | hlater
        · exact h.asymm first (by simp) later (by simp) hless
        · exact hfirst later hlater
      · exact cons_subset_cons item (subset_cons_self first rest)

theorem StrictWeakOn.inOrder_sortBy (h : StrictWeakOn less items) :
    InOrder less (sortBy less items) := by
  induction items with
  | nil => exact List.Pairwise.nil
  | cons item rest ih =>
    refine inOrder_orderedInsert (h.subset ?_) (ih (h.subset (subset_cons_self item rest)))
    exact cons_subset_cons item (sortBy_perm less rest).subset

theorem inOrder_sortBy (h : StrictWeak less) : InOrder less (sortBy less items) :=
  StrictWeakOn.inOrder_sortBy ⟨fun left _ right _ => h.asymm left right,
    fun first _ second _ third _ => h.negTrans first second third⟩

theorem eq_sortBy (h : StrictWeak less) (hapart : TellsApart less items) {sorted : List α}
    (hperm : sorted.Perm items) (hsorted : InOrder less sorted) : sorted = sortBy less items := by
  refine List.Perm.eq_of_pairwise ?_ hsorted (inOrder_sortBy h)
    (hperm.trans (sortBy_perm less items).symm)
  intro left right hleft hright hle hge
  by_contra hne
  have hright : right ∈ items := (mem_sortBy less items right).mp hright
  rcases hapart left (hperm.subset hleft) right hright hne with hlt | hgt
  · rw [hge] at hlt
    cases hlt
  · rw [hle] at hgt
    cases hgt

variable (h : StrictWeak less) (hapart : TellsApart less items)
  (hagree : ∀ left ∈ items, ∀ right ∈ items, other left right = less left right)

include h hagree in
theorem strictWeakOn_of_agree : StrictWeakOn other items := by
  constructor
  · intro left hleft right hright
    rw [hagree left hleft right hright, hagree right hright left hleft]
    exact h.asymm left right
  · intro first hfirst second hsecond third hthird
    rw [hagree first hfirst second hsecond, hagree second hsecond third hthird,
      hagree first hfirst third hthird]
    exact h.negTrans first second third

include h hapart hagree in
/-- A sort by a comparison that agrees with `less` on the items. -/
theorem SortRoutine.sort_eq (routine : SortRoutine α) :
    routine.sort other items = sortBy less items := by
  have hweak := strictWeakOn_of_agree h hagree
  have hperm := routine.perm hweak
  refine eq_sortBy h hapart hperm ((routine.sorted hweak).imp_of_mem ?_)
  intro left right hleft hright horder
  rw [← hagree right (hperm.subset hright) left (hperm.subset hleft), horder]

include h hapart hagree in
/-- What a partial sort puts first is what a full sort puts first: sorting the
rest as well gives the list in order. -/
theorem PartialSortRoutine.take_eq (routine : PartialSortRoutine α) (count : Nat) :
    (routine.partialSort other count items).take count = (sortBy less items).take count := by
  have hweak := strictWeakOn_of_agree h hagree
  have hperm : (routine.partialSort other count items).Perm items := routine.perm hweak
  have hsorted : InOrder other ((routine.partialSort other count items).take count) :=
    routine.sorted hweak
  have hleast : ∀ first ∈ (routine.partialSort other count items).take count,
      ∀ rest ∈ (routine.partialSort other count items).drop count, other rest first = false :=
    routine.least hweak
  generalize routine.partialSort other count items = result at hperm hsorted hleast ⊢
  have hitems : ∀ item ∈ result, item ∈ items := fun item hitem => hperm.subset hitem
  have hfull : result.take count ++ sortBy less (result.drop count) = sortBy less items := by
    refine eq_sortBy h hapart ?_ ?_
    · refine (((sortBy_perm less (result.drop count)).append_left _).trans ?_).trans hperm
      exact List.Perm.of_eq (take_append_drop count result)
    · refine pairwise_append.mpr ⟨hsorted.imp_of_mem ?_, inOrder_sortBy h, ?_⟩
      · intro left right hleft hright horder
        rw [← hagree right (hitems right (mem_of_mem_take hright)) left
          (hitems left (mem_of_mem_take hleft)), horder]
      · intro first hfirst rest hrest
        rw [mem_sortBy] at hrest
        rw [← hagree rest (hitems rest (mem_of_mem_drop hrest)) first
          (hitems first (mem_of_mem_take hfirst)), hleast first hfirst rest hrest]
  rw [← hfull]
  by_cases hcount : count ≤ result.length
  · rw [take_append_of_le_length (by simp [hcount]), take_take, Nat.min_self]
  · have hshort : result.drop count = [] := drop_eq_nil_of_le (by omega)
    rw [hshort, show sortBy less [] = [] from rfl, append_nil, take_take, Nat.min_self]

end Determined

/-- The stable sort, as one routine of the contract. -/
def SortRoutine.stable : SortRoutine α where
  sort := sortBy
  perm := fun _ => sortBy_perm _ _
  sorted := StrictWeakOn.inOrder_sortBy

/-- A routine that takes the items from the back, so that equivalent ones end
up the other way round. -/
def SortRoutine.backward (routine : SortRoutine α) : SortRoutine α where
  sort := fun less items => routine.sort less items.reverse
  perm := fun h => (routine.perm (h.subset fun _ => mem_reverse.mp)).trans (reverse_perm _)
  sorted := fun h => routine.sorted (h.subset fun _ => mem_reverse.mp)

/-- A full sort does what is asked of a partial one. -/
def SortRoutine.toPartial (routine : SortRoutine α) : PartialSortRoutine α where
  partialSort := fun less _ items => routine.sort less items
  perm := routine.perm
  sorted := fun h => (routine.sorted h).sublist (take_sublist _ _)
  least := fun {less count items} h first hfirst rest hrest => by
    have hsplit := take_append_drop count (routine.sort less items)
    have hsorted := routine.sorted h
    rw [InOrder, ← hsplit, pairwise_append] at hsorted
    exact hsorted.2.2 first hfirst rest hrest

variable {items : List α}

theorem uniqueAfter_ascending {same : α → α → Bool} {key : α → Int}
    (hsame : ∀ left ∈ last :: items, ∀ right ∈ last :: items, key left = key right →
      same left right)
    (hsorted : (last :: items).Pairwise fun left right => key left ≤ key right) :
    (last :: uniqueAfter same last items).Pairwise fun left right => key left < key right := by
  induction items generalizing last with
  | nil => exact pairwise_singleton _ _
  | cons head tail ih =>
    obtain ⟨hlast, htail⟩ := pairwise_cons.mp hsorted
    unfold uniqueAfter
    split
    · refine ih (fun left hleft right hright => hsame left ?_ right ?_) ?_
      · exact cons_subset_cons last (subset_cons_self head tail) hleft
      · exact cons_subset_cons last (subset_cons_self head tail) hright
      · exact pairwise_cons.mpr ⟨fun item hitem => hlast item (mem_cons_of_mem _ hitem),
          (pairwise_cons.mp htail).2⟩
    next hdiffer =>
      have hlt : key last < key head := by
        refine lt_of_le_of_ne (hlast head mem_cons_self) fun hequal => hdiffer ?_
        exact hsame last mem_cons_self head (by simp) hequal
      have hrest := ih (fun left hleft right hright =>
        hsame left (mem_cons_of_mem _ hleft) right (mem_cons_of_mem _ hright)) htail
      refine pairwise_cons.mpr ⟨fun item hitem => ?_, hrest⟩
      rcases mem_cons.mp hitem with rfl | hitem
      · exact hlt
      · exact lt_trans hlt ((pairwise_cons.mp hrest).1 item hitem)

theorem uniqueAdjacent_ascending {same : α → α → Bool} {key : α → Int}
    (hsame : ∀ left ∈ items, ∀ right ∈ items, key left = key right → same left right)
    (hsorted : items.Pairwise fun left right => key left ≤ key right) :
    (uniqueAdjacent same items).Pairwise fun left right => key left < key right := by
  cases items with
  | nil => exact List.Pairwise.nil
  | cons => exact uniqueAfter_ascending hsame hsorted

end LiveRoute.Sequence
