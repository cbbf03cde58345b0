import Mathlib.Data.List.Sort
import Mathlib.Order.Basic

/-! Sequence algorithms on lists: sorting by a comparison, removal of adjacent
duplicates, the sorted-and-adjacent test for repeated keys, and lower bounds.
The comparison is a Boolean function, as it is in the programs that use them. -/
namespace LiveRoute.Sequence
open List

variable {α : Type}

/-- Stable sorting by a strict comparison. -/
def sortBy (less : α → α → Bool) (items : List α) : List α :=
  items.insertionSort fun left right => less right left = false

theorem sortBy_perm (less : α → α → Bool) (items : List α) : (sortBy less items).Perm items :=
  perm_insertionSort _ items

@[simp] theorem mem_sortBy (less : α → α → Bool) (items : List α) (item : α) :
    item ∈ sortBy less items ↔ item ∈ items :=
  (sortBy_perm less items).mem_iff

/-- What remains after `last` once every item equivalent to the item kept
before it is dropped. -/
def uniqueAfter (same : α → α → Bool) (last : α) : List α → List α
  | [] => []
  | item :: rest =>
    if same last item then uniqueAfter same last rest
    else item :: uniqueAfter same item rest

def uniqueAdjacent (same : α → α → Bool) : List α → List α
  | [] => []
  | item :: rest => item :: uniqueAfter same item rest

theorem uniqueAfter_subset (same : α → α → Bool) (last : α) (items : List α) :
    ∀ item ∈ uniqueAfter same last items, item ∈ items := by
  induction items generalizing last with
  | nil => intro item hitem; exact hitem
  | cons head _ ih =>
    intro item hitem
    unfold uniqueAfter at hitem
    split at hitem
    · exact mem_cons_of_mem _ (ih last item hitem)
    · rcases mem_cons.mp hitem with rfl | htail
      · exact mem_cons_self
      · exact mem_cons_of_mem _ (ih head item htail)

theorem uniqueAdjacent_subset (same : α → α → Bool) (items : List α) :
    ∀ item ∈ uniqueAdjacent same items, item ∈ items := by
  cases items with
  | nil => intro item hitem; exact hitem
  | cons head tail =>
    intro item hitem
    rcases mem_cons.mp hitem with rfl | htail
    · exact mem_cons_self
    · exact mem_cons_of_mem _ (uniqueAfter_subset same head tail item htail)

theorem uniqueAfter_represents (same : α → α → Bool) (last : α) (items : List α) : ∀ item ∈ items,
    ∃ kept ∈ last :: uniqueAfter same last items, kept = item ∨ same kept item := by
  induction items generalizing last with
  | nil => intro item hitem; cases hitem
  | cons head _ ih =>
    intro item hitem
    unfold uniqueAfter
    split
    next hsame =>
      rcases mem_cons.mp hitem with rfl | htail
      · exact ⟨last, mem_cons_self, .inr hsame⟩
      · exact ih last item htail
    next =>
      rcases mem_cons.mp hitem with rfl | htail
      · exact ⟨item, by simp, .inl rfl⟩
      · obtain ⟨kept, hkept, hequal⟩ := ih head item htail
        exact ⟨kept, mem_cons_of_mem _ hkept, hequal⟩

theorem uniqueAdjacent_represents (same : α → α → Bool) (items : List α) :
    ∀ item ∈ items, ∃ kept ∈ uniqueAdjacent same items, kept = item ∨ same kept item := by
  cases items with
  | nil => intro item hitem; cases hitem
  | cons head tail =>
    intro item hitem
    rcases mem_cons.mp hitem with rfl | htail
    · exact ⟨item, mem_cons_self, .inl rfl⟩
    · exact uniqueAfter_represents same head tail item htail

def hasAdjacentEqual [DecidableEq α] : List α → Bool
  | first :: second :: rest => first == second || hasAdjacentEqual (second :: rest)
  | _ => false

/-- No key occurs twice, tested on the sorted keys. -/
def allDistinct (keys : List Nat) : Bool :=
  !hasAdjacentEqual (sortBy (fun left right => decide (left < right)) keys)

theorem hasAdjacentEqual_eq_false_iff [DecidableEq α] (items : List α) :
    hasAdjacentEqual items = false ↔ items.IsChain (· ≠ ·) := by
  induction items with
  | nil => simp [hasAdjacentEqual]
  | cons _ rest ih =>
    cases rest with
    | nil => simp [hasAdjacentEqual]
    | cons =>
      simp only [hasAdjacentEqual, Bool.or_eq_false_iff, isChain_cons_cons, ih]
      simp

theorem sortBy_key_pairwise {β : Type} [LinearOrder β] (key : α → β) (items : List α) :
    (sortBy (fun left right => decide (key left < key right)) items).Pairwise
      (fun left right => key left ≤ key right) := by
  have hrel : (fun left right : α => decide (key right < key left) = false) =
      (fun left right => key left ≤ key right) := by
    funext left right
    simp
  unfold sortBy
  simp only [hrel]
  exact pairwise_insertionSort (fun left right : α => key left ≤ key right) items

theorem sortBy_append_first {less : α → α → Bool} (h : ∀ other ∈ items, less item other) :
    sortBy less (items ++ [item]) = item :: sortBy less items := by
  unfold sortBy
  induction items with
  | nil => rfl
  | cons _ _ ih =>
    rw [forall_mem_cons] at h
    rw [cons_append, insertionSort_cons, ih h.2, insertionSort_cons,
      orderedInsert_cons, if_neg (by simp [h.1])]

theorem findIdx_of_ascending {keys : List Nat} (hsorted : keys.Pairwise (· < ·))
    (h : keys[position]? = some key) :
    keys.findIdx (fun other => decide (key ≤ other)) = position := by
  obtain ⟨hpos, hkey⟩ := List.getElem?_eq_some_iff.mp h
  rw [findIdx_eq hpos]
  refine ⟨by simp [hkey], fun earlier hearlier => ?_⟩
  have hbelow := pairwise_iff_getElem.mp hsorted earlier position (by omega) hpos hearlier
  simp only [decide_eq_false_iff_not, Nat.not_le]
  omega

theorem sortBy_lt_pairwise (keys : List Nat) :
    (sortBy (fun left right => decide (left < right)) keys).Pairwise (· ≤ ·) :=
  sortBy_key_pairwise id keys

@[simp] theorem allDistinct_iff {keys : List Nat} : allDistinct keys ↔ keys.Nodup := by
  have hsorted := sortBy_lt_pairwise keys
  rw [← (sortBy_perm (fun left right => decide (left < right)) keys).nodup_iff]
  unfold allDistinct
  rw [Bool.not_eq_true', hasAdjacentEqual_eq_false_iff]
  generalize sortBy (fun left right => decide (left < right)) keys = sorted at hsorted
  constructor
  · intro hchain
    -- Sorted with no equal neighbours is strictly sorted.
    have hstrict : sorted.IsChain (· < ·) := by
      rw [isChain_iff_getElem] at hchain ⊢
      intro i hi
      have hle := pairwise_iff_getElem.mp hsorted i (i + 1) (by omega) hi (by omega)
      have hne := hchain i hi
      omega
    exact (isChain_iff_pairwise.mp hstrict).imp (fun h => Nat.ne_of_lt h)
  · intro hnodup
    exact List.Pairwise.isChain hnodup

/-- Position of the first element that is not below `value`. -/
def lowerBound (keys : List Int) (value : Int) : Nat := keys.findIdx fun key => decide (value ≤ key)

theorem mapM_map_eq_some {β : Type} {encode : α → β} {decode : β → Option α} {items : List α}
    (hinverse : ∀ item ∈ items, decode (encode item) = some item) :
    (items.map encode).mapM decode = some items := by
  induction items with
  | nil => rfl
  | cons _ _ ih =>
    obtain ⟨hitem, hrest⟩ := forall_mem_cons.mp hinverse
    rw [map_cons, mapM_cons, hitem, ih hrest]
    rfl

theorem forall₂_of_mapM {β : Type} {f : α → Option β} {items : List α} {values : List β}
    (h : items.mapM f = some values) :
    List.Forall₂ (fun item value => f item = some value) items values := by
  induction items generalizing values with
  | nil =>
    cases h
    exact .nil
  | cons _ _ ih =>
    rw [mapM_cons] at h
    obtain ⟨value, hvalue, h⟩ := Option.bind_eq_some_iff.mp h
    obtain ⟨tail, htail, h⟩ := Option.bind_eq_some_iff.mp h
    cases h
    exact .cons hvalue (ih htail)

theorem map_of_mapM {β γ : Type} {f : α → Option β} {p : β → γ} {q : α → γ} {items : List α}
    {values : List β} (hf : ∀ item value, f item = some value → p value = q item)
    (h : items.mapM f = some values) : values.map p = items.map q := by
  have hsame := (forall₂_of_mapM h).imp hf
  clear h
  induction hsame with
  | nil => rfl
  | cons hfirst _ ih => rw [map_cons, map_cons, hfirst, ih]

end LiveRoute.Sequence
