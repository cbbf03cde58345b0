import Mathlib.Algebra.Order.Ring.Nat
import Mathlib.Data.List.Basic
import Mathlib.Logic.Function.Basic

/-! Open addressing. A key is looked for along its probe path; a cell that was
never used ends the search, one whose key was removed does not. -/
namespace LiveRoute.Probing
open List
open Function (update update_self update_of_ne)

inductive Cell (κ β : Type) where
  | never | dead
  | held (key : κ) (value : β)

variable {κ β : Type}

def Cell.isFree : Cell κ β → Bool
  | .held _ _ => false
  | _ => true

def Cell.value? : Cell κ β → Option β
  | .held _ value => some value
  | _ => none

/-- The part of a path that a search can reach. -/
def reach (cells : Nat → Cell κ β) : List Nat → List Nat
  | [] => []
  | index :: rest =>
    match cells index with
    | .never => [index]
    | _ => index :: reach cells rest

variable {cells : Nat → Cell κ β} {index : Nat}

theorem reach_subset : reach cells indices ⊆ indices := by
  induction indices with
  | nil => exact List.Subset.refl _
  | cons _ _ ih =>
    unfold reach
    split
    · simp
    · exact cons_subset_cons _ ih

theorem reach_full (h : ∀ index ∈ reach cells indices, (cells index).isFree = false) :
    reach cells indices = indices := by
  induction indices with
  | nil => rfl
  | cons first => cases hfirst : cells first <;> simp_all [reach, Cell.isFree]

theorem reach_update (hcell : cell ≠ .never) :
    reach cells indices ⊆ reach (update cells index cell) indices := by
  induction indices with
  | nil => exact List.Subset.refl _
  | cons first =>
    by_cases hfirst : first = index
    · subst hfirst
      cases hold : cells first <;> cases cell <;> simp_all [reach, subset_cons_of_subset]
    · cases hold : cells first <;> simp_all [reach, subset_cons_of_subset]

variable [DecidableEq κ]

def Cell.holds (cell : Cell κ β) (key : κ) : Bool :=
  match cell with
  | .held other _ => decide (other = key)
  | _ => false

def find (cells : Nat → Cell κ β) (key : κ) : List Nat → Option Nat
  | [] => none
  | index :: rest =>
    match cells index with
    | .never => none
    | .dead => find cells key rest
    | .held other _ => if other = key then some index else find cells key rest

/-- Where the key is or may go: the first dead cell that was passed is used
again once the key is known to be absent. -/
def findInsert (cells : Nat → Cell κ β) (key : κ) (tombstone : Option Nat) : List Nat → Option Nat
  | [] => tombstone
  | index :: rest =>
    match cells index with
    | .never => some (tombstone.getD index)
    | .dead => findInsert cells key (some (tombstone.getD index)) rest
    | .held other _ => if other = key then some index else findInsert cells key tombstone rest

def get (cells : Nat → Cell κ β) (key : κ) (path : List Nat) : Option β :=
  (find cells key path).bind fun index => (cells index).value?

/-- Linear probing in a table whose size is a power of two. -/
def probePath (size start : Nat) : List Nat :=
  (List.range size).map fun offset => ((start &&& (size - 1)) + offset) &&& (size - 1)

theorem mem_probePath : index ∈ probePath (2 ^ exponent) start ↔ index < 2 ^ exponent := by
  have hpos : 0 < 2 ^ exponent := Nat.two_pow_pos exponent
  simp only [probePath, mem_map, mem_range, Nat.and_two_pow_sub_one_eq_mod]
  constructor
  · rintro ⟨-, -, rfl⟩
    exact Nat.mod_lt _ hpos
  · intro hindex
    have hstart := Nat.mod_lt start hpos
    generalize start % 2 ^ exponent = first at hstart
    refine ⟨(index + (2 ^ exponent - first)) % 2 ^ exponent, Nat.mod_lt _ hpos, ?_⟩
    have hsum : first + (index + (2 ^ exponent - first)) = index + 2 ^ exponent := by omega
    rw [Nat.add_mod_mod, hsum, Nat.add_mod_right, Nat.mod_eq_of_lt hindex]

variable {path : κ → List Nat} {size : Nat} {key : κ} {value : β}

theorem holds_iff {cell : Cell κ β} : cell.holds key ↔ ∃ value, cell = .held key value := by
  cases cell <;> simp [Cell.holds]

theorem find_eq :
    find cells key indices = (reach cells indices).find? fun index => (cells index).holds key := by
  induction indices with
  | nil => rfl
  | cons first _ ih =>
    cases hfirst : cells first with
    | never => simp [find, reach, hfirst, Cell.holds]
    | dead => simp [find, reach, hfirst, Cell.holds, ih]
    | held other =>
      by_cases hkey : other = key <;> simp [find, reach, hfirst, Cell.holds, hkey, ih]

theorem findInsert_eq : findInsert cells key tombstone indices = (find cells key indices).or
      (tombstone.or ((reach cells indices).find? fun index => (cells index).isFree)) := by
  induction indices generalizing tombstone with
  | nil => simp [findInsert, find, reach]
  | cons first _ ih =>
    cases hfirst : cells first with
    | never => cases tombstone <;> simp [findInsert, find, reach, hfirst, Cell.isFree]
    | dead => cases tombstone <;> simp [findInsert, find, reach, hfirst, Cell.isFree, ih]
    | held other =>
      by_cases hkey : other = key <;>
        simp [findInsert, find, reach, hfirst, Cell.isFree, hkey, ih]

/-- Every key is held at most once, and where a search for it comes by. -/
structure WellPlaced (path : κ → List Nat) (size : Nat) (cells : Nat → Cell κ β) : Prop where
  paths : ∀ key index, index ∈ path key ↔ index < size
  reachable : ∀ index < size, ∀ key, (cells index).holds key → index ∈ reach cells (path key)
  single : ∀ index < size, ∀ other < size, ∀ key, (cells index).holds key →
    (cells other).holds key → other = index

theorem WellPlaced.find_eq_some_iff (h : WellPlaced path size cells) :
    find cells key (path key) = some index ↔ index < size ∧ (cells index).holds key := by
  rw [find_eq]
  constructor
  · intro hfound
    have hmem := reach_subset (mem_of_find?_eq_some hfound)
    exact ⟨(h.paths key index).mp hmem, by simpa using find?_some hfound⟩
  · rintro ⟨hindex, hholds⟩
    have hsome : ((reach cells (path key)).find? fun index => (cells index).holds key).isSome :=
      find?_isSome.mpr ⟨index, h.reachable index hindex key hholds, hholds⟩
    obtain ⟨found, hfound⟩ := Option.isSome_iff_exists.mp hsome
    have hmem := reach_subset (mem_of_find?_eq_some hfound)
    have hsame := h.single index hindex found ((h.paths key found).mp hmem) key hholds
      (by simpa using find?_some hfound)
    rw [hfound, hsame]

theorem WellPlaced.findInsert_eq_none (h : WellPlaced path size cells)
    (hfull : findInsert cells key none (path key) = none) (hindex : index < size) :
    (cells index).isFree = false := by
  rw [findInsert_eq, Option.or_eq_none_iff] at hfull
  have hheld : ∀ index ∈ reach cells (path key), (cells index).isFree = false := by
    simpa using hfull.2
  rw [reach_full hheld] at hheld
  exact hheld index ((h.paths key index).mpr hindex)

/-- A cell that a key may be written to: none but the key itself is there, and
the key is nowhere else. -/
structure Ready (path : κ → List Nat) (size : Nat) (cells : Nat → Cell κ β) (key : κ)
    (index : Nat) : Prop where
  inside : index < size
  reachable : index ∈ reach cells (path key)
  own : ∀ other, (cells index).holds other → other = key
  alone : ∀ other < size, (cells other).holds key → other = index

theorem WellPlaced.ready_of_holds (h : WellPlaced path size cells) (hindex : index < size)
    (hholds : (cells index).holds key) : Ready path size cells key index := by
  refine ⟨hindex, h.reachable index hindex key hholds, fun other hother => ?_,
    fun other hlt hother => ?_⟩
  · obtain ⟨_, hcell⟩ := holds_iff.mp hholds
    obtain ⟨_, hother⟩ := holds_iff.mp hother
    rw [hcell] at hother
    cases hother
    rfl
  · exact h.single index hindex other hlt key hholds hother

theorem WellPlaced.ready (h : WellPlaced path size cells)
    (hsome : findInsert cells key none (path key) = some index) :
    Ready path size cells key index := by
  rw [findInsert_eq] at hsome
  cases hfound : find cells key (path key) with
  | some =>
    rw [hfound] at hsome
    cases hsome
    obtain ⟨hindex, hholds⟩ := h.find_eq_some_iff.mp hfound
    exact h.ready_of_holds hindex hholds
  | none =>
    rw [hfound] at hsome
    have hmem := mem_of_find?_eq_some hsome
    have hfree := find?_some hsome
    refine ⟨(h.paths key index).mp (reach_subset hmem), hmem, fun other hother => ?_,
      fun other hlt hother => ?_⟩
    · obtain ⟨_, hcell⟩ := holds_iff.mp hother
      simp [hcell, Cell.isFree] at hfree
    · simp [h.find_eq_some_iff.mpr ⟨hlt, hother⟩] at hfound

theorem WellPlaced.get_eq_some_iff (h : WellPlaced path size cells) :
    get cells key (path key) = some value ↔ ∃ index < size, cells index = .held key value := by
  unfold get
  rw [Option.bind_eq_some_iff]
  constructor
  · rintro ⟨index, hfound, hvalue⟩
    obtain ⟨hindex, hholds⟩ := h.find_eq_some_iff.mp hfound
    obtain ⟨found, hcell⟩ := holds_iff.mp hholds
    rw [hcell] at hvalue
    cases hvalue
    exact ⟨index, hindex, hcell⟩
  · rintro ⟨index, hindex, hcell⟩
    exact ⟨index, h.find_eq_some_iff.mpr ⟨hindex, holds_iff.mpr ⟨value, hcell⟩⟩, by rw [hcell]; rfl⟩

theorem WellPlaced.write (h : WellPlaced path size cells) (hready : Ready path size cells key index)
    (hcell : cell ≠ .never) (hown : ∀ other, cell.holds other → other = key) : WellPlaced path size
    (update cells index cell) ∧ ∀ other, get (update cells index cell) other (path other) =
        if other = key then cell.value? else get cells other (path other) := by
  have hplaced : WellPlaced path size (update cells index cell) := by
    refine ⟨h.paths, fun other hother key hholds => reach_update hcell ?_, ?_⟩
    · by_cases hsame : other = index
      · rw [hsame, update_self] at hholds
        rw [hsame, hown key hholds]
        exact hready.reachable
      · rw [update_of_ne hsame] at hholds
        exact h.reachable other hother key hholds
    · intro other hother third hthird found hholds hheld
      by_cases hsame : other = index <;> by_cases hthis : third = index
      · rw [hsame, hthis]
      · rw [hsame, update_self] at hholds
        rw [update_of_ne hthis, hown found hholds] at hheld
        exact hsame ▸ hready.alone third hthird hheld
      · rw [hthis, update_self] at hheld
        rw [update_of_ne hsame, hown found hheld] at hholds
        exact absurd (hready.alone other hother hholds) hsame
      · rw [update_of_ne hsame] at hholds
        rw [update_of_ne hthis] at hheld
        exact h.single other hother third hthird found hholds hheld
  refine ⟨hplaced, fun other => Option.ext fun value => ?_⟩
  rw [hplaced.get_eq_some_iff]
  split
  next hkey =>
    subst hkey
    constructor
    · rintro ⟨found, hfound, hheld⟩
      by_cases hsame : found = index
      · rw [hsame, update_self] at hheld
        rw [hheld]
        rfl
      · rw [update_of_ne hsame] at hheld
        exact absurd (hready.alone found hfound (holds_iff.mpr ⟨value, hheld⟩)) hsame
    · intro hvalue
      refine ⟨index, hready.inside, ?_⟩
      rw [update_self]
      cases cell with
      | held found =>
        cases hvalue
        rw [hown found (holds_iff.mpr ⟨value, rfl⟩)]
      | _ => cases hvalue
  next hkey =>
    rw [h.get_eq_some_iff]
    refine exists_congr fun found => and_congr_right fun _ => ?_
    by_cases hsame : found = index
    · rw [hsame, update_self]
      refine iff_of_false
        (fun hheld => hkey (hown other (holds_iff.mpr ⟨value, hheld⟩))) fun hheld => ?_
      exact hkey (hready.own other (holds_iff.mpr ⟨value, hheld⟩))
    · rw [update_of_ne hsame]

end LiveRoute.Probing
