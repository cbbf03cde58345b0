import Mathlib.Algebra.Order.Ring.Nat
import Mathlib.Data.List.Nodup

/-! Tables as lists of rows under a unique key. A key selects at most one row,
an update that keeps keys keeps them unique, and an insert needs a new key. -/
namespace LiveRoute.KeyedRows
open List

variable {α β : Type} {key : α → β} {rows : List α}

/-- Around a row stand rows of other keys. -/
theorem split_of_mem (hdist : (rows.map key).Nodup) (hrow : row ∈ rows) :
    ∃ before after, rows = before ++ row :: after ∧ (∀ other ∈ before, key other ≠ key row) ∧
      ∀ other ∈ after, key other ≠ key row := by
  obtain ⟨before, after, rfl⟩ := append_of_mem hrow
  refine ⟨before, after, rfl, forall_mem_append.mp fun other hother hsame => ?_⟩
  have hperm : (before ++ row :: after).Perm (row :: (before ++ after)) := perm_middle
  exact (nodup_cons.mp ((hperm.map key).nodup_iff.mp hdist)).1 (hsame ▸ mem_map_of_mem hother)

theorem countP_eq_one (hdist : (rows.map key).Nodup) {condition : α → Bool} {value : β}
    (hkey : ∀ row ∈ rows, condition row → key row = value) (hrow : row ∈ rows)
    (hcond : condition row) : rows.countP condition = 1 := by
  obtain ⟨before, after, rfl, hbefore, hafter⟩ := split_of_mem hdist hrow
  rw [forall_mem_append, forall_mem_cons] at hkey
  rw [countP_append, countP_cons_of_pos hcond, countP_eq_zero.mpr, countP_eq_zero.mpr]
  · exact fun other hother hsel =>
      hafter other hother ((hkey.2.2 other hother hsel).trans (hkey.2.1 hcond).symm)
  · exact fun other hother hsel =>
      hbefore other hother ((hkey.1 other hother hsel).trans (hkey.2.1 hcond).symm)

theorem find?_eq_some [DecidableEq β] (hdist : (rows.map key).Nodup)
    (hrow : row ∈ rows) : (rows.find? fun other => decide (key other = key row)) = some row := by
  cases hfound : rows.find? fun other => decide (key other = key row) with
  | none =>
    have hnone := find?_eq_none.mp hfound row hrow
    simp at hnone
  | some found =>
    have hkey : key found = key row := by simpa using find?_some hfound
    have hmem := mem_of_find?_eq_some hfound
    rw [inj_on_of_nodup_map hdist hmem hrow hkey]

theorem filter_eq_singleton [DecidableEq β] (hdist : (rows.map key).Nodup)
    (hrow : row ∈ rows) : (rows.filter fun other => decide (key other = key row)) = [row] := by
  obtain ⟨before, after, rfl, hbefore, hafter⟩ := split_of_mem hdist hrow
  rw [filter_append, filter_cons_of_pos (by simp), filter_eq_nil_iff.mpr (by simpa using hbefore),
    filter_eq_nil_iff.mpr (by simpa using hafter)]
  rfl

theorem find?_map [DecidableEq β] {update : α → α}
    (hupd : ∀ row ∈ rows, key (update row) = key row) (value : β) :
    ((rows.map update).find? fun row => decide (key row = value)) =
      (rows.find? fun row => decide (key row = value)).map update := by
  induction rows with
  | nil => rfl
  | cons _ _ ih =>
    rw [forall_mem_cons] at hupd
    rw [map_cons, find?_cons, find?_cons, hupd.1]
    split
    · rfl
    · exact ih hupd.2

theorem map_keys {update : α → α} (hupd : ∀ row, key (update row) = key row) :
    (rows.map update).map key = rows.map key := by
  rw [map_map]
  apply map_congr_left
  intro row _
  exact hupd row

theorem nodup_append_new (hdist : (rows.map key).Nodup)
    (hnew : ∀ other ∈ rows, key other ≠ key row) : ((rows ++ [row]).map key).Nodup := by
  rw [map_append, nodup_append]
  refine ⟨hdist, nodup_singleton _, ?_⟩
  intro value hvalue last hlast
  obtain ⟨other, hother, rfl⟩ := mem_map.mp hvalue
  rw [map_singleton, mem_singleton] at hlast
  rw [hlast]
  exact hnew other hother

theorem map_replace_self [DecidableEq β] (hdist : (rows.map key).Nodup) (hrow : row ∈ rows) :
    (rows.map fun other => if key other = key row then row else other) = rows := by
  refine (map_congr_left fun other hother => ?_).trans (map_id rows)
  split
  next hsame => exact (inj_on_of_nodup_map hdist hother hrow hsame).symm
  next => rfl

theorem sum_map_replace [DecidableEq β] (hdist : (rows.map key).Nodup)
    (hrow : row ∈ rows) (replacement : α) (weight : α → Nat) :
    ((rows.map fun other => if key other = key row then replacement else other).map weight).sum +
        weight row =
      (rows.map weight).sum + weight replacement := by
  obtain ⟨before, after, rfl, hbefore, hafter⟩ := split_of_mem hdist hrow
  have hkept : ∀ others : List α, (∀ other ∈ others, key other ≠ key row) →
      (others.map fun other => if key other = key row then replacement else other) = others :=
    fun others h => (map_congr_left fun other hother => if_neg (h other hother)).trans (map_id _)
  rw [map_append, map_cons, hkept before hbefore, hkept after hafter, if_pos rfl]
  simp only [map_append, map_cons, sum_append, sum_cons]
  omega

theorem sum_map_remove [DecidableEq β] (hdist : (rows.map key).Nodup)
    (hrow : row ∈ rows) (weight : α → Nat) :
    ((rows.filter fun other => !decide (key other = key row)).map weight).sum + weight row =
      (rows.map weight).sum := by
  obtain ⟨before, after, rfl, hbefore, hafter⟩ := split_of_mem hdist hrow
  rw [filter_append, filter_cons_of_neg (by simp), filter_eq_self.mpr (by simpa using hbefore),
    filter_eq_self.mpr (by simpa using hafter)]
  simp only [map_append, map_cons, sum_append, sum_cons]
  omega

end LiveRoute.KeyedRows
