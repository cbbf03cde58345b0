import LiveRoute.Library.Sequence
import Mathlib.Order.MinMax

/-! Half-open intervals and the merging of those that overlap or touch. -/
namespace LiveRoute.Intervals
open Sequence List

structure HalfOpen (α : Type) where
  (lower upper : α)
deriving DecidableEq

variable {α : Type} [LinearOrder α] {merged sorted : List (HalfOpen α)} {interval : HalfOpen α}

def Covers (intervals : List (HalfOpen α)) (point : α) : Prop :=
  ∃ interval ∈ intervals, interval.lower ≤ point ∧ point < interval.upper

theorem covers_cons : Covers (interval :: intervals) point ↔
      (interval.lower ≤ point ∧ point < interval.upper) ∨ Covers intervals point :=
  exists_mem_cons_iff _ _ _

/-- Takes one more interval in; the last interval merged so far stands first. -/
def absorb (merged : List (HalfOpen α)) (interval : HalfOpen α) : List (HalfOpen α) :=
  match merged with
  | [] => [interval]
  | last :: earlier =>
    if interval.lower ≤ last.upper then ⟨last.lower, max last.upper interval.upper⟩ :: earlier
    else interval :: last :: earlier

def mergeAll (intervals : List (HalfOpen α)) : List (HalfOpen α) :=
  ((sortBy (fun left right => decide (left.lower < right.lower)) intervals).foldl absorb []).reverse

/-- No interval is empty, and one ends before the next begins. -/
structure Separated (intervals : List (HalfOpen α)) : Prop where
  proper : ∀ interval ∈ intervals, interval.lower < interval.upper
  apart : intervals.Pairwise fun earlier later => earlier.upper < later.lower

/-- The state of the merge while it reads intervals that begin no earlier. -/
structure Merging (merged : List (HalfOpen α)) (bound : α) : Prop where
  proper : ∀ interval ∈ merged, interval.lower < interval.upper
  apart : merged.Pairwise fun later earlier => earlier.upper < later.lower
  below : ∀ interval ∈ merged, interval.lower ≤ bound

theorem absorb_merging (h : Merging merged interval.lower)
    (hproper : interval.lower < interval.upper) :
    Merging (absorb merged interval) interval.lower := by
  obtain ⟨hmerged, hapart, hbelow⟩ := h
  cases merged with
  | nil => exact ⟨by simpa [absorb], by simp [absorb], by simp [absorb]⟩
  | cons =>
    rw [forall_mem_cons] at hmerged hbelow
    rw [pairwise_cons] at hapart
    unfold absorb
    dsimp only
    split
    · refine ⟨?_, pairwise_cons.mpr hapart, forall_mem_cons.mpr hbelow⟩
      exact forall_mem_cons.mpr ⟨lt_of_lt_of_le hmerged.1 (le_max_left _ _), hmerged.2⟩
    next hbeyond =>
      have hgap := not_le.mp hbeyond
      refine ⟨?_, pairwise_cons.mpr ⟨?_, pairwise_cons.mpr hapart⟩, ?_⟩
      · exact forall_mem_cons.mpr ⟨hproper, forall_mem_cons.mpr hmerged⟩
      · refine forall_mem_cons.mpr ⟨hgap, fun other hother => ?_⟩
        exact ((hapart.1 other hother).trans hmerged.1).trans hgap
      · exact forall_mem_cons.mpr ⟨le_rfl, forall_mem_cons.mpr hbelow⟩

theorem absorb_covers (h : Merging merged interval.lower) : Covers (absorb merged interval) point ↔
      Covers merged point ∨ interval.lower ≤ point ∧ point < interval.upper := by
  cases merged with
  | nil => simp [absorb, Covers]
  | cons last =>
    have hlower := h.below last mem_cons_self
    unfold absorb
    dsimp only
    split
    next htouch =>
      -- The two intervals overlap or touch, so that no point lies between them.
      have hunion : (last.lower ≤ point ∧ point < max last.upper interval.upper) ↔
          (last.lower ≤ point ∧ point < last.upper) ∨
            interval.lower ≤ point ∧ point < interval.upper := by
        grind
      rw [covers_cons, covers_cons, hunion, or_right_comm]
    · rw [covers_cons, or_comm]

theorem foldl_absorb (hsorted : sorted.Pairwise fun left right => left.lower ≤ right.lower)
    (hproper : ∀ interval ∈ sorted, interval.lower < interval.upper)
    (h : ∀ interval ∈ sorted, Merging merged interval.lower) (hempty : Separated merged.reverse) :
    Separated (sorted.foldl absorb merged).reverse ∧ ∀ point, Covers
    (sorted.foldl absorb merged) point ↔ Covers merged point ∨ Covers sorted point := by
  induction sorted generalizing merged with
  | nil => exact ⟨hempty, fun point => by simp [Covers]⟩
  | cons _ _ ih =>
    rw [pairwise_cons] at hsorted
    rw [forall_mem_cons] at hproper h
    have hnext := absorb_merging h.1 hproper.1
    have hrest := ih hsorted.2 hproper.2
      (fun other hother => ⟨hnext.proper, hnext.apart, fun kept hkept =>
        (hnext.below kept hkept).trans (hsorted.1 other hother)⟩)
      ⟨fun other hother => hnext.proper other (mem_reverse.mp hother),
        pairwise_reverse.mpr hnext.apart⟩
    refine ⟨hrest.1, fun point => (hrest.2 point).trans ?_⟩
    rw [absorb_covers h.1, covers_cons, or_assoc]

theorem mergeAll_spec {intervals : List (HalfOpen α)}
    (hproper : ∀ interval ∈ intervals, interval.lower < interval.upper) :
    Separated (mergeAll intervals) ∧
      ∀ point, Covers (mergeAll intervals) point ↔ Covers intervals point := by
  obtain ⟨hseparated, hcovers⟩ := foldl_absorb (sortBy_key_pairwise HalfOpen.lower intervals)
    (fun interval h => hproper interval ((mem_sortBy _ _ _).mp h))
    (fun _ _ => ⟨forall_mem_nil _, List.Pairwise.nil, forall_mem_nil _⟩)
    ⟨by simp, by simp⟩
  refine ⟨hseparated, fun point => ?_⟩
  simpa [mergeAll, Covers] using hcovers point

end LiveRoute.Intervals
