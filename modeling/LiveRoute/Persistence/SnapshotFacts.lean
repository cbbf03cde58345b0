import LiveRoute.Persistence.Snapshots
import Mathlib.Data.Prod.Lex
import Mathlib.Order.Lex

/-! The order of snapshots and what a persisted one leaves: it is the newest
of its trip, so the retention keeps it. -/
namespace LiveRoute.Persistence
open Domain Sequence List

def SnapshotBlob.order (blob : SnapshotBlob) : Nat ×ₗ Nat ×ₗ Nat ×ₗ Nat :=
  toLex (blob.sourceRuntimeEpoch.toNat, toLex (blob.sourcePlannerStateVersion.toNat,
    toLex (blob.coveredFinalizedMutationSequence.toNat, blob.tripRevision.toNat)))

def SnapshotRow.order (row : SnapshotRow) : (Nat ×ₗ Nat ×ₗ Nat ×ₗ Nat) ×ₗ Int ×ₗ Nat :=
  toLex (row.blob.order, toLex (row.createdAt, row.blob.id.value.toNat))

theorem snapshotIsOlder_iff (current : SnapshotBlob) :
    snapshotIsOlder candidate current ↔ candidate.order < current.order := by
  simp only [snapshotIsOlder, SnapshotBlob.order, Prod.Lex.toLex_lt_toLex,
    UInt64.lt_iff_toNat_lt, ne_eq, ← UInt64.toNat_inj]
  grind

theorem order_eq_iff (left right : SnapshotBlob) : left.order = right.order ↔
    left.sourceRuntimeEpoch = right.sourceRuntimeEpoch ∧
      left.sourcePlannerStateVersion = right.sourcePlannerStateVersion ∧
      left.coveredFinalizedMutationSequence = right.coveredFinalizedMutationSequence ∧
      left.tripRevision = right.tripRevision := by
  simp [SnapshotBlob.order, UInt64.toNat_inj]

theorem snapshotIsNewer_iff : snapshotIsNewer left right ↔ right.order < left.order := by
  simp only [snapshotIsNewer, SnapshotRow.order, SnapshotBlob.order, Prod.Lex.toLex_lt_toLex,
    EmbeddingLike.apply_eq_iff_eq, Prod.mk.injEq, UInt64.lt_iff_toNat_lt, BitVec.lt_def, ne_eq,
    ← UInt64.toNat_inj]
  grind

theorem snapshotIsNewer_of_not_behind {inserted : SnapshotRow}
    (hcur : (storedSnapshots rows).head?.any
      (fun newest => isBehind inserted.blob newest.blob) = false)
    (hsource : ∀ row ∈ rows, row.blob.sameSource inserted.blob = false) :
    ∀ row ∈ rows.filter SnapshotRow.isStored, snapshotIsNewer inserted row := by
  intro row hrow
  have hsorted : (storedSnapshots rows).Pairwise fun left right => right.order ≤ left.order := by
    have hless : snapshotIsNewer = fun left right : SnapshotRow =>
        decide (OrderDual.toDual left.order < OrderDual.toDual right.order) := by
      funext left right
      rw [Bool.eq_iff_iff, snapshotIsNewer_iff, decide_eq_true_eq, OrderDual.toDual_lt_toDual]
    unfold storedSnapshots
    rw [hless]
    exact sortBy_key_pairwise (fun row : SnapshotRow => OrderDual.toDual row.order) _
  have hmem : row ∈ storedSnapshots rows := (mem_sortBy _ _ _).mpr hrow
  have hother := hsource row (mem_filter.mp hrow).1
  rw [snapshotIsNewer_iff]
  cases hstored : storedSnapshots rows with
  | nil =>
    rw [hstored] at hmem
    cases hmem
  | cons newest =>
    rw [hstored] at hcur hsorted hmem
    simp only [head?_cons, Option.any_some, isBehind, Bool.or_eq_false_iff] at hcur
    have hnewest : row.order ≤ newest.order := by
      rcases mem_cons.mp hmem with rfl | holder
      · exact le_refl _
      · exact rel_of_pairwise_cons hsorted holder
    have hnotOlder : newest.blob.order ≤ inserted.blob.order := by
      rw [← not_lt, ← snapshotIsOlder_iff, hcur.1.1]
      exact Bool.false_ne_true
    have hle : row.blob.order ≤ inserted.blob.order :=
      le_trans (Prod.Lex.monotone_fst _ _ hnewest) hnotOlder
    have hne : row.blob.order ≠ inserted.blob.order := by
      intro hequal
      obtain ⟨hepoch, hver, hcov, -⟩ := (order_eq_iff _ _).mp hequal
      simp [SnapshotBlob.sameSource, hepoch, hver, hcov] at hother
    exact Prod.Lex.toLex_lt_toLex.mpr (.inl (lt_of_le_of_ne hle hne))

theorem retainNewest_mem {rows : List SnapshotRow} {inserted : SnapshotRow}
    (hstored : inserted.isStored)
    (hnewer : ∀ row ∈ rows.filter SnapshotRow.isStored, snapshotIsNewer inserted row) :
    inserted ∈ retainNewest (rows ++ [inserted]) := by
  have hfirst : storedSnapshots (rows ++ [inserted]) =
      inserted :: sortBy snapshotIsNewer (rows.filter SnapshotRow.isStored) := by
    unfold storedSnapshots
    rw [filter_append, filter_singleton, hstored]
    exact sortBy_append_first hnewer
  unfold retainNewest
  rw [hfirst]
  simp

theorem invalidateSnapshots_blob
    (h : row ∈ invalidateSnapshots rows) : ∃ earlier ∈ rows, earlier.blob = row.blob := by
  obtain ⟨earlier, hearlier, rfl⟩ := mem_map.mp h
  refine ⟨earlier, hearlier, ?_⟩
  split <;> rfl

theorem persistSnapshot_inserted
    (h : persistSnapshot rows tripRevision finalized ready blob now = .ok (snapshots, true)) :
    validateSnapshotBlob blob ∧ ready ∧ blob.tripRevision.toNat ≤ tripRevision ∧
      blob.coveredFinalizedMutationSequence.toNat ≤ finalized ∧
      ⟨blob, blob.payload.size, now, none⟩ ∈ snapshots := by
  revert h
  fun_cases persistSnapshot rows tripRevision finalized ready blob now
  case case8 hvalid hfresh hvers hready _ hcur _ =>
    intro h
    cases h
    rw [Bool.not_eq_true', Bool.not_eq_false] at hvalid
    simp only [not_or, Nat.not_lt] at hvers
    refine ⟨hvalid, by simpa using hready, hvers.1, hvers.2, ?_⟩
    apply retainNewest_mem
    · simp only [validateSnapshotBlob, Bool.and_eq_true] at hvalid
      simpa [SnapshotRow.isStored] using hvalid.1.1.1.1.1.1.1.1.1.1
    · apply snapshotIsNewer_of_not_behind (by simpa using hcur)
      intro row hrow
      obtain ⟨earlier, hearlier, hblob⟩ := invalidateSnapshots_blob hrow
      rw [← hblob]
      simpa using find?_eq_none.mp hfresh earlier hearlier
  all_goals nofun

end LiveRoute.Persistence
