import LiveRoute.Persistence.CanonicalCommands
import LiveRoute.Persistence.Leases
import LiveRoute.Library.KeyedRows
import Mathlib.Data.List.Forall2

/-! The proposals of one trip. Every statement that writes them keeps the rows
that are decided, and closes those of the pending ones that it selects. -/
namespace LiveRoute.Persistence
open Domain

def ProposalRow.proposalId (row : ProposalRow) : ProposalId := row.stored.proposal.proposalId

def ProposalRow.isPending (row : ProposalRow) : Bool := decide (row.state = .pending)

open ProposalRow (isPending)

inductive ProposalRow.SettlesTo (row : ProposalRow) : ProposalRow → Prop where
  | kept : row.SettlesTo row
  | closed {after : ProposalRow} (pending : row.isPending)
      (stored : after.stored = row.stored) (decided : after.isPending = false) :
      row.SettlesTo after

def Settled (before after : List ProposalRow) : Prop :=
  List.Forall₂ ProposalRow.SettlesTo before after

theorem ProposalRow.SettlesTo.stored_eq {row : ProposalRow} (h : row.SettlesTo after) :
    after.stored = row.stored := by
  cases h with
  | kept => rfl
  | closed _ stored => exact stored

theorem ProposalRow.SettlesTo.eq_of_pending {row : ProposalRow} (h : row.SettlesTo after)
    (hpend : after.isPending) : after = row := by
  cases h with
  | kept => rfl
  | closed _ _ decided => simp [decided] at hpend

theorem ProposalRow.SettlesTo.eq_of_decided {row : ProposalRow} (h : row.SettlesTo after)
    (hdec : row.isPending = false) : after = row := by
  cases h with
  | kept => rfl
  | closed pending => simp [pending] at hdec

section Settled
variable {before after : List ProposalRow}

theorem settled_map {write : ProposalRow → ProposalRow}
    (h : ∀ row ∈ before, row.SettlesTo (write row)) : Settled before (before.map write) := by
  unfold Settled
  rw [List.forall₂_map_right_iff, List.forall₂_same]
  exact h

theorem Settled.refl : Settled rows rows := List.forall₂_same.mpr fun _ _ => .kept

theorem Settled.proposalIds (h : Settled before after) :
    after.map ProposalRow.proposalId = before.map ProposalRow.proposalId := by
  induction h with
  | nil => rfl
  | cons hrow _ ih => rw [List.map_cons, List.map_cons, ih, ProposalRow.proposalId,
      hrow.stored_eq, ProposalRow.proposalId]

theorem Settled.countP_le (h : Settled before after) :
    after.countP isPending ≤ before.countP isPending := by
  induction h with
  | nil => exact Nat.le_refl _
  | @cons _ written _ _ hrow _ _ =>
    rw [List.countP_cons, List.countP_cons]
    by_cases hpend : written.isPending
    · have hsame := hrow.eq_of_pending hpend
      rw [← hsame]
      omega
    · rw [if_neg hpend]
      omega

theorem Settled.mem_of_pending (h : Settled before after) (hrow : row ∈ after)
    (hpend : row.isPending) : row ∈ before := by
  induction h with
  | nil => cases hrow
  | cons hsettles _ ih =>
    rcases List.mem_cons.mp hrow with rfl | hrest
    · rw [hsettles.eq_of_pending hpend]
      exact List.mem_cons_self
    · exact List.mem_cons_of_mem _ (ih hrest)

theorem Settled.find?_decided (h : Settled before after)
    (hfound : (before.find? fun row => decide (row.proposalId = proposalId)) = some row)
    (hdec : row.isPending = false) :
    (after.find? fun row => decide (row.proposalId = proposalId)) = some row := by
  induction h with
  | nil => cases hfound
  | @cons first written _ _ hsettles _ ih =>
    have hid : written.proposalId = first.proposalId := by
      rw [ProposalRow.proposalId, hsettles.stored_eq, ProposalRow.proposalId]
    rw [List.find?_cons] at hfound ⊢
    rw [hid]
    cases hsel : decide (first.proposalId = proposalId) with
    | true =>
      rw [hsel] at hfound
      cases hfound
      rw [hsettles.eq_of_decided hdec]
    | false =>
      rw [hsel] at hfound
      exact ih hfound

end Settled

def closePending (state : ProposalState) (rows : List ProposalRow) : List ProposalRow :=
  rows.map fun row => if row.state = .pending then { row with state := state } else row

theorem closePending_settled (hstate : state ≠ .pending) :
    Settled rows (closePending state rows) := by
  refine settled_map fun row _ => ?_
  split
  next hpend => exact .closed (decide_eq_true hpend) rfl (decide_eq_false hstate)
  next => exact .kept

theorem closePending_decided {state : ProposalState} (hstate : state ≠ .pending)
    (rows : List ProposalRow) : ∀ row ∈ closePending state rows, row.isPending = false := by
  refine List.forall_mem_map.mpr fun row _ => ?_
  split
  next => exact decide_eq_false hstate
  next hdec => exact decide_eq_false hdec

theorem stalePriorProposals_settled : Settled rows (stalePriorProposals runtimeEpoch rows) := by
  refine settled_map fun row _ => ?_
  split
  next hprior => exact .closed (decide_eq_true hprior.1) rfl rfl
  next => exact .kept

theorem acquire_settled (h : acquire rows holderId duration readAt writtenAt = .ok (next, lease)) :
    Settled rows.proposals next.proposals := by
  obtain ⟨-, ⟨-, -, hsame⟩ | ⟨-, -, -, hstale⟩⟩ := acquire_cases h
  · rw [hsame]
    exact Settled.refl
  · rw [hstale]
    exact stalePriorProposals_settled

def DecidesNamed (before after : List ProposalRow) : Prop :=
  ∃ (proposalId : ProposalId) (row : ProposalRow) (write : ProposalRow → ProposalRow),
    (before.find? fun row => decide (row.proposalId = proposalId)) = some row ∧
    row.isPending ∧
    (∀ row : ProposalRow, (write row).stored = row.stored ∧ (write row).isPending = false) ∧
    after = before.map fun row => if row.proposalId = proposalId then write row else row

theorem decidesNamed_of_pending {trip : CanonicalTrip}
    (hfound : trip.proposal? proposalId = some row)
    (hpend : row.state = .pending) {write : ProposalRow → ProposalRow}
    (hwrite : ∀ row : ProposalRow, (write row).stored = row.stored ∧
      (write row).isPending = false) :
    DecidesNamed trip.proposals (trip.decideProposal proposalId write).proposals :=
  ⟨proposalId, row, write, hfound, decide_eq_true hpend, hwrite, rfl⟩

section DecidesNamed
variable {before after : List ProposalRow}

theorem DecidesNamed.settled (h : DecidesNamed before after)
    (hkeyed : (before.map ProposalRow.proposalId).Nodup) : Settled before after := by
  obtain ⟨proposalId, found, write, hfound, hpend, hwrite, rfl⟩ := h
  refine settled_map fun row hrow => ?_
  split
  next hid =>
    have hfoundId : found.proposalId = proposalId := by simpa using List.find?_some hfound
    have hsame : row = found := List.inj_on_of_nodup_map hkeyed hrow
      (List.mem_of_find?_eq_some hfound) (hid.trans hfoundId.symm)
    exact .closed (hsame ▸ hpend) (hwrite row).1 (hwrite row).2
  next => exact .kept

theorem eq_of_single_pending (hsingle : before.countP isPending ≤ 1)
    (hrow : row ∈ before) (hother : other ∈ before)
    (hpend : row.isPending) (hotherPending : other.isPending) : row = other := by
  have hrow : row ∈ before.filter isPending := List.mem_filter.mpr ⟨hrow, hpend⟩
  have hother : other ∈ before.filter isPending := List.mem_filter.mpr ⟨hother, hotherPending⟩
  rw [List.countP_eq_length_filter] at hsingle
  generalize before.filter isPending = pending at hrow hother hsingle
  cases pending with
  | nil => cases hrow
  | cons _ rest =>
    have hrest : rest = [] := by
      rw [List.length_cons] at hsingle
      exact List.length_eq_zero_iff.mp (by omega)
    rw [hrest, List.mem_singleton] at hrow hother
    exact hrow.trans hother.symm

theorem DecidesNamed.decided (h : DecidesNamed before after)
    (hsingle : before.countP isPending ≤ 1) : ∀ row ∈ after, row.isPending = false := by
  obtain ⟨proposalId, found, write, hfound, hpend, hwrite, rfl⟩ := h
  refine List.forall_mem_map.mpr fun row hrow => ?_
  split
  next => exact (hwrite row).2
  next hid =>
    rw [Bool.eq_false_iff]
    intro hother
    apply hid
    rw [eq_of_single_pending hsingle hrow (List.mem_of_find?_eq_some hfound) hother hpend]
    simpa using List.find?_some hfound

end DecidesNamed

end LiveRoute.Persistence
