import LiveRoute.Execution.PlanRevisions
import LiveRoute.Library.Runs

/-! The proposals of a trip over its whole history. Decided rows stay for good,
there is never more than one pending row, and that row is for the current plan
and revision of the trip unless a deactivation completes over it. -/
namespace LiveRoute.Execution
open Domain Persistence Gateway List

structure TripRecord.PendingCurrent (record : TripRecord) : Prop where
  single : record.proposals.countP ProposalRow.isPending ≤ 1
  current : ∀ row ∈ record.proposals, row.isPending →
    row.stored.proposal.sourceTripRevision.toNat = record.tripRevision ∧
      record.lifecycle.currentPlanId = some row.stored.proposal.baseCurrentPlanId

def TripRecord.leavesNoPending (record : TripRecord) : TripTransaction → Bool
  | .completeDeactivation operationId =>
    !(record.completeDeactivation operationId).isOk ||
      record.proposals.all fun row => !row.isPending
  | _ => true

structure ProposalLedger (record : TripRecord) : Prop where
  keyed : (record.proposals.map ProposalRow.proposalId).Nodup
  single : record.proposals.countP ProposalRow.isPending ≤ 1

inductive ProposalChange (record committed : TripRecord) : Prop where
  | kept (settled : Settled record.proposals committed.proposals)
      (revision : committed.tripRevision = record.tripRevision)
      (plan : committed.lifecycle.currentPlanId = record.lifecycle.currentPlanId)
  | decided (settled : Settled record.proposals committed.proposals)
      (closed : ∀ row ∈ committed.proposals, row.isPending = false)
  | persisted {row : ProposalRow} (pending : row.isPending)
      (fresh : ∀ stored ∈ record.proposals, stored.proposalId ≠ row.proposalId)
      (inserted : committed.proposals = closePending .superseded record.proposals ++ [row])
      (revision : row.stored.proposal.sourceTripRevision.toNat = committed.tripRevision)
      (base : committed.lifecycle.currentPlanId = some row.stored.proposal.baseCurrentPlanId)
  | unplanned (same : committed.proposals = record.proposals)
      (none : record.lifecycle.currentPlanId = none)

theorem edit_write_proposals {edit : CanonicalEdit}
    (h : edit.transaction.write context trip = some written) :
    written.proposals = trip.proposals := by
  cases edit with
  | currentPlan =>
    cases h
    rfl
  | trip operation =>
    cases operation with
    | addActivity =>
      simp only [CanonicalEdit.transaction, addActivity] at h
      split at h
      · cases h
      obtain ⟨-, -, rfl⟩ := Option.map_eq_some_iff.mp h
      rfl
    | replaceActivity =>
      obtain ⟨-, -, rfl⟩ := Option.map_eq_some_iff.mp h
      rfl
    | removeActivity =>
      cases h
      rfl
    | reorderActivities =>
      cases h
      rfl

section Steps
variable {record committed : TripRecord}

theorem ProposalLedger.settled (h : ProposalLedger record)
    (hsettled : Settled record.proposals committed.proposals) : ProposalLedger committed :=
  ⟨hsettled.proposalIds ▸ h.keyed, Nat.le_trans hsettled.countP_le h.single⟩

theorem ProposalLedger.change (h : ProposalLedger record)
    (hchange : ProposalChange record committed) : ProposalLedger committed := by
  cases hchange with
  | kept settled => exact h.settled settled
  | decided settled => exact h.settled settled
  | unplanned same => exact h.settled (same ▸ Settled.refl)
  | @persisted _ _ fresh inserted =>
    have hsettled : Settled record.proposals (closePending .superseded record.proposals) :=
      closePending_settled (by decide)
    have hclosed := @closePending_decided .superseded (by decide) record.proposals
    constructor
    case keyed =>
      rw [inserted, map_append, hsettled.proposalIds]
      refine h.keyed.append (nodup_singleton _) ?_
      rw [map_singleton, disjoint_singleton]
      intro hmem
      obtain ⟨stored, hstored, hid⟩ := mem_map.mp hmem
      exact fresh stored hstored hid
    case single =>
      rw [inserted, countP_append, countP_eq_zero.mpr (by simpa using hclosed), countP_singleton]
      split <;> omega

theorem ProposalChange.decided_stays (hchange : ProposalChange record committed)
    (hfound : record.rows.proposal? proposalId = some row) (hdec : row.isPending = false) :
    committed.rows.proposal? proposalId = some row := by
  cases hchange with
  | kept settled => exact settled.find?_decided hfound hdec
  | decided settled => exact settled.find?_decided hfound hdec
  | unplanned same =>
    change committed.proposals.find? _ = _
    rw [same]
    exact hfound
  | persisted _ _ inserted =>
    have hsettled : Settled record.proposals (closePending .superseded record.proposals) :=
      closePending_settled (by decide)
    have hkept : ((closePending .superseded record.proposals).find? fun row =>
        decide (row.stored.proposal.proposalId = proposalId)) = some row :=
      hsettled.find?_decided hfound hdec
    change committed.proposals.find? _ = _
    rw [inserted, find?_append, hkept, Option.some_or]

theorem ProposalChange.pendingCurrent (hchange : ProposalChange record committed)
    (hledger : ProposalLedger record) (h : record.PendingCurrent) : committed.PendingCurrent := by
  refine ⟨(hledger.change hchange).single, fun row hrow hpend => ?_⟩
  cases hchange with
  | kept settled revision plan =>
    rw [revision, plan]
    exact h.current row (settled.mem_of_pending hrow hpend) hpend
  | decided _ closed => simp [closed row hrow] at hpend
  | unplanned same none =>
    have hcur := h.current row (same ▸ hrow) hpend
    rw [none] at hcur
    cases hcur.2
  | persisted _ _ inserted revision base =>
    rw [inserted, mem_append, mem_singleton] at hrow
    obtain hclosed | rfl := hrow
    · simp [closePending_decided (by decide) _ row hclosed] at hpend
    · exact ⟨revision, base⟩

theorem Change.proposals (hplans : PlanLedger record)
    (hledger : ProposalLedger record) (hchange : Change record transaction committed)
    (hstays : ∀ operationId, transaction ≠ .completeDeactivation operationId) :
    ProposalChange record committed := by
  have hsame : ∀ {other : TripRecord}, other.proposals = record.proposals →
      other.tripRevision = record.tripRevision →
      other.lifecycle.currentPlanId = record.lifecycle.currentPlanId →
      ProposalChange record other :=
    fun hprops hrev hplan => .kept (hprops ▸ Settled.refl) hrev hplan
  have hunplanned : record.lifecycle.executionState = .inactive →
      record.savedPlan.isSome → record.lifecycle.currentPlanId = none := by
    intro hidle hsaved
    obtain horigin | horigin := hplans.origin
    · exact horigin.unplanned hidle
    · simp [horigin.unsaved] at hsaved
  cases hchange with
  | unchanged => exact hsame rfl rfl rfl
  | recorded _ hrec =>
    rw [hrec.trip_eq]
    exact hsame rfl rfl rfl
  | edited _ _ hcom hpub =>
    obtain ⟨-, -, rfl⟩ := publish_ok hpub
    obtain ⟨written, hwrote, rfl⟩ := hcom.trip_eq
    have hprops := edit_write_proposals hwrote
    have hclosed : written.supersedeProposals.proposals =
        closePending .superseded record.proposals := by
      change closePending .superseded written.proposals = _
      rw [hprops]
      rfl
    refine .decided ?_ ?_
    · change Settled record.proposals written.supersedeProposals.proposals
      rw [hclosed]
      exact closePending_settled (by decide)
    · change ∀ row ∈ written.supersedeProposals.proposals, _
      exact closePending_decided (by decide) _
  | mutated _ applied hres =>
    obtain ⟨activities, delays, rfl⟩ := applyAcceptedMutation_rows applied
    obtain ⟨-, -, rfl⟩ := hres.resolution
    exact .decided (closePending_settled (by decide)) (closePending_decided (by decide) _)
  | resolved _ _ hres decides =>
    obtain ⟨-, -, rfl⟩ := hres.resolution
    obtain hdec | ⟨rfl, rfl⟩ := decides
    · exact .decided (hdec.settled hledger.keyed) (hdec.decided hledger.single)
    · exact hsame rfl rfl rfl
  | accepted _ _ hres hpub decides =>
    obtain ⟨-, -, rfl⟩ := publish_ok hpub
    obtain ⟨-, -, rfl⟩ := hres.resolution
    exact .decided (decides.settled hledger.keyed) (decides.decided hledger.single)
  | mirrored => exact hsame rfl rfl rfl
  | leased _ _ _ written =>
    cases written with
    | settled hsettled => exact .kept hsettled rfl rfl
    | persisted pending revision base fresh => exact .persisted pending fresh rfl revision base
  | revised inactive saved => exact .unplanned rfl (hunplanned inactive saved)
  | activated hactd =>
    obtain ⟨plan, activities, hsaved, -, hexecution⟩ := hactd.inserted
    obtain ⟨rows, lifecycle, -, -, rfl⟩ := hexecution.inserted
    exact .unplanned rfl (hunplanned hactd.inactive (by simp [hsaved]))
  | activationCompleted _ _ _ _ hcomp =>
    obtain ⟨-, lifecycle, hcols, -, rfl⟩ := completeOperation_ok hcomp
    have hplan : lifecycle.currentPlanId = record.lifecycle.currentPlanId := by rw [hcols]
    exact hsame rfl rfl hplan
  | deactivated hdeact =>
    obtain ⟨-, -, rfl⟩ := hdeact.inserted
    exact .decided (closePending_settled (by decide)) (closePending_decided (by decide) _)
  | deactivationCompleted => exact absurd rfl (hstays _)

theorem completeDeactivation_proposals
    (h : record.completeDeactivation operationId = .ok committed) :
    committed.proposals = record.proposals ∧ committed.lifecycle.currentPlanId = none := by
  obtain ⟨operation, -, -, -, -, -, hcomp⟩ := completeDeactivation_ok h
  obtain ⟨-, lifecycle, hcols, -, rfl⟩ := completeOperation_ok hcomp
  have hplan : lifecycle.currentPlanId = none := by rw [hcols]
  exact ⟨rfl, hplan⟩

theorem step_proposals (hplans : PlanLedger record) (hledger : ProposalLedger record)
    (transaction : TripTransaction) :
    (ProposalChange record (record.step transaction) ∧ record.leavesNoPending transaction) ∨
      ∃ operationId, transaction = .completeDeactivation operationId ∧
        (record.completeDeactivation operationId).isOk ∧
        (record.step transaction).proposals = record.proposals ∧
        (record.step transaction).lifecycle.currentPlanId = none := by
  cases hcommit : record.commit transaction with
  | error error =>
    left
    rw [TripRecord.step, hcommit]
    refine ⟨.kept Settled.refl rfl rfl, ?_⟩
    cases transaction with
    | completeDeactivation operationId =>
      have hfailed : record.completeDeactivation operationId = .error error := hcommit
      rw [TripRecord.leavesNoPending, hfailed]
      rfl
    | _ => rfl
  | ok committed =>
    rw [TripRecord.step, hcommit]
    by_cases hends : ∃ operationId, transaction = .completeDeactivation operationId
    · obtain ⟨operationId, rfl⟩ := hends
      have hcomp : record.completeDeactivation operationId = .ok committed := hcommit
      refine .inr ⟨operationId, rfl, ?_, completeDeactivation_proposals hcomp⟩
      rw [hcomp]
      rfl
    · rw [not_exists] at hends
      refine .inl ⟨(commit_change hcommit).proposals hplans hledger hends, ?_⟩
      cases transaction with
      | completeDeactivation operationId => exact absurd rfl (hends operationId)
      | _ => rfl

theorem PlanLedger.step (h : PlanLedger record) (transaction : TripTransaction) :
    PlanLedger (record.step transaction) :=
  run_induction PlanLedger.change h [transaction]

theorem ProposalLedger.step (hledger : ProposalLedger record) (hplans : PlanLedger record)
    (transaction : TripTransaction) : ProposalLedger (record.step transaction) := by
  obtain ⟨hchange, -⟩ | ⟨-, -, -, hsame, -⟩ := step_proposals hplans hledger transaction
  · exact hledger.change hchange
  · exact hledger.settled (hsame ▸ Settled.refl)

section
variable (hplans : PlanLedger record) (hledger : ProposalLedger record)
include hplans hledger

theorem step_decided
    (hfound : record.rows.proposal? proposalId = some row) (hdec : row.isPending = false) :
    (record.step transaction).rows.proposal? proposalId = some row := by
  obtain ⟨hchange, -⟩ | ⟨-, -, -, hsame, -⟩ := step_proposals hplans hledger transaction
  · exact hchange.decided_stays hfound hdec
  · change (record.step transaction).proposals.find? _ = _
    rw [hsame]
    exact hfound

theorem run_decided (history : List TripTransaction)
    (hfound : record.rows.proposal? proposalId = some row) (hdec : row.isPending = false) :
    (record.run history).rows.proposal? proposalId = some row := by
  induction history generalizing record with
  | nil => exact hfound
  | cons transaction _ ih =>
    exact ih (hplans.step transaction) (hledger.step hplans transaction)
      (step_decided hplans hledger hfound hdec)

theorem step_pendingCurrent_iff (h : record.PendingCurrent) (transaction : TripTransaction) :
    (record.step transaction).PendingCurrent ↔ record.leavesNoPending transaction := by
  obtain ⟨hchange, hleaves⟩ | ⟨operationId, rfl, hcom, hsame, hleft⟩ :=
    step_proposals hplans hledger transaction
  · exact iff_of_true (hchange.pendingCurrent hledger h) hleaves
  · simp only [TripRecord.leavesNoPending, hcom, Bool.not_true, Bool.false_or,
      all_eq_true, Bool.not_eq_true']
    constructor
    · intro hafter row hrow
      rw [← hsame] at hrow
      rw [Bool.eq_false_iff]
      intro hpend
      have hplan := (hafter.current row hrow hpend).2
      rw [hleft] at hplan
      cases hplan
    · intro hnone
      refine ⟨hsame ▸ h.single, fun row hrow hpend => ?_⟩
      rw [hsame] at hrow
      simp [hnone row hrow] at hpend

end

end Steps

theorem created_proposals (h : Created record) : record.proposals = [] := by
  cases h with
  | saved => rfl
  | legacy hcreated =>
    obtain ⟨activities, delays, hnew⟩ := createTrip_ok hcreated
    rw [hnew.record_eq]

/-- In every state of a history the pending proposal is current, and a decided
proposal stays what it is. -/
structure ProposalHistory (record : TripRecord) (history : List TripTransaction) : Prop where
  pending : ∀ done, done <+: history → (record.run done).PendingCurrent
  decided : ∀ done later, done ++ later <+: history → ∀ proposalId row,
    (record.run done).rows.proposal? proposalId = some row → row.state ≠ .pending →
      (record.run (done ++ later)).rows.proposal? proposalId = some row

/-- The pending proposals of a trip are current throughout its history exactly
when no deactivation completes while a proposal is pending. -/
theorem pending_proposals_current_iff {record : TripRecord} (hcreated : Created record)
    (history : List TripTransaction) :
    ProposalHistory record history ↔ Runs.Along TripRecord.step
        (fun record transaction => record.leavesNoPending transaction) record history := by
  have hnone := created_proposals hcreated
  have hplans : PlanLedger record := PlanLedger.created hcreated
  have hledger : ProposalLedger record := ⟨by simp [hnone], by simp [hnone]⟩
  have hcur : record.PendingCurrent := ⟨by simp [hnone], by simp [hnone]⟩
  have hinv : ∀ state transaction, PlanLedger state ∧ ProposalLedger state →
      PlanLedger (state.step transaction) ∧ ProposalLedger (state.step transaction) :=
    fun state transaction h => ⟨h.1.step transaction, h.2.step h.1 transaction⟩
  have hpend := Runs.safe_iff_along (fun state transaction h _ => hinv state transaction h)
    (fun state transaction h hstate => step_pendingCurrent_iff h.1 h.2 hstate transaction)
    ⟨hplans, hledger⟩ hcur history
  constructor
  · intro h
    exact hpend.mp h.pending
  · intro halong
    refine ⟨hpend.mpr halong, ?_⟩
    intro done later _ proposalId row hfound hdec
    have hreach : PlanLedger (record.run done) ∧ ProposalLedger (record.run done) :=
      List.foldlRecOn done TripRecord.step ⟨hplans, hledger⟩
        fun state h transaction _ => hinv state transaction h
    rw [TripRecord.run, List.foldl_append]
    exact run_decided hreach.1 hreach.2 later hfound (decide_eq_false hdec)

def proposeHarbour : TripTransaction := .persistProposal ⟨⟨⟨⟨4⟩, 1, 0, ⟨1⟩, 1, 1, [],
    [⟨⟨1⟩, ⟨some 0, some 0⟩, "UTC", none, none, none, .skipped⟩], 1⟩, 1, .complete⟩, ⟨9⟩, 1, 0, 1⟩ 1

/-- The deactivation closes the proposal before it completes. -/
theorem harbourTrip_proposals_current :
    ProposalHistory harbourTrip (executeHarbour ++ [proposeHarbour] ++ leaveHarbour) ∧
    ((harbourTrip.run (executeHarbour ++ [proposeHarbour] ++ leaveHarbour)).rows.proposal?
      ⟨4⟩).map ProposalRow.state = some .stale :=
  ⟨(pending_proposals_current_iff harbourTrip_created _).mpr (by decide +kernel), by decide +kernel⟩

/-- The planner proposes while the deactivation has begun and its lease is still
held. The proposal is then pending for a trip without a current plan. -/
def proposeWhileLeaving : List TripTransaction :=
  executeHarbour ++ [.deactivate ⟨⟨2⟩, ⟨2⟩, 1, ⟨0⟩⟩ ⟨⟨2⟩, ⟨2⟩⟩, proposeHarbour,
    .releaseLease ⟨9⟩ 1, .completeDeactivation ⟨2⟩]

theorem harbourTrip_proposal_outlives_plan :
    Created harbourTrip ∧ ¬ ProposalHistory harbourTrip proposeWhileLeaving ∧
    ((harbourTrip.run proposeWhileLeaving).rows.proposal? ⟨4⟩).map ProposalRow.state =
      some .pending ∧
    (harbourTrip.run proposeWhileLeaving).lifecycle.currentPlanId = none := by
  refine ⟨harbourTrip_created, fun h => ?_, by decide +kernel, by decide +kernel⟩
  have hcur := (h.pending _ (prefix_refl _)).current
  revert hcur
  decide +kernel

end LiveRoute.Execution
