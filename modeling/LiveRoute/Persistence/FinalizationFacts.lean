import LiveRoute.Domain.TripStateFacts
import LiveRoute.Library.EarlyExit
import LiveRoute.Persistence.Finalization

/-! What the statements of a finalization store, and the finalization of the
command that a trip awaits. -/
namespace LiveRoute.Persistence
open Domain Sequence EarlyExit List

variable {trip finalized : CanonicalTrip} {row : CommandRow} {activityId : ActivityId}
  {eventId : EventId} {rows : List ActivityRow}

theorem storeActivity_eq_some_iff (row : ActivityRow) :
    storeActivity activity = some row ↔ row.activity = activity := by
  unfold storeActivity
  constructor
  · intro h
    split at h
    · cases h; rfl
    · cases h
  · rintro rfl
    rw [dif_pos row.fits]

theorem storeActivity_eq_none_iff :
    storeActivity activity = none ↔ activityFits activity = false := by
  unfold storeActivity
  split
  next hfits => simp [hfits]
  next hfits => simpa using hfits

def updateMatching (activityId : ActivityId) (update : Activity → Activity)
    (activity : Activity) : Activity :=
  if activity.activityId = activityId then update activity else activity

theorem updateActivityRows_activities {update : Activity → Activity}
    (h : updateActivityRows activityId update rows = some updated) :
    updated.map ActivityRow.activity =
      (rows.map ActivityRow.activity).map (updateMatching activityId update) := by
  rw [map_map]
  refine map_of_mapM (fun row stored hstored => ?_) h
  simp only [Function.comp_apply, updateMatching]
  split at hstored
  next hmatch => rw [(storeActivity_eq_some_iff _).mp hstored, if_pos hmatch]
  next hother => cases hstored; rw [if_neg hother]

theorem updateActivityRows_isSome_iff (update : Activity → Activity) :
    (∃ updated, updateActivityRows activityId update rows = some updated) ↔ ∀ row ∈ rows,
    row.activity.activityId = activityId → activityFits (update row.activity) := by
  unfold updateActivityRows
  induction rows with
  | nil => simp
  | cons row _ ih =>
    simp only [mapM_cons, forall_mem_cons, ← ih]
    by_cases hmatch : row.activity.activityId = activityId
    · cases hstored : storeActivity (update row.activity) with
      | none =>
        have hfits := storeActivity_eq_none_iff.mp hstored
        simp [hmatch, hfits]
      | some stored =>
        have hfits : activityFits (update row.activity) := by
          rw [← (storeActivity_eq_some_iff _).mp hstored]
          exact stored.fits
        simp [hmatch, hfits, Option.bind_eq_some_iff]
    · simp [hmatch, Option.bind_eq_some_iff]

theorem updateActivity_eq_map (hdist : (activityIds activities).Nodup) (activityId : ActivityId)
    (update : Activity → Activity) : updateActivity activityId update activities = activities.map
    (updateMatching activityId update) := by
  induction activities with
  | nil => rfl
  | cons _ rest ih =>
    simp only [activityIds, map_cons, nodup_cons] at hdist
    unfold updateActivity
    split
    next hmatch =>
      have hrest : rest.map (updateMatching activityId update) = rest := by
        conv_rhs => rw [← map_id rest]
        apply map_congr_left
        intro other hother
        apply if_neg
        rintro rfl
        exact hdist.1 (hmatch ▸ mem_map_of_mem hother)
      simp [updateMatching, hmatch, hrest]
    next hother => simp [updateMatching, hother, ih hdist.2]

theorem affectedRows_eq_one (hdist : (activityIds (rows.map ActivityRow.activity)).Nodup)
    (hcontains : containsActivity (rows.map ActivityRow.activity) activityId) :
    affectedRows activityId rows = 1 := by
  have hmem : activityId ∈ activityIds (rows.map ActivityRow.activity) := by
    unfold containsActivity at hcontains
    simp only [any_eq_true, decide_eq_true_eq] at hcontains
    obtain ⟨activity, hact, rfl⟩ := hcontains
    exact mem_map_of_mem hact
  rw [← count_eq_one_of_mem hdist hmem]
  unfold affectedRows activityIds
  rw [List.count, countP_map, countP_map]
  apply countP_congr
  simp

theorem updateActivityStatement_ok_iff (update : Activity → Activity) :
    (∃ updated, updateActivityStatement trip activityId update = .ok updated) ↔
    affectedRows activityId trip.activities = 1 ∧ ∀ row ∈ trip.activities,
    row.activity.activityId = activityId → activityFits (update row.activity) := by
  rw [← updateActivityRows_isSome_iff]
  unfold updateActivityStatement
  cases updateActivityRows activityId update trip.activities with
  | none => simp
  | some =>
    by_cases haff : affectedRows activityId trip.activities = 1
    · simp [haff]
    · simp [haff]

theorem exists_of_affectedRows (h : affectedRows activityId rows = 1) :
    ∃ row ∈ rows, row.activity.activityId = activityId := by
  have hpos : 0 < affectedRows activityId rows := by omega
  obtain ⟨row, hrow, hid⟩ := countP_pos_iff.mp hpos
  exact ⟨row, hrow, by simpa using hid⟩

theorem updateActivityStatement_ok {update : Activity → Activity}
    (hdist : (activityIds (trip.activities.map ActivityRow.activity)).Nodup)
    (h : updateActivityStatement trip activityId update = .ok updated) :
    ∃ rows, updated = { trip with activities := rows } ∧
      rows.map ActivityRow.activity =
        updateActivity activityId update (trip.activities.map ActivityRow.activity) := by
  unfold updateActivityStatement at h
  split at h
  · cases h
  rename_i rows hrows
  split at h
  · cases h
    refine ⟨rows, rfl, ?_⟩
    rw [updateActivityRows_activities hrows, updateActivity_eq_map hdist]
  · cases h

theorem upsertDelayRow_delays (rows : List TravelDelayRow) :
    (upsertDelayRow replacement rows).map TravelDelayRow.delay =
      upsertTravelDelay replacement.delay (rows.map TravelDelayRow.delay) := by
  induction rows with
  | nil => rfl
  | cons _ _ ih =>
    simp only [upsertDelayRow, upsertTravelDelay, map_cons]
    split
    · rfl
    · simp [ih]

theorem upsertTravelDelay_perm {delays : List TravelDelayState}
    (hdist : (delays.map TravelDelayState.key).Nodup) :
    (upsertTravelDelay replacement delays).Perm
      (replacement :: delays.filter fun delay => !decide (delay.key = replacement.key)) := by
  induction delays with
  | nil => exact List.Perm.refl _
  | cons delay rest ih =>
    simp only [map_cons, nodup_cons] at hdist
    unfold upsertTravelDelay
    split
    next hkey =>
      have hrest : rest.filter (fun other => !decide (other.key = replacement.key)) = rest := by
        rw [filter_eq_self]
        intro other hother
        simp only [Bool.not_eq_true', decide_eq_false_iff_not]
        intro hsame
        exact hdist.1 (hkey.trans hsame.symm ▸ mem_map_of_mem hother)
      simp [hkey, hrest]
    next hkey =>
      have htail := (ih hdist.2).cons delay
      simpa [hkey] using htail.trans (List.Perm.swap _ _ _)

theorem upsertTravelDelay_congr {left : List TravelDelayState} (hperm : left.Perm right)
    (hdist : (right.map TravelDelayState.key).Nodup) :
    (upsertTravelDelay replacement left).Perm (upsertTravelDelay replacement right) := by
  have hleft : (left.map TravelDelayState.key).Nodup := (hperm.map _).nodup_iff.mpr hdist
  exact ((upsertTravelDelay_perm hleft).trans ((hperm.filter _).cons _)).trans
    (upsertTravelDelay_perm hdist).symm

structure CanonicalTrip.Awaits (trip : CanonicalTrip) (row : CommandRow) : Prop where
  stored : trip.command? row.eventId = some row
  pending : row.intentState = .pending
  revision : trip.tripRevision = row.expectedTripRevision
  next : trip.finalizedMutationSequence + 1 = row.mutationSequence

theorem CanonicalTrip.Awaits.isNext (h : trip.Awaits row) : trip.isNext row.mutationSequence := by
  have hbound := row.sequenceFits.2
  have hnext := h.next
  simp only [CanonicalTrip.isNext, Bool.and_eq_true, Bool.not_eq_true', decide_eq_false_iff_not,
    decide_eq_true_eq]
  omega

def CanonicalTrip.acceptCommand (trip mutated : CanonicalTrip) (row : CommandRow)
    (outcome : ResolvedOutcome) : CanonicalTrip :=
  (mutated.invalidateProposals.advance (trip.tripRevision + 1) row.mutationSequence).resolve
    row.eventId .applied .accepted outcome

theorem finalizeAcceptedMutation_awaited (request : FinalizeAcceptedMutationRequest)
    (hawaits : trip.Awaits row) (hevent : request.eventId = row.eventId)
    (hseq : request.mutationSequence = row.mutationSequence)
    (hrev : request.expectedTripRevision = row.expectedTripRevision)
    (hkind : row.kind = request.mutation.kind) (finalized : CanonicalTrip) :
    finalizeAcceptedMutation trip request = .ok finalized ↔
      request.isValid ∧ ∃ mutated, applyAcceptedMutation trip request.mutation = .ok mutated ∧
        finalized = trip.acceptCommand mutated row ⟨.ok, request.outcomePayload,
          trip.tripRevision + 1, request.resultingPlannerStateVersion⟩ := by
  have hmatch : (!decide (row.mutationSequence = request.mutationSequence) ||
      !decide (row.expectedTripRevision = request.expectedTripRevision) ||
      !decide (row.kind = request.mutation.kind)) = false := by
    simp [hseq, hrev, hkind]
  unfold finalizeAcceptedMutation
  cases hvalid : request.isValid with
  | false => simp
  | true =>
    simp only [Bool.not_true, Bool.false_eq_true, if_false, hevent, hawaits.stored, hmatch,
      hawaits.pending, ne_eq, not_true_eq_false, hawaits.revision, hawaits.isNext, true_and]
    cases applyAcceptedMutation trip request.mutation with
    | error => simp [Except.map]
    | ok => simp [Except.map, CanonicalTrip.acceptCommand, hawaits.revision, hrev, eq_comm]

theorem finalizeTerminal_awaited (request : FinalizeTerminalCommandRequest)
    (hawaits : trip.Awaits row) (hevent : request.eventId = row.eventId)
    (hseq : request.mutationSequence = row.mutationSequence)
    (hrev : request.expectedTripRevision = row.expectedTripRevision)
    (finalized : CanonicalTrip) :
    finalizeTerminal trip request = .ok finalized ↔
      request.resultingPlannerStateVersion ≤ maxInt64 ∧
      ¬(request.status = .stale ∧ row.kind.isProposalDecision) ∧
      finalized = (trip.advance trip.tripRevision row.mutationSequence).resolve row.eventId
        (terminalIntentState request.status) .terminalRejected
        ⟨.terminal request.status, request.outcomePayload, row.expectedTripRevision,
          request.resultingPlannerStateVersion⟩ := by
  have hvalid : request.isValid = decide (request.resultingPlannerStateVersion ≤ maxInt64) := by
    simp [FinalizeTerminalCommandRequest.isValid, hseq, hrev, row.sequenceFits, row.revisionFits]
  have hmatch : (!decide (row.mutationSequence = request.mutationSequence) ||
      !decide (row.expectedTripRevision = request.expectedTripRevision)) = false := by
    simp [hseq, hrev]
  unfold finalizeTerminal
  rw [hvalid]
  by_cases hver : request.resultingPlannerStateVersion ≤ maxInt64
  · simp only [hver, decide_true, Bool.not_true, Bool.false_eq_true, if_false, hevent,
      hawaits.stored, hmatch, true_and]
    by_cases hdec : request.status = .stale ∧ row.kind.isProposalDecision
    · simp [hdec]
    simp only [hdec, if_false, hawaits.pending, hawaits.revision, hawaits.isNext, ne_eq,
      not_true_eq_false, Bool.not_true, Bool.false_eq_true, Except.ok.injEq, not_false_eq_true,
      true_and]
    exact eq_comm
  · simp [hver]

def CanonicalTrip.DecidedProposal (trip : CanonicalTrip) (row : CommandRow)
    (request : FinalizeProposalDecisionRequest) (proposal : ProposalRow) : Prop :=
  trip.proposal? request.identity.proposalId = some proposal ∧
    decisionMatches row proposal.stored.proposal request

section ProposalDecision
variable (request : FinalizeProposalDecisionRequest)
  (hseq : request.mutationSequence = row.mutationSequence)
  (hrev : request.expectedTripRevision = row.expectedTripRevision)
include hseq hrev

theorem decision_isValid (hprop : trip.DecidedProposal row request proposal) :
    request.isValid = decide (request.resultingPlannerStateVersion ≤ maxInt64) := by
  have hfits := proposal.fits
  have hmatch := hprop.2
  simp only [proposalFits, Bool.and_eq_true, decide_eq_true_eq] at hfits
  simp only [decisionMatches, Bool.and_eq_true, decide_eq_true_eq] at hmatch
  obtain ⟨⟨⟨⟨-, -⟩, hepoch⟩, hver⟩, -⟩ := hmatch
  rw [hepoch, hver] at hfits
  simp [FinalizeProposalDecisionRequest.isValid, hseq, hrev, row.sequenceFits,
    row.revisionFits, hfits.1.1.1, hfits.1.1.2, hfits.1.2]

/-- A decision on the awaited command is stored exactly when its proposal is,
and for a rejection the proposal must still be open and current. -/
theorem finalizeProposalDecision_awaited
    (hawaits : trip.Awaits row) (hevent : request.eventId = row.eventId)
    (hkind : row.kind.isProposalDecision)
    (hreject : stale = false → row.kind = .rejectProposal) :
    (∃ finalized, finalizeProposalDecision trip request stale = .ok finalized ∧
      finalized.finalizedMutationSequence = row.mutationSequence) ↔
      request.resultingPlannerStateVersion ≤ maxInt64 ∧
      ∃ proposal, trip.DecidedProposal row request proposal ∧
        (stale = false → trip.currentPlanId = request.identity.baseCurrentPlanId ∧
          proposal.state = .pending ∧
          proposal.stored.proposal.sourceTripRevision.toNat = row.expectedTripRevision) := by
  have hreject : (!stale && !decide (row.kind = .rejectProposal)) = false := by
    cases stale with
    | true => rfl
    | false => simp [hreject rfl]
  have hstored : trip.command? request.eventId = some row := hevent ▸ hawaits.stored
  simp only [finalizeProposalDecision, hstored, hkind, hreject, hawaits.pending, hawaits.revision,
    hawaits.isNext, Bool.not_true, Bool.or_false, ne_eq, not_true_eq_false, if_false, false_or,
    Bool.false_eq_true, CanonicalTrip.DecidedProposal]
  cases hprop : trip.proposal? request.identity.proposalId with
  | none => simp [ite_error_eq_ok]
  | some proposal =>
    simp only [ite_error_eq_ok]
    by_cases hmatch : decisionMatches row proposal.stored.proposal request
    · simp [decision_isValid request hseq hrev ⟨hprop, hmatch⟩, hmatch, CanonicalTrip.resolve,
        CanonicalTrip.advance, imp_and]
    · simp [hmatch]

@[mk_iff]
structure CanonicalTrip.PlannedPlanFits (trip : CanonicalTrip) (row : CommandRow)
    (proposal : PlanProposal) (plan : CurrentPlan) : Prop where
  planned : row.plannedCurrentPlan = some plan
  valid : plannedPlanIsValid trip plan proposal
  revision : trip.maximumPlanRevision ≠ maxInt64 ∧
    plan.planRevision.toNat = trip.maximumPlanRevision + 1
  unknown : (trip.plans.any fun stored => decide (stored.planId = plan.planId)) = false

theorem finalizeProposalAcceptance_awaited
    (hawaits : trip.Awaits row) (hevent : request.eventId = row.eventId)
    (hkind : row.kind = .acceptProposal) :
    (∃ finalized, finalizeProposalAcceptance trip request = .ok finalized ∧
      finalized.finalizedMutationSequence = row.mutationSequence) ↔
      request.resultingPlannerStateVersion ≤ maxInt64 ∧ row.expectedTripRevision < maxInt64 ∧
      ∃ proposal plan, trip.DecidedProposal row request proposal ∧
        trip.PlannedPlanFits row proposal.stored.proposal plan ∧
        trip.currentPlanId = request.identity.baseCurrentPlanId ∧ proposal.state = .pending ∧
        proposal.stored.proposal.sourceTripRevision.toNat = row.expectedTripRevision := by
  have hstored : trip.command? request.eventId = some row := hevent ▸ hawaits.stored
  have hbound : row.expectedTripRevision < maxInt64 ↔ row.expectedTripRevision ≠ maxInt64 :=
    Nat.lt_iff_le_and_ne.trans (and_iff_right row.revisionFits)
  simp only [finalizeProposalAcceptance, hstored, hkind, hawaits.pending, hawaits.revision,
    hawaits.isNext, hrev, hbound, ne_eq, not_true_eq_false, if_false, false_or, decide_true,
    Bool.not_true, Bool.or_false, true_and, Bool.true_eq_false, CanonicalTrip.DecidedProposal]
  cases hprop : trip.proposal? request.identity.proposalId with
  | none => simp [ite_error_eq_ok]
  | some proposal =>
    by_cases hmatch : decisionMatches row proposal.stored.proposal request
    · simp only [decision_isValid request hseq hrev ⟨hprop, hmatch⟩, hmatch]
      cases hplan : row.plannedCurrentPlan with
      | none => simp [ite_error_eq_ok, CanonicalTrip.plannedPlanFits_iff, hplan]
      | some plan =>
        simp [ite_error_eq_ok, CanonicalTrip.plannedPlanFits_iff, hplan, CanonicalTrip.resolve,
          CanonicalTrip.advance]
        tauto
    · simp [hmatch, ite_error_eq_ok]

end ProposalDecision

theorem command?_map (update : CommandRow → CommandRow)
    (hid : ∀ row, (update row).eventId = row.eventId)
    (hkind : ∀ row, (update row).kind = row.kind) :
    ({ trip with commands := trip.commands.map update }).command? eventId =
      (trip.command? eventId).map update := by
  unfold CanonicalTrip.command?
  rw [find?_map]
  congr 2
  funext row
  simp [hid, hkind]

theorem command?_eventId (h : trip.command? eventId = some row) : row.eventId = eventId := by
  have hfound := find?_some h
  simp only [Bool.and_eq_true, decide_eq_true_eq] at hfound
  exact hfound.1

theorem command?_isRuntimeFirst (h : trip.command? eventId = some row) :
    row.kind.isRuntimeFirst := by
  have hfound := find?_some h
  simp only [Bool.and_eq_true] at hfound
  exact hfound.2

theorem command?_resolve (h : trip.command? eventId = some row) :
    (trip.resolve eventId state delivery outcome).command? eventId = some
      { row with intentState := state, deliveryState := delivery, outcome := some outcome } := by
  unfold CanonicalTrip.resolve
  rw [command?_map]
  · simp [h, command?_eventId h]
  · intro stored; split <;> rfl
  · intro stored; split <;> rfl

theorem applyAcceptedMutation_rows (h : applyAcceptedMutation trip mutation = .ok mutated) :
    ∃ activities travelDelays,
      mutated = { trip with activities := activities, travelDelays := travelDelays } := by
  have hupd : ∀ {activityId : ActivityId} {update : Activity → Activity},
      updateActivityStatement trip activityId update = .ok mutated →
      ∃ activities, mutated = { trip with activities := activities } := by
    intro activityId update hok
    unfold updateActivityStatement at hok
    split at hok
    · cases hok
    split at hok <;> cases hok
    exact ⟨_, rfl⟩
  cases mutation with
  | travelDelay =>
    simp only [applyAcceptedMutation, upsertDelayStatement] at h
    split at h
    · split at h <;> cases h
      exact ⟨_, _, rfl⟩
    · cases h
  | _ =>
    obtain ⟨-, rfl⟩ := hupd h
    exact ⟨_, _, rfl⟩

theorem terminalIntentState_ne_pending : terminalIntentState status ≠ .pending := by
  unfold terminalIntentState
  split <;> simp

theorem finalizeTerminal_currentPlanId (h : finalizeTerminal trip request = .ok finalized) :
    finalized.currentPlanId = trip.currentPlanId := by
  revert h
  fun_cases finalizeTerminal trip request
  case case5 | case9 =>
    intro h
    cases h
    rfl
  all_goals nofun

theorem finalizeProposalDecision_currentPlanId
    (h : finalizeProposalDecision trip request stale = .ok finalized) :
    finalized.currentPlanId = trip.currentPlanId := by
  revert h
  fun_cases finalizeProposalDecision trip request stale
  case case5 =>
    intro h
    cases h
    rfl
  case case10 decided =>
    intro h
    cases h
    unfold decided
    split <;> rfl
  all_goals nofun

end LiveRoute.Persistence
