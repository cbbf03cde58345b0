import LiveRoute.Dispatch.Simulation

/-! Which acknowledgements resolve the awaited command. A pass finalizes the
row exactly when the planner decided its sequence under the epoch of the lease
and the store can hold the outcome; every other final acknowledgement pauses
the row or fails again on each pass. -/
namespace LiveRoute.Dispatch
open Domain LiveRoute.Runtime Persistence

variable {row : CommandRow} {trip : CanonicalTrip} {result : EventCoordinatorResult}
  {decision : PlanDecisionEvent}

def TripRuntime.watermark (runtime : TripRuntime) : Nat :=
  runtime.versions.snapshot.acceptedMutationSequence.toNat

inductive Treatment (runtime : TripRuntime) (request : EventAdmissionRequest)
    (admitted : TripRuntime) (result : EventCoordinatorResult) : Prop where
  | applied (hstatus : result.status = .accepted)
    (hnext : TripRuntime.watermark runtime + 1 = request.mutationSequence.toNat)
    (hmoved : TripRuntime.watermark admitted = request.mutationSequence.toNat)
    (henvelope : envelopeMatches true request)
  | consumed (hstatus : result.status = .commandExpired ∨ result.status = .invalidArgument ∨
      result.status = .stale .planProposal)
    (hnext : TripRuntime.watermark runtime + 1 = request.mutationSequence.toNat)
    (hmoved : TripRuntime.watermark admitted = request.mutationSequence.toNat)
    (henvelope : envelopeMatches true request)
  | duplicate (hstatus : result.status = .duplicate) (hkept : admitted = runtime)
    (hpast : request.mutationSequence.toNat ≤ TripRuntime.watermark runtime)
    (henvelope : envelopeMatches true request)
  | refused (hstatus : result.status ≠ .accepted ∧ result.status ≠ .duplicate)
    (hkept : admitted = runtime)
    (hversions : result.versionSnapshot = runtime.versions.snapshot)
    (huncovered : result.status = .inactive ∨
      (envelopeMatches true request = false ∧ result.status = .invalidArgument) ∨
      request.runtimeEpoch ≠ runtime.versions.snapshot.runtimeEpoch ∨
      TripRuntime.watermark runtime < request.mutationSequence.toNat)

theorem treatment_of_refused {runtime : TripRuntime} (henv : envelopeMatches true request)
    (hcmp : runtime.versions.compare request = status) (href : status ≠ .accepted) :
    Treatment runtime request runtime (makeResult (mapVersionStatus status) runtime.versions) := by
  unfold TripRuntimeVersions.compare TripRuntimeVersions.compareDurable
    TripRuntimeVersions.validateEpoch at hcmp
  cases hactive : runtime.versions.active with
  | false =>
    simp only [hactive, Bool.not_false, if_true] at hcmp
    subst hcmp
    exact .refused (by simp [makeResult, mapVersionStatus]) rfl rfl (.inl rfl)
  | true =>
    simp only [hactive, Bool.not_true, Bool.false_eq_true, if_false, beq_iff_eq] at hcmp
    by_cases hepoch : request.runtimeEpoch = runtime.versions.snapshot.runtimeEpoch
    · simp only [hepoch, if_true] at hcmp
      by_cases hpast : request.mutationSequence ≤ runtime.versions.snapshot.acceptedMutationSequence
      · rw [if_pos hpast] at hcmp
        subst hcmp
        exact .duplicate rfl rfl (UInt64.le_iff_toNat_le.mp hpast) henv
      · rw [if_neg hpast] at hcmp
        have hlater : TripRuntime.watermark runtime < request.mutationSequence.toNat :=
          Nat.lt_of_not_le fun h => hpast (UInt64.le_iff_toNat_le.mpr h)
        refine .refused ⟨mapVersionStatus_ne_accepted href, ?_⟩ rfl rfl (.inr (.inr (.inr hlater)))
        subst hcmp
        split
        · simp [makeResult, mapVersionStatus]
        · split
          · simp [makeResult, mapVersionStatus]
          · split <;> simp [makeResult, mapVersionStatus]
    · simp only [hepoch, if_false] at hcmp
      subst hcmp
      exact .refused (by simp [makeResult, mapVersionStatus]) rfl rfl (.inr (.inr (.inl hepoch)))

theorem treatment_of_admission (h : Admission runtime request currentTime bytes admitted result) :
    Treatment runtime request admitted result := by
  cases h with
  | malformed henv => exact .refused (by simp [makeResult]) rfl rfl (.inr (.inl ⟨henv, rfl⟩))
  | refused _ henv hcmp href => exact treatment_of_refused henv hcmp href
  | exhausted _ hexp =>
    have hseq := hexp.sequence
    refine .refused (by simp [makeResult]) rfl rfl (.inr (.inr (.inr ?_)))
    unfold TripRuntime.watermark
    omega
  | expired henv hexp => exact .consumed (.inl rfl) hexp.sequence.symm rfl henv
  | rejected status henv hexp =>
    refine .consumed (.inr ?_) hexp.sequence.symm rfl henv
    cases status <;> simp [makeResult, applyFailureStatus]
  | applied _ _ henv hexp => exact .applied rfl hexp.sequence.symm rfl henv

theorem isRuntimeFirst_of_stored (hkind : row.kind.isRuntimeFirst)
    (hevent : storedEventIsValid row) : row.event.payload.isRuntimeFirst := by
  simp only [storedEventIsValid, Bool.and_eq_true] at hevent
  have hmatch := hevent.1.2
  cases hpay : row.event.payload <;> rw [hpay] at hmatch <;> first
    | rfl
    | (cases hrow : row.kind <;> simp_all [eventMatchesCommand, CommandKind.isRuntimeFirst])

theorem treatment_of_deliver (hkind : row.kind.isRuntimeFirst)
    (hevent : storedEventIsValid row) (runtime : TripRuntime) (leaseEpoch : UInt64)
    (currentTime : UnixTimeMilliseconds) (bytes : Nat) : Treatment runtime
    (admissionRequest row leaseEpoch) (deliver runtime row leaseEpoch currentTime bytes).1
    (deliver runtime row leaseEpoch currentTime bytes).2 :=
  treatment_of_admission (coordinateEventAdmission_cases runtime _ currentTime bytes
    (isRuntimeFirst_of_stored hkind hevent))

theorem storeResult_eq_ok (h : storeResult transaction = .ok trip) : transaction = .ok trip := by
  cases transaction with
  | error => cases h
  | ok => cases h; rfl

theorem mutationSequence_toNat (row : CommandRow) (leaseEpoch : UInt64) :
    (admissionRequest row leaseEpoch).mutationSequence.toNat = row.mutationSequence :=
  ofNat_toNat_of_le row.sequenceFits.2

theorem coordinatorDisposition_accepted_iff :
    coordinatorDisposition status = .accepted ↔ status = .accepted := by
  cases status <;> simp [coordinatorDisposition]

theorem coordinatorDisposition_duplicate_iff :
    coordinatorDisposition status = .duplicate ↔ status = .duplicate := by
  cases status <;> simp [coordinatorDisposition]

def DecidedUnder (row : CommandRow) (leaseEpoch : UInt64) (result : EventCoordinatorResult) :
    Prop :=
  result.versionSnapshot.runtimeEpoch = leaseEpoch ∧
    row.mutationSequence ≤ result.versionSnapshot.acceptedMutationSequence.toNat

def targetsExist (trip : CanonicalTrip) : AcceptedMutation → Bool
  | .activityStatus activityId _ | .activityDelay activityId _ | .reservation activityId _ _
  | .mandatoryDeadline activityId _ | .operatingHours activityId _
  | .placeFoundClosed activityId _ => decide (affectedRows activityId trip.activities = 1)
  | .travelDelay fromActivityId toActivityId _ _ =>
    containsActivity (trip.activities.map ActivityRow.activity) fromActivityId &&
      containsActivity (trip.activities.map ActivityRow.activity) toActivityId

structure NamesProposal (trip : CanonicalTrip) (decision : PlanDecisionEvent)
    (proposal : ProposalRow) : Prop where
  stored : trip.proposal? decision.proposalId = some proposal
  epoch : proposal.stored.proposal.sourceRuntimeEpoch = decision.sourceRuntimeEpoch
  version : proposal.stored.proposal.sourcePlannerStateVersion = decision.sourcePlannerStateVersion
  base : proposal.stored.proposal.baseCurrentPlanId = decision.baseCurrentPlanId

structure DecisionStorable (trip : CanonicalTrip) (row : CommandRow) (decision : PlanDecisionEvent)
    (proposal : ProposalRow) : Prop where
  named : NamesProposal trip decision proposal
  current : trip.currentPlanId = decision.baseCurrentPlanId
  pending : proposal.state = .pending
  source : proposal.stored.proposal.sourceTripRevision.toNat = row.expectedTripRevision
  planned : decision.decision = .accept →
    ∃ plan, trip.PlannedPlanFits row proposal.stored.proposal plan

def AcceptanceStorable (trip : CanonicalTrip) (row : CommandRow) (plannerStateVersion : UInt64) :
    Prop :=
  plannerStateVersion.toNat ≤ maxInt64 ∧ row.expectedTripRevision < maxInt64 ∧
    (∀ decision, row.event.payload = .planDecision decision →
      ∃ proposal, DecisionStorable trip row decision proposal) ∧
    (∀ mutation, acceptedMutation row.event = some mutation →
      mutation.valuesInRange ∧ fitsColumns mutation ∧
        targetsExist trip mutation)

def RefusalStorable (trip : CanonicalTrip) (row : CommandRow) (result : EventCoordinatorResult) :
    Prop :=
  result.versionSnapshot.plannerStateVersion.toNat ≤ maxInt64 ∧
    (result.status = .stale .planProposal → ∀ decision,
      row.event.payload = .planDecision decision → ∃ proposal, NamesProposal trip decision proposal)

def OutcomeStorable (trip : CanonicalTrip) (row : CommandRow) (result : EventCoordinatorResult) :
    Prop :=
  if result.status = .accepted ∨ result.status = .duplicate then
    AcceptanceStorable trip row result.versionSnapshot.plannerStateVersion
  else RefusalStorable trip row result

theorem applyAcceptedMutation_storable_iff (h : acceptedMutation event = some mutation) :
    (∃ mutated, applyAcceptedMutation trip mutation = .ok mutated) ↔
      fitsColumns mutation ∧ targetsExist trip mutation := by
  rcases acceptedMutation_cases h with ⟨activityId, update, hupd⟩ |
    ⟨fromId, toId, seconds, hpay, rfl⟩
  · have htargets : targetsExist trip mutation =
        decide (affectedRows activityId trip.activities = 1) := by
      obtain ⟨eventId, occurredAt, expiresAt, payload⟩ := event
      cases payload <;> cases h <;> cases hupd <;> rfl
    rw [applyAcceptedMutation_eq h hupd, updateActivityStatement_ok_iff, htargets,
      decide_eq_true_eq]
    constructor
    · rintro ⟨haff, hall⟩
      obtain ⟨row, hrow, hid⟩ := exists_of_affectedRows haff
      exact ⟨(fitsColumns_iff h hupd row).mp (hall row hrow hid), haff⟩
    · rintro ⟨hfits, haff⟩
      exact ⟨haff, fun row _ _ => (fitsColumns_iff h hupd row).mpr hfits⟩
  · change _ ↔ delayFits ⟨fromId, toId, seconds, event.occurredAt⟩ ∧
      targetsExist trip (.travelDelay fromId toId seconds event.occurredAt)
    simp only [applyAcceptedMutation, upsertDelayStatement, targetsExist]
    split
    next hfits =>
      split
      next htargets => simpa [hfits] using htargets
      next htargets => simpa [hfits] using htargets
    next hfits => simp [hfits]

theorem decidedProposal_iff :
    trip.DecidedProposal row (proposalRequest row decision plannerStateVersion outcome) proposal ↔
      NamesProposal trip decision proposal := by
  simp only [CanonicalTrip.DecidedProposal, decisionMatches, Bool.and_eq_true, decide_eq_true_eq]
  simp only [proposalRequest, UInt64.toNat_inj, true_and]
  constructor
  · rintro ⟨hstored, ⟨hepoch, hver⟩, hbase⟩
    exact ⟨hstored, hepoch, hver, hbase⟩
  · rintro ⟨hstored, hepoch, hver, hbase⟩
    exact ⟨hstored, ⟨hepoch, hver⟩, hbase⟩

theorem storeResult_exists_iff (goal : CanonicalTrip → Prop) :
    (∃ trip, storeResult transaction = .ok trip ∧ goal trip) ↔
      ∃ trip, transaction = .ok trip ∧ goal trip := by
  cases transaction <;> simp [storeResult]

theorem stored_event_cases (hkind : row.kind.isRuntimeFirst) (hevent : storedEventIsValid row) :
    (∃ decision, row.event.payload = .planDecision decision ∧
      row.kind = if decision.decision = .accept then .acceptProposal else .rejectProposal) ∨
    ((∀ decision, row.event.payload ≠ .planDecision decision) ∧
      ∃ mutation, acceptedMutation row.event = some mutation ∧ row.kind = mutation.kind) := by
  simp only [storedEventIsValid, Bool.and_eq_true] at hevent
  have hmatch := hevent.1.2
  generalize row.event = event at hmatch ⊢
  obtain ⟨eventId, occurredAt, expiresAt, payload⟩ := event
  cases payload
  case planDecision decision =>
    refine .inl ⟨decision, rfl, ?_⟩
    cases hdec : decision.decision <;> cases hkind' : row.kind <;>
      simp_all [eventMatchesCommand]
  all_goals cases hkind' : row.kind <;>
    simp_all [eventMatchesCommand, CommandKind.isRuntimeFirst, acceptedMutation,
      AcceptedMutation.kind]

section
variable (hawaits : trip.Awaits row)
include hawaits

theorem finalizeProposalRejection_iff (hkind : row.kind = .rejectProposal)
    (hdec : decision.decision = .reject) :
    (∃ finalized, finalizeProposalRejection trip
        (proposalRequest row decision plannerStateVersion outcome) = .ok finalized ∧
      finalized.finalizedMutationSequence = row.mutationSequence) ↔
      plannerStateVersion.toNat ≤ maxInt64 ∧ row.expectedTripRevision < maxInt64 ∧
        ∃ proposal, DecisionStorable trip row decision proposal := by
  have hbound := row.revisionFits
  by_cases hlast : row.expectedTripRevision = maxInt64
  · have href : finalizeProposalRejection trip
        (proposalRequest row decision plannerStateVersion outcome) = .error .invalidRequest :=
      if_pos hlast
    rw [href]
    constructor
    · rintro ⟨_, h, -⟩; cases h
    · rintro ⟨-, h, -⟩; omega
  · have hdecide : finalizeProposalRejection trip
        (proposalRequest row decision plannerStateVersion outcome) = finalizeProposalDecision trip
            (proposalRequest row decision plannerStateVersion outcome) false := if_neg hlast
    rw [hdecide, finalizeProposalDecision_awaited _ rfl rfl hawaits rfl (by simp [hkind,
      CommandKind.isProposalDecision]) (fun _ => hkind)]
    simp only [decidedProposal_iff, forall_const]
    constructor
    · rintro ⟨hver, proposal, hnamed, hcur, hpend, hsource⟩
      exact ⟨hver, by omega, proposal, hnamed, hcur, hpend, hsource,
        fun haccept => by simp [hdec] at haccept⟩
    · rintro ⟨hver, -, proposal, hstor⟩
      exact ⟨hver, proposal, hstor.named, hstor.current, hstor.pending, hstor.source⟩

theorem finalizeProposalAcceptance_iff (hkind : row.kind = .acceptProposal)
    (hdec : decision.decision = .accept) :
    (∃ finalized, finalizeProposalAcceptance trip
        (proposalRequest row decision plannerStateVersion outcome) = .ok finalized ∧
      finalized.finalizedMutationSequence = row.mutationSequence) ↔
      plannerStateVersion.toNat ≤ maxInt64 ∧ row.expectedTripRevision < maxInt64 ∧
        ∃ proposal, DecisionStorable trip row decision proposal := by
  rw [finalizeProposalAcceptance_awaited _ rfl rfl hawaits rfl hkind]
  simp only [decidedProposal_iff]
  constructor
  · rintro ⟨hver, hbound, proposal, plan, hnamed, hplan, hcur, hpend, hsource⟩
    exact ⟨hver, hbound, proposal, hnamed, hcur, hpend, hsource, fun _ => ⟨plan, hplan⟩⟩
  · rintro ⟨hver, hbound, proposal, hstor⟩
    obtain ⟨plan, hplan⟩ := hstor.planned hdec
    exact ⟨hver, hbound, proposal, plan, hstor.named, hplan, hstor.current,
      hstor.pending, hstor.source⟩

theorem finalizeAcceptedMutation_iff (hmutation : acceptedMutation row.event = some mutation)
    (hkind : row.kind = mutation.kind) :
    (∃ finalized, finalizeAcceptedMutation trip
        (acceptedMutationRequest row plannerStateVersion mutation) = .ok finalized ∧
      finalized.finalizedMutationSequence = row.mutationSequence) ↔
      plannerStateVersion.toNat ≤ maxInt64 ∧ row.expectedTripRevision < maxInt64 ∧
        mutation.valuesInRange ∧ fitsColumns mutation ∧ targetsExist trip mutation := by
  have hfin := finalizeAcceptedMutation_awaited
    (acceptedMutationRequest row plannerStateVersion mutation) hawaits rfl rfl rfl hkind
  rw [← applyAcceptedMutation_storable_iff hmutation]
  constructor
  · rintro ⟨finalized, hok, -⟩
    obtain ⟨hvalid, mutated, hmut, -⟩ := (hfin finalized).mp hok
    obtain ⟨hbound, hver, hrange⟩ := (acceptedMutationRequest_isValid_iff _ _ _).mp hvalid
    exact ⟨hver, hbound, hrange, mutated, hmut⟩
  · rintro ⟨hver, hbound, hrange, mutated, hmut⟩
    have hvalid := (acceptedMutationRequest_isValid_iff row _ mutation).mpr ⟨hbound, hver, hrange⟩
    exact ⟨_, (hfin _).mpr ⟨hvalid, mutated, hmut, rfl⟩, rfl⟩

theorem finalizeAccepted_iff (hevent : storedEventIsValid row) :
    (∃ finalized, finalizeAccepted trip row plannerStateVersion = .ok finalized ∧
      finalized.finalizedMutationSequence = row.mutationSequence) ↔
      AcceptanceStorable trip row plannerStateVersion := by
  unfold AcceptanceStorable
  rcases stored_event_cases (command?_isRuntimeFirst hawaits.stored) hevent with
    ⟨decision, hpay, hkind⟩ | ⟨hother, mutation, hmut, hkind⟩
  · have hnone : ∀ mutation, acceptedMutation row.event ≠ some mutation := by
      simp [acceptedMutation, hpay]
    simp only [finalizeAccepted, hpay, hnone, false_implies, implies_true, and_true,
      TripEventPayload.planDecision.injEq, forall_eq']
    cases hdec : decision.decision with
    | accept =>
      rw [storeResult_exists_iff, finalizeProposalAcceptance_iff hawaits
        (by simp [hkind, hdec]) hdec]
    | reject =>
      rw [storeResult_exists_iff, finalizeProposalRejection_iff hawaits
        (by simp [hkind, hdec]) hdec]
  · have hfin : finalizeAccepted trip row plannerStateVersion =
        storeResult (finalizeAcceptedMutation trip
          (acceptedMutationRequest row plannerStateVersion mutation)) := by
      unfold finalizeAccepted
      split
      next decision hpay => exact absurd hpay (hother decision)
      · simp [hmut]
    rw [hfin, storeResult_exists_iff, finalizeAcceptedMutation_iff hawaits hmut hkind]
    simp [hother, hmut]

theorem finalizeTerminal_iff (hstatus : ¬(status = .stale ∧ row.kind.isProposalDecision)) :
    (∃ finalized, finalizeTerminal trip (terminalRequest row plannerStateVersion status) =
        .ok finalized ∧ finalized.finalizedMutationSequence = row.mutationSequence) ↔
      plannerStateVersion.toNat ≤ maxInt64 := by
  have hfin := finalizeTerminal_awaited (terminalRequest row plannerStateVersion status)
    hawaits rfl rfl rfl
  constructor
  · rintro ⟨finalized, hok, -⟩
    exact ((hfin finalized).mp hok).1
  · intro hver
    exact ⟨_, (hfin _).mpr ⟨hver, hstatus, rfl⟩, rfl⟩

end

def refusalStatus : EventCoordinatorStatus → TerminalStatus
  | .stale _ => .stale
  | .commandExpired => .commandExpired
  | _ => .invalidArgument

theorem finalizeRefused_iff (hawaits : trip.Awaits row) (hevent : storedEventIsValid row)
    (hstatus : result.status = .commandExpired ∨ result.status = .invalidArgument ∨
      result.status = .stale .planProposal) :
    (∃ finalized, finalizeRefused trip row result.versionSnapshot.plannerStateVersion
        (refusalStatus result.status) (coordinatorStaleReason result.status) = .ok finalized ∧
      finalized.finalizedMutationSequence = row.mutationSequence) ↔
      RefusalStorable trip row result := by
  unfold RefusalStorable
  rcases stored_event_cases (command?_isRuntimeFirst hawaits.stored) hevent with
    ⟨decision, hpay, hkind⟩ | ⟨hother, mutation, hmut, hkind⟩
  · simp only [hpay, finalizeRefused, TripEventPayload.planDecision.injEq, forall_eq']
    by_cases hstale : result.status = .stale .planProposal
    · -- A stale decision goes through the proposal it names.
      simp only [hstale, refusalStatus, coordinatorStaleReason, and_self, if_true, forall_const]
      rw [storeResult_exists_iff]
      unfold finalizeStaleProposalDecision
      rw [finalizeProposalDecision_awaited _ rfl rfl hawaits rfl
        (by rw [hkind]; split <;> rfl) (by simp)]
      simp only [decidedProposal_iff, Bool.true_eq_false, false_implies, and_true]
      exact Iff.rfl
    · have hterm : refusalStatus result.status ≠ .stale := by
        rcases hstatus with hstatus | hstatus | hstatus
        · simp [hstatus, refusalStatus]
        · simp [hstatus, refusalStatus]
        · exact absurd hstatus hstale
      simp only [hterm, false_and, if_false, hstale, false_implies, and_true]
      rw [storeResult_exists_iff, finalizeTerminal_iff hawaits (fun h => hterm h.1)]
  · have hdec : ¬(refusalStatus result.status = .stale ∧ row.kind.isProposalDecision) := by
      rw [hkind]
      cases mutation <;> simp [AcceptedMutation.kind, CommandKind.isProposalDecision]
    have href : finalizeRefused trip row result.versionSnapshot.plannerStateVersion
        (refusalStatus result.status) (coordinatorStaleReason result.status) =
        storeResult (finalizeTerminal trip (terminalRequest row
          result.versionSnapshot.plannerStateVersion (refusalStatus result.status))) := by
      unfold finalizeRefused
      split
      next decision hpay => exact absurd hpay (hother decision)
      · rfl
    rw [href, storeResult_exists_iff, finalizeTerminal_iff hawaits hdec]
    simp [hother]

theorem covers_iff (hevent : storedEventIsValid row) :
    acknowledgementCovers (dispatchRequest requestId tripId row leaseEpoch) row
      (eventResponse (dispatchRequest requestId tripId row leaseEpoch) result)
      (eventAcknowledgement (dispatchRequest requestId tripId row leaseEpoch) result) ↔
      DecidedUnder row leaseEpoch result := by
  simp only [storedEventIsValid, Bool.and_eq_true, decide_eq_true_eq] at hevent
  simp only [acknowledgementCovers, Bool.and_eq_true, decide_eq_true_eq]
  simp [eventResponse, eventAcknowledgement, dispatchRequest, admissionRequest, hevent.1.1,
    DecidedUnder]

theorem dispatch_eventResponse (hkind : row.kind.isRuntimeFirst) (hevent : storedEventIsValid row)
    (hfinal : result.status ≠ .inactive) (hint : result.status ≠ .internal) :
    dispatch trip row request (some (eventResponse request result)) =
      if acknowledgementCovers request row (eventResponse request result)
          (eventAcknowledgement request result) then
        match runtimeFinalize trip row result.versionSnapshot.plannerStateVersion
            (eventAcknowledgement request result) with
        | .error error => (trip, .failed error)
        | .ok finalized => (finalized, .resolved)
      else pause trip row := by
  have hterm : (!(eventAcknowledgement request result).hasAcceptedStatus &&
      ((terminalStatus (eventAcknowledgement request result).status).isNone ||
        decide ((eventAcknowledgement request result).disposition = .unspecified))) = false := by
    cases hstatus : result.status <;>
      simp_all [eventAcknowledgement, EventAcknowledged.hasAcceptedStatus, coordinatorStatusCode,
        coordinatorDisposition, terminalStatus]
  have hpay : (eventResponse request result).payload =
      .eventAcknowledged (eventAcknowledgement request result) := rfl
  have hretryable : (eventAcknowledgement request result).retryable = false := by
    simp [eventAcknowledgement, hfinal]
  simp only [dispatch, hevent, hpay, hkind, dispatchRuntimeFirst, hretryable, hterm,
    Bool.not_true, Bool.false_eq_true, if_false, if_true]
  by_cases hcovers : acknowledgementCovers request row (eventResponse request result)
      (eventAcknowledgement request result)
  · simp only [hcovers, Bool.not_true, Bool.false_eq_true, if_false, if_true]
    rfl
  · simp [hcovers]

theorem refusal_of_decided (h : Treatment runtime request admitted result)
    (hseq : request.mutationSequence.toNat = row.mutationSequence)
    (hepoch : request.runtimeEpoch = leaseEpoch) (hdec : DecidedUnder row leaseEpoch result)
    (hactive : result.status ≠ .inactive)
    (hacc : ¬(result.status = .accepted ∨ result.status = .duplicate)) :
    result.status = .commandExpired ∨ result.status = .invalidArgument ∨
      result.status = .stale .planProposal := by
  cases h with
  | applied hstatus => exact absurd (.inl hstatus) hacc
  | consumed hstatus => exact hstatus
  | duplicate hstatus => exact absurd (.inr hstatus) hacc
  | refused _ _ hvers huncovered =>
    obtain ⟨hheld, hpast⟩ := hdec
    rw [hvers] at hheld hpast
    rcases huncovered with hidle | ⟨-, hbad⟩ | hother | hlater
    · exact absurd hidle hactive
    · exact .inr (.inl hbad)
    · exact absurd (hepoch.trans hheld.symm) hother
    · exact absurd hpast (Nat.not_le_of_lt (hseq ▸ hlater))

theorem runtimeFinalize_iff (request : PlannerStreamRequest) (hawaits : trip.Awaits row)
    (hevent : storedEventIsValid row)
    (hstatus : (result.status = .accepted ∨ result.status = .duplicate) ∨
      result.status = .commandExpired ∨ result.status = .invalidArgument ∨
      result.status = .stale .planProposal) :
    (∃ finalized, runtimeFinalize trip row result.versionSnapshot.plannerStateVersion
        (eventAcknowledgement request result) = .ok finalized ∧
      finalized.finalizedMutationSequence = row.mutationSequence) ↔
      OutcomeStorable trip row result := by
  unfold runtimeFinalize OutcomeStorable
  by_cases hacc : result.status = .accepted ∨ result.status = .duplicate
  · have hdisp : (eventAcknowledgement request result).disposition = .accepted ∨
        (eventAcknowledgement request result).disposition = .duplicate :=
      hacc.imp coordinatorDisposition_accepted_iff.mpr coordinatorDisposition_duplicate_iff.mpr
    rw [if_pos hdisp, if_pos hacc]
    exact finalizeAccepted_iff hawaits hevent
  · have hdisp : ¬((eventAcknowledgement request result).disposition = .accepted ∨
        (eventAcknowledgement request result).disposition = .duplicate) := fun h =>
      hacc (h.imp coordinatorDisposition_accepted_iff.mp coordinatorDisposition_duplicate_iff.mp)
    have href := hstatus.resolve_left hacc
    have hterm : terminalStatus (eventAcknowledgement request result).status =
        some (refusalStatus result.status) := by
      rcases href with h | h | h <;>
        simp [eventAcknowledgement, h, coordinatorStatusCode, terminalStatus, refusalStatus]
    rw [if_neg hdisp, if_neg hacc, hterm]
    exact finalizeRefused_iff hawaits hevent href

/-- One pass over the awaited row finalizes it exactly when the planner decided
its sequence under the epoch of the lease and the outcome can be stored. -/
theorem dispatch_resolves_iff (trip : CanonicalTrip) (row : CommandRow) (runtime : TripRuntime)
    (leaseEpoch : UInt64) (currentTime : UnixTimeMilliseconds) (bytes : Nat)
    (requestId : RequestId) (hawaits : trip.Awaits row) (hevent : storedEventIsValid row)
    (hactive : (deliver runtime row leaseEpoch currentTime bytes).2.status ≠ .inactive)
    (hinternal : (deliver runtime row leaseEpoch currentTime bytes).2.status ≠ .internal) :
    (∃ finalized, dispatch trip row (dispatchRequest requestId trip.tripId row leaseEpoch)
        (some (eventResponse (dispatchRequest requestId trip.tripId row leaseEpoch)
          (deliver runtime row leaseEpoch currentTime bytes).2)) = (finalized, .resolved) ∧
      finalized.finalizedMutationSequence = row.mutationSequence) ↔
    DecidedUnder row leaseEpoch (deliver runtime row leaseEpoch currentTime bytes).2 ∧
      OutcomeStorable trip row (deliver runtime row leaseEpoch currentTime bytes).2 := by
  have hkind := command?_isRuntimeFirst hawaits.stored
  have htreatment := treatment_of_deliver hkind hevent runtime leaseEpoch currentTime bytes
  generalize (deliver runtime row leaseEpoch currentTime bytes).2 = result at *
  rw [dispatch_eventResponse hkind hevent hactive hinternal]
  by_cases hcovers :
    acknowledgementCovers (dispatchRequest requestId trip.tripId row leaseEpoch) row
      (eventResponse (dispatchRequest requestId trip.tripId row leaseEpoch) result)
      (eventAcknowledgement (dispatchRequest requestId trip.tripId row leaseEpoch) result)
  · have hdec := (covers_iff hevent).mp hcovers
    have hstatus := Classical.or_iff_not_imp_left.mpr fun hacc =>
      refusal_of_decided htreatment (mutationSequence_toNat row leaseEpoch) rfl hdec hactive hacc
    rw [if_pos hcovers, and_iff_right hdec, ← runtimeFinalize_iff _ hawaits hevent hstatus]
    cases runtimeFinalize trip row result.versionSnapshot.plannerStateVersion
        (eventAcknowledgement (dispatchRequest requestId trip.tripId row leaseEpoch) result) with
    | error => simp
    | ok => simp
  · have hund : ¬DecidedUnder row leaseEpoch result := fun h => hcovers ((covers_iff hevent).mpr h)
    rw [if_neg hcovers]
    simp [pause, hund]

def dispatchDelay (delaySeconds : UInt32) : CanonicalTrip × DispatchOutcome :=
  dispatch (museumTrip (delayCommand delaySeconds)) (delayCommand delaySeconds)
    (dispatchRequest ⟨3⟩ ⟨9⟩ (delayCommand delaySeconds) 1)
    (some (eventResponse (dispatchRequest ⟨3⟩ ⟨9⟩ (delayCommand delaySeconds) 1)
      (deliverDelay delaySeconds).2))

theorem museumTrip_awaits :
    (museumTrip (delayCommand delaySeconds)).Awaits (delayCommand delaySeconds) :=
  ⟨rfl, rfl, rfl, rfl⟩

theorem dispatch_resolves_halfHour : ∃ finalized, dispatchDelay 1800 = (finalized, .resolved) ∧
      finalized.finalizedMutationSequence = 2 := by
  apply (dispatch_resolves_iff (museumTrip (delayCommand 1800)) (delayCommand 1800) museumRuntime
    1 1 0 ⟨3⟩ museumTrip_awaits (by decide) (by decide +kernel) (by decide +kernel)).mpr
  refine ⟨⟨by decide +kernel, by decide +kernel⟩, ?_⟩
  refine ⟨by decide +kernel, by decide, ?_, ?_⟩
  · intro decision hpay
    cases hpay
  · intro mutation hmut
    cases hmut
    decide +kernel

def museumProposal : ProposalRow where
  stored := ⟨⟨⟨4⟩, 1, 0, ⟨7⟩, 1, 1, [], [⟨⟨1⟩, museumVisit.location, "UTC", none, none, none,
    .skipped⟩], 1⟩, 1, .complete⟩
  state := .pending
  decisionMessageId := none
  resultingCurrentPlanId := none
  fits := by decide

def rejectCommand : CommandRow :=
  awaitedCommand .rejectProposal (.planDecision ⟨.reject, ⟨4⟩, 1, 0, ⟨7⟩, none⟩)

def proposalTrip : CanonicalTrip := { museumTrip rejectCommand with proposals := [museumProposal] }

/-- An observation has raised the planner's version and dropped its proposal. -/
def observedRuntime : TripRuntime := ⟨museumState, ⟨true, ⟨1, 1, 1, 1, 1, 1, 1⟩⟩⟩

def rejectResult : EventCoordinatorResult := (deliver observedRuntime rejectCommand 1 1 0).2

/-- The coordinator answers STALE for the planner state version and leaves the
sequence unused; the dispatcher pauses the row. -/
theorem dispatch_pauses_staleRejection :
    proposalTrip.Awaits rejectCommand ∧ storedEventIsValid rejectCommand ∧
      observedRuntime.state.isValid ∧
      rejectResult.status = .stale .plannerStateVersion ∧
      (dispatch proposalTrip rejectCommand (dispatchRequest ⟨3⟩ ⟨9⟩ rejectCommand 1)
        (some (eventResponse (dispatchRequest ⟨3⟩ ⟨9⟩ rejectCommand 1) rejectResult))).2 = .paused ∧
      ((dispatch proposalTrip rejectCommand (dispatchRequest ⟨3⟩ ⟨9⟩ rejectCommand 1)
        (some (eventResponse (dispatchRequest ⟨3⟩ ⟨9⟩ rejectCommand 1)
          rejectResult))).1.commands.map CommandRow.deliveryState) = [.pausedInternal] :=
  ⟨⟨by decide +kernel, rfl, rfl, rfl⟩, by decide, by decide +kernel, by decide +kernel,
    by decide +kernel, by decide +kernel⟩

end LiveRoute.Dispatch
