import LiveRoute.Dispatch.Resolution
import LiveRoute.Persistence.Commands

/-! Decisions on a pending proposal. The gateway reads the proposal, plans the
current plan that an acceptance would leave, and records the decision as a
runtime-first command. -/
namespace LiveRoute.Gateway
open Domain LiveRoute.Runtime Persistence Dispatch

variable {trip : CanonicalTrip} {message : ProposalDecisionMessage} {row : CommandRow}

structure ProposalSource where
  (runtimeEpoch plannerStateVersion tripRevision acceptedMutationSequence : UInt64)
  baseCurrentPlanId : PlanId
deriving DecidableEq

structure ProposalAcceptancePreparation where
  source : ProposalSource
  payload : StoredPlanProposal
  createdAt : UnixTimeMilliseconds
  currentPlanId : PlanId
  nextPlanRevision : UInt64
deriving DecidableEq

inductive ProposalDecisionError where
  | identityInvalid | notAProposalDecision | pendingProposalNotFound | proposalMetadataInvalid
  | proposalStale | storedIdentityInvalid | scheduledSegmentIncomplete | storedEventIncomplete
  | record (error : RecordError)
deriving DecidableEq

def pendingProposal? (trip : CanonicalTrip) (proposalId : ProposalId) : Option ProposalRow :=
  trip.proposals.find? fun row =>
    decide (row.stored.proposal.proposalId = proposalId) && decide (row.state = .pending)

def proposalSource (proposal : PlanProposal) : ProposalSource :=
  ⟨proposal.sourceRuntimeEpoch, proposal.sourcePlannerStateVersion, proposal.sourceTripRevision,
    proposal.sourceAcceptedMutationSequence, proposal.baseCurrentPlanId⟩

/-- `PrepareProposalAcceptance`; `createdAt` is the clock of the database. -/
def prepareProposalAcceptance (trip : CanonicalTrip) (proposalId : ProposalId)
    (createdAt : UnixTimeMilliseconds) :
    Except ProposalDecisionError ProposalAcceptancePreparation :=
  match pendingProposal? trip proposalId with
  | none => .error .pendingProposalNotFound
  | some row =>
    let source := proposalSource row.stored.proposal
    if source.runtimeEpoch == 0 || source.tripRevision == 0 ||
        source.acceptedMutationSequence == 0 ||
        decide (trip.maximumPlanRevision = maxInt64) then
      .error .proposalMetadataInvalid
    else
      .ok
        { source := source, payload := row.stored, createdAt := createdAt
          currentPlanId := trip.currentPlanId
          nextPlanRevision := .ofNat (trip.maximumPlanRevision + 1) }

def plannedSegment (segment : ProposalSegment) : Option CurrentPlanSegment :=
  if segment.disposition = .skipped then some ⟨segment.activityId, .omitted, none, none⟩
  else
    match segment.scheduledStart, segment.scheduledEnd with
    | some start, some finish => some ⟨segment.activityId, .scheduled, some start, some finish⟩
    | _, _ => none

def plannedAcceptedCurrentPlan (preparation : ProposalAcceptancePreparation)
    (proposalId : ProposalId) (planId : PlanId) : Except ProposalDecisionError CurrentPlan :=
  let proposal := preparation.payload.proposal
  if proposal.proposalId ≠ proposalId then .error .storedIdentityInvalid
  else
    match (proposal.preservedPrefix ++ proposal.revisedSuffix).mapM plannedSegment with
    | none => .error .scheduledSegmentIncomplete
    | some segments =>
      .ok
        { planId := planId, planRevision := preparation.nextPlanRevision
          origin := .acceptedEngineProposal, segments := segments
          createdAt := preparation.createdAt, sourceProposalId := some proposalId }

/-- A decoded `accept_proposal` or `reject_proposal` message. -/
structure ProposalDecisionMessage where
  messageId : EventId
  userId : UserId
  kind : CommandKind
  commandExpiresAt : Option UnixTimeMilliseconds
  proposalId : ProposalId
  (sourceRuntimeEpoch sourcePlannerStateVersion : UInt64)
  baseCurrentPlanId : PlanId
  payloadDigest : PayloadDigest
deriving DecidableEq

/-- The values the gateway draws: its own clock, the clock of the database and
a new plan identifier. -/
structure Draws where
  (occurredAt createdAt : UnixTimeMilliseconds)
  planId : PlanId
deriving DecidableEq

def decisionOf (kind : CommandKind) : PlanDecision :=
  if kind = .acceptProposal then .accept else .reject

/-- The stored event: it names the proposal and its source, and no plan. -/
def decisionEvent (message : ProposalDecisionMessage) (occurredAt : UnixTimeMilliseconds) :
    TripEvent :=
  { eventId := message.messageId, occurredAt := occurredAt
    commandExpiresAt := message.commandExpiresAt, payload := .planDecision
      { decision := decisionOf message.kind, proposalId := message.proposalId
        sourceRuntimeEpoch := message.sourceRuntimeEpoch
        sourcePlannerStateVersion := message.sourcePlannerStateVersion
        baseCurrentPlanId := message.baseCurrentPlanId, resultingCurrentPlan := none } }

def sourceMatches (source : ProposalSource) (message : ProposalDecisionMessage) : Bool :=
  source.runtimeEpoch == message.sourceRuntimeEpoch &&
    source.plannerStateVersion == message.sourcePlannerStateVersion &&
    decide (source.baseCurrentPlanId = message.baseCurrentPlanId)

def plannedFor (message : ProposalDecisionMessage) (preparation : ProposalAcceptancePreparation)
    (planId : PlanId) : Except ProposalDecisionError (Option CurrentPlan) :=
  if message.kind = .acceptProposal then
    (plannedAcceptedCurrentPlan preparation message.proposalId planId).map some
  else .ok none

def recordRequest (message : ProposalDecisionMessage) (preparation : ProposalAcceptancePreparation)
    (event : TripEvent) (planned : Option CurrentPlan) : RecordRuntimeCommandRequest :=
  { ownerUserId := message.userId, messageId := message.messageId, eventId := message.messageId
    expectedTripRevision := preparation.source.tripRevision, kind := message.kind
    payloadDigest := message.payloadDigest, event := event, plannedCurrentPlan := planned }

/-- `ProposalDecisionAdapter.Handle`, up to the acknowledgement. -/
def handle (trip : CanonicalTrip) (message : ProposalDecisionMessage) (draws : Draws) :
    Except ProposalDecisionError (CanonicalTrip × RecordedCommand) :=
  if message.sourceRuntimeEpoch == 0 then .error .identityInvalid
  else if !message.kind.isProposalDecision then .error .notAProposalDecision
  else
    match prepareProposalAcceptance trip message.proposalId draws.createdAt with
    | .error error => .error error
    | .ok preparation =>
      if !sourceMatches preparation.source message then .error .proposalStale
      else
        match plannedFor message preparation draws.planId with
        | .error error => .error error
        | .ok planned =>
          if draws.occurredAt.toInt ≤ 0 then .error .storedEventIncomplete
          else
            match recordRuntimeFirst trip (recordRequest message preparation
                (decisionEvent message draws.occurredAt) planned) with
            | .error error => .error (.record error)
            | .ok recorded => .ok recorded

theorem prepareProposalAcceptance_eq
    (h : prepareProposalAcceptance trip proposalId createdAt = .ok preparation) : ∃ stored,
    pendingProposal? trip proposalId = some stored ∧ preparation.payload = stored.stored := by
  unfold prepareProposalAcceptance at h
  split at h
  · cases h
  rename_i stored hstored
  dsimp only at h
  split at h
  · cases h
  · cases h
    exact ⟨stored, hstored, rfl⟩

theorem handle_recorded (h : handle trip message draws = .ok (recorded, ⟨row, false⟩)) :
    ∃ stored preparation planned, pendingProposal? trip message.proposalId = some stored ∧
    preparation.payload = stored.stored ∧
    plannedFor message preparation draws.planId = .ok planned ∧ NewlyRecorded trip recorded
    (recordRequest message preparation (decisionEvent message draws.occurredAt) planned) row := by
  revert h
  fun_cases handle trip message draws
  case case8 preparation hprep _ planned hplan _ result hrecord =>
    intro h
    cases h
    obtain ⟨stored, hstored, hpay⟩ := prepareProposalAcceptance_eq hprep
    exact ⟨stored, preparation, planned, hstored, hpay, hplan, recordRuntimeFirst_recorded hrecord⟩
  all_goals nofun

/-- A skipped segment is omitted; any other is scheduled at the same times. -/
structure SegmentImage (proposed : ProposalSegment) (planned : CurrentPlanSegment) : Prop where
  activity : planned.activityId = proposed.activityId
  omitted : proposed.disposition = .skipped →
    planned.state = .omitted ∧ planned.scheduledStart = none ∧ planned.scheduledEnd = none
  scheduled : proposed.disposition ≠ .skipped → planned.state = .scheduled ∧
    planned.scheduledStart.isSome ∧ planned.scheduledEnd.isSome ∧
    planned.scheduledStart = proposed.scheduledStart ∧ planned.scheduledEnd = proposed.scheduledEnd

theorem plannedSegment_image
    (h : plannedSegment proposed = some planned) : SegmentImage proposed planned := by
  unfold plannedSegment at h
  split at h
  next hskip =>
    cases h
    exact ⟨rfl, fun _ => ⟨rfl, rfl, rfl⟩, fun hother => absurd hskip hother⟩
  next hskip =>
    split at h
    next start finish hstart hfinish =>
      cases h
      exact ⟨rfl, fun hother => absurd hother hskip,
        fun _ => ⟨rfl, rfl, rfl, hstart.symm, hfinish.symm⟩⟩
    · cases h

theorem plannedFor_accept (hkind : message.kind = .acceptProposal)
    (h : plannedFor message preparation planId = .ok planned) :
    ∃ plan, planned = some plan ∧ plan.planId = planId ∧
      List.Forall₂ SegmentImage (preparation.payload.proposal.preservedPrefix ++
        preparation.payload.proposal.revisedSuffix) plan.segments := by
  unfold plannedFor plannedAcceptedCurrentPlan at h
  rw [if_pos hkind] at h
  dsimp only at h
  split at h
  · cases h
  split at h
  · cases h
  rename_i segments hsegments
  cases h
  exact ⟨_, rfl, rfl,
    (Sequence.forall₂_of_mapM hsegments).imp fun _ _ => plannedSegment_image⟩

def carriedPlan : TripEventPayload → Option CurrentPlan
  | .planDecision decision => decision.resultingCurrentPlan
  | _ => none

/-- The event check needs the plan, so an acceptance without one is applied to
no state. -/
theorem decisionEvent_not_applied (hkind : message.kind = .acceptProposal)
    (occurredAt : UnixTimeMilliseconds) (state mutated : TripState) (bytes : Nat) :
    ¬ Applied state (decisionEvent message occurredAt) bytes mutated := by
  intro happ
  have hvalid := happ.eventValid
  simp [TripEvent.isValidFor, decisionEvent, PlanDecisionEvent.isValidFor, decisionOf,
    hkind] at hvalid

theorem deliver_decisionEvent (hkind : message.kind = .acceptProposal) (row : CommandRow)
    (hevent : row.event = decisionEvent message occurredAt) :
    (deliver runtime row leaseEpoch currentTime bytes).2.status ≠ .accepted ∧
      (deliver runtime row leaseEpoch currentTime bytes).1.state = runtime.state := by
  have hfirst : (admissionRequest row leaseEpoch).event.payload.isRuntimeFirst := by
    simp only [admissionRequest, hevent]
    rfl
  have hadm := coordinateEventAdmission_cases runtime (admissionRequest row leaseEpoch)
    currentTime bytes hfirst
  change Admission _ _ _ _ (deliver runtime row leaseEpoch currentTime bytes).1
    (deliver runtime row leaseEpoch currentTime bytes).2 at hadm
  generalize deliver runtime row leaseEpoch currentTime bytes = delivered at *
  obtain ⟨admitted, result⟩ := delivered
  dsimp only at hadm ⊢
  have href : result.status ≠ .accepted := by
    intro hacc
    obtain ⟨-, -, mutated, happ, -⟩ := hadm.of_accepted hacc
    refine decisionEvent_not_applied hkind occurredAt runtime.state mutated bytes ?_
    rw [← hevent]
    exact happ
  refine ⟨href, ?_⟩
  cases hadm with
  | malformed | refused | exhausted | expired | rejected => rfl
  | applied => exact absurd rfl href

theorem runtimeFinalize_refused_plan {ack : EventAcknowledged}
    (href : ¬ (ack.disposition = .accepted ∨ ack.disposition = .duplicate))
    (h : runtimeFinalize trip row version ack = .ok finalized) :
    finalized.currentPlanId = trip.currentPlanId := by
  unfold runtimeFinalize at h
  rw [if_neg href] at h
  split at h
  · cases h
  unfold finalizeRefused at h
  split at h
  · split at h
    · exact finalizeProposalDecision_currentPlanId (storeResult_eq_ok h)
    · exact finalizeTerminal_currentPlanId (storeResult_eq_ok h)
  · exact finalizeTerminal_currentPlanId (storeResult_eq_ok h)

theorem dispatch_refused_plan (hkind : row.kind.isRuntimeFirst) {result : EventCoordinatorResult}
    (href : result.status ≠ .accepted) (hdup : result.status ≠ .duplicate) :
    (dispatch trip row request (some (eventResponse request result))).1.currentPlanId =
      trip.currentPlanId := by
  have hdisp : ¬ ((eventAcknowledgement request result).disposition = .accepted ∨
      (eventAcknowledgement request result).disposition = .duplicate) := by
    simp only [eventAcknowledgement, coordinatorDisposition_accepted_iff,
      coordinatorDisposition_duplicate_iff, not_or]
    exact ⟨href, hdup⟩
  unfold dispatch
  split
  · rfl
  dsimp only [eventResponse]
  unfold dispatchRuntimeFirst
  split
  · rfl
  split
  · rfl
  split
  · rfl
  split
  · rfl
  next finalized hfin => exact runtimeFinalize_refused_plan hdisp hfin

/-- Accepting a proposal never works. The command stores the planned plan, the
image of the proposal, and its event carries no plan: every runtime refuses the
event and keeps its state, so the two sides never both hold the planned plan. A
pass over the refused command leaves the current plan of the rows as it was. -/
theorem acceptProposal_never_applied {trip recorded : CanonicalTrip}
    {message : ProposalDecisionMessage} {draws : Draws} {row : CommandRow}
    (hkind : message.kind = .acceptProposal)
    (hrecorded : handle trip message draws = .ok (recorded, ⟨row, false⟩)) :
    ∃ stored plan, pendingProposal? trip message.proposalId = some stored ∧
      row.plannedCurrentPlan = some plan ∧ plan.planId = draws.planId ∧
      List.Forall₂ SegmentImage
        (stored.stored.proposal.preservedPrefix ++ stored.stored.proposal.revisedSuffix)
        plan.segments ∧
      carriedPlan row.event.payload = none ∧
      ∀ runtime leaseEpoch currentTime bytes requestId,
        let delivered := deliver runtime row leaseEpoch currentTime bytes
        let request := dispatchRequest requestId recorded.tripId row leaseEpoch
        let dispatched := dispatch recorded row request (some (eventResponse request delivered.2))
        delivered.2.status ≠ .accepted ∧ delivered.1.state = runtime.state ∧
          (runtime.state.currentPlan.planId ≠ draws.planId →
            ¬ (dispatched.1.currentPlan = some plan ∧ delivered.1.state.currentPlan = plan)) ∧
          (delivered.2.status ≠ .duplicate → dispatched.1.currentPlanId = trip.currentPlanId) := by
  obtain ⟨stored, preparation, planned, hstored, hpay, hplan, hnew⟩ := handle_recorded hrecorded
  obtain ⟨plan, rfl, hplanId, himage⟩ := plannedFor_accept hkind hplan
  obtain ⟨hseq, hrev, rfl⟩ := hnew.inserted
  refine ⟨stored, plan, hstored, rfl, hplanId, hpay ▸ himage, rfl, ?_⟩
  intro runtime leaseEpoch currentTime bytes requestId
  obtain ⟨href, hstate⟩ := deliver_decisionEvent hkind (pendingRow _ _ hseq hrev) rfl
  refine ⟨href, hstate, ?_, ?_⟩
  · intro hother hheld
    rw [hstate] at hheld
    exact hother (hheld.2 ▸ hplanId)
  · intro hdup
    rw [dispatch_refused_plan hnew.kind href hdup, hnew.trip_eq]

def freshTrip : CanonicalTrip :=
  { museumTrip rejectCommand with
    nextMutationSequence := 2, proposals := [museumProposal], commands := [] }

def freshRuntime : TripRuntime :=
  ⟨{ museumState with activeProposal := some museumProposal.stored }, museumRuntime.versions⟩

def acceptMessage : ProposalDecisionMessage :=
  ⟨⟨5⟩, ⟨8⟩, .acceptProposal, none, ⟨4⟩, 1, 0, ⟨7⟩, ⟨0⟩⟩

def acceptDraws : Draws := ⟨1, 1, ⟨6⟩⟩

def acceptedPlan : CurrentPlan :=
  ⟨⟨6⟩, 2, .acceptedEngineProposal, [⟨⟨1⟩, .omitted, none, none⟩], 1, some ⟨4⟩⟩

def acceptRow : CommandRow :=
  { awaitedCommand .acceptProposal (decisionEvent acceptMessage 1).payload with
    plannedCurrentPlan := some acceptedPlan }

def acceptRecorded : CanonicalTrip :=
  { freshTrip with nextMutationSequence := 3, commands := [acceptRow] }

theorem acceptProposal_never_applied_museum :
    handle freshTrip acceptMessage acceptDraws = .ok (acceptRecorded, ⟨acceptRow, false⟩) ∧
      (deliver freshRuntime acceptRow 1 1 0).1.state = freshRuntime.state := by
  have hrec : handle freshTrip acceptMessage acceptDraws =
      .ok (acceptRecorded, ⟨acceptRow, false⟩) := by decide +kernel
  obtain ⟨_, _, -, -, -, -, -, hdel⟩ := acceptProposal_never_applied rfl hrec
  exact ⟨hrec, (hdel freshRuntime 1 1 0 ⟨3⟩).2.1⟩

/-- A current proposal is accepted by its owner: the stored event carries no
plan, the runtime refuses it, and the command ends as rejected on the base plan. -/
theorem acceptProposal_museum_rejected :
    handle freshTrip acceptMessage acceptDraws = .ok (acceptRecorded, ⟨acceptRow, false⟩) ∧
      freshRuntime.state.isValid ∧ acceptRow.plannedCurrentPlan = some acceptedPlan ∧
      carriedPlan acceptRow.event.payload = none ∧
      (deliver freshRuntime acceptRow 1 1 0).2.status = .invalidArgument ∧
      (dispatch acceptRecorded acceptRow (dispatchRequest ⟨3⟩ ⟨9⟩ acceptRow 1)
        (some (eventResponse (dispatchRequest ⟨3⟩ ⟨9⟩ acceptRow 1)
          (deliver freshRuntime acceptRow 1 1 0).2))).1.commands.map CommandRow.intentState =
        [.rejected] ∧
      (dispatch acceptRecorded acceptRow (dispatchRequest ⟨3⟩ ⟨9⟩ acceptRow 1)
        (some (eventResponse (dispatchRequest ⟨3⟩ ⟨9⟩ acceptRow 1)
          (deliver freshRuntime acceptRow 1 1 0).2))).1.currentPlanId = ⟨7⟩ := by
  decide +kernel

end LiveRoute.Gateway
