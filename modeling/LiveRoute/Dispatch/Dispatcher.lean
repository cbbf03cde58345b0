import LiveRoute.Persistence.CanonicalMirror
import LiveRoute.Runtime.EventCoordinator

/-! One delivery of a stored event: the request built from the outbox row, the
acknowledgement of the planner, and what the dispatcher does with it. -/
namespace LiveRoute.Dispatch
open Domain LiveRoute.Runtime Persistence

inductive StatusCode where
  | ok | duplicate | stale | invalidArgument | notFound | inactiveTrip | commandExpired | infeasible
  | internal
deriving DecidableEq

inductive EventDisposition where
  | unspecified | accepted | duplicate | stale | rejected
deriving DecidableEq

structure EventAcknowledged where
  eventId : EventId
  disposition : EventDisposition
  status : StatusCode
  staleReason : Option EventCoordinatorStaleReason
  retryable : Bool
  resolvedMutationSequence : UInt64
  resultingCurrentPlanId : Option PlanId
deriving DecidableEq

structure RequestId where
  value : BitVec 128
deriving DecidableEq

structure PlannerStreamRequest where
  requestId : RequestId
  tripId : TripId
  admission : EventAdmissionRequest
deriving DecidableEq

inductive PlannerStreamPayload where
  | eventAcknowledged (ack : EventAcknowledged)
  | error (retryable : Bool)
deriving DecidableEq

structure PlannerStreamResponse where
  requestId : RequestId
  tripId : TripId
  (runtimeEpoch tripRevision plannerStateVersion : UInt64)
  payload : PlannerStreamPayload
deriving DecidableEq

def coordinatorDisposition : EventCoordinatorStatus → EventDisposition
  | .accepted => .accepted
  | .duplicate => .duplicate
  | .stale _ => .stale
  | .invalidArgument | .commandExpired | .inactive | .internal => .rejected

def coordinatorStatusCode : EventCoordinatorStatus → StatusCode
  | .accepted => .ok
  | .duplicate => .duplicate
  | .stale _ => .stale
  | .invalidArgument => .invalidArgument
  | .commandExpired => .commandExpired
  | .inactive => .inactiveTrip
  | .internal => .internal

def coordinatorStaleReason : EventCoordinatorStatus → Option EventCoordinatorStaleReason
  | .stale reason => some reason
  | _ => none

def eventAcknowledgement (request : PlannerStreamRequest) (result : EventCoordinatorResult) :
    EventAcknowledged :=
  { eventId := request.admission.event.eventId, disposition := coordinatorDisposition result.status
    status := coordinatorStatusCode result.status
    staleReason := coordinatorStaleReason result.status
    retryable := decide (result.status = .inactive)
    resolvedMutationSequence := result.versionSnapshot.acceptedMutationSequence
    resultingCurrentPlanId := result.resultingCurrentPlanId }

/-- The reply of `handle_event` to an event that reached the coordinator. -/
def eventResponse (request : PlannerStreamRequest) (result : EventCoordinatorResult) :
    PlannerStreamResponse :=
  { requestId := request.requestId, tripId := request.tripId
    runtimeEpoch := result.versionSnapshot.runtimeEpoch
    tripRevision := result.versionSnapshot.tripRevision
    plannerStateVersion := result.versionSnapshot.plannerStateVersion
    payload := .eventAcknowledged (eventAcknowledgement request result) }

def eventMatchesCommand : CommandKind → TripEventPayload → Bool
  | .activityStatusChanged, .activityStatusChanged .. => true
  | .activityDelayed, .activityDelayed .. => true
  | .reservationChanged, .reservationChanged .. => true
  | .mandatoryDeadlineChanged, .mandatoryDeadlineChanged .. => true
  | .operatingHoursChanged, .operatingHoursChanged .. => true
  | .placeFoundClosed, .placeFoundClosed .. => true
  | .travelDelay, .travelDelay .. => true
  | .acceptProposal, .planDecision decision => decide (decision.decision = .accept)
  | .rejectProposal, .planDecision decision => decide (decision.decision = .reject)
  | .tripEdited, .tripEdited .. => true
  | .replaceCurrentPlan, .currentPlanReplaced .. => true
  | _, _ => false

def expectedPlannerStateVersion : TripEventPayload → Option UInt64
  | .planDecision decision => some decision.sourcePlannerStateVersion
  | _ => none

def admissionRequest (row : CommandRow) (leaseEpoch : UInt64) : EventAdmissionRequest :=
  { runtimeEpoch := leaseEpoch, mutationSequence := .ofNat row.mutationSequence
    observationSequence := 0, expectedTripRevision := .ofNat row.expectedTripRevision
    expectedPlannerStateVersion := expectedPlannerStateVersion row.event.payload
    event := row.event }

def dispatchRequest (requestId : RequestId) (tripId : TripId) (row : CommandRow)
    (leaseEpoch : UInt64) : PlannerStreamRequest :=
  ⟨requestId, tripId, admissionRequest row leaseEpoch⟩

def deliver (runtime : TripRuntime) (row : CommandRow) (leaseEpoch : UInt64)
    (currentTime : UnixTimeMilliseconds) (maxAdvisoryPayloadBytes : Nat) :
    TripRuntime × EventCoordinatorResult :=
  coordinateEventAdmission runtime (admissionRequest row leaseEpoch) currentTime
    maxAdvisoryPayloadBytes

def acceptedMutation (event : TripEvent) : Option AcceptedMutation :=
  match event.payload with
  | .activityStatusChanged activityId state => some (.activityStatus activityId state)
  | .activityDelayed activityId delaySeconds => some (.activityDelay activityId delaySeconds)
  | .reservationChanged activityId reservationStart graceSeconds =>
    some (.reservation activityId reservationStart graceSeconds)
  | .mandatoryDeadlineChanged activityId latestFinish =>
    some (.mandatoryDeadline activityId latestFinish)
  | .operatingHoursChanged activityId windows => some (.operatingHours activityId windows)
  | .placeFoundClosed activityId observedAt => some (.placeFoundClosed activityId observedAt)
  | .travelDelay fromActivityId toActivityId additionalSeconds =>
    some (.travelDelay fromActivityId toActivityId additionalSeconds event.occurredAt)
  | _ => none

def terminalStatus : StatusCode → Option TerminalStatus
  | .stale => some .stale
  | .invalidArgument => some .invalidArgument
  | .notFound => some .notFound
  | .commandExpired => some .commandExpired
  | .infeasible => some .infeasible
  | .ok | .duplicate | .inactiveTrip | .internal => none

def proposalRequest (row : CommandRow) (decision : PlanDecisionEvent) (plannerStateVersion : UInt64)
    (outcome : OutcomePayload) : FinalizeProposalDecisionRequest :=
  { eventId := row.eventId, mutationSequence := row.mutationSequence
    expectedTripRevision := row.expectedTripRevision
    resultingPlannerStateVersion := plannerStateVersion.toNat
    identity := ⟨decision.proposalId, decision.sourceRuntimeEpoch.toNat,
        decision.sourcePlannerStateVersion.toNat, decision.baseCurrentPlanId⟩
    outcomePayload := outcome }

/-- Finalization stops before it reaches a store operation only for an
acknowledgement that is not terminal or an event that has no mutation. -/
inductive RuntimeFinalizeError where
  | notTerminal | unsupportedEvent
  | store (error : FinalizeError)
deriving DecidableEq

def storeResult : Transaction → Except RuntimeFinalizeError CanonicalTrip
  | .ok trip => .ok trip
  | .error error => .error (.store error)

def acceptedMutationRequest (row : CommandRow) (plannerStateVersion : UInt64)
    (mutation : AcceptedMutation) : FinalizeAcceptedMutationRequest :=
  { eventId := row.eventId, mutationSequence := row.mutationSequence
    expectedTripRevision := row.expectedTripRevision
    resultingPlannerStateVersion := plannerStateVersion.toNat, mutation := mutation
    outcomePayload := ⟨row.eventId, .ok, plannerStateVersion.toNat⟩ }

def finalizeAccepted (trip : CanonicalTrip) (row : CommandRow) (plannerStateVersion : UInt64) :
    Except RuntimeFinalizeError CanonicalTrip :=
  match row.event.payload with
  | .planDecision decision =>
    let request := proposalRequest row decision plannerStateVersion
      ⟨row.eventId, .ok, plannerStateVersion.toNat⟩
    match decision.decision with
    | .accept => storeResult (finalizeProposalAcceptance trip request)
    | .reject => storeResult (finalizeProposalRejection trip request)
  | _ =>
    match acceptedMutation row.event with
    | none => .error .unsupportedEvent
    | some mutation =>
      storeResult (finalizeAcceptedMutation trip
        (acceptedMutationRequest row plannerStateVersion mutation))

def terminalRequest (row : CommandRow) (plannerStateVersion : UInt64) (status : TerminalStatus) :
    FinalizeTerminalCommandRequest :=
  { eventId := row.eventId, mutationSequence := row.mutationSequence
    expectedTripRevision := row.expectedTripRevision
    resultingPlannerStateVersion := plannerStateVersion.toNat, status := status
    outcomePayload := ⟨row.eventId, .terminal status, plannerStateVersion.toNat⟩ }

def finalizeRefused (trip : CanonicalTrip) (row : CommandRow) (plannerStateVersion : UInt64)
    (status : TerminalStatus) (staleReason : Option EventCoordinatorStaleReason) :
    Except RuntimeFinalizeError CanonicalTrip :=
  match row.event.payload with
  | .planDecision decision =>
    if status = .stale ∧ staleReason = some .planProposal then
      storeResult (finalizeStaleProposalDecision trip
        (proposalRequest row decision plannerStateVersion
          ⟨row.eventId, .terminal status, plannerStateVersion.toNat⟩))
    else storeResult (finalizeTerminal trip (terminalRequest row plannerStateVersion status))
  | _ => storeResult (finalizeTerminal trip (terminalRequest row plannerStateVersion status))

/-- `RuntimeFinalizer.Finalize`. -/
def runtimeFinalize (trip : CanonicalTrip) (row : CommandRow) (plannerStateVersion : UInt64)
    (ack : EventAcknowledged) : Except RuntimeFinalizeError CanonicalTrip :=
  if ack.disposition = .accepted ∨ ack.disposition = .duplicate then
    finalizeAccepted trip row plannerStateVersion
  else
    match terminalStatus ack.status with
    | none => .error .notTerminal
    | some status => finalizeRefused trip row plannerStateVersion status ack.staleReason

inductive DispatchOutcome where
  | retried | paused
  | failed (error : RuntimeFinalizeError)
  | mirrorFailed (error : MirrorError)
  | resolved
deriving DecidableEq

/-- `PauseInternal` by the owner of the claim. -/
def pause (trip : CanonicalTrip) (row : CommandRow) : CanonicalTrip × DispatchOutcome :=
  ({ trip with commands := trip.commands.map fun stored =>
      if stored.eventId = row.eventId ∧ stored.deliveryState = .pending then
        { stored with deliveryState := .pausedInternal }
      else stored }, .paused)

def storedEventIsValid (row : CommandRow) : Bool :=
  decide (row.event.eventId = row.eventId) && eventMatchesCommand row.kind row.event.payload &&
    (row.kind.isRuntimeFirst || row.mirror.any fun mirror =>
      !decide (mirror.resultingTripRevision = 0))

def acknowledgementCovers (request : PlannerStreamRequest) (row : CommandRow)
    (response : PlannerStreamResponse) (ack : EventAcknowledged) : Bool :=
  decide (response.requestId = request.requestId) && decide (response.tripId = request.tripId) &&
    decide (response.runtimeEpoch = request.admission.runtimeEpoch) &&
    decide (ack.eventId = row.eventId) &&
    decide (row.mutationSequence ≤ ack.resolvedMutationSequence.toNat)

def EventAcknowledged.isAccepted (ack : EventAcknowledged) : Bool :=
  decide (ack.disposition = .accepted) || decide (ack.disposition = .duplicate)

def EventAcknowledged.hasAcceptedStatus (ack : EventAcknowledged) : Bool :=
  decide (ack.status = .ok) || decide (ack.status = .duplicate)

def dispatchRuntimeFirst (trip : CanonicalTrip) (row : CommandRow)
    (request : PlannerStreamRequest) (response : PlannerStreamResponse)
    (ack : EventAcknowledged) : CanonicalTrip × DispatchOutcome :=
  if ack.retryable then (trip, .retried)
  else if !ack.hasAcceptedStatus && ((terminalStatus ack.status).isNone ||
      decide (ack.disposition = .unspecified)) then pause trip row
  else if !acknowledgementCovers request row response ack then pause trip row
  else
    match runtimeFinalize trip row response.plannerStateVersion ack with
    | .error error => (trip, .failed error)
    | .ok finalized => (finalized, .resolved)

def dispatchCanonicalFirst (trip : CanonicalTrip) (row : CommandRow)
    (request : PlannerStreamRequest) (response : PlannerStreamResponse)
    (ack : EventAcknowledged) : CanonicalTrip × DispatchOutcome :=
  if !ack.isAccepted || !ack.hasAcceptedStatus then
    if ack.retryable then (trip, .retried) else pause trip row
  else if !acknowledgementCovers request row response ack then pause trip row
  else
    match finalizeCanonicalMirror trip
        { eventId := row.eventId, mutationSequence := row.mutationSequence
          expectedTripRevision := row.expectedTripRevision
          resultingTripRevision := response.tripRevision.toNat
          resultingCurrentPlanId := ack.resultingCurrentPlanId } with
    | (updated, some error) => (updated, .mirrorFailed error)
    | (updated, none) => (updated, .resolved)

/-- One pass over a claimed row; `response` is `none` when the exchange with
the planner fails. -/
def dispatch (trip : CanonicalTrip) (row : CommandRow) (request : PlannerStreamRequest)
    (response : Option PlannerStreamResponse) : CanonicalTrip × DispatchOutcome :=
  if !storedEventIsValid row then pause trip row
  else
    match response with
    | none => (trip, .retried)
    | some response =>
      match response.payload with
      | .error retryable => if retryable then (trip, .retried) else pause trip row
      | .eventAcknowledged ack =>
        if row.kind.isRuntimeFirst then dispatchRuntimeFirst trip row request response ack
        else dispatchCanonicalFirst trip row request response ack

end LiveRoute.Dispatch
