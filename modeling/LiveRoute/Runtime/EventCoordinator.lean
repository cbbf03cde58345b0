import LiveRoute.Domain.TripState
import LiveRoute.Runtime.Versions

/-! Admission of one event by the owner of a trip: version checks, expiry,
application to a copy of the state, and the commit of both. -/
namespace LiveRoute.Runtime
open Domain

structure EventAdmissionRequest where
  (runtimeEpoch mutationSequence observationSequence expectedTripRevision : UInt64)
  expectedPlannerStateVersion : Option UInt64
  event : TripEvent
deriving DecidableEq

inductive EventCoordinatorStaleReason where
  | epoch | mutationSequence | observationSequence | tripRevision | plannerStateVersion
  | planProposal
deriving DecidableEq

inductive EventCoordinatorStatus where
  | accepted | duplicate
  | stale (reason : EventCoordinatorStaleReason)
  | invalidArgument | commandExpired | inactive | internal
deriving DecidableEq

structure EventCoordinatorResult where
  status : EventCoordinatorStatus
  (planningInputChanged currentPlanChanged : Bool)
  versionSnapshot : TripRuntimeVersionSnapshot
  resultingCurrentPlanId : Option PlanId
deriving DecidableEq

def isDurable : TripEventClass → Bool
  | .durable | .canonicalFirstDurableMirror | .durableCompareAndSwap => true
  | .telemetry | .highObservation | .advisory => false

def isCanonicalMirror (eventClass : TripEventClass) : Bool :=
  decide (eventClass = .canonicalFirstDurableMirror)

/-- Both decisions on a proposal advance the revision, like every other durable event. -/
def advancesTripRevision (eventClass : TripEventClass) : Bool := isDurable eventClass

def mapStaleReason : VersionStaleReason → EventCoordinatorStaleReason
  | .epoch => .epoch
  | .mutationSequence => .mutationSequence
  | .observationSequence => .observationSequence
  | .tripRevision => .tripRevision
  | .plannerStateVersion => .plannerStateVersion

def mapVersionStatus : VersionOperationStatus → EventCoordinatorStatus
  | .accepted => .accepted
  | .duplicate => .duplicate
  | .stale reason => .stale (mapStaleReason reason)
  | .invalidArgument => .invalidArgument
  | .inactive => .inactive

def makeResult (status : EventCoordinatorStatus) (versions : TripRuntimeVersions) :
    EventCoordinatorResult :=
  ⟨status, false, false, versions.snapshot, none⟩

structure TripRuntime where
  state : TripState
  versions : TripRuntimeVersions
deriving DecidableEq

def envelopeMatches (durable : Bool) (request : EventAdmissionRequest) : Bool :=
  if durable then
    !(request.mutationSequence == 0) && request.observationSequence == 0 &&
      !(request.expectedTripRevision == 0)
  else
    !(request.observationSequence == 0) && request.mutationSequence == 0 &&
      request.expectedTripRevision == 0

def previewEvent (versions : TripRuntimeVersions) (eventClass : TripEventClass)
    (request : EventAdmissionRequest) : VersionOperationStatus :=
  if isDurable eventClass then
    versions.previewDurable request.runtimeEpoch request.mutationSequence
      request.expectedTripRevision (advancesTripRevision eventClass)
      request.expectedPlannerStateVersion true
  else if eventClass = .advisory then
    versions.previewAdvisory request.runtimeEpoch request.observationSequence
      request.expectedPlannerStateVersion
  else
    versions.previewObservation request.runtimeEpoch request.observationSequence
      request.expectedPlannerStateVersion true

def commitEvent (versions : TripRuntimeVersions) (eventClass : TripEventClass)
    (request : EventAdmissionRequest) (planningInputChanged : Bool) :
    TripRuntimeVersions × VersionOperationStatus :=
  if isDurable eventClass then
    versions.acceptDurable request.runtimeEpoch request.mutationSequence
      request.expectedTripRevision (advancesTripRevision eventClass)
      request.expectedPlannerStateVersion planningInputChanged
  else if eventClass = .advisory then
    versions.acceptAdvisory request.runtimeEpoch request.observationSequence
      request.expectedPlannerStateVersion
  else
    versions.acceptObservation request.runtimeEpoch request.observationSequence
      request.expectedPlannerStateVersion planningInputChanged

def consumeTerminal (runtime : TripRuntime) (request : EventAdmissionRequest)
    (status : EventCoordinatorStatus) : TripRuntime × EventCoordinatorResult :=
  match runtime.versions.resolveTerminalDurable request.runtimeEpoch request.mutationSequence
      request.expectedTripRevision request.expectedPlannerStateVersion with
  | (versions, .accepted) => ({ runtime with versions := versions }, makeResult status versions)
  | (versions, _) => ({ runtime with versions := versions }, makeResult .internal versions)

def applyFailureStatus : TripStateApplyStatus → EventCoordinatorStatus
  | .staleProposal => .stale .planProposal
  | _ => .invalidArgument

def isExpired (event : TripEvent) (currentTime : UnixTimeMilliseconds) : Bool :=
  event.commandExpiresAt.any fun expiry => decide (expiry.toInt ≤ currentTime.toInt)

/-- The event is admitted by the version checks; apply it and commit. -/
def applyAdmitted (runtime : TripRuntime) (eventClass : TripEventClass)
    (request : EventAdmissionRequest) (maxAdvisoryPayloadBytes : Nat) :
    TripRuntime × EventCoordinatorResult :=
  match applyTripEvent runtime.state request.event maxAdvisoryPayloadBytes with
  | (candidate, ⟨.accepted, planningInputChanged, currentPlanChanged⟩) =>
    match commitEvent runtime.versions eventClass request planningInputChanged with
    | (versions, .accepted) =>
      (⟨candidate, versions⟩,
        { status := .accepted, planningInputChanged := planningInputChanged
          currentPlanChanged := currentPlanChanged, versionSnapshot := versions.snapshot
          resultingCurrentPlanId :=
            if isCanonicalMirror eventClass then some candidate.currentPlan.planId else none })
    | (versions, _) => ({ runtime with versions := versions }, makeResult .internal versions)
  | (_, ⟨status, _, _⟩) =>
    if isDurable eventClass && !isCanonicalMirror eventClass then
      consumeTerminal runtime request (applyFailureStatus status)
    else
      (runtime, makeResult (applyFailureStatus status) runtime.versions)

def coordinateEventAdmission (runtime : TripRuntime) (request : EventAdmissionRequest)
    (currentTime : UnixTimeMilliseconds) (maxAdvisoryPayloadBytes : Nat) :
    TripRuntime × EventCoordinatorResult :=
  match request.event.payload.eventClass with
  | none => (runtime, makeResult .invalidArgument runtime.versions)
  | some eventClass =>
    if !envelopeMatches (isDurable eventClass) request then
      (runtime, makeResult .invalidArgument runtime.versions)
    else
      match previewEvent runtime.versions eventClass request with
      | .accepted =>
        if isDurable eventClass && !isCanonicalMirror eventClass &&
            isExpired request.event currentTime then
          consumeTerminal runtime request .commandExpired
        else
          applyAdmitted runtime eventClass request maxAdvisoryPayloadBytes
      | refused =>
        (runtime, { makeResult (mapVersionStatus refused) runtime.versions with
          resultingCurrentPlanId :=
            if refused = .duplicate ∧ isCanonicalMirror eventClass then
              some runtime.state.currentPlan.planId
            else none })

end LiveRoute.Runtime
