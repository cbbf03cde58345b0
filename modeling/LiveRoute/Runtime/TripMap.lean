import LiveRoute.Runtime.EventCoordinator
import Mathlib.Data.List.AList

/-! The trips one planner process holds. A bootstrap inserts a trip or replaces
its state under a higher epoch; events, confirmations, snapshots and finished
planning work change the trip in place; a deactivation takes it out. -/
namespace LiveRoute.Runtime
open Domain

structure ActiveTrip where
  runtime : TripRuntime
  ownerUserId : UserId
  deactivationPending : Bool
deriving DecidableEq

structure TripMap where
  maxActiveTrips : Nat
  trips : AList fun _ : TripId => ActiveTrip
  activeTripCount : Nat
deriving DecidableEq

def TripMap.empty (maxActiveTrips : Nat) : TripMap := ⟨maxActiveTrips, ∅, 0⟩

def TripMap.find (map : TripMap) (tripId : TripId) : Option ActiveTrip := map.trips.lookup tripId

def TripMap.put (map : TripMap) (tripId : TripId) (trip : ActiveTrip) : TripMap :=
  { map with trips := map.trips.insert tripId trip }

inductive RuntimeBootstrapStatus where
  | accepted | duplicate | stale | invalidArgument | resourceExhausted
deriving DecidableEq

structure RuntimeBootstrapRequest where
  state : TripState
  ownerUserId : UserId
  (runtimeEpoch tripRevision finalizedMutationSequence currentObservationSequence : UInt64)
deriving DecidableEq

structure RuntimeBootstrapResult where
  status : RuntimeBootstrapStatus
  versions : TripRuntimeVersionSnapshot
  currentPlanId : Option PlanId
  retainedProposal : Option StoredPlanProposal
deriving DecidableEq

def mapBootstrapStatus : VersionOperationStatus → RuntimeBootstrapStatus
  | .accepted => .accepted
  | .duplicate => .duplicate
  | .stale _ => .stale
  | .invalidArgument | .inactive => .invalidArgument

def refusedBootstrap (status : RuntimeBootstrapStatus) : RuntimeBootstrapResult :=
  ⟨status, .zero, none, none⟩

def bootstrapAnswer (status : RuntimeBootstrapStatus) (runtime : TripRuntime) :
    RuntimeBootstrapResult :=
  ⟨status, runtime.versions.snapshot, some runtime.state.currentPlan.planId,
    runtime.state.activeProposal⟩

def observationIsPresent (observation : CurrentObservationState) : Bool :=
  observation.location.isSome || observation.observedAt.isSome ||
    observation.velocityMetersPerSecond.isSome || observation.headingDegrees.isSome

def bootstrapVersions (versions : TripRuntimeVersions) (request : RuntimeBootstrapRequest) :
    TripRuntimeVersions × VersionOperationStatus :=
  versions.bootstrap request.runtimeEpoch request.tripRevision request.finalizedMutationSequence
    request.currentObservationSequence

/-- A request as a recovery sends it: a valid state, no observation. -/
def RuntimeBootstrapRequest.isRecovery (request : RuntimeBootstrapRequest) : Bool :=
  request.state.isValid && request.state.activeProposal.isNone &&
    !observationIsPresent request.state.currentObservation &&
    request.currentObservationSequence == 0 && !(request.runtimeEpoch == 0) &&
    !(request.tripRevision == 0)

def RuntimeBootstrapRequest.isHigherEpoch (request : RuntimeBootstrapRequest) :
    Option ActiveTrip → Bool
  | none => true
  | some trip => decide (trip.runtime.versions.snapshot.runtimeEpoch < request.runtimeEpoch)

def TripMap.insertTrip (map : TripMap) (request : RuntimeBootstrapRequest) :
    TripMap × RuntimeBootstrapResult :=
  if map.maxActiveTrips ≤ map.activeTripCount then (map, refusedBootstrap .resourceExhausted)
  else
    match bootstrapVersions .initial request with
    | (versions, .accepted) =>
      let runtime : TripRuntime := ⟨request.state, versions⟩
      ({ map.put request.state.tripId ⟨runtime, request.ownerUserId, false⟩ with
          activeTripCount := map.activeTripCount + 1 }, bootstrapAnswer .accepted runtime)
    | _ => (map, refusedBootstrap .invalidArgument)

def TripMap.rebootstrap (map : TripMap) (request : RuntimeBootstrapRequest) (trip : ActiveTrip) :
    TripMap × RuntimeBootstrapResult :=
  match bootstrapVersions trip.runtime.versions request with
  | (versions, .accepted) =>
    let runtime : TripRuntime := ⟨request.state, versions⟩
    (map.put request.state.tripId ⟨runtime, request.ownerUserId, false⟩,
      bootstrapAnswer .accepted runtime)
  | (_, status) => (map, bootstrapAnswer (mapBootstrapStatus status) trip.runtime)

def TripMap.tryBootstrap (map : TripMap) (request : RuntimeBootstrapRequest) :
    TripMap × RuntimeBootstrapResult :=
  if !request.state.isValid || request.state.activeProposal.isSome then
    (map, refusedBootstrap .invalidArgument)
  else if request.isHigherEpoch (map.find request.state.tripId) &&
      (!(request.currentObservationSequence == 0) ||
        observationIsPresent request.state.currentObservation) then
    (map, refusedBootstrap .invalidArgument)
  else
    match map.find request.state.tripId with
    | none => map.insertTrip request
    | some trip => map.rebootstrap request trip

def inactiveResult (versions : TripRuntimeVersionSnapshot) : EventCoordinatorResult :=
  ⟨.inactive, false, false, versions, none⟩

def TripMap.tryApplyEvent (map : TripMap) (tripId : TripId) (request : EventAdmissionRequest)
    (currentTime : UnixTimeMilliseconds) (maxAdvisoryPayloadBytes : Nat) :
    TripMap × EventCoordinatorResult :=
  match map.find tripId with
  | none => (map, inactiveResult .zero)
  | some trip =>
    if trip.deactivationPending then (map, inactiveResult trip.runtime.versions.snapshot)
    else
      let admitted := coordinateEventAdmission trip.runtime request currentTime
        maxAdvisoryPayloadBytes
      (map.put tripId { trip with runtime := admitted.1 }, admitted.2)

inductive RuntimeControlStatus where
  | ok | duplicate
  | stale (reason : VersionStaleReason)
  | invalidArgument | inactive | snapshotNotReady
deriving DecidableEq

structure RuntimeControlResult where
  status : RuntimeControlStatus
  versions : TripRuntimeVersionSnapshot
  snapshotState : Option TripState
  ownerUserId : Option UserId
deriving DecidableEq

def mapControlStatus : VersionOperationStatus → RuntimeControlStatus
  | .accepted => .ok
  | .duplicate => .duplicate
  | .stale reason => .stale reason
  | .invalidArgument => .invalidArgument
  | .inactive => .inactive

def controlAnswer (status : RuntimeControlStatus) (trip : ActiveTrip) : RuntimeControlResult :=
  ⟨status, trip.runtime.versions.snapshot, none, none⟩

def missingTrip : RuntimeControlResult := ⟨.inactive, .zero, none, none⟩

def TripMap.tryConfirmFinalized (map : TripMap) (tripId : TripId)
    (runtimeEpoch finalizedMutationSequence : UInt64) : TripMap × RuntimeControlResult :=
  match map.find tripId with
  | none => (map, missingTrip)
  | some trip =>
    let confirmed := trip.runtime.versions.confirmFinalized runtimeEpoch
      finalizedMutationSequence
    let updated : ActiveTrip := { trip with runtime := ⟨trip.runtime.state, confirmed.1⟩ }
    (map.put tripId updated, controlAnswer (mapControlStatus confirmed.2) updated)

def snapshotState (state : TripState) : TripState :=
  { state with currentObservation := .empty, activeProposal := none }

structure PlanningWorkToken where
  (runtimeEpoch plannerStateVersion planningGeneration : UInt64)
deriving DecidableEq

def TripRuntimeVersions.canCommitPlanningWork (versions : TripRuntimeVersions)
    (token : PlanningWorkToken) : Bool :=
  versions.active && !(token.runtimeEpoch == 0) &&
    token.runtimeEpoch == versions.snapshot.runtimeEpoch &&
    token.plannerStateVersion == versions.snapshot.plannerStateVersion &&
    token.planningGeneration == versions.snapshot.planningGeneration

def commitPlanningResult (runtime : TripRuntime) (token : PlanningWorkToken)
    (stored : StoredPlanProposal) : TripRuntime :=
  if !runtime.versions.canCommitPlanningWork token ||
      !(stored.proposal.sourceRuntimeEpoch == token.runtimeEpoch) ||
      !(stored.proposal.sourcePlannerStateVersion == token.plannerStateVersion) ||
      !decide (stored.proposal.baseCurrentPlanId = runtime.state.currentPlan.planId) then runtime
  else if !runtime.state.isValid || !stored.isValidFor runtime.state.activities then runtime
  else { runtime with state := { runtime.state with activeProposal := some stored } }

def TripMap.finishPlanning (map : TripMap) (tripId : TripId) (token : PlanningWorkToken)
    (stored : StoredPlanProposal) : TripMap :=
  match map.find tripId with
  | none => map
  | some trip =>
    map.put tripId { trip with runtime := commitPlanningResult trip.runtime token stored }

end LiveRoute.Runtime
