import LiveRoute.Domain.Activity

/-! The messages of `planner.proto` that snapshots and bootstraps are made of.
Identifiers are text, enumerations are open, and a field with presence is an
`Option`. -/
namespace LiveRoute.Proto
open Domain (UnixTimeMilliseconds)

structure Location where
  (latitude longitude : Option Rat)
deriving DecidableEq

structure TimeWindow where
  (opensAtUnixMs closesAtUnixMs : UnixTimeMilliseconds)
deriving DecidableEq

structure ActivityTiming where
  openWindows : List TimeWindow
  reservationStartUnixMs : Option UnixTimeMilliseconds
  (reservationGraceSeconds minDurationSeconds preferredDurationSeconds maxDurationSeconds : UInt32)
  (mandatory canShorten canMove canSkip : Bool)
  mandatoryDeadlineUnixMs : Option UnixTimeMilliseconds
deriving DecidableEq

inductive TravelMode where
  | unspecified | walking | driving
  | unrecognized (number : Int32)
deriving DecidableEq

inductive ActivityClass where
  | unspecified | fixed | flexible
  | unrecognized (number : Int32)
deriving DecidableEq

inductive ActivityState where
  | unspecified | planned | started | completed | skipped
  | unrecognized (number : Int32)
deriving DecidableEq

inductive PlanOrigin where
  | unspecified | userAuthored | acceptedEngineProposal
  | unrecognized (number : Int32)
deriving DecidableEq

inductive PlanEntryState where
  | unspecified | scheduled | omitted
  | unrecognized (number : Int32)
deriving DecidableEq

structure Activity where
  (activityId placeId displayName : String)
  location : Option Location
  timeZoneName : String
  inboundTravelMode : TravelMode
  activityClass : ActivityClass
  activityState : ActivityState
  (priorityRank utilityScore : Int32)
  timing : Option ActivityTiming
  activityDelaySeconds : UInt32
  foundClosedAtUnixMs : Option UnixTimeMilliseconds
deriving DecidableEq

structure TravelDelayState where
  (fromActivityId toActivityId : String)
  additionalSeconds : UInt32
  observedAtUnixMs : UnixTimeMilliseconds
deriving DecidableEq

structure TripDefinition where
  (tripId ownerUserId defaultTimeZoneName : String)
  activities : List Activity
  completedPrefixCount : UInt32
  (currentActivityId currentPlanId : String)
  travelDelays : List TravelDelayState
deriving DecidableEq

structure CurrentObservation where
  location : Option Location
  observedAtUnixMs : UnixTimeMilliseconds
  (velocityMetersPerSecond headingDegrees : Option (Option Rat))
deriving DecidableEq

structure CurrentPlanSegment where
  activityId : String
  state : PlanEntryState
  (scheduledStartUnixMs scheduledEndUnixMs : Option UnixTimeMilliseconds)
deriving DecidableEq

structure CurrentPlan where
  planId : String
  planRevision : UInt64
  origin : PlanOrigin
  segments : List CurrentPlanSegment
  createdAtUnixMs : UnixTimeMilliseconds
  sourceProposalId : Option String
deriving DecidableEq

structure TripStateSnapshot where
  trip : Option TripDefinition
  (tripRevision acceptedMutationSequence finalizedMutationSequence : UInt64)
  currentPlan : Option CurrentPlan
  snapshotSchemaVersion : UInt32
deriving DecidableEq

structure SnapshotBlob (Bytes : Type) where
  snapshotSchemaVersion : UInt32
  (sourceRuntimeEpoch sourcePlannerStateVersion tripRevision : UInt64)
  coveredFinalizedMutationSequence : UInt64
  payloadSizeBytes : UInt32
  checksumSha256 : List UInt8
  payload : Bytes
deriving DecidableEq

inductive BootstrapBase (Bytes : Type) where
  | unset
  | snapshot (blob : SnapshotBlob Bytes)
  | fullTrip (trip : TripDefinition)
deriving DecidableEq

structure BootstrapTrip (Bytes : Type) where
  base : BootstrapBase Bytes
  (finalizedMutationSequence tripRevision : UInt64)
  currentObservation : Option CurrentObservation
  currentObservationSequence : UInt64
  currentPlan : Option CurrentPlan
deriving DecidableEq

/-- `none` stands for every other payload. -/
structure PlannerStreamRequest (Bytes : Type) where
  tripId : String
  runtimeEpoch : UInt64
  bootstrapTrip : Option (BootstrapTrip Bytes)
deriving DecidableEq

end LiveRoute.Proto
