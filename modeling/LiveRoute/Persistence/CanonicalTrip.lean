import LiveRoute.Domain.TripState

/-! The rows PostgreSQL keeps for one trip. Column types are invariants of the
stored values: an integer column holds 31 bits of a duration, a bigint column
63 bits of a version, and a timestamptz column the years 4713 BC to 294276 AD. -/
namespace LiveRoute.Persistence
open Domain Sequence

def maxInt32 : UInt32 := 2147483647

def maxInt64 : Nat := 9223372036854775807

def minTimestamp : Int := -210866803200000

def maxTimestamp : Int := 9224318015999999

def fitsInteger (value : UInt32) : Bool := decide (value ≤ maxInt32)

def fitsTimestamp (time : UnixTimeMilliseconds) : Bool :=
  decide (minTimestamp ≤ time.toInt) && decide (time.toInt ≤ maxTimestamp)

def windowFits (window : TimeWindow) : Bool :=
  fitsTimestamp window.opensAt && fitsTimestamp window.closesAt

def activityFits (activity : Activity) : Bool :=
  fitsInteger activity.activityDelaySeconds && activity.foundClosedAt.all fitsTimestamp &&
    activity.timing.reservationStart.all fitsTimestamp &&
    fitsInteger activity.timing.reservationGraceSeconds &&
    activity.timing.mandatoryDeadline.all fitsTimestamp &&
    fitsInteger activity.timing.minDurationSeconds &&
    fitsInteger activity.timing.preferredDurationSeconds &&
    fitsInteger activity.timing.maxDurationSeconds && activity.timing.openWindows.all windowFits

def delayFits (delay : TravelDelayState) : Bool :=
  fitsInteger delay.additionalSeconds && fitsTimestamp delay.observedAt

/-- A row of `trip_activities` with its rows of `activity_open_windows`. -/
structure ActivityRow where
  activity : Activity
  fits : activityFits activity
deriving DecidableEq

/-- A row of `trip_travel_delays`. -/
structure TravelDelayRow where
  delay : TravelDelayState
  fits : delayFits delay
deriving DecidableEq

inductive CommandKind where
  | activityStatusChanged | activityDelayed | replaceCurrentPlan | tripEdited | reservationChanged
  | mandatoryDeadlineChanged | operatingHoursChanged | placeFoundClosed | travelDelay
  | acceptProposal | rejectProposal
deriving DecidableEq

def CommandKind.isRuntimeFirst : CommandKind → Bool
  | .replaceCurrentPlan | .tripEdited => false
  | _ => true

inductive IntentState where
  | pending | applied | rejected | expired
deriving DecidableEq

inductive DeliveryState where
  | pending | pausedInternal | accepted | terminalRejected
deriving DecidableEq

inductive TerminalStatus where
  | stale | invalidArgument | notFound | commandExpired | infeasible
deriving DecidableEq

inductive OutcomeStatus where
  | ok
  | terminal (status : TerminalStatus)
deriving DecidableEq

structure OutcomePayload where
  eventId : EventId
  status : OutcomeStatus
  plannerStateVersion : Nat
deriving DecidableEq

structure ResolvedOutcome where
  status : OutcomeStatus
  payload : OutcomePayload
  (tripRevision plannerStateVersion : Nat)
deriving DecidableEq

inductive RuntimeSyncState where
  | pending | synced | pausedInternal
deriving DecidableEq

structure PayloadDigest where
  value : BitVec 256
deriving DecidableEq

structure CanonicalMirror where
  resultingTripRevision : Nat
  resultingCurrentPlanId : PlanId
  runtimeSyncState : RuntimeSyncState
deriving DecidableEq

/-- A command intent together with its outbox row. The outcome is that of a
runtime-first command, the mirror that of a canonical-first one. -/
structure CommandRow where
  eventId : EventId
  (mutationSequence expectedTripRevision : Nat)
  kind : CommandKind
  payloadDigest : PayloadDigest
  event : TripEvent
  plannedCurrentPlan : Option CurrentPlan
  intentState : IntentState
  outcome : Option ResolvedOutcome
  mirror : Option CanonicalMirror
  deliveryState : DeliveryState
  sequenceFits : 0 < mutationSequence ∧ mutationSequence ≤ maxInt64
  revisionFits : expectedTripRevision ≤ maxInt64
deriving DecidableEq

inductive ProposalState where
  | pending | accepted | rejected | stale | superseded
deriving DecidableEq

def proposalFits (proposal : PlanProposal) : Bool :=
  decide (0 < proposal.sourceRuntimeEpoch.toNat) &&
    decide (proposal.sourceRuntimeEpoch.toNat ≤ maxInt64) &&
    decide (proposal.sourcePlannerStateVersion.toNat ≤ maxInt64) &&
    decide (proposal.sourceTripRevision.toNat ≤ maxInt64)

structure ProposalRow where
  stored : StoredPlanProposal
  state : ProposalState
  decisionMessageId : Option EventId
  resultingCurrentPlanId : Option PlanId
  fits : proposalFits stored.proposal
deriving DecidableEq

structure CanonicalTrip where
  tripId : TripId
  ownerUserId : UserId
  defaultTimeZoneName : String
  (tripRevision nextMutationSequence finalizedMutationSequence : Nat)
  currentPlanId : PlanId
  activities : List ActivityRow
  travelDelays : List TravelDelayRow
  plans : List CurrentPlan
  proposals : List ProposalRow
  commands : List CommandRow
deriving DecidableEq

/-- `CanonicalStateStore.Load`. -/
structure CanonicalTripState where
  tripId : TripId
  defaultTimeZoneName : String
  (tripRevision finalizedMutationSequence completedPrefixCount : Nat)
  currentActivityId : Option ActivityId
  activities : List Activity
  travelDelays : List TravelDelayState
  currentPlan : CurrentPlan
deriving DecidableEq

def parsedPlanIsValid (plan : CurrentPlan) : Bool :=
  !(plan.planRevision == 0) && segmentsOrdered none plan.segments &&
    decide (plan.segments.map CurrentPlanSegment.activityId).Nodup &&
    match plan.origin with
    | .userAuthored => plan.sourceProposalId.isNone
    | .acceptedEngineProposal => plan.sourceProposalId.isSome

/-- The walk over the plan order that recomputes progress: the prefix is open
until the first activity that is not finished. -/
def scanProgress (activities : List Activity) : Nat → Bool → Nat → Option ActivityId →
    List CurrentPlanSegment → Option (Nat × Option ActivityId)
  | _, _, completed, current, [] => some (completed, current)
  | planIndex, prefixOpen, completed, current, segment :: rest =>
    match activityFor activities segment.activityId with
    | none => none
    | some activity =>
      if prefixOpen && activity.activityState.isTerminal then
        scanProgress activities (planIndex + 1) true (completed + 1) current rest
      else if activity.activityState.isTerminal then
        none
      else if activity.activityState = .started then
        if current.isSome || !decide (planIndex = completed) then none
        else scanProgress activities (planIndex + 1) false completed (some segment.activityId) rest
      else
        scanProgress activities (planIndex + 1) false completed current rest

def delaysAreLoadable (activities : List Activity) (delays : List TravelDelayState) : Bool :=
  delays.all fun delay => containsActivity activities delay.fromActivityId &&
    containsActivity activities delay.toActivityId

def CanonicalTrip.currentPlan (trip : CanonicalTrip) : Option CurrentPlan :=
  trip.plans.find? fun plan => decide (plan.planId = trip.currentPlanId)

/-- Every check of `Load` but those of the plan. -/
def CanonicalTrip.rowsAreValid (trip : CanonicalTrip) : Bool :=
  let activities := trip.activities.map ActivityRow.activity
  decide (0 < trip.tripRevision) && decide (0 < trip.finalizedMutationSequence) &&
    !trip.defaultTimeZoneName.isEmpty && activities.all Activity.isValid &&
    decide (activities.length ≤ 64) &&
    delaysAreLoadable activities (trip.travelDelays.map TravelDelayRow.delay)

def load (trip : CanonicalTrip) : Option CanonicalTripState :=
  let activities := trip.activities.map ActivityRow.activity
  if !trip.rowsAreValid then none
  else
    match trip.currentPlan with
    | none => none
    | some plan =>
      if !parsedPlanIsValid plan || !decide (plan.segments.length = activities.length) then none
      else
        (scanProgress activities 0 true 0 none plan.segments).map fun progress =>
          { tripId := trip.tripId, defaultTimeZoneName := trip.defaultTimeZoneName
            tripRevision := trip.tripRevision
            finalizedMutationSequence := trip.finalizedMutationSequence
            completedPrefixCount := progress.1, currentActivityId := progress.2
            activities := activities, travelDelays := trip.travelDelays.map TravelDelayRow.delay
            currentPlan := plan }

end LiveRoute.Persistence
