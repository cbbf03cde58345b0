import LiveRoute.Planner.Guarantees
import LiveRoute.Runtime.TripShard
import LiveRoute.Transport.SnapshotConversion

/-! Conversion of event envelopes. The planning horizon of the request runs from
the clock of the planner to the expiry of the envelope. -/
namespace LiveRoute.Proto
open Domain (UnixTimeMilliseconds)

inductive TripEditOperation where
  | unset
  | add (activity : Option Activity) (ordinal : UInt32)
  | replace (activity : Option Activity)
  | remove (activityId : String)
  | reorder (activityIds : List String)
deriving DecidableEq

inductive PlanDecision where
  | unspecified | accept | reject
  | unrecognized (number : Int32)
deriving DecidableEq

inductive AdvisoryKind where
  | unspecified | recommendationRefresh | weatherChanged | crowdChanged | socialUpdate
  | unrecognized (number : Int32)
deriving DecidableEq

inductive TripEventInput where
  | unset
  | locationUpdated (location : Option Location)
  | velocityUpdated (metersPerSecond : Option Rat)
  | headingUpdated (degrees : Option Rat)
  | activityStatusChanged (activityId : String) (state : ActivityState)
  | activityDelayed (activityId : String) (delaySeconds : UInt32)
  | tripEdited (operation : TripEditOperation) (resultingCurrentPlan : Option CurrentPlan)
  | reservationChanged (activityId : String)
      (reservationStartUnixMs : Option UnixTimeMilliseconds) (reservationGraceSeconds : UInt32)
  | mandatoryDeadlineChanged (activityId : String) (latestFinishUnixMs : UnixTimeMilliseconds)
  | routeDeviationDetected (location : Option Location) (distanceFromRouteMeters : UInt32)
  | operatingHoursChanged (activityId : String) (openWindows : List TimeWindow)
  | placeFoundClosed (activityId : String) (observedAtUnixMs : UnixTimeMilliseconds)
  | travelDelay (fromActivityId toActivityId : String) (additionalSeconds : UInt32)
  | planDecision (decision : PlanDecision) (proposalId : String) (sourceRuntimeEpoch : UInt64)
      (sourcePlannerStateVersion : UInt64) (baseCurrentPlanId : String)
      (resultingCurrentPlan : Option CurrentPlan)
  | advisoryUpdate (kind : AdvisoryKind) (source : String) (opaquePayload : List UInt8)
  | currentPlanReplaced (currentPlan : Option CurrentPlan)
deriving DecidableEq

structure ApplyTripEvent where
  eventId : String
  occurredAtUnixMs : UnixTimeMilliseconds
  commandExpiresAtUnixMs : Option UnixTimeMilliseconds
  event : TripEventInput
deriving DecidableEq

/-- What the conversion of an event reads of a `PlannerStreamRequest`; `none`
stands for every other payload. -/
structure EventEnvelope where
  tripId : String
  (runtimeEpoch mutationSequence observationSequence : UInt64)
  (expectedTripRevision expectedPlannerStateVersion : Option UInt64)
  expiresAtUnixMs : UnixTimeMilliseconds
  applyEvent : Option ApplyTripEvent
deriving DecidableEq

end LiveRoute.Proto

namespace LiveRoute.Transport
open Domain Planner LiveRoute.Runtime

def editOperationFromProto : Proto.TripEditOperation → Option TripEditOperation
  | .unset => none
  | .add activity ordinal =>
    (activity.bind activityFromProto).map fun converted => .addActivity converted ordinal
  | .replace activity => (activity.bind activityFromProto).map .replaceActivity
  | .remove activityId => (parseUuid activityId).map fun id => .removeActivity ⟨id⟩
  | .reorder activityIds =>
    (activityIds.mapM parseUuid).map fun ids => .reorderActivities (ids.map ActivityId.mk)

def planDecisionFromProto : Proto.PlanDecision → Option PlanDecision
  | .accept => some .accept
  | .reject => some .reject
  | _ => none

def advisoryKindFromProto : Proto.AdvisoryKind → Option AdvisoryKind
  | .recommendationRefresh => some .recommendationRefresh
  | .weatherChanged => some .weatherChanged
  | .crowdChanged => some .crowdChanged
  | .socialUpdate => some .socialUpdate
  | _ => none

def planWhenPresent : Option Proto.CurrentPlan → Option (Option CurrentPlan)
  | none => some none
  | some plan => (currentPlanFromProto plan).map some

def eventPayloadFromProto : Proto.TripEventInput → Option TripEventPayload
  | .unset => none
  | .locationUpdated location => (location.bind locationFromProto).map .locationUpdated
  | .velocityUpdated metersPerSecond => some (.velocityUpdated metersPerSecond)
  | .headingUpdated degrees => some (.headingUpdated degrees)
  | .activityStatusChanged activityId state => do
    let id ← parseUuid activityId
    let state ← activityStateFromProto state
    some (.activityStatusChanged ⟨id⟩ state)
  | .activityDelayed activityId delaySeconds => do
    let id ← parseUuid activityId
    some (.activityDelayed ⟨id⟩ delaySeconds)
  | .tripEdited operation resultingCurrentPlan => do
    let plan ← resultingCurrentPlan.bind currentPlanFromProto
    let operation ← editOperationFromProto operation
    some (.tripEdited operation plan)
  | .reservationChanged activityId start graceSeconds => do
    let id ← parseUuid activityId
    some (.reservationChanged ⟨id⟩ start graceSeconds)
  | .mandatoryDeadlineChanged activityId latestFinish => do
    let id ← parseUuid activityId
    some (.mandatoryDeadlineChanged ⟨id⟩ latestFinish)
  | .routeDeviationDetected location distance => do
    let location ← location.bind locationFromProto
    some (.routeDeviationDetected location distance)
  | .operatingHoursChanged activityId openWindows => do
    let id ← parseUuid activityId
    let windows ← openWindows.mapM windowFromProto
    some (.operatingHoursChanged ⟨id⟩ windows)
  | .placeFoundClosed activityId observedAt => do
    let id ← parseUuid activityId
    some (.placeFoundClosed ⟨id⟩ observedAt)
  | .travelDelay fromActivityId toActivityId additionalSeconds => do
    let fromId ← parseUuid fromActivityId
    let toId ← parseUuid toActivityId
    some (.travelDelay ⟨fromId⟩ ⟨toId⟩ additionalSeconds)
  | .planDecision decision proposalId epoch version baseCurrentPlanId resultingCurrentPlan => do
    let proposal ← parseUuid proposalId
    let base ← parseUuid baseCurrentPlanId
    let decision ← planDecisionFromProto decision
    let plan ← planWhenPresent resultingCurrentPlan
    some (.planDecision ⟨decision, ⟨proposal⟩, epoch, version, ⟨base⟩, plan⟩)
  | .advisoryUpdate kind source opaquePayload => do
    let kind ← advisoryKindFromProto kind
    some (.advisoryUpdate kind source opaquePayload.length)
  | .currentPlanReplaced currentPlan =>
    (currentPlan.bind currentPlanFromProto).map .currentPlanReplaced

def TripEventClass.isDurable : TripEventClass → Bool
  | .durable | .canonicalFirstDurableMirror | .durableCompareAndSwap => true
  | _ => false

def holdsPlanDecision : TripEventPayload → Bool
  | .planDecision _ => true
  | _ => false

def fieldsMatchClass (envelope : Proto.EventEnvelope) (eventClass : TripEventClass)
    (payload : TripEventPayload) : Bool :=
  if TripEventClass.isDurable eventClass then
    !(envelope.mutationSequence == 0) && envelope.observationSequence == 0 &&
      envelope.expectedTripRevision.isSome &&
      (envelope.expectedPlannerStateVersion.isNone || holdsPlanDecision payload)
  else
    !(envelope.observationSequence == 0) && envelope.mutationSequence == 0 &&
      envelope.expectedTripRevision.isNone && envelope.expectedPlannerStateVersion.isNone

def ticksPerMillisecond : Int := 1000000

/-- The source leaves a time undefined whose ticks exceed 64 bits. -/
def toTimePoint (time : UnixTimeMilliseconds) : Int := time.toInt * ticksPerMillisecond

/-- `duration_cast` rounds towards zero. -/
def toUnixTimeMilliseconds (time : Int) : UnixTimeMilliseconds :=
  Int64.ofInt (time.tdiv ticksPerMillisecond)

def planningContext (systemNow expires : Int) (eventId : EventId)
    (maxCandidates beamWidth maxExpansions : UInt64) : RuntimePlanningContext where
  currentTime := toUnixTimeMilliseconds systemNow
  planningHorizonStart := toUnixTimeMilliseconds systemNow
  planningHorizonEnd := toUnixTimeMilliseconds expires
  proposalId := ⟨eventId.value⟩
  proposalCreatedAt := toUnixTimeMilliseconds systemNow
  maxCandidates := maxCandidates
  beamWidth := beamWidth
  maxExpansions := maxExpansions

def eventFromProto (envelope : Proto.EventEnvelope) (systemNow : Int)
    (maxCandidates beamWidth maxExpansions : UInt64) :
    Except String (TripId × RuntimeEventRequest) :=
  match envelope.applyEvent with
  | none => .error "invalid event envelope"
  | some applied =>
    if envelope.runtimeEpoch == 0 || envelope.tripId.isEmpty then .error "invalid event envelope"
    else
      match parseUuid envelope.tripId, parseUuid applied.eventId,
          eventPayloadFromProto applied.event with
      | some tripId, some eventId, some payload =>
        if toTimePoint envelope.expiresAtUnixMs ≤ systemNow then .error "request expired"
        else
          match payload.eventClass with
          | none => .error "event type is required"
          | some eventClass =>
            if !fieldsMatchClass envelope eventClass payload then
              .error "event envelope fields do not match event class"
            else
              let planning := planningContext systemNow (toTimePoint envelope.expiresAtUnixMs)
                ⟨eventId⟩ maxCandidates beamWidth maxExpansions
              if !planning.isValid then .error "invalid planning deadline"
              else .ok (⟨tripId⟩, {
                admission := {
                  runtimeEpoch := envelope.runtimeEpoch
                  mutationSequence := envelope.mutationSequence
                  observationSequence := envelope.observationSequence
                  expectedTripRevision := envelope.expectedTripRevision.getD 0
                  expectedPlannerStateVersion := envelope.expectedPlannerStateVersion
                  event := ⟨⟨eventId⟩, applied.occurredAtUnixMs, applied.commandExpiresAtUnixMs,
                    payload⟩ }
                planning := planning })
      | _, _, _ => .error "invalid event payload"

@[simp] theorem toUnixTimeMilliseconds_toTimePoint :
    toUnixTimeMilliseconds (toTimePoint time) = time := by
  unfold toUnixTimeMilliseconds toTimePoint
  rw [Int.mul_tdiv_cancel _ (by decide), Int64.ofInt_toInt]

theorem eventFromProto_horizon
    (h : eventFromProto envelope systemNow maxCandidates beamWidth maxExpansions = .ok converted) :
    converted.2.planning.planningHorizonStart = toUnixTimeMilliseconds systemNow ∧
      converted.2.planning.planningHorizonEnd = envelope.expiresAtUnixMs := by
  revert h
  fun_cases eventFromProto envelope systemNow maxCandidates beamWidth maxExpansions
  case case7 =>
    intro h
    cases h
    exact ⟨rfl, toUnixTimeMilliseconds_toTimePoint⟩
  all_goals nofun

/-- Two envelopes that differ in the expiry alone plan from the same instant,
and up to the same instant only if the expiry is the same after all. -/
theorem eventFromProto_horizonEnd_eq_iff (envelope : Proto.EventEnvelope)
    (later : UnixTimeMilliseconds) (systemNow : Int)
    (maxCandidates beamWidth maxExpansions : UInt64) (first second : TripId × RuntimeEventRequest)
    (h : eventFromProto envelope systemNow maxCandidates beamWidth maxExpansions = .ok first)
    (hlater : eventFromProto { envelope with expiresAtUnixMs := later } systemNow maxCandidates
      beamWidth maxExpansions = .ok second) :
    first.2.planning.planningHorizonStart = second.2.planning.planningHorizonStart ∧
      (first.2.planning.planningHorizonEnd = second.2.planning.planningHorizonEnd ↔
        envelope.expiresAtUnixMs = later) := by
  obtain ⟨hstart, hend⟩ := eventFromProto_horizon h
  obtain ⟨hstartLater, hendLater⟩ := eventFromProto_horizon hlater
  rw [hstart, hstartLater, hend, hendLater]
  exact ⟨rfl, Iff.rfl⟩

def speedEvent (expiresAt : UnixTimeMilliseconds) : Proto.EventEnvelope where
  tripId := "00000000-0000-0000-0000-000000000001"
  runtimeEpoch := 1
  mutationSequence := 0
  observationSequence := 1
  expectedTripRevision := none
  expectedPlannerStateVersion := none
  expiresAtUnixMs := expiresAt
  applyEvent := some ⟨"00000000-0000-0000-0000-000000000002", 0, none, .velocityUpdated (some 1)⟩

def speedRequest (expiresAt : UnixTimeMilliseconds) : TripId × RuntimeEventRequest :=
  (⟨1⟩, ⟨⟨1, 0, 1, 0, none, ⟨⟨2⟩, 0, none, .velocityUpdated (some 1)⟩⟩,
    ⟨0, 0, expiresAt, ⟨2⟩, 0, 8, 8, 8⟩⟩)

theorem eventFromProto_speedEvent_same_start : (speedRequest 5000).2.planning.planningHorizonStart =
      (speedRequest 36000000).2.planning.planningHorizonStart ∧
    (speedRequest 5000).2.planning.planningHorizonEnd ≠
      (speedRequest 36000000).2.planning.planningHorizonEnd := by
  obtain ⟨hstart, hend⟩ := eventFromProto_horizonEnd_eq_iff (speedEvent 5000) 36000000 0 8 8 8
    (speedRequest 5000) (speedRequest 36000000) (by decide +kernel) (by decide +kernel)
  exact ⟨hstart, hend.not.mpr (by decide)⟩

/-- With five seconds to answer, the planner has no hour to offer; with ten
hours it has. -/
theorem speedEvent_expiry_shapes_plan :
    eventFromProto (speedEvent 5000) 0 8 8 8 = .ok (speedRequest 5000) ∧
      eventFromProto (speedEvent 36000000) 0 8 8 8 = .ok (speedRequest 36000000) ∧
      generateCandidateAlternatives { singleVisit with
        planningHorizonEnd := (speedRequest 5000).2.planning.planningHorizonEnd } hourVisit 0 ≠
      generateCandidateAlternatives { singleVisit with
        planningHorizonEnd := (speedRequest 36000000).2.planning.planningHorizonEnd }
        hourVisit 0 := by
  refine ⟨?_, ?_, ?_⟩ <;> decide +kernel

end LiveRoute.Transport
