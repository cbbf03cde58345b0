import LiveRoute.Domain.PlanProposal

/-! Events of an active trip and the checks each one makes against the
activities it meets. -/
namespace LiveRoute.Domain
open Sequence

inductive TripEditOperation where
  | addActivity (activity : Activity) (ordinal : UInt32)
  | replaceActivity (activity : Activity)
  | removeActivity (activityId : ActivityId)
  | reorderActivities (activityIds : List ActivityId)
deriving DecidableEq

inductive PlanDecision where
  | accept | reject
deriving DecidableEq

structure PlanDecisionEvent where
  decision : PlanDecision
  proposalId : ProposalId
  (sourceRuntimeEpoch sourcePlannerStateVersion : UInt64)
  baseCurrentPlanId : PlanId
  resultingCurrentPlan : Option CurrentPlan
deriving DecidableEq

inductive AdvisoryKind where
  | recommendationRefresh | weatherChanged | crowdChanged | socialUpdate
deriving DecidableEq

/-- A double is `none` when it is a NaN or an infinity. -/
inductive TripEventPayload where
  | unset
  | locationUpdated (location : Location)
  | velocityUpdated (metersPerSecond : Option Rat)
  | headingUpdated (degrees : Option Rat)
  | activityStatusChanged (activityId : ActivityId) (state : ActivityState)
  | activityDelayed (activityId : ActivityId) (delaySeconds : UInt32)
  | tripEdited (operation : TripEditOperation) (resultingCurrentPlan : CurrentPlan)
  | reservationChanged (activityId : ActivityId)
      (reservationStart : Option UnixTimeMilliseconds) (reservationGraceSeconds : UInt32)
  | mandatoryDeadlineChanged (activityId : ActivityId) (latestFinish : UnixTimeMilliseconds)
  | routeDeviationDetected (location : Location) (distanceFromRouteMeters : UInt32)
  | operatingHoursChanged (activityId : ActivityId) (openWindows : List TimeWindow)
  | placeFoundClosed (activityId : ActivityId) (observedAt : UnixTimeMilliseconds)
  | travelDelay (fromActivityId toActivityId : ActivityId) (additionalSeconds : UInt32)
  | planDecision (event : PlanDecisionEvent)
  | advisoryUpdate (kind : AdvisoryKind) (source : String) (payloadBytes : Nat)
  | currentPlanReplaced (currentPlan : CurrentPlan)
deriving DecidableEq

inductive TripEventClass where
  | telemetry | durable | canonicalFirstDurableMirror | highObservation | durableCompareAndSwap
  | advisory
deriving DecidableEq

structure TripEvent where
  eventId : EventId
  occurredAt : UnixTimeMilliseconds
  commandExpiresAt : Option UnixTimeMilliseconds
  payload : TripEventPayload
deriving DecidableEq

def TripEventPayload.eventClass : TripEventPayload → Option TripEventClass
  | .unset => none
  | .locationUpdated .. | .velocityUpdated .. | .headingUpdated .. => some .telemetry
  | .tripEdited .. | .currentPlanReplaced .. => some .canonicalFirstDurableMirror
  | .routeDeviationDetected .. => some .highObservation
  | .planDecision .. => some .durableCompareAndSwap
  | .advisoryUpdate .. => some .advisory
  | .activityStatusChanged .. | .activityDelayed .. | .reservationChanged ..
  | .mandatoryDeadlineChanged .. | .operatingHoursChanged .. | .placeFoundClosed ..
  | .travelDelay .. => some .durable

def containsActivity (activities : List Activity) (activityId : ActivityId) : Bool :=
  activities.any fun activity => decide (activity.activityId = activityId)

def activityIds (activities : List Activity) : List ActivityId := activities.map Activity.activityId

def currentActivitiesAreValid (activities : List Activity) : Bool :=
  decide (activities.length ≤ 64) && activities.all Activity.isValid &&
    allDistinct ((activityIds activities).map ActivityId.key)

/-- The activity order an edit leaves, or `none` for an edit that does not fit
the current activities. -/
def TripEditOperation.resultingIds (activities : List Activity) :
    TripEditOperation → Option (List ActivityId)
  | .addActivity activity ordinal =>
    let ids := activityIds activities
    if !activity.isValid || decide (64 ≤ ids.length) || decide (ids.length < ordinal.toNat) ||
        containsActivity activities activity.activityId then
      none
    else
      some (ids.insertIdx ordinal.toNat activity.activityId)
  | .replaceActivity activity =>
    if activity.isValid && containsActivity activities activity.activityId then
      some (activityIds activities)
    else
      none
  | .removeActivity activityId =>
    let ids := activityIds activities
    if ids.contains activityId then some (ids.erase activityId) else none
  | .reorderActivities reordered =>
    let expected := (activityIds activities).map ActivityId.key
    let actual := reordered.map ActivityId.key
    if decide (reordered.length = activities.length) && allDistinct actual &&
        decide (sortKeys actual = sortKeys expected) then
      some reordered
    else
      none

def tripEditedIsValidFor (operation : TripEditOperation) (plan : CurrentPlan)
    (activities : List Activity) : Bool :=
  currentActivitiesAreValid activities &&
    match operation.resultingIds activities with
    | none => false
    | some ids =>
      decide (plan.origin = .userAuthored) && plan.isValidFor ids &&
        decide (plan.segments.map CurrentPlanSegment.activityId = ids)

def PlanDecisionEvent.isValidFor (event : PlanDecisionEvent) (activities : List Activity) : Bool :=
  currentActivitiesAreValid activities && !(event.sourceRuntimeEpoch == 0) &&
    match event.decision with
    | .accept =>
      event.resultingCurrentPlan.any fun plan =>
        decide (plan.origin = .acceptedEngineProposal) &&
          decide (plan.sourceProposalId = some event.proposalId) &&
          plan.isValidFor (activityIds activities)
    | .reject => event.resultingCurrentPlan.isNone

def currentPlanReplacedIsValidFor (plan : CurrentPlan) (activities : List Activity) : Bool :=
  currentActivitiesAreValid activities && decide (plan.origin = .userAuthored) &&
    plan.isValidFor (activityIds activities)

def TripEvent.isValidFor (event : TripEvent) (activities : List Activity)
    (maxAdvisoryPayloadBytes : Nat) : Bool :=
  currentActivitiesAreValid activities &&
    match event.payload with
    | .unset => false
    | .locationUpdated location => location.isValid
    | .velocityUpdated speed => speed.any fun speed => decide (0 ≤ speed)
    | .headingUpdated degrees => degrees.any fun degrees =>
        decide (0 ≤ degrees) && decide (degrees ≤ 360)
    | .activityStatusChanged activityId _ => containsActivity activities activityId
    | .activityDelayed activityId _ => containsActivity activities activityId
    | .tripEdited operation plan => tripEditedIsValidFor operation plan activities
    | .reservationChanged activityId _ _ => containsActivity activities activityId
    | .mandatoryDeadlineChanged activityId _ => containsActivity activities activityId
    | .routeDeviationDetected location _ => location.isValid
    | .operatingHoursChanged activityId windows =>
      containsActivity activities activityId && windowsNormalized none windows
    | .placeFoundClosed activityId _ => containsActivity activities activityId
    | .travelDelay fromActivityId toActivityId _ =>
      containsActivity activities fromActivityId && containsActivity activities toActivityId
    | .planDecision decision => decision.isValidFor activities
    | .advisoryUpdate _ source payloadBytes =>
      !source.isEmpty && decide (payloadBytes ≤ maxAdvisoryPayloadBytes)
    | .currentPlanReplaced plan => currentPlanReplacedIsValidFor plan activities

end LiveRoute.Domain
