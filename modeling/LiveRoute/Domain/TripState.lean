import LiveRoute.Domain.TripEvent

/-! The runtime state of one trip and the application of one admitted event.
An event either yields a valid successor or leaves the state as it was. -/
namespace LiveRoute.Domain
open Sequence

structure CurrentObservationState where
  location : Option Location
  observedAt : Option UnixTimeMilliseconds
  (velocityMetersPerSecond headingDegrees : Option (Option Rat))
deriving DecidableEq

def CurrentObservationState.empty : CurrentObservationState := ⟨none, none, none, none⟩

def CurrentObservationState.isValid (observation : CurrentObservationState) : Bool :=
  observation.location.all Location.isValid && observation.velocityMetersPerSecond.all
      (fun speed => speed.any fun speed => decide (0 ≤ speed)) &&
    observation.headingDegrees.all (fun degrees => degrees.any fun degrees =>
        decide (0 ≤ degrees) && decide (degrees ≤ 360))

structure TravelDelayState where
  (fromActivityId toActivityId : ActivityId)
  additionalSeconds : UInt32
  observedAt : UnixTimeMilliseconds
deriving DecidableEq

def TravelDelayState.key (delay : TravelDelayState) : ActivityId × ActivityId :=
  (delay.fromActivityId, delay.toActivityId)

structure TripState where
  tripId : TripId
  defaultTimeZoneName : String
  activities : List Activity
  completedPrefixCount : Nat
  currentActivityId : Option ActivityId
  currentPlan : CurrentPlan
  travelDelays : List TravelDelayState
  currentObservation : CurrentObservationState
  activeProposal : Option StoredPlanProposal
deriving DecidableEq

def ActivityState.isTerminal : ActivityState → Bool
  | .completed | .skipped => true
  | .planned | .started => false

def currentPlanIndexFor (plan : CurrentPlan) (activityId : ActivityId) : Option Nat :=
  plan.segments.findIdx? fun segment => decide (segment.activityId = activityId)

/-- The scan of the plan order in `is_valid`: whether a started activity was
found, or `none` once an activity is missing or its state is out of place. -/
def scanPlanStates (activities : List Activity) (completedPrefixCount : Nat) :
    Nat → Bool → List CurrentPlanSegment → Option Bool
  | _, foundStarted, [] => some foundStarted
  | index, foundStarted, segment :: rest =>
    match activityFor activities segment.activityId with
    | none => none
    | some activity =>
      if activity.activityState.isTerminal != decide (index < completedPrefixCount) then
        none
      else if activity.activityState = .started then
        if foundStarted || !decide (index = completedPrefixCount) then none
        else scanPlanStates activities completedPrefixCount (index + 1) true rest
      else
        scanPlanStates activities completedPrefixCount (index + 1) foundStarted rest

def TripState.currentActivityIsValid (state : TripState) (foundStarted : Bool) : Bool :=
  match state.currentActivityId with
  | some activityId =>
    decide (currentPlanIndexFor state.currentPlan activityId = some state.completedPrefixCount) &&
      (activityFor state.activities activityId).any
      (fun activity => decide (activity.activityState = .started)) && foundStarted
  | none => !foundStarted

def travelDelaysAreValid (activities : List Activity) (delays : List TravelDelayState) : Bool :=
  delays.all (fun delay => containsActivity activities delay.fromActivityId &&
      containsActivity activities delay.toActivityId) &&
    decide (delays.map TravelDelayState.key).Nodup

def TripState.isValid (state : TripState) : Bool :=
  !state.defaultTimeZoneName.isEmpty && decide (state.activities.length ≤ 64) &&
    decide (state.completedPrefixCount ≤ state.activities.length) &&
    state.activities.all Activity.isValid &&
    allDistinct ((activityIds state.activities).map ActivityId.key) &&
    state.currentPlan.isValidFor (activityIds state.activities) &&
    (scanPlanStates state.activities state.completedPrefixCount 0 false
      state.currentPlan.segments).any state.currentActivityIsValid &&
    state.currentObservation.isValid &&
    travelDelaysAreValid state.activities state.travelDelays &&
    state.activeProposal.all fun stored =>
      stored.isValidFor state.activities &&
        decide (stored.proposal.baseCurrentPlanId = state.currentPlan.planId)

def updateActivity (activityId : ActivityId) (update : Activity → Activity) :
    List Activity → List Activity
  | [] => []
  | activity :: rest =>
    if activity.activityId = activityId then update activity :: rest
    else activity :: updateActivity activityId update rest

def TripState.withActivity (state : TripState) (activityId : ActivityId)
    (update : Activity → Activity) : TripState :=
  { state with activities := updateActivity activityId update state.activities }

def TripState.isCurrentOrIdle (state : TripState) (activityId : ActivityId) : Bool :=
  state.currentActivityId.all fun current => decide (current = activityId)

def applyActivityStatusChange (state : TripState) (activityId : ActivityId)
    (target : ActivityState) : Option TripState :=
  match activityFor state.activities activityId,
      currentPlanIndexFor state.currentPlan activityId with
  | some _, some planIndex =>
    let changed := state.withActivity activityId fun activity =>
      { activity with activityState := target }
    match target with
    | .planned =>
      if planIndex < state.completedPrefixCount then none
      else some { changed with
        currentActivityId :=
          if state.currentActivityId = some activityId then none else state.currentActivityId }
    | .started =>
      if decide (planIndex = state.completedPrefixCount) && state.isCurrentOrIdle activityId then
        some { changed with currentActivityId := some activityId }
      else none
    | .completed | .skipped =>
      if decide (planIndex = state.completedPrefixCount) && state.isCurrentOrIdle activityId then
        some { changed with
          completedPrefixCount := state.completedPrefixCount + 1, currentActivityId := none }
      else none
  | _, _ => none

def matchesActiveProposal (active : StoredPlanProposal) (event : PlanDecisionEvent) : Bool :=
  decide (active.proposal.proposalId = event.proposalId) &&
    decide (active.proposal.sourceRuntimeEpoch = event.sourceRuntimeEpoch) &&
    decide (active.proposal.sourcePlannerStateVersion = event.sourcePlannerStateVersion) &&
    decide (active.proposal.baseCurrentPlanId = event.baseCurrentPlanId)

def normalizeCurrentActivity (state : TripState) : TripState :=
  { state with
    completedPrefixCount := min state.completedPrefixCount state.activities.length
    currentActivityId := state.currentActivityId.filter (containsActivity state.activities) }

def TripState.editActivities (state : TripState) : TripEditOperation → TripState
  | .addActivity activity ordinal =>
    { state with activities := state.activities.insertIdx ordinal.toNat activity }
  | .replaceActivity replacement => state.withActivity replacement.activityId fun _ => replacement
  | .removeActivity activityId =>
    { state with
      activities := state.activities.eraseP fun activity =>
        decide (activity.activityId = activityId)
      travelDelays := state.travelDelays.filter fun delay =>
        !(decide (delay.fromActivityId = activityId) || decide (delay.toActivityId = activityId)) }
  | .reorderActivities reordered =>
    { state with activities := reordered.filterMap (activityFor state.activities) }

def upsertTravelDelay (replacement : TravelDelayState) :
    List TravelDelayState → List TravelDelayState
  | [] => [replacement]
  | delay :: rest =>
    if delay.key = replacement.key then replacement :: rest
    else delay :: upsertTravelDelay replacement rest

def TripState.observe (state : TripState) (event : TripEvent)
    (update : CurrentObservationState → CurrentObservationState) : TripState :=
  { state with
    currentObservation :=
      { update state.currentObservation with observedAt := some event.occurredAt } }

/-- The visitor of `apply_trip_event`; `none` when a status change is refused. -/
def mutateTrip (state : TripState) (event : TripEvent) : Option TripState :=
  match event.payload with
  | .unset | .advisoryUpdate .. => some state
  | .locationUpdated location | .routeDeviationDetected location _ =>
    some (state.observe event fun observation => { observation with location := some location })
  | .velocityUpdated speed =>
    some (state.observe event fun observation =>
      { observation with velocityMetersPerSecond := some speed })
  | .headingUpdated degrees =>
    some (state.observe event fun observation =>
      { observation with headingDegrees := some degrees })
  | .activityStatusChanged activityId target => applyActivityStatusChange state activityId target
  | .activityDelayed activityId delaySeconds =>
    some (state.withActivity activityId fun activity =>
      { activity with activityDelaySeconds := delaySeconds })
  | .tripEdited operation plan =>
    some { normalizeCurrentActivity { state.editActivities operation with currentPlan := plan } with
      activeProposal := none }
  | .reservationChanged activityId reservationStart graceSeconds =>
    some (state.withActivity activityId fun activity =>
      { activity with timing := { activity.timing with
        reservationStart := reservationStart, reservationGraceSeconds := graceSeconds } })
  | .mandatoryDeadlineChanged activityId latestFinish =>
    some (state.withActivity activityId fun activity =>
      { activity with timing := { activity.timing with mandatoryDeadline := some latestFinish } })
  | .operatingHoursChanged activityId windows =>
    some (state.withActivity activityId fun activity =>
      { activity with timing := { activity.timing with openWindows := windows } })
  | .placeFoundClosed activityId observedAt =>
    some (state.withActivity activityId fun activity =>
      { activity with foundClosedAt := some observedAt })
  | .travelDelay fromActivityId toActivityId additionalSeconds =>
    let replacement : TravelDelayState :=
      ⟨fromActivityId, toActivityId, additionalSeconds, event.occurredAt⟩
    some { state with travelDelays := upsertTravelDelay replacement state.travelDelays }
  | .planDecision decision =>
    some { state with
      currentPlan :=
        match decision.decision with
        | .accept => decision.resultingCurrentPlan.getD state.currentPlan
        | .reject => state.currentPlan
      activeProposal := none }
  | .currentPlanReplaced plan => some { state with currentPlan := plan, activeProposal := none }

def TripEventPayload.planningInputChanged : TripEventPayload → Bool
  | .unset | .advisoryUpdate .. => false
  | _ => true

def TripEventPayload.currentPlanChanged : TripEventPayload → Bool
  | .tripEdited .. | .currentPlanReplaced .. => true
  | .planDecision decision => decide (decision.decision = .accept)
  | _ => false

inductive TripStateApplyStatus where
  | accepted | invalidArgument | staleProposal
deriving DecidableEq

structure TripStateApplyResult where
  status : TripStateApplyStatus
  (planningInputChanged currentPlanChanged : Bool)
deriving DecidableEq

def TripState.proposalIsStale (state : TripState) : TripEventPayload → Bool
  | .planDecision decision => !state.activeProposal.any (matchesActiveProposal · decision)
  | _ => false

def applyTripEvent (state : TripState) (event : TripEvent) (maxAdvisoryPayloadBytes : Nat) :
    TripState × TripStateApplyResult :=
  let refused (status : TripStateApplyStatus) := (state, ⟨status, false, false⟩)
  if !state.isValid || !event.isValidFor state.activities maxAdvisoryPayloadBytes then
    refused .invalidArgument
  else if state.proposalIsStale event.payload then
    refused .staleProposal
  else
    match mutateTrip state event with
    | none => refused .invalidArgument
    | some mutated =>
      let changed := event.payload.planningInputChanged
      let candidate := if changed then { mutated with activeProposal := none } else mutated
      if candidate.isValid then
        (candidate, ⟨.accepted, changed, event.payload.currentPlanChanged⟩)
      else
        refused .invalidArgument

end LiveRoute.Domain
