import LiveRoute.Domain.Activity

/-! What the beam search reads: a preserved prefix, the remaining activities
with their current-plan entries, and the travel times between them. -/
namespace LiveRoute.Planner
open CheckedInt Sequence Domain

structure TravelTimeMatrix where
  locationCount : Nat
  estimates : List RouteEstimate
  dimensions : estimates.length = locationCount * locationCount
  estimatesValid : ∀ estimate ∈ estimates, estimate.isValid

/-- The constructor, which throws on any other argument. -/
def TravelTimeMatrix.make? (locationCount : Nat) (estimates : List RouteEstimate) :
    Option TravelTimeMatrix :=
  if h : estimates.length = locationCount * locationCount ∧
      ∀ estimate ∈ estimates, estimate.isValid then
    some ⟨locationCount, estimates, h.1, h.2⟩
  else
    none

/-- Out-of-range indices throw in the source; the search never forms one. -/
def TravelTimeMatrix.entryAt (matrix : TravelTimeMatrix) (origin destination : Nat) :
    RouteEstimate :=
  if origin < matrix.locationCount ∧ destination < matrix.locationCount then
    matrix.estimates.getD (origin * matrix.locationCount + destination) RouteEstimate.unreachable
  else
    RouteEstimate.unreachable

structure PlanningActivity where
  activity : Activity
  originalTripOrdinal : Nat
  currentPlanSegment : CurrentPlanSegment
deriving DecidableEq

def PlanningActivity.isValid (planning : PlanningActivity) : Bool := planning.activity.isValid &&
    decide (planning.activity.activityId = planning.currentPlanSegment.activityId) &&
    planning.currentPlanSegment.isValid

structure BeamSearchInput where
  (currentTime planningHorizonStart planningHorizonEnd : UnixTimeMilliseconds)
  preservedPrefix : List CurrentPlanSegment
  remainingActivities : List PlanningActivity
  travelTimeMatrix : Option TravelTimeMatrix

namespace BeamSearchInput

def isValid (input : BeamSearchInput) : Bool :=
  let activityIds := input.preservedPrefix.map (fun segment => segment.activityId.key) ++
      input.remainingActivities.map (fun planning => planning.activity.activityId.key)
  decide (input.planningHorizonStart.toInt < input.planningHorizonEnd.toInt) &&
    decide (input.planningHorizonStart.toInt ≤ input.currentTime.toInt) &&
    decide (input.currentTime.toInt ≤ input.planningHorizonEnd.toInt) &&
    decide (input.preservedPrefix.length ≤ 64) &&
    decide (input.remainingActivities.length ≤ 64 - input.preservedPrefix.length) &&
    (input.travelTimeMatrix.any fun matrix =>
      matrix.locationCount == input.remainingActivities.length + 1) &&
    segmentsOrdered none input.preservedPrefix &&
    input.remainingActivities.all PlanningActivity.isValid &&
    allDistinct activityIds &&
    allDistinct (input.remainingActivities.map PlanningActivity.originalTripOrdinal)

def suffixStartTime (input : BeamSearchInput) : Int :=
  input.preservedPrefix.foldl (fun start segment =>
    match segment.state, segment.scheduledEnd with
    | .scheduled, some scheduledEnd =>
      if start < scheduledEnd.toInt then scheduledEnd.toInt else start
    | _, _ => start) input.currentTime.toInt

def route (input : BeamSearchInput) (origin destination : Nat) : RouteEstimate :=
  match input.travelTimeMatrix with
  | some matrix => matrix.entryAt origin destination
  | none => RouteEstimate.unreachable

def activityIndexForOrdinal (input : BeamSearchInput) (ordinal : Nat) : Option Nat :=
  input.remainingActivities.findIdx? fun planning => planning.originalTripOrdinal == ordinal

end BeamSearchInput

structure ReplanBudget where
  (maxCandidates beamWidth maxExpansions : Nat)
deriving DecidableEq

def ReplanBudget.isValid (budget : ReplanBudget) : Bool :=
  !(budget.maxCandidates == 0) && !(budget.beamWidth == 0) && !(budget.maxExpansions == 0)

def routeDurationMilliseconds (estimate : RouteEstimate) : Option Int :=
  let seconds := estimate.duration.toInt
  if !estimate.reachable || decide (seconds < 0) || decide (maxInt64 / 1000 < seconds) then
    none
  else
    some (seconds * 1000)

end LiveRoute.Planner
