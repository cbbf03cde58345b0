import LiveRoute.Library.CheckedInt
import LiveRoute.Library.Sequence
import Mathlib.Data.Rat.Defs

/-! Activities, their timing and the user-authoritative plan. Times are signed
64-bit milliseconds, durations unsigned 32-bit seconds, identifiers 16 bytes. -/
namespace LiveRoute.Domain
open Sequence

abbrev UnixTimeMilliseconds := Int64

structure ActivityId where
  value : BitVec 128
deriving DecidableEq

structure PlanId where
  value : BitVec 128
deriving DecidableEq

structure ProposalId where
  value : BitVec 128
deriving DecidableEq

structure TripId where
  value : BitVec 128
deriving DecidableEq

structure EventId where
  value : BitVec 128
deriving DecidableEq

structure UserId where
  value : BitVec 128
deriving DecidableEq

def ActivityId.key (id : ActivityId) : Nat := id.value.toNat

theorem ActivityId.key_injective : Function.Injective ActivityId.key := by
  rintro ⟨left⟩ ⟨right⟩ h
  exact congrArg ActivityId.mk (BitVec.eq_of_toNat_eq h)

/-- A coordinate is `none` when the double is a NaN or an infinity. -/
structure Location where
  (latitude longitude : Option Rat)
deriving DecidableEq

def Location.isValid (location : Location) : Bool :=
  match location.latitude, location.longitude with
  | some latitude, some longitude =>
    decide (-90 ≤ latitude) && decide (latitude ≤ 90) &&
      decide (-180 ≤ longitude) && decide (longitude ≤ 180)
  | _, _ => false

structure TimeWindow where
  (opensAt closesAt : UnixTimeMilliseconds)
deriving DecidableEq

def TimeWindow.isValid (window : TimeWindow) : Bool :=
  decide (window.opensAt.toInt < window.closesAt.toInt)

structure ActivityTiming where
  openWindows : List TimeWindow
  reservationStart : Option UnixTimeMilliseconds
  (reservationGraceSeconds minDurationSeconds preferredDurationSeconds maxDurationSeconds : UInt32)
  (mandatory canShorten canMove canSkip : Bool)
  mandatoryDeadline : Option UnixTimeMilliseconds
deriving DecidableEq

/-- Every window is nonempty and opens no earlier than the one before closes. -/
def windowsNormalized (previousClose : Option UnixTimeMilliseconds) : List TimeWindow → Bool
  | [] => true
  | window :: rest =>
    window.isValid &&
      !(previousClose.any fun close => decide (window.opensAt.toInt < close.toInt)) &&
      windowsNormalized (some window.closesAt) rest

def ActivityTiming.isValid (timing : ActivityTiming) : Bool :=
  decide (timing.minDurationSeconds ≤ timing.preferredDurationSeconds) &&
    decide (timing.preferredDurationSeconds ≤ timing.maxDurationSeconds) &&
    windowsNormalized none timing.openWindows

inductive TravelMode where
  | walking | driving
deriving DecidableEq

inductive ActivityClass where
  | fixed | flexible
deriving DecidableEq

inductive ActivityState where
  | planned | started | completed | skipped
deriving DecidableEq

structure Activity where
  activityId : ActivityId
  (placeId displayName : String)
  location : Location
  timeZoneName : String
  inboundTravelMode : TravelMode
  activityClass : ActivityClass
  activityState : ActivityState
  (priorityRank utilityScore : Int32)
  timing : ActivityTiming
  activityDelaySeconds : UInt32
  foundClosedAt : Option UnixTimeMilliseconds
deriving DecidableEq

def Activity.isValid (activity : Activity) : Bool :=
  !activity.placeId.isEmpty && !activity.displayName.isEmpty && !activity.timeZoneName.isEmpty &&
    activity.location.isValid && activity.timing.isValid

structure RouteEstimate where
  duration : Int64
  distanceMeters : UInt32
  reachable : Bool
deriving DecidableEq

def RouteEstimate.isValid (estimate : RouteEstimate) : Bool := decide (0 ≤ estimate.duration.toInt)

def RouteEstimate.unreachable : RouteEstimate := ⟨0, 0, false⟩

inductive PlanOrigin where
  | userAuthored | acceptedEngineProposal
deriving DecidableEq

inductive PlanEntryState where
  | scheduled | omitted
deriving DecidableEq

structure CurrentPlanSegment where
  activityId : ActivityId
  state : PlanEntryState
  (scheduledStart scheduledEnd : Option UnixTimeMilliseconds)
deriving DecidableEq

def CurrentPlanSegment.isValid (segment : CurrentPlanSegment) : Bool :=
  match segment.state with
  | .scheduled =>
    match segment.scheduledStart, segment.scheduledEnd with
    | some start, some finish => decide (start.toInt < finish.toInt)
    | _, _ => false
  | .omitted => segment.scheduledStart.isNone && segment.scheduledEnd.isNone

def segmentsOrdered (priorScheduledEnd : Option UnixTimeMilliseconds) :
    List CurrentPlanSegment → Bool
  | [] => true
  | segment :: rest =>
    segment.isValid &&
      match segment.state with
      | .scheduled =>
        !(priorScheduledEnd.any fun prior =>
            segment.scheduledStart.any fun start => decide (start.toInt < prior.toInt)) &&
          segmentsOrdered segment.scheduledEnd rest
      | .omitted => segmentsOrdered priorScheduledEnd rest

structure CurrentPlan where
  planId : PlanId
  planRevision : UInt64
  origin : PlanOrigin
  segments : List CurrentPlanSegment
  createdAt : UnixTimeMilliseconds
  sourceProposalId : Option ProposalId
deriving DecidableEq

def sortKeys (keys : List Nat) : List Nat := sortBy (fun left right => decide (left < right)) keys

def CurrentPlan.isValidFor (plan : CurrentPlan) (activityIds : List ActivityId) : Bool :=
  let expected := activityIds.map ActivityId.key
  let actual := plan.segments.map fun segment => segment.activityId.key
  !(plan.planRevision == 0) && decide (plan.segments.length ≤ 64) &&
    decide (plan.segments.length = activityIds.length) &&
    (match plan.origin with
      | .userAuthored => plan.sourceProposalId.isNone
      | .acceptedEngineProposal => plan.sourceProposalId.isSome) &&
    segmentsOrdered none plan.segments &&
    allDistinct expected && allDistinct actual &&
    decide (sortKeys expected = sortKeys actual)

end LiveRoute.Domain
