import LiveRoute.Persistence.Finalization

/-! Saved plans. A saved activity is timed relative to the activation of its
trip; the constraints on the rows are fields of the stored values. -/
namespace LiveRoute.Execution
open Domain Persistence

def dayMilliseconds : Nat := 86400000

def daySeconds : UInt32 := 86400

/-- A row of `places`. -/
structure Place where
  placeId : String
  location : Location
  formattedAddress : Option String
  timeZoneName : String
  named : placeId ≠ "" ∧ timeZoneName ≠ "" ∧ formattedAddress ≠ some ""
  located : location.isValid
deriving DecidableEq

/-- A row of `saved_activity_open_windows`. -/
structure RelativeWindow where
  (opensOffset closesOffset : Nat)
  ordered : opensOffset < closesOffset ∧ closesOffset ≤ dayMilliseconds
deriving DecidableEq

inductive SavedSchedule where
  | scheduled (startOffset endOffset : Nat)
      (ordered : startOffset < endOffset ∧ endOffset ≤ dayMilliseconds)
  | unscheduled
deriving DecidableEq

def fitsDay (offset : Nat) : Bool := decide (offset ≤ dayMilliseconds)

/-- A row of `saved_trip_activities` with its place and its windows. No saved
activity may be shortened. -/
structure SavedActivity where
  activityId : ActivityId
  place : Place
  schedule : SavedSchedule
  inboundTravelMode : TravelMode
  activityClass : ActivityClass
  (priorityRank utilityScore : Int32)
  reservationStartOffset : Option Nat
  reservationGraceSeconds : UInt32
  mandatoryDeadlineOffset : Option Nat
  (minDurationSeconds preferredDurationSeconds maxDurationSeconds : UInt32)
  (mandatory canMove canSkip : Bool)
  openWindows : List RelativeWindow
  durationsOrdered : minDurationSeconds ≤ preferredDurationSeconds ∧
    preferredDurationSeconds ≤ maxDurationSeconds ∧ maxDurationSeconds ≤ daySeconds
  offsetsFit : reservationStartOffset.all fitsDay ∧
    mandatoryDeadlineOffset.all fitsDay
  windowCount : openWindows.length ≤ 32
deriving DecidableEq

structure SavedPlan where
  activities : List SavedActivity
  count : 0 < activities.length ∧ activities.length ≤ 64
  distinct : (activities.map SavedActivity.activityId).Nodup
deriving DecidableEq

/-- The instant that an offset means for a trip activated at `activatedAt`. -/
def atOffset (activatedAt : UnixTimeMilliseconds) (offset : Nat) : UnixTimeMilliseconds :=
  .ofInt (activatedAt.toInt + offset)

structure ActivationDay where
  (horizonStart horizonEnd : UnixTimeMilliseconds)
deriving DecidableEq

def insideActivationDay (time : UnixTimeMilliseconds) (day : ActivationDay) : Bool :=
  decide (day.horizonStart.toInt ≤ time.toInt) && decide (time.toInt < day.horizonEnd.toInt)

def RelativeWindow.absolute (window : RelativeWindow) (activatedAt : UnixTimeMilliseconds) :
    TimeWindow :=
  ⟨atOffset activatedAt window.opensOffset, atOffset activatedAt window.closesOffset⟩

def SavedActivity.insideDay (activity : SavedActivity) (activatedAt : UnixTimeMilliseconds)
    (day : ActivationDay) (startOffset endOffset : Nat) : Bool :=
  insideActivationDay (atOffset activatedAt startOffset) day && insideActivationDay
    (atOffset activatedAt endOffset) day && activity.reservationStartOffset.all
    (fun offset => insideActivationDay (atOffset activatedAt offset) day) &&
    activity.mandatoryDeadlineOffset.all
    (fun offset => insideActivationDay (atOffset activatedAt offset) day) &&
    activity.openWindows.all fun window =>
      insideActivationDay (window.absolute activatedAt).opensAt day &&
        insideActivationDay (window.absolute activatedAt).closesAt day

def SavedActivity.activity (saved : SavedActivity) (activatedAt : UnixTimeMilliseconds)
    (displayName : String) : Activity :=
  { activityId := saved.activityId, placeId := saved.place.placeId, displayName := displayName
    location := saved.place.location, timeZoneName := saved.place.timeZoneName
    inboundTravelMode := saved.inboundTravelMode, activityClass := saved.activityClass
    activityState := .planned, priorityRank := saved.priorityRank
    utilityScore := saved.utilityScore
    timing :=
      { openWindows := saved.openWindows.map fun window => window.absolute activatedAt
        reservationStart := saved.reservationStartOffset.map (atOffset activatedAt)
        reservationGraceSeconds := saved.reservationGraceSeconds
        minDurationSeconds := saved.minDurationSeconds
        preferredDurationSeconds := saved.preferredDurationSeconds
        maxDurationSeconds := saved.maxDurationSeconds, mandatory := saved.mandatory
        canShorten := false, canMove := saved.canMove, canSkip := saved.canSkip
        mandatoryDeadline := saved.mandatoryDeadlineOffset.map (atOffset activatedAt) }
    activityDelaySeconds := 0, foundClosedAt := none }

def executionSegment (activityId : ActivityId) (activatedAt : UnixTimeMilliseconds)
    (startOffset endOffset : Nat) : CurrentPlanSegment :=
  ⟨activityId, .scheduled, some (atOffset activatedAt startOffset),
    some (atOffset activatedAt endOffset)⟩

end LiveRoute.Execution
