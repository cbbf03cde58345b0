import LiveRoute.Planner.Input

/-! The finite set of intervals, and the possible skip, that one activity
offers to a parent reaching it at a given arrival time. -/
namespace LiveRoute.Planner
open CheckedInt Sequence Domain

inductive CandidateAlternativeKind where
  | scheduled | skipped
deriving DecidableEq

structure CandidateAlternative where
  kind : CandidateAlternativeKind
  activityOrdinal : Nat
  (start finish : Int)
  isExactCurrentPlan : Bool
deriving DecidableEq

def isStartInReservationRange (timing : ActivityTiming) (start : Int) : Bool :=
  match timing.reservationStart with
  | none => true
  | some reservation =>
    match (checkedMilliseconds timing.reservationGraceSeconds).bind
        (checkedAdd reservation.toInt) with
    | none => false
    | some reservationEnd => decide (reservation.toInt ≤ start) && decide (start ≤ reservationEnd)

def containingWindow (timing : ActivityTiming) (start : Int) : Option TimeWindow :=
  timing.openWindows.find? fun window =>
    decide (window.opensAt.toInt ≤ start) && decide (start < window.closesAt.toInt)

def durationWithinLimits (timing : ActivityTiming) (start finish : Int) : Bool :=
  match checkedSubtract finish start, checkedMilliseconds timing.minDurationSeconds,
      checkedMilliseconds timing.maxDurationSeconds with
  | some duration, some minDuration, some maxDuration =>
    decide (minDuration ≤ duration) && decide (duration ≤ maxDuration)
  | _, _, _ => false

def isLocallyHardFeasible (input : BeamSearchInput) (planning : PlanningActivity)
    (arrival start finish : Int) : Bool :=
  let timing := planning.activity.timing
  planning.activity.foundClosedAt.isNone && decide (start < finish) && decide (arrival ≤ start) &&
    decide (input.planningHorizonStart.toInt ≤ start) && decide
    (finish ≤ input.planningHorizonEnd.toInt) && isStartInReservationRange timing start &&
    (timing.mandatoryDeadline.all fun deadline => decide (finish ≤ deadline.toInt)) &&
    durationWithinLimits timing start finish && (containingWindow timing start).any fun window =>
    decide (finish ≤ window.closesAt.toInt)

def hasPositiveLegalRoom (input : BeamSearchInput) (planning : PlanningActivity)
    (window : TimeWindow) (start : Int) : Bool :=
  let timing := planning.activity.timing
  let closing := min window.closesAt.toInt input.planningHorizonEnd.toInt
  let latestEnd :=
    match timing.mandatoryDeadline with
    | none => closing
    | some deadline => min closing deadline.toInt
  isStartInReservationRange timing start && decide (input.planningHorizonStart.toInt ≤ start) &&
    decide (start < input.planningHorizonEnd.toInt) && decide (start < latestEnd)

/-- A moved activity keeps its baseline duration; an omitted one gets its
preferred duration, at least a second. -/
def generatedDuration (planning : PlanningActivity) : Option Int :=
  match planning.currentPlanSegment.state with
  | .scheduled =>
    match planning.currentPlanSegment.scheduledStart, planning.currentPlanSegment.scheduledEnd with
    | some start, some finish => checkedSubtract finish.toInt start.toInt
    | _, _ => none
  | .omitted => checkedMilliseconds (max 1 planning.activity.timing.preferredDurationSeconds)

def addGeneratedInterval (input : BeamSearchInput) (planning : PlanningActivity)
    (arrival : Int) (window : TimeWindow) (start : Int) : List CandidateAlternative :=
  if hasPositiveLegalRoom input planning window start then
    match (generatedDuration planning).bind (checkedAdd start) with
    | none => []
    | some finish =>
      if isLocallyHardFeasible input planning arrival start finish then
        [⟨.scheduled, planning.originalTripOrdinal, start, finish, false⟩]
      else
        []
  else
    []

def addExactCurrentPlan (input : BeamSearchInput) (planning : PlanningActivity)
    (arrival : Int) : List CandidateAlternative :=
  let segment := planning.currentPlanSegment
  match segment.state, segment.scheduledStart, segment.scheduledEnd with
  | .scheduled, some start, some finish =>
    if isLocallyHardFeasible input planning arrival start.toInt finish.toInt then
      [⟨.scheduled, planning.originalTripOrdinal, start.toInt, finish.toInt, true⟩]
    else
      []
  | _, _, _ => []

def hasCurrentInterval (planning : PlanningActivity) : Bool :=
  decide (planning.currentPlanSegment.state = .scheduled)

def isFixed (planning : PlanningActivity) : Bool :=
  decide (planning.activity.activityClass = .fixed)

def mustUseCurrentInterval (planning : PlanningActivity) : Bool :=
  !planning.activity.timing.canMove || (isFixed planning && hasCurrentInterval planning)

def earliestStart (timing : ActivityTiming) (arrival : Int) (window : TimeWindow) : Int :=
  let opened := max arrival window.opensAt.toInt
  match timing.reservationStart with
  | none => opened
  | some reservation => max opened reservation.toInt

/-- The baseline start as a second start inside `window`, for a flexible
activity that is scheduled now. -/
def currentStartInterval (input : BeamSearchInput) (planning : PlanningActivity)
    (arrival : Int) (window : TimeWindow) : List CandidateAlternative :=
  match planning.currentPlanSegment.scheduledStart with
  | none => []
  | some current =>
    let currentStart := current.toInt
    if !isFixed planning && hasCurrentInterval planning &&
        !(currentStart == earliestStart planning.activity.timing arrival window) &&
        decide (arrival ≤ currentStart) && decide (window.opensAt.toInt ≤ currentStart) &&
        decide (currentStart < window.closesAt.toInt) &&
        hasPositiveLegalRoom input planning window currentStart then
      addGeneratedInterval input planning arrival window currentStart
    else
      []

def windowIntervals (input : BeamSearchInput) (planning : PlanningActivity)
    (arrival : Int) (window : TimeWindow) : List CandidateAlternative :=
  let start := earliestStart planning.activity.timing arrival window
  (if hasPositiveLegalRoom input planning window start then
      addGeneratedInterval input planning arrival window start
    else
      []) ++ currentStartInterval input planning arrival window

def rawAlternatives (input : BeamSearchInput) (planning : PlanningActivity)
    (arrival : Int) : List CandidateAlternative :=
  if mustUseCurrentInterval planning then
    addExactCurrentPlan input planning arrival
  else if !isFixed planning || planning.activity.timing.reservationStart.isSome then
    planning.activity.timing.openWindows.flatMap (windowIntervals input planning arrival) ++
      (if !isFixed planning && hasCurrentInterval planning then
        addExactCurrentPlan input planning arrival
      else
        [])
  else
    []

def alternativeBefore (left right : CandidateAlternative) : Bool :=
  if left.start ≠ right.start then decide (left.start < right.start)
  else if left.isExactCurrentPlan ≠ right.isExactCurrentPlan then left.isExactCurrentPlan
  else decide (right.finish < left.finish)

def sameAlternative (left right : CandidateAlternative) : Bool :=
  decide (left.kind = right.kind) && decide (left.activityOrdinal = right.activityOrdinal) &&
    decide (left.start = right.start) && decide (left.finish = right.finish)

def isSkippable (planning : PlanningActivity) : Bool :=
  !planning.activity.timing.mandatory && planning.activity.timing.canSkip

def skipAlternative (planning : PlanningActivity) : CandidateAlternative :=
  ⟨.skipped, planning.originalTripOrdinal, 0, 0, false⟩

def generateCandidateAlternativesImpl (input : BeamSearchInput) (planning : PlanningActivity)
    (arrival : Int) (validateInput : Bool) : List CandidateAlternative :=
  if (validateInput && !input.isValid) || !planning.isValid then
    []
  else
    uniqueAdjacent sameAlternative
        (sortBy alternativeBefore (rawAlternatives input planning arrival)) ++
      (if isSkippable planning then [skipAlternative planning] else [])

def generateCandidateAlternatives (input : BeamSearchInput)
    (planning : PlanningActivity) (arrival : Int) : List CandidateAlternative :=
  generateCandidateAlternativesImpl input planning arrival true

end LiveRoute.Planner
