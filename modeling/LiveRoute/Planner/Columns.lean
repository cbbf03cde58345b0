import LiveRoute.Planner.Input

/-! Row and columnar access to the remaining activities. The scoring loop reads
activities only through the functions bundled here, as the source does. -/
namespace LiveRoute.Planner
open CheckedInt Sequence Domain

structure ScoreAccess where
  activityIndex : Nat → Option Nat
  (priorityRank utilityScore : Nat → Int)
  (isBaselineScheduled isMandatory isSkippable : Nat → Bool)
  preferredDuration : Nat → Int
  originalOrdinal : Nat → Nat
  (baselineStart baselineEnd : Nat → Int)
  hasReservation : Nat → Bool
  reservationStart : Nat → Int
  matrixLocationIndex : Nat → Nat

def BeamSearchInput.row {α : Type} (input : BeamSearchInput) (default : α)
    (read : PlanningActivity → α) (index : Nat) : α :=
  match input.remainingActivities[index]? with
  | some planning => read planning
  | none => default

def timeOrZero (time : Option UnixTimeMilliseconds) : Int :=
  match time with
  | some time => time.toInt
  | none => 0

def rowAccess (input : BeamSearchInput) : ScoreAccess where
  activityIndex := input.activityIndexForOrdinal
  priorityRank := input.row 0 fun planning => planning.activity.priorityRank.toInt
  utilityScore := input.row 0 fun planning => planning.activity.utilityScore.toInt
  isBaselineScheduled := input.row false fun planning =>
    decide (planning.currentPlanSegment.state = .scheduled)
  isMandatory := input.row false fun planning => planning.activity.timing.mandatory
  isSkippable := input.row false fun planning => planning.activity.timing.canSkip
  preferredDuration := input.row 0 fun planning =>
    (checkedMilliseconds planning.activity.timing.preferredDurationSeconds).getD 0
  originalOrdinal := input.row 0 PlanningActivity.originalTripOrdinal
  baselineStart := input.row 0 fun planning => timeOrZero planning.currentPlanSegment.scheduledStart
  baselineEnd := input.row 0 fun planning => timeOrZero planning.currentPlanSegment.scheduledEnd
  hasReservation := input.row false fun planning => planning.activity.timing.reservationStart.isSome
  reservationStart := input.row 0 fun planning =>
    timeOrZero planning.activity.timing.reservationStart
  matrixLocationIndex := fun index => index + 1

def kBaselineScheduled : UInt16 := 1
def kMandatory : UInt16 := 2
def kMovable : UInt16 := 4
def kSkippable : UInt16 := 8
def kReservationPresent : UInt16 := 16
def kMandatoryDeadlinePresent : UInt16 := 32
def kFoundClosed : UInt16 := 64

structure PlannerActivityColumns where
  (originalTripOrdinals matrixLocationIndices : List Nat)
  (priorityRanks utilityScores preferredDurationMs baselineStartMs baselineEndMs : List Int)
  reservationStartMs : List Int
  flags : List UInt16
  (sortedOrdinals sortedActivityIndices : List Nat)
deriving DecidableEq

def PlannerActivityColumns.empty : PlannerActivityColumns :=
  ⟨[], [], [], [], [], [], [], [], [], [], []⟩

def activityFlags (planning : PlanningActivity) : UInt16 :=
  let timing := planning.activity.timing
  let flag (present : Bool) (bit : UInt16) : UInt16 := if present then bit else 0
  flag (decide (planning.currentPlanSegment.state = .scheduled)) kBaselineScheduled |||
    flag timing.mandatory kMandatory ||| flag timing.canMove kMovable |||
    flag timing.canSkip kSkippable ||| flag timing.reservationStart.isSome kReservationPresent |||
    flag timing.mandatoryDeadline.isSome kMandatoryDeadlinePresent |||
    flag planning.activity.foundClosedAt.isSome kFoundClosed

/-- The conversions of one row that can fail: its three duration limits, the
duration it would be scheduled with, and its latest reserved start. -/
def rowConvertible (planning : PlanningActivity) : Bool :=
  let timing := planning.activity.timing
  let segment := planning.currentPlanSegment
  let scheduledDuration :=
    match segment.state with
    | .scheduled =>
      checkedSubtract (timeOrZero segment.scheduledEnd) (timeOrZero segment.scheduledStart)
    | .omitted => checkedMilliseconds (max 1 timing.preferredDurationSeconds)
  let latestStart :=
    match timing.reservationStart with
    | none => some 0
    | some reservation =>
      (checkedMilliseconds timing.reservationGraceSeconds).bind (checkedAdd reservation.toInt)
  (checkedMilliseconds timing.minDurationSeconds).isSome &&
    (checkedMilliseconds timing.preferredDurationSeconds).isSome &&
    (checkedMilliseconds timing.maxDurationSeconds).isSome &&
    scheduledDuration.isSome && latestStart.isSome

def prepareActivityColumns (input : BeamSearchInput) : Option PlannerActivityColumns :=
  let rows := input.remainingActivities
  if rows.all rowConvertible then
    let ordinals := rows.map PlanningActivity.originalTripOrdinal
    let sortedIndices := sortBy (fun left right =>
      decide (ordinals.getD left 0 < ordinals.getD right 0)) (List.range rows.length)
    some {
      originalTripOrdinals := ordinals
      matrixLocationIndices := (List.range rows.length).map (· + 1)
      priorityRanks := rows.map fun planning => planning.activity.priorityRank.toInt
      utilityScores := rows.map fun planning => planning.activity.utilityScore.toInt
      preferredDurationMs := rows.map fun planning =>
        (checkedMilliseconds planning.activity.timing.preferredDurationSeconds).getD 0
      baselineStartMs := rows.map fun planning =>
        timeOrZero planning.currentPlanSegment.scheduledStart
      baselineEndMs := rows.map fun planning => timeOrZero planning.currentPlanSegment.scheduledEnd
      reservationStartMs := rows.map fun planning =>
        timeOrZero planning.activity.timing.reservationStart
      flags := rows.map activityFlags
      sortedOrdinals := sortedIndices.map fun index => ordinals.getD index 0
      sortedActivityIndices := sortedIndices }
  else
    none

def PlannerActivityColumns.activityIndexForOrdinal (columns : PlannerActivityColumns)
    (ordinal : Nat) : Option Nat :=
  let position := columns.sortedOrdinals.findIdx fun key => decide (ordinal ≤ key)
  if columns.sortedOrdinals[position]? = some ordinal then
    columns.sortedActivityIndices[position]?
  else
    none

def columnAccess (columns : PlannerActivityColumns) : ScoreAccess where
  activityIndex := columns.activityIndexForOrdinal
  priorityRank := fun index => columns.priorityRanks.getD index 0
  utilityScore := fun index => columns.utilityScores.getD index 0
  isBaselineScheduled := fun index => !(columns.flags.getD index 0 &&& kBaselineScheduled == 0)
  isMandatory := fun index => !(columns.flags.getD index 0 &&& kMandatory == 0)
  isSkippable := fun index => !(columns.flags.getD index 0 &&& kSkippable == 0)
  preferredDuration := fun index => columns.preferredDurationMs.getD index 0
  originalOrdinal := fun index => columns.originalTripOrdinals.getD index 0
  baselineStart := fun index => columns.baselineStartMs.getD index 0
  baselineEnd := fun index => columns.baselineEndMs.getD index 0
  hasReservation := fun index => !(columns.flags.getD index 0 &&& kReservationPresent == 0)
  reservationStart := fun index => columns.reservationStartMs.getD index 0
  matrixLocationIndex := fun index => columns.matrixLocationIndices.getD index (index + 1)

end LiveRoute.Planner
