import LiveRoute.Planner.Alternatives
import LiveRoute.Planner.CandidateScore
import LiveRoute.Planner.Columns

/-! Scoring of a decision prefix. The loop either consumes a decision or
rejects the whole sequence; what it accumulates depends only on the decisions
consumed so far. -/
namespace LiveRoute.Planner
open CheckedInt Sequence Domain

def containsScheduledAlternative (alternatives : List CandidateAlternative)
    (decision : ExpansionDecision) : Bool :=
  alternatives.any fun alternative =>
    decide (alternative.kind = .scheduled) && decide
      (alternative.activityOrdinal = decision.activityOrdinal) && decide
      (alternative.start = decision.startUnixMs) && decide (alternative.finish = decision.endUnixMs)

structure ScoreLoop where
  (decided changed commonScheduled : List Bool)
  candidateCommonOrder : List Nat
  score : CandidateScore
  priorScheduledActivityIndex : Option Nat
  priorScheduledEnd : Int
deriving DecidableEq

def accumulateUtility (utilities : List Int) : Option Int := utilities.foldlM checkedAdd 0

def distinctRanks (ranks : List Int) : List Int :=
  uniqueAdjacent (fun left right => decide (left = right))
    (sortBy (fun left right => decide (left < right)) ranks)

def initialScore (input : BeamSearchInput) (rankCount : Nat) (utility : Int) : CandidateScore where
  skipsByPriority := List.replicate rankCount 0
  scheduledUtility := utility
  totalLatenessMs := 0
  totalPreferredShortfallMs := 0
  totalTravelMs := 0
  changedActivityCount := 0
  totalStartShiftMs := 0
  finalScheduledEndUnixMs := input.suffixStartTime
  canonicalPlanKey := ⟨[], [], []⟩

def initialLoop (input : BeamSearchInput) (rankCount : Nat) (utility : Int) : ScoreLoop where
  decided := List.replicate input.remainingActivities.length false
  changed := List.replicate input.remainingActivities.length false
  commonScheduled := List.replicate input.remainingActivities.length false
  candidateCommonOrder := []
  score := initialScore input rankCount utility
  priorScheduledActivityIndex := none
  priorScheduledEnd := input.suffixStartTime

def countSkip (ranks : List Int) (rank : Int) (skips : List Nat) : Option (List Nat) :=
  let position := lowerBound ranks rank
  if ranks[position]? = some rank then
    let count := skips.getD position 0
    if count = 4294967295 then none else some (skips.set position (count + 1))
  else
    none

def markIf (condition : Bool) (index : Nat) (marks : List Bool) : List Bool :=
  if condition then marks.set index true else marks

def ScoreLoop.skip (access : ScoreAccess) (index : Nat) (skips : List Nat) (utility : Int)
    (state : ScoreLoop) : ScoreLoop :=
  let key := state.score.canonicalPlanKey
  { state with
    changed := markIf (access.isBaselineScheduled index) index state.changed
    score := { state.score with
      skipsByPriority := skips, scheduledUtility := utility
      canonicalPlanKey := { key with
        skippedOrdinals := key.skippedOrdinals ++ [access.originalOrdinal index] } } }

def scoreSkipped (access : ScoreAccess) (ranks : List Int) (planning : PlanningActivity)
    (index : Nat) (state : ScoreLoop) (decision : ExpansionDecision) : Option ScoreLoop := do
  guard (decision.startUnixMs = 0 ∧ decision.endUnixMs = 0 ∧
    access.isMandatory index = false ∧ access.isSkippable index)
  let skips ← countSkip ranks planning.activity.priorityRank.toInt state.score.skipsByPriority
  let utility ← checkedSubtract state.score.scheduledUtility (access.utilityScore index)
  some (state.skip access index skips utility)

def addShortfall (preferred duration total : Int) : Option Int :=
  if duration < preferred then checkedAdd total (preferred - duration) else some total

def latenessAnchor (access : ScoreAccess) (index : Nat) : Option Int :=
  if access.hasReservation index then some (access.reservationStart index)
  else if access.isBaselineScheduled index then some (access.baselineStart index)
  else none

def addLateness (anchor : Option Int) (start total : Int) : Option Int :=
  match anchor with
  | none => some total
  | some anchor =>
    if anchor < start then (checkedSubtract start anchor).bind (checkedAdd total)
    else some total

def addStartShift (access : ScoreAccess) (index : Nat) (start total : Int) : Option Int :=
  if access.isBaselineScheduled index then
    (checkedAbsoluteDifference start (access.baselineStart index)).bind (checkedAdd total)
  else
    some total

def markChanged (access : ScoreAccess) (index : Nat) (decision : ExpansionDecision)
    (changed : List Bool) : List Bool :=
  if access.isBaselineScheduled index then
    markIf (!(access.baselineStart index == decision.startUnixMs) ||
      !(access.baselineEnd index == decision.endUnixMs)) index changed
  else
    changed.set index true

def matrixOrigin : Option Nat → Nat
  | some index => index + 1
  | none => 0

def ScoreLoop.origin (state : ScoreLoop) : Nat := matrixOrigin state.priorScheduledActivityIndex

structure LegTotals where
  (travel shortfall lateness startShift : Int)

def legTotals (access : ScoreAccess) (index : Nat) (score : CandidateScore)
    (decision : ExpansionDecision) (travel : Int) : Option LegTotals := do
  let totalTravel ← checkedAdd score.totalTravelMs travel
  let duration ← checkedSubtract decision.endUnixMs decision.startUnixMs
  guard (0 < access.preferredDuration index)
  let shortfall ← addShortfall (access.preferredDuration index) duration
    score.totalPreferredShortfallMs
  let lateness ← addLateness (latenessAnchor access index) decision.startUnixMs
    score.totalLatenessMs
  let startShift ← addStartShift access index decision.startUnixMs score.totalStartShiftMs
  some ⟨totalTravel, shortfall, lateness, startShift⟩

def ScoreLoop.schedule (access : ScoreAccess) (index : Nat) (decision : ExpansionDecision)
    (totals : LegTotals) (state : ScoreLoop) : ScoreLoop :=
  let key := state.score.canonicalPlanKey
  let ordinal := access.originalOrdinal index
  { state with
    changed := markChanged access index decision state.changed
    commonScheduled := markIf (access.isBaselineScheduled index) index state.commonScheduled
    candidateCommonOrder := state.candidateCommonOrder ++
      (if access.isBaselineScheduled index then [index] else [])
    score := { state.score with
      totalTravelMs := totals.travel, totalPreferredShortfallMs := totals.shortfall
      totalLatenessMs := totals.lateness, totalStartShiftMs := totals.startShift
      finalScheduledEndUnixMs := decision.endUnixMs
      canonicalPlanKey := { key with
        scheduledOrdinalsInOrder := key.scheduledOrdinalsInOrder ++ [ordinal]
        scheduledEntries := key.scheduledEntries ++
          [⟨ordinal, decision.startUnixMs, decision.endUnixMs⟩] } }
    priorScheduledActivityIndex := some index, priorScheduledEnd := decision.endUnixMs }

def scoreScheduled (access : ScoreAccess) (validateInput : Bool) (input : BeamSearchInput)
    (planning : PlanningActivity) (index : Nat) (state : ScoreLoop)
    (decision : ExpansionDecision) : Option ScoreLoop := do
  guard (decision.startUnixMs < decision.endUnixMs)
  let travel ← routeDurationMilliseconds
    (input.route state.origin (access.matrixLocationIndex index))
  let arrival ← checkedAdd state.priorScheduledEnd travel
  guard (containsScheduledAlternative
    (generateCandidateAlternativesImpl input planning arrival validateInput) decision)
  let totals ← legTotals access index state.score decision travel
  some (state.schedule access index decision totals)

def ScoreLoop.mark (index : Nat) (state : ScoreLoop) : ScoreLoop :=
  { state with decided := state.decided.set index true }

def scoreStep (access : ScoreAccess) (validateInput : Bool) (input : BeamSearchInput)
    (ranks : List Int) (state : ScoreLoop) (decision : ExpansionDecision) :
    Option ScoreLoop := do
  let index ← access.activityIndex decision.activityOrdinal
  guard (state.decided.getD index false = false ∧ decision.decision ≤ 1)
  let planning ← input.remainingActivities[index]?
  if decision.decision = 1 then
    scoreSkipped access ranks planning index (state.mark index) decision
  else
    scoreScheduled access validateInput input planning index (state.mark index) decision

/-- Where each activity of `order` stands in it. -/
def orderPositions (count : Nat) (order : List Nat) : List Nat :=
  order.zipIdx.foldl (fun positions entry => positions.set entry.1 entry.2) (List.replicate count 0)

def finalChanged (count : Nat) (state : ScoreLoop) (baselineOrder : List Nat) (index : Nat) :
    Bool :=
  state.changed.getD index false || (state.commonScheduled.getD index false &&
      !((orderPositions count baselineOrder).getD index 0 ==
        (orderPositions count state.candidateCommonOrder).getD index 0))

def countChanged (changed : Nat → Bool) (count : Nat) : Option Int := (List.range count).foldlM
    (fun total index => if changed index then checkedAdd total 1 else some total) 0

def sortOrdinals (ordinals : List Nat) : List Nat :=
  sortBy (fun left right => decide (left < right)) ordinals

def ScoreLoop.baselineCommonOrder (count : Nat) (state : ScoreLoop) : List Nat :=
  (List.range count).filter fun index => state.commonScheduled.getD index false

def ScoreLoop.finalScore (changedCount : Int) (state : ScoreLoop) : CandidateScore :=
  let key := state.score.canonicalPlanKey
  { state.score with
    changedActivityCount := changedCount
    canonicalPlanKey := { key with skippedOrdinals := sortOrdinals key.skippedOrdinals } }

def finishScore (input : BeamSearchInput) (decisionCount : Nat) (state : ScoreLoop) :
    Option CandidateScore := do
  let count := input.remainingActivities.length
  guard (¬(decisionCount = count ∧ state.decided.contains false))
  let baselineOrder := state.baselineCommonOrder count
  guard (baselineOrder.length = state.candidateCommonOrder.length)
  let changedCount ← countChanged (finalChanged count state baselineOrder) count
  guard ((state.finalScore changedCount).isValid)
  some (state.finalScore changedCount)

def scoreCandidateImpl (access : ScoreAccess) (validateInput : Bool)
    (input : BeamSearchInput) (decisions : List ExpansionDecision) :
    Option CandidateScore := do
  guard (validateInput = false ∨ input.isValid)
  let count := input.remainingActivities.length
  guard (decisions.length ≤ count)
  let ranks := distinctRanks ((List.range count).map access.priorityRank)
  let utility ← accumulateUtility ((List.range count).map access.utilityScore)
  let state ← decisions.foldlM (scoreStep access validateInput input ranks)
    (initialLoop input ranks.length utility)
  finishScore input decisions.length state

def scoreCandidate (input : BeamSearchInput) (decisions : List ExpansionDecision) :
    Option CandidateScore :=
  scoreCandidateImpl (rowAccess input) true input decisions

def scoreWithColumns (columns : PlannerActivityColumns) (validateInput : Bool)
    (input : BeamSearchInput) (decisions : List ExpansionDecision) : Option CandidateScore :=
  if columns.originalTripOrdinals.length = input.remainingActivities.length then
    scoreCandidateImpl (columnAccess columns) validateInput input decisions
  else
    none

def scoreValidatedCandidate (input : BeamSearchInput) (decisions : List ExpansionDecision)
    (columns : Option PlannerActivityColumns) : Option CandidateScore :=
  match columns with
  | none => scoreCandidateImpl (rowAccess input) false input decisions
  | some columns => scoreWithColumns columns false input decisions

end LiveRoute.Planner
