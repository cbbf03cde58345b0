import LiveRoute.Library.Search
import LiveRoute.Planner.Score

/-! The depth-by-depth beam traversal. A run is a pure function of the input,
the budget, the reusable scratch and the answers the stop token and the clock
give at each poll; every `return` of the source carries a label. -/
namespace LiveRoute.Planner
open CheckedInt Sequence Domain Search

abbrev BeamPathNode := PathNode ExpansionDecision

structure BeamScratchCandidate where
  pathIndex : Option Nat
  depth : Nat
  score : CandidateScore
deriving DecidableEq

/-- Reusable storage. The comparison buffers, the scoring scratch and the
lower-bound marks are overwritten before every read and are not kept here. -/
structure PlannerScratch where
  pathNodes : List BeamPathNode
  (beam children : List BeamScratchCandidate)
  activityOrder : List Nat
  decided : List Bool
  workingDecisions : List ExpansionDecision
  activityColumns : PlannerActivityColumns
  useSoa : Bool
  tailOptimizationMask : UInt8

def kTailValidatedInput : UInt8 := 1
def kTailLowerBoundScratch : UInt8 := 2
def kTailPartialBeamSelection : UInt8 := 4

def PlannerScratch.reset (scratch : PlannerScratch) : PlannerScratch :=
  { scratch with
    pathNodes := [], beam := [], children := [], activityOrder := [], decided := []
    workingDecisions := [], activityColumns := PlannerActivityColumns.empty }

def PlannerScratch.fresh : PlannerScratch :=
  ⟨[], [], [], [], [], [], PlannerActivityColumns.empty, false, 0⟩

/-- What the stop token and the clock answer at poll `0`, before the search,
and at poll `n + 1`, before expansion `n`. -/
structure Interruptions where
  (stopRequested deadlinePassed : Nat → Bool)

inductive BeamSearchOutcome where
  | complete | bestSoFar | exhaustiveInfeasible | searchLimited | deadlineExceeded | cancelled
  | invalidInput
deriving DecidableEq

structure BeamSearchResult where
  outcome : BeamSearchOutcome
  bestDecisions : Option (List ExpansionDecision)
  bestScore : Option CandidateScore
  (expansionCount candidateCount : Nat)
  (searchWasTruncated deadlineHit cancellationRequested : Bool)
deriving DecidableEq

/-- The `return` statement a run leaves through. -/
inductive ReturnPoint where
  | invalid | stopToken | deadline | maxExpansions | maxCandidates | unknownOrdinal
  | nothingToDecide | noChildren | searched
deriving DecidableEq

def ReturnPoint.isInterruption : ReturnPoint → Bool
  | .stopToken | .deadline | .maxExpansions | .maxCandidates => true
  | _ => false

def expansionDecision (alternative : CandidateAlternative) : ExpansionDecision :=
  ⟨alternative.activityOrdinal,
    match alternative.kind with
    | .scheduled => 0
    | .skipped => 1,
    alternative.start, alternative.finish⟩

def reconstructDecisions (pathNodes : List BeamPathNode) (candidate : BeamScratchCandidate) :
    List ExpansionDecision :=
  walk pathNodes candidate.pathIndex candidate.depth

/-- Scans the decisions from the last one back; `none` in the first component
stands for the location the suffix starts from. -/
def lastScheduledFrom (activityIndex : Nat → Option Nat) (suffixStart : Int) :
    List ExpansionDecision → Option (Option Nat × Int)
  | [] => some (none, suffixStart)
  | decision :: earlier =>
    if decision.decision = 0 then
      match activityIndex decision.activityOrdinal with
      | none => none
      | some index => some (some index, decision.endUnixMs)
    else
      lastScheduledFrom activityIndex suffixStart earlier

def lastScheduledState (input : BeamSearchInput) (access : ScoreAccess)
    (decisions : List ExpansionDecision) : Option (Option Nat × Int) :=
  lastScheduledFrom access.activityIndex input.suffixStartTime decisions.reverse

def actualArrival (input : BeamSearchInput) (access : ScoreAccess)
    (decisions : List ExpansionDecision) (destination : Nat) : Option Int := do
  let last ← lastScheduledState input access decisions
  let travel ← routeDurationMilliseconds
    (input.route (matrixOrigin last.1) (access.matrixLocationIndex destination))
  checkedAdd last.2 travel

/-- One flag per remaining activity, or `none` for a decision about none of them. -/
def decidedFlags (activityIndex : Nat → Option Nat) (count : Nat)
    (decisions : List ExpansionDecision) : Option (List Bool) :=
  decisions.foldlM (fun flags decision =>
    (activityIndex decision.activityOrdinal).map fun index => flags.set index true)
    (List.replicate count false)

def isProtected (planning : PlanningActivity) : Bool := !isSkippable planning

def passesProtectedActivityLowerBound (input : BeamSearchInput)
    (decisions : List ExpansionDecision) (validateInput : Bool) : Bool :=
  match decidedFlags input.activityIndexForOrdinal input.remainingActivities.length decisions,
      lastScheduledState input (rowAccess input) decisions with
  | some decided, some last =>
    (decided.zip input.remainingActivities).all fun entry =>
      entry.1 || !isProtected entry.2 ||
        (generateCandidateAlternativesImpl input entry.2 last.2 validateInput).any
          fun alternative => decide (alternative.kind = .scheduled)
  | _, _ => false

structure SearchState where
  pathNodes : List BeamPathNode
  children : List BeamScratchCandidate
  workingDecisions : List ExpansionDecision
  bestComplete : Option BeamScratchCandidate
  (expansionCount candidateCount : Nat)
  searchWasTruncated : Bool
deriving DecidableEq

def interruptedResult (outcome : BeamSearchOutcome) (best : Option BeamScratchCandidate)
    (state : SearchState) : BeamSearchResult :=
  match best with
  | some candidate =>
    { outcome := if outcome = .complete then .complete else .bestSoFar
      bestDecisions := some (reconstructDecisions state.pathNodes candidate)
      bestScore := some candidate.score, expansionCount := state.expansionCount
      candidateCount := state.candidateCount, searchWasTruncated := state.searchWasTruncated
      deadlineHit := decide (outcome = .deadlineExceeded)
      cancellationRequested := decide (outcome = .cancelled) }
  | none =>
    { outcome := outcome, bestDecisions := none, bestScore := none
      expansionCount := state.expansionCount, candidateCount := state.candidateCount
      searchWasTruncated := state.searchWasTruncated
      deadlineHit := decide (outcome = .deadlineExceeded)
      cancellationRequested := decide (outcome = .cancelled) }

structure SearchContext where
  input : BeamSearchInput
  budget : ReplanBudget
  interruptions : Interruptions
  columns : Option PlannerActivityColumns
  mask : UInt8

namespace SearchContext

def useValidatedScore (context : SearchContext) : Bool :=
  !(context.mask &&& kTailValidatedInput == 0)

def access (context : SearchContext) : ScoreAccess :=
  match context.columns with
  | none => rowAccess context.input
  | some columns => columnAccess columns

def score (context : SearchContext) (decisions : List ExpansionDecision) : Option CandidateScore :=
  if context.useValidatedScore then
    scoreValidatedCandidate context.input decisions context.columns
  else
    match context.columns with
    | none => scoreCandidate context.input decisions
    | some columns => scoreWithColumns columns true context.input decisions

abbrev Step := Except (ReturnPoint × BeamSearchResult)

def leave {α : Type} (point : ReturnPoint) (outcome : BeamSearchOutcome)
    (state : SearchState) : Step α :=
  .error (point, interruptedResult outcome state.bestComplete state)

/-- Pushes one alternative, keeps it if it scores and passes the lower bound,
and pops it otherwise. -/
def tryAlternative (context : SearchContext) (parent : BeamScratchCandidate)
    (state : SearchState) (alternative : CandidateAlternative) : Step SearchState :=
  let decision := expansionDecision alternative
  let pushed : SearchState := { state with
    pathNodes := state.pathNodes ++ [PathNode.mk parent.pathIndex decision]
    workingDecisions := state.workingDecisions ++ [decision] }
  let popped : SearchState := { pushed with
    pathNodes := pushed.pathNodes.dropLast, workingDecisions := pushed.workingDecisions.dropLast }
  match context.score pushed.workingDecisions with
  | none => .ok popped
  | some score =>
    if !passesProtectedActivityLowerBound context.input pushed.workingDecisions
        (!context.useValidatedScore) then
      .ok popped
    else if context.budget.maxCandidates ≤ state.candidateCount then
      leave .maxCandidates .searchLimited popped
    else
      let child : BeamScratchCandidate :=
        ⟨some (pushed.pathNodes.length - 1), parent.depth + 1, score⟩
      .ok { pushed with
        bestComplete :=
          if child.depth = context.input.remainingActivities.length then
            improve isBetterComplete BeamScratchCandidate.score state.bestComplete child
          else
            state.bestComplete
        children := state.children ++ [child], workingDecisions := pushed.workingDecisions.dropLast
        candidateCount := state.candidateCount + 1 }

def expandActivity (context : SearchContext) (parent : BeamScratchCandidate)
    (decided : List Bool) (state : SearchState) (activityIndex : Nat) : Step SearchState :=
  if decided.getD activityIndex false then
    .ok state
  else if context.interruptions.stopRequested (state.expansionCount + 1) then
    leave .stopToken .cancelled state
  else if context.interruptions.deadlinePassed (state.expansionCount + 1) then
    leave .deadline .deadlineExceeded state
  else if context.budget.maxExpansions ≤ state.expansionCount then
    leave .maxExpansions .searchLimited state
  else
    match context.input.remainingActivities[activityIndex]? with
    | none => .ok state
    | some planning =>
      let counted := { state with expansionCount := state.expansionCount + 1 }
      let arrival := (actualArrival context.input context.access state.workingDecisions
        activityIndex).getD context.input.planningHorizonEnd.toInt
      (generateCandidateAlternativesImpl context.input planning arrival
        (!context.useValidatedScore)).foldlM (context.tryAlternative parent) counted

def activityOrder (input : BeamSearchInput) : List Nat := sortBy (fun left right =>
      decide (input.row 0 PlanningActivity.originalTripOrdinal left <
        input.row 0 PlanningActivity.originalTripOrdinal right))
    (List.range input.remainingActivities.length)

def expandParent (context : SearchContext) (state : SearchState)
    (parent : BeamScratchCandidate) : Step SearchState :=
  let working := reconstructDecisions state.pathNodes parent
  let loaded := { state with workingDecisions := working }
  match decidedFlags context.access.activityIndex context.input.remainingActivities.length
      working with
  | none => leave .unknownOrdinal .invalidInput loaded
  | some decided =>
    (activityOrder context.input).foldlM (context.expandActivity parent decided) loaded

def childBefore (pathNodes : List BeamPathNode) (left right : BeamScratchCandidate) : Bool :=
  isBetterPartial left.score (reconstructDecisions pathNodes left)
    right.score (reconstructDecisions pathNodes right)

/-- The sorted children, cut to the beam width. A partial sort keeps the same
initial segment as a full one. -/
def nextBeam (context : SearchContext) (state : SearchState) : List BeamScratchCandidate :=
  let sorted := sortBy (childBefore state.pathNodes) state.children
  if context.budget.beamWidth < state.children.length then
    sorted.take context.budget.beamWidth
  else
    sorted

def infeasibleOutcome (state : SearchState) : BeamSearchOutcome :=
  if state.searchWasTruncated then .searchLimited else .exhaustiveInfeasible

def searchDepths (context : SearchContext) :
    Nat → List BeamScratchCandidate → SearchState → ReturnPoint × BeamSearchResult
  | 0, _, state =>
    match state.bestComplete with
    | none => (.searched, interruptedResult (infeasibleOutcome state) none state)
    | some best => (.searched, interruptedResult .complete (some best) state)
  | depths + 1, beam, state =>
    match beam.foldlM context.expandParent { state with children := [] } with
    | .error stopped => stopped
    | .ok expanded =>
      if expanded.children.isEmpty then
        match expanded.bestComplete with
        | some best => (.noChildren, interruptedResult .complete (some best) expanded)
        | none => (.noChildren, interruptedResult (infeasibleOutcome expanded) none expanded)
      else
        let truncated := expanded.searchWasTruncated ||
          decide (context.budget.beamWidth < expanded.children.length)
        searchDepths context depths (context.nextBeam expanded)
          { expanded with searchWasTruncated := truncated }

end SearchContext

def emptyResult (outcome : BeamSearchOutcome) : BeamSearchResult :=
  ⟨outcome, none, none, 0, 0, false, false, false⟩

def runBeamSearchTraced (input : BeamSearchInput) (budget : ReplanBudget)
    (interruptions : Interruptions) (scratch : PlannerScratch) : ReturnPoint × BeamSearchResult :=
  let scratch := scratch.reset
  if !input.isValid || !budget.isValid then
    (.invalid, emptyResult .invalidInput)
  else
    let prepared := if scratch.useSoa then (prepareActivityColumns input).map some else some none
    match prepared with
    | none => (.invalid, emptyResult .invalidInput)
    | some columns =>
      let context : SearchContext :=
        ⟨input, budget, interruptions, columns, scratch.tailOptimizationMask⟩
      if interruptions.stopRequested 0 then
        (.stopToken, { emptyResult .cancelled with cancellationRequested := true })
      else if interruptions.deadlinePassed 0 then
        (.deadline, { emptyResult .deadlineExceeded with deadlineHit := true })
      else
        match context.score [] with
        | none => (.invalid, emptyResult .invalidInput)
        | some initialScore =>
          if input.remainingActivities.isEmpty then
            (.nothingToDecide, { emptyResult .complete with
              bestDecisions := some [], bestScore := some initialScore })
          else
            context.searchDepths input.remainingActivities.length [⟨none, 0, initialScore⟩]
              ⟨scratch.pathNodes, scratch.children, scratch.workingDecisions, none, 0, 0, false⟩

def runBeamSearch (input : BeamSearchInput) (budget : ReplanBudget)
    (interruptions : Interruptions) (scratch : PlannerScratch) : BeamSearchResult :=
  (runBeamSearchTraced input budget interruptions scratch).2

end LiveRoute.Planner
