import LiveRoute.Library.Buffers
import LiveRoute.Library.Sorting
import LiveRoute.Planner.BeamSearch

/-! The beam traversal with all its reused vectors. Every use starts from what
the use before has left, the masks choose between the vectors of the scratch
and local ones, and the sorts are known by their contracts only. -/
namespace LiveRoute.Planner
open CheckedInt Sequence Domain Search Buffers

structure PlannerScoreScratch where
  (decided changed commonScheduled : List Bool)
  priorityRanks : List Int
  (candidateCommonOrder baselineCommonOrder baselineCommonPositions : List Nat)
  candidateCommonPositions : List Nat
deriving DecidableEq

namespace PlannerScoreScratch

def reset (_ : PlannerScoreScratch) : PlannerScoreScratch := ⟨[], [], [], [], [], [], [], []⟩

def prepare (scratch : PlannerScoreScratch) (activityCount : Nat) : PlannerScoreScratch where
  decided := fill (resize scratch.decided activityCount false) false
  changed := fill (resize scratch.changed activityCount false) false
  commonScheduled := fill (resize scratch.commonScheduled activityCount false) false
  priorityRanks := []
  candidateCommonOrder := []
  baselineCommonOrder := []
  baselineCommonPositions := resize scratch.baselineCommonPositions activityCount 0
  candidateCommonPositions := resize scratch.candidateCommonPositions activityCount 0

def loop (scratch : PlannerScoreScratch) (input : BeamSearchInput) (rankCount : Nat)
    (utility : Int) : ScoreLoop where
  decided := scratch.decided
  changed := scratch.changed
  commonScheduled := scratch.commonScheduled
  candidateCommonOrder := scratch.candidateCommonOrder
  score := initialScore input rankCount utility
  priorScheduledActivityIndex := none
  priorScheduledEnd := input.suffixStartTime

end PlannerScoreScratch

def writePositions (positions order : List Nat) : List Nat :=
  order.zipIdx.foldl (fun positions entry => positions.set entry.1 entry.2) positions

def finishWithScratch (scratch : PlannerScoreScratch) (input : BeamSearchInput)
    (decisionCount : Nat) (state : ScoreLoop) : Option CandidateScore := do
  let count := input.remainingActivities.length
  guard (¬(decisionCount = count ∧ state.decided.contains false))
  let baselineOrder := scratch.baselineCommonOrder ++ state.baselineCommonOrder count
  guard (baselineOrder.length = state.candidateCommonOrder.length)
  let baselinePositions := writePositions (fill scratch.baselineCommonPositions 0) baselineOrder
  let candidatePositions :=
    writePositions (fill scratch.candidateCommonPositions 0) state.candidateCommonOrder
  let changedCount ← countChanged (fun index => state.changed.getD index false ||
    (state.commonScheduled.getD index false &&
      !(baselinePositions.getD index 0 == candidatePositions.getD index 0))) count
  guard ((state.finalScore changedCount).isValid)
  some (state.finalScore changedCount)

def scoreWithScratch (access : ScoreAccess) (validateInput : Bool) (input : BeamSearchInput)
    (decisions : List ExpansionDecision) (scratch : PlannerScoreScratch) :
    Option CandidateScore := do
  guard (validateInput = false ∨ input.isValid)
  let count := input.remainingActivities.length
  guard (decisions.length ≤ count)
  let prepared := scratch.prepare count
  let ranks := distinctRanks (prepared.priorityRanks ++ (List.range count).map access.priorityRank)
  let utility ← accumulateUtility ((List.range count).map access.utilityScore)
  let state ← decisions.foldlM (scoreStep access validateInput input ranks)
    (prepared.loop input ranks.length utility)
  finishWithScratch prepared input decisions.length state

def passesWithMarks (input : BeamSearchInput) (decisions : List ExpansionDecision)
    (marks : List Bool) (validateInput : Bool) : Bool :=
  match decisions.foldlM (fun flags decision =>
        (input.activityIndexForOrdinal decision.activityOrdinal).map fun index =>
          flags.set index true)
      (fill (resize marks input.remainingActivities.length false) false),
      lastScheduledState input (rowAccess input) decisions with
  | some decided, some last =>
    (decided.zip input.remainingActivities).all fun entry =>
      entry.1 || !isProtected entry.2 ||
        (generateCandidateAlternativesImpl input entry.2 last.2 validateInput).any
          fun alternative => decide (alternative.kind = .scheduled)
  | _, _ => false

def reconstructInto (pathNodes : List BeamPathNode) (candidate : BeamScratchCandidate)
    (buffer : List ExpansionDecision) : List ExpansionDecision :=
  writeBack pathNodes candidate.pathIndex candidate.depth
    (resize buffer candidate.depth ⟨0, 0, 0, 0⟩)

structure ReusedVectors where
  (decided protectedDecided : List Bool)
  (comparisonLeft comparisonRight : List ExpansionDecision)
  score : PlannerScoreScratch

structure Residue where
  score : PlannerScoreScratch → List ExpansionDecision → PlannerScoreScratch
  protectedDecided : List Bool → List ExpansionDecision → List Bool
  comparisons : ReusedVectors → List BeamScratchCandidate →
    List ExpansionDecision × List ExpansionDecision

structure ScratchContext where
  search : SearchContext
  sorting : SortRoutine BeamScratchCandidate
  partialSorting : PartialSortRoutine BeamScratchCandidate
  residue : Residue

structure ScratchState where
  search : SearchState
  vectors : ReusedVectors

namespace ScratchContext

def hasColumnsOfInput (context : ScratchContext) : Bool := context.search.columns.all fun columns =>
    decide (columns.originalTripOrdinals.length = context.search.input.remainingActivities.length)

def score (context : ScratchContext) (decisions : List ExpansionDecision)
    (scratch : PlannerScoreScratch) : Option CandidateScore :=
  if context.hasColumnsOfInput then
    scoreWithScratch context.search.access (!context.search.useValidatedScore)
      context.search.input decisions scratch
  else
    none

def usesLowerBoundScratch (context : ScratchContext) : Bool :=
  !(context.search.mask &&& kTailLowerBoundScratch == 0)

def usesPartialSelection (context : ScratchContext) : Bool :=
  !(context.search.mask &&& kTailPartialBeamSelection == 0)

def passesProtectedActivityLowerBound (context : ScratchContext)
    (decisions : List ExpansionDecision) (vectors : ReusedVectors) : Bool :=
  passesWithMarks context.search.input decisions
    (if context.usesLowerBoundScratch then vectors.protectedDecided else [])
    (!context.search.useValidatedScore)

def scored (context : ScratchContext) (decisions : List ExpansionDecision)
    (vectors : ReusedVectors) : ReusedVectors :=
  { vectors with score := context.residue.score vectors.score decisions }

def bounded (context : ScratchContext) (decisions : List ExpansionDecision)
    (vectors : ReusedVectors) : ReusedVectors :=
  if context.usesLowerBoundScratch then
    { vectors with
      protectedDecided := context.residue.protectedDecided vectors.protectedDecided decisions }
  else
    vectors

def tryAlternative (context : ScratchContext) (parent : BeamScratchCandidate) (state : ScratchState)
    (alternative : CandidateAlternative) : SearchContext.Step ScratchState :=
  let decision := expansionDecision alternative
  let pushed : SearchState := { state.search with
    pathNodes := state.search.pathNodes ++ [PathNode.mk parent.pathIndex decision]
    workingDecisions := state.search.workingDecisions ++ [decision] }
  let popped : SearchState := { pushed with
    pathNodes := pushed.pathNodes.dropLast, workingDecisions := pushed.workingDecisions.dropLast }
  let scored := context.scored pushed.workingDecisions state.vectors
  let bounded := context.bounded pushed.workingDecisions scored
  match context.score pushed.workingDecisions state.vectors.score with
  | none => .ok ⟨popped, scored⟩
  | some score =>
    if !context.passesProtectedActivityLowerBound pushed.workingDecisions scored then
      .ok ⟨popped, bounded⟩
    else if context.search.budget.maxCandidates ≤ state.search.candidateCount then
      SearchContext.leave .maxCandidates .searchLimited popped
    else
      let child : BeamScratchCandidate :=
        ⟨some (pushed.pathNodes.length - 1), parent.depth + 1, score⟩
      .ok ⟨{ pushed with
        bestComplete :=
          if child.depth = context.search.input.remainingActivities.length then
            improve isBetterComplete BeamScratchCandidate.score state.search.bestComplete child
          else
            state.search.bestComplete
        children := state.search.children ++ [child]
        workingDecisions := pushed.workingDecisions.dropLast
        candidateCount := state.search.candidateCount + 1 }, bounded⟩

def expandActivity (context : ScratchContext) (parent : BeamScratchCandidate)
    (state : ScratchState) (activityIndex : Nat) : SearchContext.Step ScratchState :=
  let search := state.search
  if state.vectors.decided.getD activityIndex false then
    .ok state
  else if context.search.interruptions.stopRequested (search.expansionCount + 1) then
    SearchContext.leave .stopToken .cancelled search
  else if context.search.interruptions.deadlinePassed (search.expansionCount + 1) then
    SearchContext.leave .deadline .deadlineExceeded search
  else if context.search.budget.maxExpansions ≤ search.expansionCount then
    SearchContext.leave .maxExpansions .searchLimited search
  else
    match context.search.input.remainingActivities[activityIndex]? with
    | none => .ok state
    | some planning =>
      let counted := { search with expansionCount := search.expansionCount + 1 }
      let arrival := (actualArrival context.search.input context.search.access
        search.workingDecisions activityIndex).getD context.search.input.planningHorizonEnd.toInt
      (generateCandidateAlternativesImpl context.search.input planning arrival
        (!context.search.useValidatedScore)).foldlM (context.tryAlternative parent)
          ⟨counted, state.vectors⟩

def expandParent (context : ScratchContext) (state : ScratchState)
    (parent : BeamScratchCandidate) : SearchContext.Step ScratchState :=
  let working := reconstructInto state.search.pathNodes parent state.search.workingDecisions
  let loaded := { state.search with workingDecisions := working }
  match working.foldlM (fun flags decision =>
      (context.search.access.activityIndex decision.activityOrdinal).map fun index =>
        flags.set index true) (fill state.vectors.decided false) with
  | none => SearchContext.leave .unknownOrdinal .invalidInput loaded
  | some decided =>
    (SearchContext.activityOrder context.search.input).foldlM (context.expandActivity parent)
      ⟨loaded, { state.vectors with decided := decided }⟩

def compareChildren (pathNodes : List BeamPathNode) (vectors : ReusedVectors)
    (left right : BeamScratchCandidate) : Bool :=
  isBetterPartial left.score (reconstructInto pathNodes left vectors.comparisonLeft)
    right.score (reconstructInto pathNodes right vectors.comparisonRight)

def selectBeam (context : ScratchContext) (state : ScratchState) : List BeamScratchCandidate :=
  let less := compareChildren state.search.pathNodes state.vectors
  let width := context.search.budget.beamWidth
  let children := state.search.children
  if width < children.length then
    (if context.usesPartialSelection then context.partialSorting.partialSort less width children
      else context.sorting.sort less children).take width
  else
    context.sorting.sort less children

def compared (context : ScratchContext) (state : ScratchState) : ReusedVectors :=
  let buffers := context.residue.comparisons state.vectors state.search.children
  { state.vectors with comparisonLeft := buffers.1, comparisonRight := buffers.2 }

/-- The remaining depths, with the states in which their children are sorted. -/
def searchDepths (context : ScratchContext) : Nat → List BeamScratchCandidate → ScratchState →
      List SearchState × ReturnPoint × BeamSearchResult
  | 0, _, state =>
    match state.search.bestComplete with
    | none => ([], .searched,
        interruptedResult (SearchContext.infeasibleOutcome state.search) none state.search)
    | some best => ([], .searched, interruptedResult .complete (some best) state.search)
  | depths + 1, beam, state =>
    match beam.foldlM context.expandParent
        { state with search := { state.search with children := [] } } with
    | .error stopped => ([], stopped)
    | .ok expanded =>
      if expanded.search.children.isEmpty then
        match expanded.search.bestComplete with
        | some best => ([], .noChildren, interruptedResult .complete (some best) expanded.search)
        | none => ([], .noChildren, interruptedResult
            (SearchContext.infeasibleOutcome expanded.search) none expanded.search)
      else
        let truncated := expanded.search.searchWasTruncated ||
          decide (context.search.budget.beamWidth < expanded.search.children.length)
        let rest := searchDepths context depths (context.selectBeam expanded)
          ⟨{ expanded.search with searchWasTruncated := truncated }, context.compared expanded⟩
        (expanded.search :: rest.1, rest.2)

end ScratchContext

/-- The whole scratch: the vectors of `PlannerScratch` and those that it leaves out. -/
structure WorkerScratch where
  planner : PlannerScratch
  protectedDecided : List Bool
  (comparisonLeft comparisonRight : List ExpansionDecision)
  score : PlannerScoreScratch

def WorkerScratch.reset (scratch : WorkerScratch) : WorkerScratch :=
  ⟨scratch.planner.reset, [], [], [], scratch.score.reset⟩

structure SearchRoutines where
  sorting : SortRoutine BeamScratchCandidate
  partialSorting : PartialSortRoutine BeamScratchCandidate
  residue : Residue

/-- `run_beam_search` on a worker's scratch, with the states in which the
children of a depth are sorted. -/
def runWithScratch (routines : SearchRoutines) (input : BeamSearchInput) (budget : ReplanBudget)
    (interruptions : Interruptions) (scratch : WorkerScratch) :
    List SearchState × BeamSearchResult :=
  let scratch := scratch.reset
  if !input.isValid || !budget.isValid then
    ([], emptyResult .invalidInput)
  else
    let prepared :=
      if scratch.planner.useSoa then (prepareActivityColumns input).map some else some none
    match prepared with
    | none => ([], emptyResult .invalidInput)
    | some columns =>
      let context : ScratchContext :=
        ⟨⟨input, budget, interruptions, columns, scratch.planner.tailOptimizationMask⟩,
          routines.sorting, routines.partialSorting, routines.residue⟩
      if interruptions.stopRequested 0 then
        ([], { emptyResult .cancelled with cancellationRequested := true })
      else if interruptions.deadlinePassed 0 then
        ([], { emptyResult .deadlineExceeded with deadlineHit := true })
      else
        match context.score [] scratch.score with
        | none => ([], emptyResult .invalidInput)
        | some initialScore =>
          if input.remainingActivities.isEmpty then
            ([], { emptyResult .complete with
              bestDecisions := some [], bestScore := some initialScore })
          else
            let vectors : ReusedVectors :=
              ⟨resize scratch.planner.decided input.remainingActivities.length false,
                scratch.protectedDecided, scratch.comparisonLeft, scratch.comparisonRight,
                routines.residue.score scratch.score []⟩
            let run := context.searchDepths input.remainingActivities.length
              [⟨none, 0, initialScore⟩]
              ⟨⟨scratch.planner.pathNodes, scratch.planner.children,
                scratch.planner.workingDecisions, none, 0, 0, false⟩, vectors⟩
            (run.1, run.2.2)

end LiveRoute.Planner
