import LiveRoute.Planner.DistinctChildren
import LiveRoute.Planner.ReusedScratch

/-! The traversal on a worker's scratch refines the plain one. Each use of a
reused vector refills it first, and since no two children compare equal, every
sort and partial sort that keeps its contract retains the same beam. -/
namespace LiveRoute.Planner
open CheckedInt Sequence Domain Search EarlyExit Buffers List

theorem prepare_loop (scratch : PlannerScoreScratch) (input : BeamSearchInput) :
    (scratch.prepare input.remainingActivities.length).loop input rankCount utility =
      initialLoop input rankCount utility := by
  simp [PlannerScoreScratch.prepare, PlannerScoreScratch.loop, initialLoop]

theorem finishWithScratch_eq (scratch : PlannerScoreScratch) (input : BeamSearchInput) :
    finishWithScratch (scratch.prepare input.remainingActivities.length) input decisionCount state =
      finishScore input decisionCount state := by
  unfold finishWithScratch finishScore
  simp only [PlannerScoreScratch.prepare, fill_resize, nil_append]
  rfl

theorem scoreWithScratch_eq : scoreWithScratch access validateInput input decisions scratch =
      scoreCandidateImpl access validateInput input decisions := by
  unfold scoreWithScratch scoreCandidateImpl
  simp only [prepare_loop, finishWithScratch_eq]
  rfl

theorem passesWithMarks_eq : passesWithMarks input decisions marks validateInput =
      passesProtectedActivityLowerBound input decisions validateInput := by
  unfold passesWithMarks passesProtectedActivityLowerBound
  rw [fill_resize]
  rfl

theorem Represents.reconstructInto (h : Represents input pathNodes candidate path) :
    reconstructInto pathNodes candidate buffer = path := by
  rw [Planner.reconstructInto, h.depth, writeBack_of_reaches h.reaches (by simp),
    drop_eq_nil_of_le (by simp), append_nil]

section Simulation

variable (context : ScratchContext)

theorem score_scratch : context.score decisions scratch = context.search.score decisions := by
  unfold ScratchContext.score ScratchContext.hasColumnsOfInput SearchContext.score
    scoreValidatedCandidate scoreCandidate scoreWithColumns SearchContext.access
  simp only [scoreWithScratch_eq]
  cases context.search.columns with
  | none => cases context.search.useValidatedScore <;> rfl
  | some => cases context.search.useValidatedScore <;> simp

def SameSearch (decided : List Bool) (state : ScratchState) (search : SearchState) : Prop :=
  state.search = search ∧ state.vectors.decided = decided

variable {decided : List Bool} {state : ScratchState} {search : SearchState}

theorem bounded_decided : (context.bounded decisions vectors).decided = vectors.decided := by
  unfold ScratchContext.bounded
  split <;> rfl

theorem tryAlternative_simulates (h : SameSearch decided state search) :
    Simulates (SameSearch decided) (context.tryAlternative parent state alternative)
      (context.search.tryAlternative parent search alternative) := by
  obtain ⟨rfl, rfl⟩ := h
  unfold ScratchContext.tryAlternative SearchContext.tryAlternative
    ScratchContext.passesProtectedActivityLowerBound
  simp only [score_scratch, passesWithMarks_eq]
  cases context.search.score (state.search.workingDecisions ++ [expansionDecision alternative]) with
  | none => exact ⟨rfl, rfl⟩
  | some =>
    dsimp only
    split
    · exact ⟨rfl, bounded_decided ..⟩
    · split
      · rfl
      · exact ⟨rfl, bounded_decided ..⟩

theorem expandActivity_simulates (h : SameSearch decided state search) :
    Simulates (SameSearch decided) (context.expandActivity parent state activityIndex)
      (context.search.expandActivity parent decided search activityIndex) := by
  obtain ⟨rfl, rfl⟩ := h
  unfold ScratchContext.expandActivity SearchContext.expandActivity
  dsimp only
  split
  · exact ⟨rfl, rfl⟩
  split
  · rfl
  split
  · rfl
  split
  · rfl
  cases context.search.input.remainingActivities[activityIndex]? with
  | none => exact ⟨rfl, rfl⟩
  | some =>
    exact Simulates.foldlM ⟨rfl, rfl⟩ fun alternative _ state search h =>
      tryAlternative_simulates context h

end Simulation

section Depths

variable {context : ScratchContext} (hprepared : context.search.Prepared)
  (hinput : context.search.input.isValid)

structure SameDepth (context : ScratchContext) (start : SearchState) (state : ScratchState)
    (search : SearchState) : Prop where
  same : state.search = search
  sized : state.vectors.decided.length = context.search.input.remainingActivities.length
  depth : DepthState context.search.input start search

include hprepared hinput in
theorem expandParent_simulates (h : SameDepth context start state search)
    (hparent : Represents context.search.input start.pathNodes parent path) :
    Simulates (SameDepth context start) (context.expandParent state parent)
      (context.search.expandParent search parent) := by
  obtain ⟨rfl, hsized, hdepth⟩ := h
  have hreach := hparent.extend hdepth.grows.pathNodes
  obtain ⟨-, -, loop, hloop, -⟩ := scoreCandidate_eq_some.mp hparent.scored
  obtain ⟨decided, hdec, hlen, -⟩ := decidedFlags_eq hinput (scoringLoop_invariant hinput hloop)
  have hindex : context.search.access.activityIndex =
      context.search.input.activityIndexForOrdinal := by
    rw [access_row hprepared hinput]
    rfl
  have hsim : Simulates (SameSearch decided) (context.expandParent state parent)
      (context.search.expandParent state.search parent) := by
    unfold ScratchContext.expandParent SearchContext.expandParent
    simp only [hreach.reconstruct, hreach.reconstructInto, hindex, hdec]
    unfold decidedFlags at hdec
    rw [fill, map_const', hsized, hdec]
    exact Simulates.foldlM ⟨rfl, rfl⟩ fun index _ state search h =>
      expandActivity_simulates context h
  refine (hsim.and_ends (expandParent_ends hprepared hinput hdepth hparent)).mono ?_
  rintro next search ⟨⟨hsame, hmarks⟩, hnext, -, -⟩
  exact ⟨hsame, by rw [hmarks, hlen], hnext⟩

include hprepared hinput in
theorem expandBeam_simulates {state : ScratchState} {beam : List BeamScratchCandidate}
    (hsized : state.vectors.decided.length = context.search.input.remainingActivities.length)
    (hmem : ∀ candidate ∈ beam,
      ∃ path, Represents context.search.input state.search.pathNodes candidate path)
    (hstart : SearchInvariant context.search.input state.search) :
    Simulates (SameDepth context state.search) (beam.foldlM context.expandParent state)
      (beam.foldlM context.search.expandParent state.search) := by
  refine Simulates.foldlM ⟨rfl, hsized, hstart, Grows.refl⟩ ?_
  intro parent hparent next search h
  obtain ⟨path, hpath⟩ := hmem parent hparent
  exact expandParent_simulates hprepared hinput h hpath

theorem selectBeam_eq {state : ScratchState} (hchildren : ∀ child ∈ state.search.children,
      ∃ path, Represents context.search.input state.search.pathNodes child path)
    (hapart : ChildrenApart state.search) :
    context.selectBeam state = context.search.nextBeam state.search := by
  have hagree : ∀ left ∈ state.search.children, ∀ right ∈ state.search.children,
      ScratchContext.compareChildren state.search.pathNodes state.vectors left right =
        SearchContext.childBefore state.search.pathNodes left right := by
    intro left hleft right hright
    obtain ⟨leftPath, hleft⟩ := hchildren left hleft
    obtain ⟨rightPath, hright⟩ := hchildren right hright
    rw [ScratchContext.compareChildren, SearchContext.childBefore, hleft.reconstructInto,
      hright.reconstructInto, hleft.reconstruct, hright.reconstruct]
  have hweak := childBefore_strictWeak state.search.pathNodes
  have hsort := context.sorting.sort_eq hweak hapart.tellsApart hagree
  have hpartial := context.partialSorting.take_eq hweak hapart.tellsApart hagree
    context.search.budget.beamWidth
  unfold ScratchContext.selectBeam SearchContext.nextBeam
  dsimp only
  rw [hsort]
  split
  · split
    · exact hpartial
    · rfl
  · rfl

include hprepared hinput in
/-- The remaining depths agree, by induction on their number. -/
theorem searchDepths_scratch (depths : Nat) (beam : List BeamScratchCandidate)
    (state : ScratchState)
    (hsized : state.vectors.decided.length = context.search.input.remainingActivities.length)
    (hbest : ∀ best, state.search.bestComplete = some best →
      ∃ path, Represents context.search.input state.search.pathNodes best path ∧
        path.length = context.search.input.remainingActivities.length)
    (hmem : ∀ candidate ∈ beam,
      ∃ path, Represents context.search.input state.search.pathNodes candidate path)
    (hdist : (beam.map (reconstructDecisions state.search.pathNodes)).Nodup) :
    (context.searchDepths depths beam state).2 =
        context.search.searchDepths depths beam state.search ∧
      ∀ expanded ∈ (context.searchDepths depths beam state).1, ChildrenApart expanded := by
  induction depths generalizing beam state with
  | zero =>
    rw [ScratchContext.searchDepths, SearchContext.searchDepths]
    cases state.search.bestComplete with
    | none => exact ⟨rfl, by simp⟩
    | some => exact ⟨rfl, by simp⟩
  | succ _ ih =>
    have hstart : SearchInvariant context.search.input { state.search with children := [] } :=
      ⟨by simp, hbest, by simp⟩
    have hcleared : ∀ candidate ∈ beam, ∃ path, Represents context.search.input
        { state.search with children := [] }.pathNodes candidate path := hmem
    have hsim : Simulates (SameDepth context { state.search with children := [] })
        (beam.foldlM context.expandParent
          { state with search := { state.search with children := [] } })
        (beam.foldlM context.search.expandParent { state.search with children := [] }) :=
      expandBeam_simulates hprepared hinput hsized hcleared hstart
    rw [ScratchContext.searchDepths, SearchContext.searchDepths]
    cases hres : beam.foldlM context.expandParent
        { state with search := { state.search with children := [] } } with
    | error =>
      cases hplain : beam.foldlM context.search.expandParent
          { state.search with children := [] } with
      | error =>
        rw [hres, hplain] at hsim
        exact ⟨hsim, by simp⟩
      | ok =>
        rw [hres, hplain] at hsim
        cases hsim
    | ok expanded =>
      cases hplain : beam.foldlM context.search.expandParent
          { state.search with children := [] } with
      | error =>
        rw [hres, hplain] at hsim
        cases hsim
      | ok =>
        rw [hres, hplain] at hsim
        obtain ⟨rfl, hexpanded, hdepth⟩ := hsim
        have hnodup := expanded_nodup hinput hprepared hcleared hstart rfl hdist hplain
        have hapart : ChildrenApart _ := (pairwise_map.mp hnodup).imp childBefore_total
        have hbeam := selectBeam_eq hdepth.invariant.children hapart
        dsimp only
        split
        · cases expanded.search.bestComplete with
          | none => exact ⟨rfl, by simp⟩
          | some => exact ⟨rfl, by simp⟩
        · rw [hbeam]
          generalize (expanded.search.searchWasTruncated || decide
            (context.search.budget.beamWidth < expanded.search.children.length)) = truncated
          have hrest := ih (context.search.nextBeam expanded.search)
            ⟨{ expanded.search with searchWasTruncated := truncated }, context.compared expanded⟩
            hexpanded hdepth.invariant.best
            (fun candidate hcand => hdepth.invariant.children candidate (mem_nextBeam hcand))
            (nextBeam_nodup hnodup)
          refine ⟨hrest.1, fun found hfound => ?_⟩
          rcases mem_cons.mp hfound with rfl | hfound
          · exact hapart
          · exact hrest.2 found hfound

end Depths

/-- A run on any scratch that reads the rows is the run of the plain traversal,
and no two children that it sorts compare equal. -/
theorem runWithScratch_refines (routines : SearchRoutines) (input : BeamSearchInput)
    (budget : ReplanBudget) (interruptions : Interruptions) {scratch : WorkerScratch}
    (hrows : scratch.planner.useSoa = false) :
    (runWithScratch routines input budget interruptions scratch).2 =
        runBeamSearch input budget interruptions .fresh ∧
      ∀ state ∈ (runWithScratch routines input budget interruptions scratch).1,
        ChildrenApart state := by
  cases hvalid : input.isValid && budget.isValid with
  | false =>
    rw [Bool.and_eq_false_iff] at hvalid
    unfold runWithScratch runBeamSearch runBeamSearchTraced
    rcases hvalid with hbad | hbad <;> simp [hbad]
  | true =>
    obtain ⟨hinput, hbudget⟩ := Bool.and_eq_true_iff.mp hvalid
    have hprepared : SearchContext.Prepared
        ⟨input, budget, interruptions, none, scratch.planner.tailOptimizationMask⟩ :=
      fun columns hsome => by cases hsome
    have hadm : Admitted input budget scratch.planner :=
      ⟨hinput, hbudget, fun hsoa => by rw [hrows] at hsoa; cases hsoa⟩
    rw [runBeamSearch, ← run_plain hadm]
    obtain ⟨score, hscore⟩ := scoreCandidate_nil_isSome hinput
    unfold runWithScratch runBeamSearchTraced WorkerScratch.reset PlannerScratch.reset
    simp only [hinput, hbudget, hrows, score_scratch, score_row hprepared hinput, hscore,
      Bool.not_true, Bool.or_self, Bool.false_eq_true, if_false]
    split
    · exact ⟨rfl, by simp⟩
    split
    · exact ⟨rfl, by simp⟩
    split
    · exact ⟨rfl, by simp⟩
    rename_i hne
    have hinitial := beamInvariant_initial hscore (by simpa using hne)
    have hsearch := @searchDepths_scratch
      ⟨⟨input, budget, interruptions, none, scratch.planner.tailOptimizationMask⟩,
        routines.sorting, routines.partialSorting, routines.residue⟩ hprepared hinput
      input.remainingActivities.length [⟨none, 0, score⟩]
      ⟨⟨[], [], [], none, 0, 0, false⟩,
        ⟨resize [] input.remainingActivities.length false, [], [], [],
          routines.residue.score scratch.score.reset []⟩⟩
      (length_resize ..) hinitial.best hinitial.members (nodup_singleton _)
    exact ⟨congrArg Prod.snd hsearch.1, hsearch.2⟩

/-- The result of the search depends neither on the optimisations that are
switched on, nor on what the scratch held, nor on how the sorts treat
equivalent items; there are none. -/
theorem optimizations_keep_results (routines others : SearchRoutines) (input : BeamSearchInput)
    (budget : ReplanBudget) (interruptions : Interruptions) {scratch other : WorkerScratch}
    (hrows : scratch.planner.useSoa = false) (hother : other.planner.useSoa = false) :
    (runWithScratch routines input budget interruptions scratch).2 =
        (runWithScratch others input budget interruptions other).2 ∧
      ∀ state ∈ (runWithScratch routines input budget interruptions scratch).1,
        state.children.Pairwise fun left right =>
          SearchContext.childBefore state.pathNodes left right ∨
            SearchContext.childBefore state.pathNodes right left := by
  obtain ⟨hrun, hapart⟩ := runWithScratch_refines routines input budget interruptions hrows
  obtain ⟨hotherRun, -⟩ := runWithScratch_refines others input budget interruptions hother
  exact ⟨hrun.trans hotherRun.symm, hapart⟩

def untouched : Residue where
  score := fun scratch _ => scratch
  protectedDecided := fun marks _ => marks
  comparisons := fun vectors _ => (vectors.comparisonLeft, vectors.comparisonRight)

def smudged : Residue where
  score := fun _ _ => ⟨[true, true], [true], [], [7], [3], [], [5], [1, 2]⟩
  protectedDecided := fun _ _ => [true, true, true]
  comparisons := fun _ _ => ([⟨4, 1, 0, 0⟩], [])

def usedScratch : WorkerScratch where
  planner := { PlannerScratch.fresh with
    pathNodes := [⟨none, ⟨4, 1, 0, 0⟩⟩], decided := [true], tailOptimizationMask := 7 }
  protectedDecided := [true]
  comparisonLeft := [⟨4, 1, 0, 0⟩]
  comparisonRight := []
  score := ⟨[true], [true], [true], [9], [2], [2], [8], [8]⟩

def stableRoutines : SearchRoutines := ⟨.stable, SortRoutine.stable.toPartial, untouched⟩

def backwardRoutines : SearchRoutines :=
  ⟨SortRoutine.stable.backward, SortRoutine.stable.backward.toPartial, smudged⟩

def newScratch : WorkerScratch := ⟨.fresh, [], [], [], ⟨[], [], [], [], [], [], [], []⟩⟩

theorem optimizations_keep_twoVisits :
    (runWithScratch stableRoutines (twoVisits hourVisit walk) ⟨64, 1, 64⟩ uninterrupted
        newScratch).2 =
      (runWithScratch backwardRoutines (twoVisits hourVisit walk) ⟨64, 1, 64⟩ uninterrupted
        usedScratch).2 ∧
    (runWithScratch stableRoutines (twoVisits hourVisit walk) ⟨64, 1, 64⟩ uninterrupted
      newScratch).2.searchWasTruncated := by
  refine ⟨?_, by decide +kernel⟩
  exact (optimizations_keep_results stableRoutines backwardRoutines (twoVisits hourVisit walk)
    ⟨64, 1, 64⟩ uninterrupted rfl rfl).1

end LiveRoute.Planner
