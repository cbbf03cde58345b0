import LiveRoute.Library.EarlyExit
import LiveRoute.Planner.ColumnFacts
import LiveRoute.Planner.LowerBound

/-! One depth of the traversal. Stored candidates keep standing for the same
decisions while nodes are pushed and popped, and after a depth every accepted
extension of a beam member that survives the lower bound is a child. -/
namespace LiveRoute.Planner
open CheckedInt Sequence Domain Search EarlyExit List

structure Represents (input : BeamSearchInput) (pathNodes : List BeamPathNode)
    (candidate : BeamScratchCandidate) (path : List ExpansionDecision) : Prop where
  reaches : Reaches pathNodes candidate.pathIndex path
  depth : candidate.depth = path.length
  scored : scoreCandidate input path = some candidate.score

theorem Represents.extend (h : Represents input pathNodes candidate path)
    (hgrow : pathNodes <+: more) : Represents input more candidate path :=
  ⟨h.reaches.extend hgrow, h.depth, h.scored⟩

theorem Represents.reconstruct (h : Represents input pathNodes candidate path) :
    reconstructDecisions pathNodes candidate = path := by
  rw [reconstructDecisions, h.depth]
  exact walk_of_reaches h.reaches

def AcceptedComplete (input : BeamSearchInput) (decisions : List ExpansionDecision)
    (score : CandidateScore) : Prop :=
  decisions.length = input.remainingActivities.length ∧ scoreCandidate input decisions = some score

structure SearchInvariant (input : BeamSearchInput) (state : SearchState) : Prop where
  children : ∀ child ∈ state.children, ∃ path, Represents input state.pathNodes child path
  best : ∀ best, state.bestComplete = some best → ∃ path,
    Represents input state.pathNodes best path ∧ path.length = input.remainingActivities.length
  unbeaten : ∀ child ∈ state.children, child.depth = input.remainingActivities.length →
    Unbeaten isBetterComplete BeamScratchCandidate.score state.bestComplete child.score

def ResultSound (input : BeamSearchInput) (result : BeamSearchResult) : Prop :=
  ∀ decisions, result.bestDecisions = some decisions →
    ∃ score, result.bestScore = some score ∧ AcceptedComplete input decisions score

theorem interruptedResult_sound (h : SearchInvariant input state) :
    ResultSound input (interruptedResult outcome state.bestComplete state) := by
  intro decisions hdecs
  cases hbest : state.bestComplete with
  | none =>
    rw [hbest] at hdecs
    cases hdecs
  | some best =>
    obtain ⟨path, hpath, hlen⟩ := h.best best hbest
    rw [hbest] at hdecs
    cases Option.some.inj hdecs
    rw [hpath.reconstruct]
    exact ⟨best.score, rfl, hlen, hpath.scored⟩

/-- Leaving the traversal early reports a sound result that claims no
exhaustive search. -/
structure Interrupted (input : BeamSearchInput) (left : ReturnPoint × BeamSearchResult) : Prop where
  point : left.1.isInterruption
  sound : ResultSound input left.2
  notExhaustive : left.2.outcome ≠ .exhaustiveInfeasible

theorem leave_interrupted (h : SearchInvariant input state) {point : ReturnPoint}
    (hpoint : point.isInterruption) (hout : outcome ≠ .exhaustiveInfeasible)
    {α : Type} {continues : α → Prop} :
    Ends continues (Interrupted input) (SearchContext.leave point outcome state) := by
  refine ⟨hpoint, interruptedResult_sound h, ?_⟩
  unfold interruptedResult
  cases state.bestComplete with
  | none => exact hout
  | some => dsimp only; split <;> decide

def SearchState.keep (state : SearchState) (input : BeamSearchInput) (parent : BeamScratchCandidate)
    (decision : ExpansionDecision) (score : CandidateScore) : SearchState :=
  let child : BeamScratchCandidate := ⟨some state.pathNodes.length, parent.depth + 1, score⟩
  { state with
    pathNodes := state.pathNodes ++ [PathNode.mk parent.pathIndex decision]
    bestComplete :=
      if child.depth = input.remainingActivities.length then
        improve isBetterComplete BeamScratchCandidate.score state.bestComplete child
      else
        state.bestComplete
    children := state.children ++ [child], candidateCount := state.candidateCount + 1 }

def SearchContext.Prepared (context : SearchContext) : Prop :=
  ∀ columns, context.columns = some columns → prepareActivityColumns context.input = some columns

section RowSearch

variable {context : SearchContext} (hprepared : context.Prepared)
  (hinput : context.input.isValid)

include hprepared hinput in
theorem access_row : context.access = rowAccess context.input := by
  unfold SearchContext.access
  split
  next => rfl
  next columns hcols => exact columnAccess_eq hinput (hprepared columns hcols)

include hprepared hinput in
theorem score_row : context.score decisions = scoreCandidate context.input decisions := by
  unfold SearchContext.score scoreValidatedCandidate
  cases hcols : context.columns with
  | none =>
    rw [scoreCandidateImpl_validate hinput]
    exact ite_self _
  | some columns => simp [scoreWithColumns_eq hinput (hprepared columns hcols)]

include hprepared hinput in
theorem tryAlternative_cases : (context.tryAlternative parent state alternative = .ok state ∧
      ∀ score, scoreCandidate context.input
          (state.workingDecisions ++ [expansionDecision alternative]) = some score →
        passesProtectedActivityLowerBound context.input
          (state.workingDecisions ++ [expansionDecision alternative])
          (!context.useValidatedScore) = false) ∨
    context.tryAlternative parent state alternative =
      SearchContext.leave .maxCandidates .searchLimited state ∨
    ∃ score, scoreCandidate context.input
        (state.workingDecisions ++ [expansionDecision alternative]) = some score ∧
      context.tryAlternative parent state alternative =
        .ok (state.keep context.input parent (expansionDecision alternative) score) := by
  unfold SearchContext.tryAlternative
  simp only [score_row hprepared hinput, dropLast_concat]
  split
  next hnone => exact .inl ⟨rfl, fun score hsome => by rw [hnone] at hsome; cases hsome⟩
  next score hscore =>
    split
    next hbound => exact .inl ⟨rfl, fun _ _ => by simpa using hbound⟩
    next =>
      split
      · exact .inr (.inl rfl)
      · refine .inr (.inr ⟨score, hscore, ?_⟩)
        simp [SearchState.keep]

end RowSearch

structure Grows (start state : SearchState) : Prop where
  pathNodes : start.pathNodes <+: state.pathNodes
  children : start.children <+: state.children
  truncated : state.searchWasTruncated = start.searchWasTruncated

theorem Grows.refl : Grows state state := ⟨prefix_refl _, prefix_refl _, rfl⟩

theorem Grows.trans (hfirst : Grows first second) (hsecond : Grows second third) :
    Grows first third :=
  ⟨hfirst.pathNodes.trans hsecond.pathNodes, hfirst.children.trans hsecond.children,
    hsecond.truncated.trans hfirst.truncated⟩

def Covered (input : BeamSearchInput) (state : SearchState) (path : List ExpansionDecision) :
    Prop :=
  ∃ child ∈ state.children, Represents input state.pathNodes child path

def Explored (input : BeamSearchInput) (validateInput : Bool) (state : SearchState)
    (path : List ExpansionDecision) : Prop :=
  ∀ score, scoreCandidate input path = some score →
    passesProtectedActivityLowerBound input path validateInput → Covered input state path

theorem Explored.grows {next : SearchState} (h : Explored input validateInput state path)
    (hgrows : Grows state next) : Explored input validateInput next path := by
  intro score hscore hbound
  obtain ⟨child, hchild, hrepresents⟩ := h score hscore hbound
  exact ⟨child, hgrows.children.subset hchild, hrepresents.extend hgrows.pathNodes⟩

section Keep

variable {input : BeamSearchInput} {state : SearchState} {parent : BeamScratchCandidate}
  {path : List ExpansionDecision} {decision : ExpansionDecision} {score : CandidateScore}

theorem grows_keep : Grows state (state.keep input parent decision score) :=
  ⟨prefix_append _ _, prefix_append _ _, rfl⟩

theorem represents_keep (hparent : Represents input state.pathNodes parent path)
    (hscore : scoreCandidate input (path ++ [decision]) = some score) :
    Represents input (state.keep input parent decision score).pathNodes
      ⟨some state.pathNodes.length, parent.depth + 1, score⟩ (path ++ [decision]) :=
  ⟨hparent.reaches.push, by simp [hparent.depth], hscore⟩

theorem SearchInvariant.keep (h : SearchInvariant input state)
    (hparent : Represents input state.pathNodes parent path)
    (hscore : scoreCandidate input (path ++ [decision]) = some score) :
    SearchInvariant input (state.keep input parent decision score) := by
  have hchild := represents_keep hparent hscore
  have hgrow : state.pathNodes <+: (state.keep input parent decision score).pathNodes :=
    grows_keep.pathNodes
  have hmember : ∀ child ∈ (state.keep input parent decision score).children,
      child ∈ state.children ∨ child = ⟨some state.pathNodes.length, parent.depth + 1, score⟩ := by
    intro child hmem
    rcases mem_append.mp hmem with hold | hnew
    · exact .inl hold
    · exact .inr (mem_singleton.mp hnew)
  refine ⟨?_, ?_, ?_⟩
  · intro child hmem
    rcases hmember child hmem with hold | rfl
    · obtain ⟨old, hold⟩ := h.children child hold
      exact ⟨old, hold.extend hgrow⟩
    · exact ⟨_, hchild⟩
  · intro best hbest
    have hold : ∀ old, state.bestComplete = some old → ∃ oldPath,
        Represents input (state.keep input parent decision score).pathNodes old oldPath ∧
          oldPath.length = input.remainingActivities.length := by
      intro old hsome
      obtain ⟨oldPath, hpath, hlen⟩ := h.best old hsome
      exact ⟨oldPath, hpath.extend hgrow, hlen⟩
    by_cases hfull : parent.depth + 1 = input.remainingActivities.length
    · simp only [SearchState.keep, hfull, if_true] at hbest
      rcases improve_cases isBetterComplete BeamScratchCandidate.score with hnew | hkept
      · rw [hnew] at hbest
        cases hbest
        refine ⟨path ++ [decision], ?_, ?_⟩
        · rw [hfull] at hchild
          exact hchild
        · rw [← hfull, ← hchild.depth]
      · rw [hkept] at hbest
        exact hold best hbest
    · simp only [SearchState.keep, hfull, if_false] at hbest
      exact hold best hbest
  · intro child hmem hdepth
    by_cases hfull : parent.depth + 1 = input.remainingActivities.length
    · simp only [SearchState.keep, hfull, if_true]
      rcases hmember child hmem with hold | rfl
      · exact (h.unbeaten child hold hdepth).improve _ _ isBetterComplete_trans
      · exact unbeaten_improve_self _ _ isBetterComplete_irrefl _ _
    · simp only [SearchState.keep, hfull, if_false]
      rcases hmember child hmem with hold | rfl
      · exact h.unbeaten child hold hdepth
      · exact absurd hdepth hfull

end Keep

structure Expanding (input : BeamSearchInput) (start : SearchState)
    (path : List ExpansionDecision) (state : SearchState) : Prop where
  invariant : SearchInvariant input state
  grows : Grows start state
  working : state.workingDecisions = path

theorem Expanding.counted (h : Expanding input start path state) :
    Expanding input start path { state with expansionCount := state.expansionCount + 1 } :=
  ⟨⟨h.invariant.children, h.invariant.best, h.invariant.unbeaten⟩,
    ⟨h.grows.pathNodes, h.grows.children, h.grows.truncated⟩, h.working⟩

theorem SearchInvariant.expanding (h : SearchInvariant input state) :
    Expanding input state path { state with workingDecisions := path } :=
  ⟨⟨h.children, h.best, h.unbeaten⟩, ⟨prefix_refl _, prefix_refl _, rfl⟩, rfl⟩

section RowSearch

variable {context : SearchContext} (hprepared : context.Prepared)
  (hinput : context.input.isValid)
  {start : SearchState} {parent : BeamScratchCandidate} {path : List ExpansionDecision}
  (hparent : Represents context.input start.pathNodes parent path)

include hprepared hinput hparent in
theorem tryAlternative_ends (h : Expanding context.input start path state) :
    Ends (fun next => Expanding context.input start path next ∧ Grows state next ∧
        Explored context.input (!context.useValidatedScore) next
          (path ++ [expansionDecision alternative]))
      (Interrupted context.input) (context.tryAlternative parent state alternative) := by
  have hwork := h.working
  have hparent := hparent.extend h.grows.pathNodes
  rcases tryAlternative_cases hprepared hinput with
    ⟨hsame, hrejected⟩ | hlimit | ⟨score, hscore, hkept⟩
  · rw [hsame]
    refine ⟨h, Grows.refl, ?_⟩
    intro score hscore hbound
    rw [hwork] at hrejected
    rw [hrejected score hscore] at hbound
    cases hbound
  · rw [hlimit]
    exact leave_interrupted h.invariant rfl (by decide)
  · rw [hwork] at hscore
    rw [hkept]
    refine ⟨⟨h.invariant.keep hparent hscore, h.grows.trans grows_keep, hwork⟩, grows_keep, ?_⟩
    intro _ _ _
    exact ⟨_, mem_append_right _ (mem_singleton.mpr rfl), represents_keep hparent hscore⟩

include hprepared hinput hparent in
theorem foldAlternatives_ends
    (h : Expanding context.input start path state) (alternatives : List CandidateAlternative) :
    Ends (fun next => Expanding context.input start path next ∧ Grows state next ∧
        ∀ alternative ∈ alternatives, Explored context.input (!context.useValidatedScore) next
          (path ++ [expansionDecision alternative])) (Interrupted context.input)
      (alternatives.foldlM (context.tryAlternative parent) state) := by
  refine Ends.foldlM (fun handled next => Expanding context.input start path next ∧
    Grows state next ∧ ∀ alternative ∈ handled,
      Explored context.input (!context.useValidatedScore) next
        (path ++ [expansionDecision alternative])) ⟨h, Grows.refl, by simp⟩ ?_
  rintro handled alternative next - ⟨hexp, hgrown, hexpl⟩
  refine (tryAlternative_ends hprepared hinput hparent hexp).mono ?_ (fun _ h => h)
  rintro final ⟨hfinal, hstep, hnew⟩
  refine ⟨hfinal, hgrown.trans hstep, ?_⟩
  intro other hother
  rcases mem_append.mp hother with hold | hlast
  · exact (hexpl other hold).grows hstep
  · rw [mem_singleton.mp hlast]
    exact hnew

def expansionArrival (input : BeamSearchInput) (path : List ExpansionDecision) (index : Nat) :
    Int :=
  (actualArrival input (rowAccess input) path index).getD input.planningHorizonEnd.toInt

/-- Every alternative of the activity at `index` has been explored, if the
activity was still undecided. -/
def ActivityExplored (context : SearchContext) (path : List ExpansionDecision)
    (decided : List Bool) (state : SearchState) (index : Nat) : Prop :=
  ∀ planning, context.input.remainingActivities[index]? = some planning →
    decided.getD index false = false →
    ∀ alternative ∈ generateCandidateAlternativesImpl context.input planning
    (expansionArrival context.input path index) (!context.useValidatedScore), Explored context.input
    (!context.useValidatedScore) state (path ++ [expansionDecision alternative])

theorem ActivityExplored.grows {next : SearchState}
    (h : ActivityExplored context path decided state index)
    (hgrows : Grows state next) : ActivityExplored context path decided next index :=
  fun planning hplan hund alternative hmem => (h planning hplan hund alternative hmem).grows hgrows

include hprepared hinput in
theorem Expanding.arrival (h : Expanding context.input start path state) :
    (actualArrival context.input context.access state.workingDecisions index).getD
      context.input.planningHorizonEnd.toInt = expansionArrival context.input path index := by
  rw [access_row hprepared hinput, h.working]
  rfl

include hprepared hinput hparent in
theorem expandActivity_ends (h : Expanding context.input start path state) :
    Ends (fun next => Expanding context.input start path next ∧ Grows state next ∧
        ActivityExplored context path decided next index)
      (Interrupted context.input) (context.expandActivity parent decided state index) := by
  unfold SearchContext.expandActivity
  by_cases hdec : decided.getD index false
  · rw [if_pos hdec]
    refine ⟨h, Grows.refl, ?_⟩
    intro planning _ hund
    rw [hdec] at hund
    cases hund
  rw [if_neg hdec]
  by_cases hstop : context.interruptions.stopRequested (state.expansionCount + 1)
  · rw [if_pos hstop]
    exact leave_interrupted h.invariant rfl (by decide)
  rw [if_neg hstop]
  by_cases hdead : context.interruptions.deadlinePassed (state.expansionCount + 1)
  · rw [if_pos hdead]
    exact leave_interrupted h.invariant rfl (by decide)
  rw [if_neg hdead]
  by_cases hlimit : context.budget.maxExpansions ≤ state.expansionCount
  · rw [if_pos hlimit]
    exact leave_interrupted h.invariant rfl (by decide)
  rw [if_neg hlimit]
  cases hplan : context.input.remainingActivities[index]? with
  | none =>
    refine ⟨h, Grows.refl, ?_⟩
    intro planning hsome
    rw [hplan] at hsome
    cases hsome
  | some =>
    simp only [h.arrival hprepared hinput]
    refine (foldAlternatives_ends hprepared hinput hparent h.counted _).mono ?_
      (fun _ hleft => hleft)
    rintro final ⟨hfinal, hgrown, hexpl⟩
    refine ⟨hfinal, ⟨hgrown.pathNodes, hgrown.children, hgrown.truncated⟩, ?_⟩
    intro found hfound _
    cases hplan.symm.trans hfound
    exact hexpl

end RowSearch

theorem expansionDecision_of_scheduled {alternative : CandidateAlternative}
    {decision : ExpansionDecision} (hkind : alternative.kind = .scheduled)
    (hdec : decision.decision = 0) (hord : alternative.activityOrdinal = decision.activityOrdinal)
    (hstart : alternative.start = decision.startUnixMs)
    (hfinish : alternative.finish = decision.endUnixMs) :
    expansionDecision alternative = decision := by
  cases decision
  cases alternative
  simp_all [expansionDecision]

/-- Every accepted extension of a path is one of the alternatives the search
generates for an activity the path leaves undecided. -/
theorem generated_of_accepted {input : BeamSearchInput} (hinput : input.isValid)
    {next : ScoreLoop} (h : scoringLoop input (path ++ [decision]) = some next) :
    ∃ index planning alternative, input.remainingActivities[index]? = some planning ∧
      planning.originalTripOrdinal ∉ path.map ExpansionDecision.activityOrdinal ∧
      alternative ∈ generateCandidateAlternativesImpl input planning
        (expansionArrival input path index) validateInput ∧
      expansionDecision alternative = decision := by
  rw [scoringLoop_append] at h
  obtain ⟨state, hstate, hstep⟩ := Option.bind_eq_some_iff.mp h
  obtain ⟨_, hstep, -⟩ := Option.bind_eq_some_iff.mp hstep
  obtain ⟨index, planning, -, hplan, -, hund, hcase⟩ := scoreStep_cases hstep
  have hnew : planning.originalTripOrdinal ∉ path.map ExpansionDecision.activityOrdinal := by
    rw [← (scoringLoop_invariant hinput hstate).decided index planning hplan, hund]
    exact Bool.false_ne_true
  have hvalid := planning_isValid hinput (mem_of_getElem? hplan)
  cases hcase with
  | skipped _ _ hdec hskip =>
    exact ⟨index, planning, skipAlternative planning, hplan, hnew,
      skipAlternative_mem_generateImpl hinput hvalid hskip, hdec.symm⟩
  | scheduled _ arrival _ hdec _ htravel harr hoffered =>
    obtain ⟨alternative, hmem, hkind, hsame, hstart, hfinish⟩ :=
      mem_of_containsScheduledAlternative hoffered
    have harrivalEq : expansionArrival input path index = arrival := by
      unfold expansionArrival actualArrival
      rw [lastScheduledState_eq hstate]
      change ((routeDurationMilliseconds (input.route state.origin (index + 1))).bind
        (checkedAdd state.priorScheduledEnd)).getD _ = arrival
      rw [htravel, Option.bind_some, harr, Option.getD_some]
    refine ⟨index, planning, alternative, hplan, hnew, ?_,
      expansionDecision_of_scheduled hkind hdec hsame hstart hfinish⟩
    rw [harrivalEq, generateImpl_validate hinput]
    exact hmem

theorem mem_activityOrder {input : BeamSearchInput}
    (h : input.remainingActivities[index]? = some planning) :
    index ∈ SearchContext.activityOrder input := by
  rw [SearchContext.activityOrder, mem_sortBy, mem_range]
  exact (List.getElem?_eq_some_iff.mp h).1

structure DepthState (input : BeamSearchInput) (start state : SearchState) : Prop where
  invariant : SearchInvariant input state
  grows : Grows start state

section RowSearch

variable {context : SearchContext} (hprepared : context.Prepared)
  (hinput : context.input.isValid) {start : SearchState}

include hprepared hinput in
theorem expandParent_ends (h : DepthState context.input start state)
    (hparent : Represents context.input start.pathNodes parent path) :
    Ends (fun next => DepthState context.input start next ∧ Grows state next ∧
        ∀ decision, Explored context.input (!context.useValidatedScore) next (path ++ [decision]))
      (Interrupted context.input) (context.expandParent state parent) := by
  have hreach := hparent.extend h.grows.pathNodes
  obtain ⟨-, -, loop, hloop, -⟩ := scoreCandidate_eq_some.mp hparent.scored
  obtain ⟨decided, hdec, -, hmarks⟩ := decidedFlags_eq hinput (scoringLoop_invariant hinput hloop)
  have hindex : context.access.activityIndex = context.input.activityIndexForOrdinal := by
    rw [access_row hprepared hinput]
    rfl
  unfold SearchContext.expandParent
  simp only [hreach.reconstruct, hindex, hdec]
  refine Ends.mono (Ends.foldlM (fun handled next => Expanding context.input state path next ∧
    ∀ index ∈ handled, ActivityExplored context path decided next index)
    ⟨h.invariant.expanding, by simp⟩ ?_) ?_ (fun _ hleft => hleft)
  · rintro handled index next - ⟨hexp, hexpl⟩
    refine (expandActivity_ends hprepared hinput hreach hexp).mono ?_ (fun _ hleft => hleft)
    rintro final ⟨hfinal, hstep, hnew⟩
    refine ⟨hfinal, ?_⟩
    intro other hother
    rcases mem_append.mp hother with hold | hlast
    · exact (hexpl other hold).grows hstep
    · rw [mem_singleton.mp hlast]
      exact hnew
  · rintro final ⟨hfinal, hexpl⟩
    refine ⟨⟨hfinal.invariant, h.grows.trans hfinal.grows⟩, hfinal.grows, ?_⟩
    intro decision score hscore
    obtain ⟨-, -, next, hnext, -⟩ := scoreCandidate_eq_some.mp hscore
    obtain ⟨index, planning, alternative, hplan, hnew, hmem, rfl⟩ :=
      generated_of_accepted hinput hnext
    have hund : decided.getD index false = false := by
      rw [← hmarks index planning hplan] at hnew
      simpa using hnew
    exact hexpl index (mem_activityOrder hplan) planning hplan hund alternative hmem score hscore

include hprepared hinput in
theorem expandBeam_ends {beam : List BeamScratchCandidate}
    (hbeam : ∀ candidate ∈ beam, ∃ path, Represents context.input start.pathNodes candidate path)
    (hstart : SearchInvariant context.input start) :
    Ends (fun next => DepthState context.input start next ∧
        ∀ parent ∈ beam, ∀ path, Represents context.input start.pathNodes parent path →
          ∀ decision, Explored context.input (!context.useValidatedScore) next (path ++ [decision]))
      (Interrupted context.input) (beam.foldlM context.expandParent start) := by
  refine Ends.foldlM (fun handled next => DepthState context.input start next ∧
    ∀ parent ∈ handled, ∀ path, Represents context.input start.pathNodes parent path →
      ∀ decision, Explored context.input (!context.useValidatedScore) next (path ++ [decision]))
    ⟨⟨hstart, Grows.refl⟩, by simp⟩ ?_
  rintro handled parent next hmem ⟨hdepth, hexpl⟩
  obtain ⟨path, hpath⟩ := hbeam parent hmem
  refine (expandParent_ends hprepared hinput hdepth hpath).mono ?_ (fun _ hleft => hleft)
  rintro final ⟨hfinal, hstep, hnew⟩
  refine ⟨hfinal, ?_⟩
  intro other hother otherPath hotherPath decision
  rcases mem_append.mp hother with hold | hlast
  · exact (hexpl other hold otherPath hotherPath decision).grows hstep
  · cases mem_singleton.mp hlast
    rw [← hpath.reconstruct, hotherPath.reconstruct] at hnew
    exact hnew decision

end RowSearch

end LiveRoute.Planner
