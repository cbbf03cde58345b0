import LiveRoute.Planner.SearchFacts

/-! Whole traversals. Every way a run can end comes with a verdict on its
result: the plan is sound, infeasibility is never claimed wrongly, and a run
that was neither cut short nor truncated returns an optimal plan. -/
namespace LiveRoute.Planner
open CheckedInt Sequence Domain Search EarlyExit List

variable {input : BeamSearchInput} {state : SearchState}

structure Verdict (input : BeamSearchInput) (left : ReturnPoint × BeamSearchResult) : Prop where
  sound : ResultSound input left.2
  infeasible : left.2.outcome = .exhaustiveInfeasible →
    ∀ decisions score, ¬AcceptedComplete input decisions score
  optimal : left.1.isInterruption = false → left.2.searchWasTruncated = false →
    left.2.outcome ≠ .exhaustiveInfeasible → left.2.outcome = .complete ∧ ∃ best,
    left.2.bestScore = some best ∧ (∃ decisions, AcceptedComplete input decisions best) ∧
    ∀ decisions score, AcceptedComplete input decisions score → isBetterComplete score best = false

theorem Interrupted.verdict (h : Interrupted input left) : Verdict input left where
  sound := h.sound
  infeasible := fun hout => absurd hout h.notExhaustive
  optimal := fun hpoint => by rw [h.point] at hpoint; cases hpoint

/-- The state before depth `depth` is expanded. -/
structure BeamInvariant (input : BeamSearchInput) (depth : Nat)
    (beam : List BeamScratchCandidate) (state : SearchState) : Prop where
  best : ∀ best, state.bestComplete = some best → ∃ path,
    Represents input state.pathNodes best path ∧ path.length = input.remainingActivities.length
  members : ∀ candidate ∈ beam, ∃ path, Represents input state.pathNodes candidate path
  covers : state.searchWasTruncated = false → ∀ decisions score,
    AcceptedComplete input decisions score →
    ∃ candidate ∈ beam, Represents input state.pathNodes candidate (decisions.take depth)
  unbeaten : depth = input.remainingActivities.length → state.searchWasTruncated = false →
    ∀ decisions score, AcceptedComplete input decisions score →
    Unbeaten isBetterComplete BeamScratchCandidate.score state.bestComplete score

def SearchState.concluded (state : SearchState) (point : ReturnPoint) :
    ReturnPoint × BeamSearchResult :=
  match state.bestComplete with
  | none => (point, interruptedResult (SearchContext.infeasibleOutcome state) none state)
  | some best => (point, interruptedResult .complete (some best) state)

theorem concluded_verdict (hbest : ∀ best, state.bestComplete = some best →
      ∃ path, Represents input state.pathNodes best path ∧
        path.length = input.remainingActivities.length)
    (hunbeaten : state.searchWasTruncated = false → ∀ decisions score,
      AcceptedComplete input decisions score →
      Unbeaten isBetterComplete BeamScratchCandidate.score state.bestComplete score)
    (point : ReturnPoint) : Verdict input (state.concluded point) := by
  unfold SearchState.concluded
  cases hcase : state.bestComplete with
  | none =>
    refine { sound := ?_, infeasible := ?_, optimal := ?_ }
    · intro decisions hdecs
      cases hdecs
    · intro hout decisions score hacc
      have hfull : state.searchWasTruncated = false := by
        cases htruncated : state.searchWasTruncated with
        | false => rfl
        | true => simp [interruptedResult, SearchContext.infeasibleOutcome, htruncated] at hout
      obtain ⟨incumbent, hinc, -⟩ := hunbeaten hfull decisions score hacc
      rw [hcase] at hinc
      cases hinc
    · intro _ hfull hout
      have hfalse : state.searchWasTruncated = false := hfull
      simp [interruptedResult, SearchContext.infeasibleOutcome, hfalse] at hout
  | some best =>
    obtain ⟨path, hpath, hlen⟩ := hbest best hcase
    refine { sound := ?_, infeasible := ?_, optimal := ?_ }
    · intro decisions hdecs
      cases Option.some.inj hdecs
      rw [hpath.reconstruct]
      exact ⟨best.score, rfl, hlen, hpath.scored⟩
    · intro hout
      cases hout
    · intro _ hfull _
      refine ⟨rfl, best.score, rfl, ⟨path, hlen, hpath.scored⟩, ?_⟩
      intro decisions score hacc
      obtain ⟨incumbent, hinc, hworse⟩ := hunbeaten hfull decisions score hacc
      rw [hcase] at hinc
      cases hinc
      exact hworse

theorem accepted_take (h : AcceptedComplete input decisions score) :
    (∃ score', scoreCandidate input (decisions.take depth) = some score') ∧
      passesProtectedActivityLowerBound input (decisions.take depth) validateInput := by
  have hsplit : decisions.take depth ++ decisions.drop depth = decisions :=
    take_append_drop depth decisions
  have hscore : scoreCandidate input (decisions.take depth ++ decisions.drop depth) =
      some score := by rw [hsplit]; exact h.2
  refine ⟨?_, lowerBound_of_completion hscore (by rw [hsplit]; exact h.1)⟩
  by_cases hshort : (decisions.take depth).length < input.remainingActivities.length
  · exact scoreCandidate_initial hscore hshort
  have hfull : decisions.take depth = decisions := by
    apply take_of_length_le
    rw [length_take] at hshort
    rw [h.1]
    omega
  rw [hfull]
  exact ⟨score, h.2⟩

section RowSearch

variable {context : SearchContext} (hprepared : context.Prepared)
  (hinput : context.input.isValid)

theorem covered_children (hbeam : BeamInvariant context.input depth beam state)
    (hdepth : depth < context.input.remainingActivities.length)
    (hfull : state.searchWasTruncated = false) (hexpl : ∀ parent ∈ beam, ∀ path,
      Represents context.input state.pathNodes parent path →
        ∀ decision, Explored context.input (!context.useValidatedScore) expanded
          (path ++ [decision])) (hacc : AcceptedComplete context.input decisions score) :
    Covered context.input expanded (decisions.take (depth + 1)) := by
  obtain ⟨parent, hparent, hpath⟩ := hbeam.covers hfull decisions score hacc
  have hbound : depth < decisions.length := by rw [hacc.1]; exact hdepth
  have hnext : decisions.take (depth + 1) = decisions.take depth ++ [decisions[depth]] :=
    (take_append_getElem hbound).symm
  obtain ⟨⟨score', hscore'⟩, hpasses⟩ := accepted_take hacc
  rw [hnext] at hscore' hpasses ⊢
  exact hexpl parent hparent _ hpath _ score' hscore' hpasses

theorem mem_nextBeam (h : candidate ∈ context.nextBeam state) : candidate ∈ state.children := by
  unfold SearchContext.nextBeam at h
  split at h
  · exact (mem_sortBy ..).mp (mem_of_mem_take h)
  · exact (mem_sortBy ..).mp h

theorem nextBeam_of_fits (hfits : ¬context.budget.beamWidth < state.children.length)
    (h : candidate ∈ state.children) : candidate ∈ context.nextBeam state := by
  unfold SearchContext.nextBeam
  simp only [hfits, if_false]
  exact (mem_sortBy ..).mpr h

include hprepared hinput in
/-- The remaining depths end in a verdict, by induction on their number. -/
theorem searchDepths_verdict (depths depth : Nat) (beam : List BeamScratchCandidate)
    (state : SearchState) (hcount : depth + depths = context.input.remainingActivities.length)
    (hbeam : BeamInvariant context.input depth beam state) :
    Verdict context.input (context.searchDepths depths beam state) := by
  induction depths generalizing depth beam state with
  | zero =>
    have hverd := concluded_verdict hbeam.best (hbeam.unbeaten (by omega)) ReturnPoint.searched
    exact hverd
  | succ _ ih =>
    have hstart : SearchInvariant context.input { state with children := [] } :=
      ⟨by simp, hbeam.best, by simp⟩
    have hmem : ∀ candidate ∈ beam, ∃ path,
        Represents context.input { state with children := [] }.pathNodes candidate path :=
      hbeam.members
    have hends := expandBeam_ends hprepared hinput hmem hstart
    unfold SearchContext.searchDepths
    cases hres : beam.foldlM context.expandParent { state with children := [] } with
    | error =>
      rw [hres] at hends
      exact Interrupted.verdict hends
    | ok expanded =>
      rw [hres] at hends
      obtain ⟨⟨hinv, hgrows⟩, hexpl⟩ := hends
      have hkept : expanded.searchWasTruncated = state.searchWasTruncated := hgrows.truncated
      have hcov : expanded.searchWasTruncated = false → ∀ decisions score,
          AcceptedComplete context.input decisions score →
          Covered context.input expanded (decisions.take (depth + 1)) :=
        fun huntruncated decisions score hacc =>
          covered_children hbeam (by omega) (hkept ▸ huntruncated) hexpl hacc
      dsimp only
      split
      next hempty =>
        have hnone : ∀ decisions score, expanded.searchWasTruncated = false →
            ¬AcceptedComplete context.input decisions score := by
          intro decisions score huntruncated hacc
          obtain ⟨child, hchild, -⟩ := hcov huntruncated decisions score hacc
          rw [isEmpty_iff.mp hempty] at hchild
          cases hchild
        have hverd := concluded_verdict hinv.best (fun huntruncated decisions score hacc =>
            absurd hacc (hnone decisions score huntruncated)) ReturnPoint.noChildren
        unfold SearchState.concluded at hverd
        cases hbest : expanded.bestComplete <;> rw [hbest] at hverd <;> exact hverd
      next =>
        refine ih (depth + 1) _ _ (by omega) ⟨hinv.best, ?_, ?_, ?_⟩
        · intro candidate hcand
          exact hinv.children candidate (mem_nextBeam hcand)
        · intro huntruncated decisions score hacc
          simp only [Bool.or_eq_false_iff, decide_eq_false_iff_not] at huntruncated
          obtain ⟨child, hchild, hpath⟩ := hcov huntruncated.1 decisions score hacc
          exact ⟨child, nextBeam_of_fits huntruncated.2 hchild, hpath⟩
        · intro hfull huntruncated decisions score hacc
          simp only [Bool.or_eq_false_iff] at huntruncated
          obtain ⟨child, hchild, hpath⟩ := hcov huntruncated.1 decisions score hacc
          have hall : decisions.take (depth + 1) = decisions :=
            take_of_length_le (by rw [hacc.1, hfull])
          rw [hall] at hpath
          have hscore : child.score = score := Option.some.inj (hpath.scored.symm.trans hacc.2)
          rw [← hscore]
          exact hinv.unbeaten child hchild (hpath.depth.trans hacc.1)

end RowSearch

def Admitted (input : BeamSearchInput) (budget : ReplanBudget) (scratch : PlannerScratch) : Prop :=
  input.isValid ∧ budget.isValid ∧
    (scratch.useSoa → input.remainingActivities.all rowConvertible)

theorem prepareActivityColumns_eq_none (h : prepareActivityColumns input = none) :
    input.remainingActivities.all rowConvertible = false := by
  unfold prepareActivityColumns at h
  dsimp only at h
  split at h
  next => cases h
  next hfails => simpa using hfails

theorem interrupted_empty {point : ReturnPoint} {result : BeamSearchResult}
    (hpoint : point.isInterruption) (hdecs : result.bestDecisions = none)
    (hout : result.outcome ≠ .exhaustiveInfeasible) : Interrupted input (point, result) where
  point := hpoint
  sound := by
    intro decisions hsome
    cases hdecs.symm.trans hsome
  notExhaustive := hout

theorem nothingToDecide_verdict (hempty : input.remainingActivities.isEmpty)
    (hscore : scoreCandidate input [] = some score) :
    Verdict input (.nothingToDecide, { emptyResult .complete with
      bestDecisions := some []
      bestScore := some score }) := by
  have hlen : input.remainingActivities.length = 0 := by
    rw [isEmpty_iff.mp hempty]
    rfl
  have hacc : AcceptedComplete input [] score := ⟨hlen.symm, hscore⟩
  refine { sound := ?_, infeasible := ?_, optimal := ?_ }
  · intro decisions hdecs
    cases hdecs
    exact ⟨score, rfl, hacc⟩
  · intro hout
    cases hout
  · intro _ _ _
    refine ⟨rfl, score, rfl, ⟨[], hacc⟩, ?_⟩
    intro decisions other hother
    rw [length_eq_zero_iff.mp (hother.1.trans hlen)] at hother
    cases hscore.symm.trans hother.2
    exact isBetterComplete_irrefl score

theorem beamInvariant_initial (hscore : scoreCandidate input [] = some score)
    (hne : input.remainingActivities.isEmpty = false) :
    BeamInvariant input 0 [⟨none, 0, score⟩] ⟨[], [], [], none, 0, 0, false⟩ := by
  have hroot : Represents input [] ⟨none, 0, score⟩ [] := ⟨Reaches.root, rfl, hscore⟩
  refine { best := ?_, members := ?_, covers := ?_, unbeaten := ?_ }
  · intro best hbest
    cases hbest
  · intro candidate hcand
    rw [mem_singleton.mp hcand]
    exact ⟨[], hroot⟩
  · intro _ decisions other _
    exact ⟨_, mem_singleton_self _, by simpa using hroot⟩
  · intro hfull
    rw [isEmpty_eq_false_iff, ← length_pos_iff] at hne
    omega

theorem run_verdict :
    (¬Admitted input budget scratch ∧ runBeamSearchTraced input budget interruptions scratch =
        (.invalid, emptyResult .invalidInput)) ∨
    Verdict input (runBeamSearchTraced input budget interruptions scratch) := by
  unfold runBeamSearchTraced
  dsimp only
  split
  next hbad =>
    refine .inl ⟨?_, rfl⟩
    rintro ⟨hinput, hbudget, -⟩
    simp [hinput, hbudget] at hbad
  next hvalid =>
    have hinput : input.isValid := by cases hinput : input.isValid <;> simp_all
    split
    next hunprepared =>
      refine .inl ⟨?_, rfl⟩
      rintro ⟨-, -, hconv⟩
      split at hunprepared
      next hsoa =>
        rw [Option.map_eq_none_iff] at hunprepared
        have hfails := prepareActivityColumns_eq_none hunprepared
        rw [hconv hsoa] at hfails
        cases hfails
      next => cases hunprepared
    next columns hcols =>
      refine .inr ?_
      have hprepared : SearchContext.Prepared
          ⟨input, budget, interruptions, columns, scratch.reset.tailOptimizationMask⟩ := by
        intro found hfound
        cases hfound
        split at hcols
        next => simpa using hcols
        next => cases hcols
      split
      next => exact (interrupted_empty rfl rfl (by decide)).verdict
      next =>
        split
        next => exact (interrupted_empty rfl rfl (by decide)).verdict
        next =>
          rw [score_row hprepared hinput]
          obtain ⟨score, hscore⟩ := scoreCandidate_nil_isSome hinput
          rw [hscore]
          dsimp only
          split
          next hempty => exact nothingToDecide_verdict hempty hscore
          next hne =>
            exact searchDepths_verdict hprepared hinput _ 0 _ _ (Nat.zero_add _)
              (beamInvariant_initial hscore (by simpa using hne))

end LiveRoute.Planner
