import LiveRoute.Planner.Guarantees

/-! The switches of the scratch. Reading columns instead of rows and leaving
out the repeated validation of a valid input do not change a traversal; the
only difference is that the columns of some inputs cannot be prepared. -/
namespace LiveRoute.Planner
open CheckedInt Sequence Domain Search EarlyExit
open SearchContext (tryAlternative expandActivity expandParent searchDepths leave infeasibleOutcome)

variable {input : BeamSearchInput} {budget : ReplanBudget} {scratch : PlannerScratch}

theorem lowerBound_validate (hinput : input.isValid) :
    passesProtectedActivityLowerBound input decisions validateInput =
      passesProtectedActivityLowerBound input decisions true := by
  unfold passesProtectedActivityLowerBound
  simp only [generateImpl_validate hinput]

def SearchContext.plain (context : SearchContext) : SearchContext :=
  { context with columns := none, mask := 0 }

section Plain

variable {context : SearchContext} (hprepared : context.Prepared)
  (hinput : context.input.isValid)

include hprepared hinput in
theorem score_plain : context.score = context.plain.score := by
  funext decisions
  have hplain : context.plain.Prepared := nofun
  rw [score_row hprepared hinput, score_row hplain hinput]
  rfl

include hprepared hinput in
theorem access_plain : context.access = context.plain.access := by
  rw [access_row hprepared hinput]
  rfl

include hprepared hinput in
theorem tryAlternative_plain : context.tryAlternative = context.plain.tryAlternative := by
  funext parent state alternative
  unfold tryAlternative
  rw [score_plain hprepared hinput]
  simp only [lowerBound_validate hinput, lowerBound_validate
    (show context.plain.input.isValid from hinput)]
  rfl

include hprepared hinput in
theorem expandActivity_plain : context.expandActivity = context.plain.expandActivity := by
  funext parent decided state activityIndex
  unfold expandActivity
  rw [tryAlternative_plain hprepared hinput, access_plain hprepared hinput]
  simp only [generateImpl_validate hinput, generateImpl_validate
    (show context.plain.input.isValid from hinput)]
  rfl

include hprepared hinput in
theorem expandParent_plain : context.expandParent = context.plain.expandParent := by
  funext state parent
  unfold expandParent
  rw [expandActivity_plain hprepared hinput, access_plain hprepared hinput]
  rfl

include hprepared hinput in
theorem searchDepths_plain (depths : Nat) (beam : List BeamScratchCandidate) (state : SearchState) :
    context.searchDepths depths beam state = context.plain.searchDepths depths beam state := by
  induction depths generalizing beam state with
  | zero => rfl
  | succ _ ih =>
    rw [searchDepths, expandParent_plain hprepared hinput]
    simp only [ih]
    rfl

end Plain

theorem run_plain (hadm : Admitted input budget scratch) (interruptions : Interruptions) :
    runBeamSearchTraced input budget interruptions scratch =
      runBeamSearchTraced input budget interruptions .fresh := by
  obtain ⟨hinput, hbudget, hconv⟩ := hadm
  have hcols : ∃ columns, (if scratch.useSoa then (prepareActivityColumns input).map some
      else some none) = some columns ∧ SearchContext.Prepared
        ⟨input, budget, interruptions, columns, scratch.tailOptimizationMask⟩ := by
    cases hsoa : scratch.useSoa with
    | false => exact ⟨none, rfl, fun columns hsome => by cases hsome⟩
    | true =>
      cases hprepare : prepareActivityColumns input with
      | none =>
        have hfails := prepareActivityColumns_eq_none hprepare
        rw [hconv hsoa] at hfails
        cases hfails
      | some columns =>
        refine ⟨some columns, rfl, fun found hfound => ?_⟩
        cases hfound
        exact hprepare
  obtain ⟨columns, hsome, hprepared⟩ := hcols
  have hscore := congrFun (score_plain hprepared hinput) []
  have hsearch := searchDepths_plain hprepared hinput
  unfold runBeamSearchTraced PlannerScratch.reset
  dsimp only
  rw [hsome]
  simp only [hinput, hbudget, hscore, hsearch]
  rfl

def Answers (left : ReturnPoint × BeamSearchResult) : Prop :=
  left.2.outcome = .invalidInput → left.1.isInterruption = false

theorem interruptedResult_outcome
    (h : (interruptedResult outcome best state).outcome = .invalidInput) :
    outcome = .invalidInput := by
  cases best with
  | none => exact h
  | some =>
    simp only [interruptedResult] at h
    split at h <;> cases h

theorem leave_answers {α : Type} {point : ReturnPoint}
    (h : outcome = .invalidInput → point.isInterruption = false) :
    Ends (fun _ : α => True) Answers (leave point outcome state) :=
  fun hbad => h (interruptedResult_outcome hbad)

section Answers

variable (context : SearchContext)

theorem tryAlternative_answers :
    Ends (fun _ => True) Answers (context.tryAlternative parent state alternative) := by
  fun_cases tryAlternative context parent state alternative
  case case3 => exact leave_answers (by decide)
  all_goals trivial

theorem expandActivity_answers :
    Ends (fun _ => True) Answers (context.expandActivity parent decided state activityIndex) := by
  fun_cases expandActivity context parent decided state activityIndex
  case case1 | case5 => trivial
  case case6 =>
    exact Ends.foldlM (fun _ _ => True) trivial
      fun _ alternative state _ _ => tryAlternative_answers context
  all_goals exact leave_answers (by decide)

theorem expandParent_answers :
    Ends (fun _ => True) Answers (context.expandParent state parent) := by
  unfold expandParent
  dsimp only
  split
  · exact leave_answers fun _ => rfl
  next decided _ =>
    exact Ends.foldlM (fun _ _ => True) trivial
      fun _ index state _ _ => expandActivity_answers context

variable {context} (hprepared : context.Prepared) (hinput : context.input.isValid)

include hprepared hinput in
theorem searchDepths_answers (beam : List BeamScratchCandidate) (state : SearchState)
    (hbest : ∀ best, state.bestComplete = some best →
      ∃ path, Represents context.input state.pathNodes best path ∧
        path.length = context.input.remainingActivities.length)
    (hmem : ∀ candidate ∈ beam, ∃ path, Represents context.input state.pathNodes candidate path) :
    (context.searchDepths depths beam state).2.outcome ≠ .invalidInput := by
  have hfeas : ∀ state, infeasibleOutcome state ≠ .invalidInput := by
    intro state
    unfold infeasibleOutcome
    split <;> decide
  have hcomplete : BeamSearchOutcome.complete ≠ .invalidInput := by decide
  induction depths generalizing beam state with
  | zero =>
    rw [searchDepths]
    split
    · exact fun h => hfeas state (interruptedResult_outcome h)
    · exact fun h => hcomplete (interruptedResult_outcome h)
  | succ _ ih =>
    have hstart : SearchInvariant context.input { state with children := [] } :=
      ⟨by simp, hbest, by simp⟩
    have hmem : ∀ candidate ∈ beam, ∃ path,
        Represents context.input { state with children := [] }.pathNodes candidate path := hmem
    have hends := expandBeam_ends hprepared hinput hmem hstart
    have hanswers : Ends (fun _ => True) Answers
        (beam.foldlM context.expandParent { state with children := [] }) :=
      Ends.foldlM (fun _ _ => True) trivial fun _ parent state _ _ => expandParent_answers context
    rw [searchDepths]
    cases hres : beam.foldlM context.expandParent { state with children := [] } with
    | error =>
      rw [hres] at hends hanswers
      intro hbad
      have hpoint := hanswers hbad
      rw [hends.point] at hpoint
      cases hpoint
    | ok expanded =>
      rw [hres] at hends
      have hinv := hends.1.invariant
      dsimp only
      split
      · split
        · exact fun h => hcomplete (interruptedResult_outcome h)
        · exact fun h => hfeas expanded (interruptedResult_outcome h)
      · exact ih _ _ hinv.best
          fun candidate hcand => hinv.children candidate (mem_nextBeam hcand)

end Answers

structure ArithmeticFits (planning : PlanningActivity) : Prop where
  duration : ∀ start finish, planning.currentPlanSegment.scheduledStart = some start →
    planning.currentPlanSegment.scheduledEnd = some finish → finish.toInt - start.toInt ≤ maxInt64
  reservation : ∀ reserved, planning.activity.timing.reservationStart = some reserved →
    reserved.toInt + planning.activity.timing.reservationGraceSeconds.toNat * 1000 ≤ maxInt64

theorem checkedSubtract_isSome_of_lt {start finish : UnixTimeMilliseconds}
    (h : start.toInt < finish.toInt) :
    (checkedSubtract finish.toInt start.toInt).isSome ↔ finish.toInt - start.toInt ≤ maxInt64 := by
  have hstart := inInt64_toInt start
  have hfinish := inInt64_toInt finish
  unfold InInt64 minInt64 maxInt64 at hstart hfinish
  unfold checkedSubtract checkedAdd minInt64 maxInt64
  split
  · split <;> simp <;> omega
  · split <;> simp <;> omega

theorem checkedAdd_isSome_of_nonneg (time : UnixTimeMilliseconds) (seconds : UInt32) :
    (checkedAdd time.toInt ((seconds.toNat : Int) * 1000)).isSome ↔
      time.toInt + seconds.toNat * 1000 ≤ maxInt64 := by
  have htime := inInt64_toInt time
  unfold InInt64 minInt64 maxInt64 at htime
  unfold checkedAdd minInt64 maxInt64
  split <;> simp <;> omega

theorem rowConvertible_iff {planning : PlanningActivity} (hvalid : planning.isValid) :
    rowConvertible planning ↔ ArithmeticFits planning := by
  have hseg : planning.currentPlanSegment.isValid := by
    simp only [PlanningActivity.isValid, Bool.and_eq_true] at hvalid
    exact hvalid.2
  unfold rowConvertible
  simp only [checkedMilliseconds_eq, Option.isSome_some, Bool.true_and, Option.bind_some,
    Bool.and_eq_true]
  refine Iff.trans (and_congr ?duration ?reservation)
    ⟨fun h => ⟨h.1, h.2⟩, fun h => ⟨h.duration, h.reservation⟩⟩
  case duration =>
    generalize planning.currentPlanSegment = segment at hseg
    unfold CurrentPlanSegment.isValid at hseg
    cases hstate : segment.state with
    | omitted =>
      simp only [hstate, Bool.and_eq_true, Option.isNone_iff_eq_none] at hseg
      simp [hseg.1]
    | scheduled =>
      cases hstart : segment.scheduledStart with
      | none => simp [hstate, hstart] at hseg
      | some start =>
        cases hfinish : segment.scheduledEnd with
        | none => simp [hstate, hstart, hfinish] at hseg
        | some finish =>
          have hlt : start.toInt < finish.toInt := by simpa [hstate, hstart, hfinish] using hseg
          simpa [timeOrZero] using checkedSubtract_isSome_of_lt hlt
  case reservation =>
    cases planning.activity.timing.reservationStart with
    | none => simp
    | some reserved => simpa using checkedAdd_isSome_of_nonneg reserved _

theorem row_run_answers (hinput : input.isValid) (hbudget : budget.isValid)
    (hrows : scratch.useSoa = false) :
    (runBeamSearch input budget interruptions scratch).outcome ≠ .invalidInput := by
  have hadm : Admitted input budget scratch :=
    ⟨hinput, hbudget, fun hsoa => by rw [hrows] at hsoa; cases hsoa⟩
  rw [runBeamSearch, run_plain hadm]
  unfold runBeamSearchTraced
  simp only [hinput, hbudget, PlannerScratch.reset, PlannerScratch.fresh, Bool.not_true,
    Bool.or_self, Bool.false_eq_true, if_false]
  split
  · exact fun h => by cases h
  split
  · exact fun h => by cases h
  have hprepared : SearchContext.Prepared ⟨input, budget, interruptions, none, 0⟩ :=
    fun columns hsome => by cases hsome
  obtain ⟨score, hscore⟩ := scoreCandidate_nil_isSome hinput
  rw [score_row hprepared hinput, hscore]
  dsimp only
  split
  · exact fun h => by cases h
  next hne =>
    have hinitial := beamInvariant_initial hscore (by simpa using hne)
    exact searchDepths_answers hprepared hinput _ _ hinitial.best hinitial.members

theorem columnar_run_refused (hsoa : scratch.useSoa)
    (hfails : input.remainingActivities.all rowConvertible = false) :
    runBeamSearch input budget interruptions scratch = emptyResult .invalidInput := by
  have hnone : prepareActivityColumns input = none := by
    unfold prepareActivityColumns
    simp [hfails]
  unfold runBeamSearch runBeamSearchTraced PlannerScratch.reset
  simp [hsoa, hnone]

/-- The columnar run of a valid input gives the result of the row run exactly
when the budget is refused by both or all sums of the columns fit. -/
theorem columnar_run_agrees_iff {input : BeamSearchInput} (hinput : input.isValid)
    (budget : ReplanBudget) (interruptions : Interruptions) (scratch : PlannerScratch) :
    runBeamSearch input budget interruptions { scratch with useSoa := true } =
        runBeamSearch input budget interruptions { scratch with useSoa := false } ↔
      (budget.isValid →
        ∀ planning ∈ input.remainingActivities, ArithmeticFits planning) := by
  have hfits : input.remainingActivities.all rowConvertible ↔
      ∀ planning ∈ input.remainingActivities, ArithmeticFits planning := by
    rw [List.all_eq_true]
    exact forall₂_congr fun planning hplan => rowConvertible_iff (planning_isValid hinput hplan)
  rw [← hfits]
  cases hbudget : budget.isValid with
  | false => simp [runBeamSearch, runBeamSearchTraced, hbudget]
  | true =>
    cases hconv : input.remainingActivities.all rowConvertible with
    | true =>
      have hplain : ∀ soa, runBeamSearchTraced input budget interruptions
          { scratch with useSoa := soa } = runBeamSearchTraced input budget interruptions .fresh :=
        fun soa => run_plain ⟨hinput, hbudget, fun _ => hconv⟩ interruptions
      refine iff_of_true ?_ fun _ => rfl
      unfold runBeamSearch
      rw [hplain true, hplain false]
    | false =>
      refine iff_of_false (fun hsame => ?_) (by simp)
      rw [columnar_run_refused rfl hconv] at hsame
      exact row_run_answers hinput hbudget rfl (congrArg BeamSearchResult.outcome hsame.symm)

theorem columnar_run_agrees_singleVisit :
    runBeamSearch singleVisit ⟨8, 8, 8⟩ uninterrupted { PlannerScratch.fresh with useSoa := true } =
      runBeamSearch singleVisit ⟨8, 8, 8⟩ uninterrupted
        { PlannerScratch.fresh with useSoa := false } := by
  refine (columnar_run_agrees_iff (by decide +kernel) ⟨8, 8, 8⟩ uninterrupted .fresh).mpr ?_
  intro _ planning hplan
  rw [List.mem_singleton.mp hplan]
  exact (rowConvertible_iff (by decide +kernel)).mp (by decide +kernel)

def distantReservation : BeamSearchInput := visitInput { hourVisit with
    activity := { hourVisit.activity with
      timing := { hourVisit.activity.timing with
        reservationStart := some 9223372036854775807, reservationGraceSeconds := 1 } } }

/-- The row run skips such a visit; the columnar run refuses the whole trip. -/
theorem distantReservation_disagrees : distantReservation.isValid ∧
      (runBeamSearch distantReservation ⟨8, 8, 8⟩ uninterrupted
        { PlannerScratch.fresh with useSoa := false }).outcome = .complete ∧
      (runBeamSearch distantReservation ⟨8, 8, 8⟩ uninterrupted
        { PlannerScratch.fresh with useSoa := true }).outcome = .invalidInput := by
  refine ⟨?_, ?_, ?_⟩ <;> decide +kernel

end LiveRoute.Planner
