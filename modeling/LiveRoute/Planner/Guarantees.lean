import LiveRoute.Planner.Traversal

/-! The two guarantees of the beam search to its caller: exactness of a search
that was not cut short, and soundness of every plan it ever returns. -/
namespace LiveRoute.Planner
open CheckedInt Sequence Domain Search EarlyExit List

variable {input : BeamSearchInput} {decisions : List ExpansionDecision}

theorem Verdict.infeasible_iff (h : Verdict input left) (hpoint : left.1.isInterruption = false)
    (hfull : left.2.searchWasTruncated = false) : left.2.outcome = .exhaustiveInfeasible ↔
    ∀ decisions score, ¬AcceptedComplete input decisions score := by
  refine ⟨h.infeasible, fun hnone => ?_⟩
  by_contra hfeas
  obtain ⟨-, best, -, ⟨decisions, hacc⟩, -⟩ := h.optimal hpoint hfull hfeas
  exact hnone decisions best hacc

/-- An untruncated, uninterrupted run is exact, and no run of any budget calls
a trip infeasible that has an accepted complete plan. -/
theorem runBeamSearch_exact (input : BeamSearchInput) (budget : ReplanBudget)
    (interruptions : Interruptions) (scratch : PlannerScratch) :
    let run := runBeamSearchTraced input budget interruptions scratch
    (Admitted input budget scratch → run.1.isInterruption = false →
      run.2.searchWasTruncated = false →
      (run.2.outcome = .exhaustiveInfeasible ↔
        ∀ decisions score, ¬AcceptedComplete input decisions score) ∧
      ((∃ decisions score, AcceptedComplete input decisions score) →
        run.2.outcome = .complete ∧ ∃ best, run.2.bestScore = some best ∧ ∀ decisions score,
          AcceptedComplete input decisions score → isBetterComplete score best = false)) ∧
    (run.2.outcome = .exhaustiveInfeasible →
      ∀ decisions score, ¬AcceptedComplete input decisions score) := by
  intro run
  rcases run_verdict with ⟨href, hrun⟩ | hverd
  · refine ⟨fun hadm => absurd hadm href, fun hout => ?_⟩
    rw [show run = _ from hrun] at hout
    cases hout
  · refine ⟨fun _ hpoint hfull => ?_, hverd.infeasible⟩
    have hiff := hverd.infeasible_iff hpoint hfull
    refine ⟨hiff, fun ⟨decisions, score, hacc⟩ => ?_⟩
    have hfeas : run.2.outcome ≠ .exhaustiveInfeasible :=
      fun hout => hverd.infeasible hout decisions score hacc
    obtain ⟨hcomplete, best, hbest, -, hunbeaten⟩ := hverd.optimal hpoint hfull hfeas
    exact ⟨hcomplete, best, hbest, hunbeaten⟩

def hourVisit : PlanningActivity where
  activity := {
    activityId := ⟨1⟩
    placeId := "place"
    displayName := "visit"
    location := ⟨some 1, some 1⟩
    timeZoneName := "UTC"
    inboundTravelMode := .walking
    activityClass := .flexible
    activityState := .planned
    priorityRank := 1
    utilityScore := 5
    timing := {
      openWindows := [⟨0, 36000000⟩]
      reservationStart := none
      reservationGraceSeconds := 0
      minDurationSeconds := 1800
      preferredDurationSeconds := 3600
      maxDurationSeconds := 7200
      mandatory := false
      canShorten := false
      canMove := true
      canSkip := true
      mandatoryDeadline := none }
    activityDelaySeconds := 0
    foundClosedAt := none }
  originalTripOrdinal := 0
  currentPlanSegment := ⟨⟨1⟩, .scheduled, some 3600000, some 7200000⟩

def walk : RouteEstimate := ⟨60, 100, true⟩

def visitInput (planning : PlanningActivity) : BeamSearchInput where
  currentTime := 0
  planningHorizonStart := 0
  planningHorizonEnd := 36000000
  preservedPrefix := []
  remainingActivities := [planning]
  travelTimeMatrix := TravelTimeMatrix.make? 2 (List.replicate 4 walk)

def singleVisit : BeamSearchInput := visitInput hourVisit

def secondVisit : PlanningActivity := { hourVisit with
  activity := { hourVisit.activity with activityId := ⟨2⟩ }, originalTripOrdinal := 1
  currentPlanSegment := ⟨⟨2⟩, .scheduled, some 7200000, some 10800000⟩ }

def twoVisits (first : PlanningActivity) (between : RouteEstimate) : BeamSearchInput :=
  { visitInput first with
    remainingActivities := [first, secondVisit]
    travelTimeMatrix := TravelTimeMatrix.make? 3
      [walk, walk, walk, walk, walk, between, walk, walk, walk] }

def twoHours : List ExpansionDecision := [⟨0, 0, 60000, 3660000⟩, ⟨1, 0, 7200000, 10800000⟩]

def closedVisit : BeamSearchInput := visitInput { hourVisit with
    activity := { hourVisit.activity with
      foundClosedAt := some 0, timing := { hourVisit.activity.timing with mandatory := true } } }

def uninterrupted : Interruptions := ⟨fun _ => false, fun _ => false⟩

theorem runBeamSearch_exact_twoVisits :
    (runBeamSearchTraced (twoVisits hourVisit walk) ⟨64, 64, 64⟩ uninterrupted .fresh).2.outcome =
        .complete ∧
      ∀ decisions score, ¬AcceptedComplete closedVisit decisions score := by
  have hexact := (runBeamSearch_exact (twoVisits hourVisit walk) ⟨64, 64, 64⟩ uninterrupted
    .fresh).1 ⟨by decide +kernel, by decide +kernel, by decide +kernel⟩ (by decide +kernel)
    (by decide +kernel)
  have hkept : (scoreCandidate (twoVisits hourVisit walk) twoHours).isSome := by
    decide +kernel
  obtain ⟨score, hscore⟩ := Option.isSome_iff_exists.mp hkept
  refine ⟨(hexact.2 ⟨_, score, rfl, hscore⟩).1, ?_⟩
  exact (runBeamSearch_exact closedVisit ⟨8, 8, 8⟩ uninterrupted .fresh).2 (by decide +kernel)

/-- The bound cuts a list of decisions only when no accepted complete plan
starts with it, whatever the matrix, the windows and the reservations are. -/
theorem passesProtectedActivityLowerBound_admissible (input : BeamSearchInput)
    (decided : List ExpansionDecision) (validateInput : Bool)
    (h : ∃ rest score, AcceptedComplete input (decided ++ rest) score) :
    passesProtectedActivityLowerBound input decided validateInput := by
  obtain ⟨rest, score, hcomplete, hscore⟩ := h
  exact lowerBound_of_completion hscore hcomplete

def mandatoryVisit : BeamSearchInput := visitInput { hourVisit with
    activity := { hourVisit.activity with
      timing := { hourVisit.activity.timing with mandatory := true } } }

theorem lowerBound_admissible_mandatoryVisit :
    passesProtectedActivityLowerBound mandatoryVisit [] true := by
  have hkept : (scoreCandidate mandatoryVisit [⟨0, 0, 3600000, 7200000⟩]).isSome := by
    decide +kernel
  obtain ⟨score, hscore⟩ := Option.isSome_iff_exists.mp hkept
  exact passesProtectedActivityLowerBound_admissible mandatoryVisit [] true
    ⟨[⟨0, 0, 3600000, 7200000⟩], score, rfl, hscore⟩

/-- The hard constraints on one scheduled decision, given where and when the
previous scheduled activity ended. -/
structure ScheduledWithin (input : BeamSearchInput) (planning : PlanningActivity)
    (origin destination : Nat) (priorEnd : Int) (decision : ExpansionDecision) : Prop where
  reachable : (input.route origin destination).reachable
  afterTravel : priorEnd + (input.route origin destination).duration.toInt * 1000 ≤
    decision.startUnixMs
  hard : HardFeasible input planning decision.startUnixMs decision.endUnixMs
  baseline : KeepsBaselineDuration planning decision.startUnixMs decision.endUnixMs
  keepsInterval : planning.activity.timing.canMove = false ∨
      (planning.activity.activityClass = .fixed ∧ planning.currentPlanSegment.state = .scheduled) →
    KeepsCurrentInterval planning decision.startUnixMs decision.endUnixMs

/-- The decisions of a plan in order: skips are allowed skips, and scheduled
decisions meet every hard constraint after the last scheduled one. -/
def HardPlan (input : BeamSearchInput) : Nat → Int → List ExpansionDecision → Prop
  | _, _, [] => True
  | origin, priorEnd, decision :: rest =>
    ∃ index planning, input.remainingActivities[index]? = some planning ∧
      planning.originalTripOrdinal = decision.activityOrdinal ∧
      ((decision.decision = 1 ∧ planning.activity.timing.mandatory = false ∧
          planning.activity.timing.canSkip ∧ HardPlan input origin priorEnd rest) ∨
        (decision.decision = 0 ∧
          ScheduledWithin input planning origin (index + 1) priorEnd decision ∧
          HardPlan input (index + 1) decision.endUnixMs rest))

theorem routeDurationMilliseconds_eq_some (h : routeDurationMilliseconds estimate = some travel) :
    estimate.reachable ∧ travel = estimate.duration.toInt * 1000 := by
  unfold routeDurationMilliseconds at h
  dsimp only at h
  split at h
  next => cases h
  next hok =>
    simp only [Bool.or_eq_true, Bool.not_eq_true', not_or, Bool.not_eq_false] at hok
    exact ⟨hok.1.1, (Option.some.inj h).symm⟩

theorem scheduledWithin_of_offer
    (hroute : routeDurationMilliseconds (input.route origin destination) = some travel)
    (harr : checkedAdd priorEnd travel = some arrival) (hoffered : containsScheduledAlternative
      (generateCandidateAlternatives input planning arrival) decision) :
    ScheduledWithin input planning origin destination priorEnd decision := by
  obtain ⟨hreach, htravel⟩ := routeDurationMilliseconds_eq_some hroute
  obtain ⟨alternative, -, hoffers, hstart, hfinish⟩ :=
    offers_of_containsScheduledAlternative hoffered
  obtain ⟨hafter, hhard⟩ := hardFeasible_of_locally hoffers.feasible
  have hsum := checkedAdd_value harr
  have hready : priorEnd + (input.route origin destination).duration.toInt * 1000 ≤
      decision.startUnixMs := by omega
  refine ⟨hreach, hready, ?_, ?_, ?_⟩
  · rw [← hstart, ← hfinish]
    exact hhard
  · rw [← hstart, ← hfinish]
    exact hoffers.baseline
  · intro hfixed
    rw [← hstart, ← hfinish]
    apply hoffers.exact
    rcases hfixed with hmove | ⟨hclass, hstate⟩
    · simp [mustUseCurrentInterval, hmove]
    · simp [mustUseCurrentInterval, isFixed, hasCurrentInterval, hclass, hstate]

/-- What the scoring loop consumes from any state is a hard-feasible plan from
the location and time that state has reached. -/
theorem hardPlan_of_run
    (h : decisions.foldlM (scoreStep (rowAccess input) true input ranks) state = some final) :
    HardPlan input state.origin state.priorScheduledEnd decisions := by
  induction decisions generalizing state with
  | nil => trivial
  | cons _ _ ih =>
    obtain ⟨next, hstep, hrest⟩ := Option.bind_eq_some_iff.mp h
    obtain ⟨index, planning, -, hplan, hord, -, hcase⟩ := scoreStep_cases hstep
    have htail := ih hrest
    refine ⟨index, planning, hplan, hord, ?_⟩
    cases hcase with
    | skipped _ _ hdec hskip hnext =>
      simp only [isSkippable, Bool.and_eq_true, Bool.not_eq_true'] at hskip
      rw [hnext] at htail
      exact .inl ⟨by rw [hdec], hskip.1, hskip.2, htail⟩
    | scheduled _ _ _ hkind _ hroute harr hoffered _ hnext =>
      rw [hnext] at htail
      exact .inr ⟨hkind, scheduledWithin_of_offer hroute harr hoffered, htail⟩

theorem hardPlan_of_accepted (h : scoreCandidate input decisions = some score) :
    HardPlan input 0 input.suffixStartTime decisions := by
  obtain ⟨-, -, state, hloop, -⟩ := scoreCandidate_eq_some.mp h
  obtain ⟨utility, -, hrun⟩ := Option.bind_eq_some_iff.mp hloop
  exact hardPlan_of_run hrun

theorem AcceptedComplete.decides (h : AcceptedComplete input decisions score) :
    (decisions.map ExpansionDecision.activityOrdinal).Perm
      (input.remainingActivities.map PlanningActivity.originalTripOrdinal) := by
  obtain ⟨hinput, -, state, hloop, -⟩ := scoreCandidate_eq_some.mp h.2
  have hinv := scoringLoop_invariant hinput hloop
  have hordinals : (input.remainingActivities.map PlanningActivity.originalTripOrdinal).Nodup := by
    simp only [BeamSearchInput.isValid, Bool.and_eq_true, allDistinct_iff] at hinput
    exact hinput.2
  refine (perm_ext_iff_of_nodup hinv.distinct hordinals).mpr fun ordinal => ?_
  constructor
  · intro hmem
    obtain ⟨decision, hdec, rfl⟩ := mem_map.mp hmem
    obtain ⟨index, hindex⟩ := hinv.known decision hdec
    obtain ⟨planning, hplan, hord⟩ := activityIndexForOrdinal_eq_some hindex
    exact mem_map.mpr ⟨planning, mem_of_getElem? hplan, hord⟩
  · intro hmem
    obtain ⟨planning, hplan, rfl⟩ := mem_map.mp hmem
    obtain ⟨index, hindex⟩ := mem_iff_getElem?.mp hplan
    exact complete_decides h.2 h.1 hindex

/-- Every returned plan decides each remaining activity once, has the reported
score and meets every hard constraint, wherever the run was cut short. -/
theorem runBeamSearch_sound (input : BeamSearchInput) (budget : ReplanBudget)
    (interruptions : Interruptions) (scratch : PlannerScratch) (decisions : List ExpansionDecision)
    (h : (runBeamSearch input budget interruptions scratch).bestDecisions = some decisions) :
    (decisions.map ExpansionDecision.activityOrdinal).Nodup ∧
    (decisions.map ExpansionDecision.activityOrdinal).Perm
    (input.remainingActivities.map PlanningActivity.originalTripOrdinal) ∧
    scoreCandidate input decisions = (runBeamSearch input budget interruptions scratch).bestScore ∧
    HardPlan input 0 input.suffixStartTime decisions := by
  unfold runBeamSearch at h ⊢
  rcases run_verdict with ⟨-, hrun⟩ | hverd
  · rw [hrun] at h
    cases h
  · obtain ⟨score, hscore, hacc⟩ := hverd.sound decisions h
    obtain ⟨hinput, -, state, hloop, -⟩ := scoreCandidate_eq_some.mp hacc.2
    exact ⟨(scoringLoop_invariant hinput hloop).distinct, hacc.decides,
      hacc.2.trans hscore.symm, hardPlan_of_accepted hacc.2⟩

theorem runBeamSearch_sound_twoVisits :
    HardPlan (twoVisits hourVisit walk) 0 (twoVisits hourVisit walk).suffixStartTime twoHours :=
  (runBeamSearch_sound (twoVisits hourVisit walk) ⟨64, 64, 64⟩ uninterrupted .fresh
    twoHours (by decide +kernel)).2.2.2

/-- No run of any budget, scratch or interruption finds a plan that an exact run
of the same input misses or ranks lower. -/
theorem runs_bounded_by_exact (input : BeamSearchInput) (budget budget' : ReplanBudget)
    (interruptions interruptions' : Interruptions) (scratch scratch' : PlannerScratch) :
    let exact := runBeamSearchTraced input budget interruptions scratch
    let other := runBeamSearch input budget' interruptions' scratch'
    (exact.2.outcome = .exhaustiveInfeasible → other.bestDecisions = none) ∧
    (Admitted input budget scratch → exact.1.isInterruption = false →
      exact.2.searchWasTruncated = false → ∀ decisions, other.bestDecisions = some decisions →
      ∃ score best, other.bestScore = some score ∧ exact.2.bestScore = some best ∧
        isBetterComplete score best = false) := by
  intro exact other
  have hsound : ResultSound input other := by
    rcases run_verdict with ⟨-, hrun⟩ | hverd
    · intro decisions hdecs
      rw [show other = _ from congrArg Prod.snd hrun] at hdecs
      cases hdecs
    · exact hverd.sound
  rcases run_verdict with ⟨href, hrun⟩ | hverd
  · refine ⟨fun hout => ?_, fun hadm => absurd hadm href⟩
    rw [show exact = _ from hrun] at hout
    cases hout
  have hfeas : exact.2.outcome = .exhaustiveInfeasible → other.bestDecisions = none := by
    intro hout
    rw [Option.eq_none_iff_forall_ne_some]
    intro decisions hdecs
    obtain ⟨score, -, hacc⟩ := hsound decisions hdecs
    exact hverd.infeasible hout decisions score hacc
  refine ⟨hfeas, fun _ hpoint hfull decisions hdecs => ?_⟩
  obtain ⟨score, hscore, hacc⟩ := hsound decisions hdecs
  obtain ⟨-, best, hbest, -, hunbeaten⟩ := hverd.optimal hpoint hfull
    fun hout => by simp [hfeas hout] at hdecs
  exact ⟨score, best, hscore, hbest, hunbeaten decisions score hacc⟩

/-- A beam of one goes on from the plan that looks best after the first visit. -/
theorem narrow_run_bounded_by_exact :
    (runBeamSearch closedVisit ⟨8, 1, 8⟩ uninterrupted .fresh).bestDecisions = none ∧
    ∃ score best,
      (runBeamSearch (twoVisits hourVisit walk) ⟨64, 1, 64⟩ uninterrupted .fresh).bestScore =
        some score ∧
      (runBeamSearch (twoVisits hourVisit walk) ⟨64, 64, 64⟩ uninterrupted .fresh).bestScore =
        some best ∧ isBetterComplete score best = false := by
  refine ⟨(runs_bounded_by_exact closedVisit ⟨8, 8, 8⟩ ⟨8, 1, 8⟩ uninterrupted uninterrupted .fresh
    .fresh).1 (by decide +kernel), ?_⟩
  exact (runs_bounded_by_exact (twoVisits hourVisit walk) ⟨64, 64, 64⟩ ⟨64, 1, 64⟩ uninterrupted
    uninterrupted .fresh .fresh).2 ⟨by decide +kernel, by decide +kernel, by decide +kernel⟩
    (by decide +kernel) (by decide +kernel)
    [⟨0, 0, 3600000, 7200000⟩, ⟨1, 0, 7260000, 10860000⟩] (by decide +kernel)

end LiveRoute.Planner
