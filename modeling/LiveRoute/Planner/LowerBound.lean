import LiveRoute.Planner.BeamSearch
import LiveRoute.Planner.ScoreFacts

/-! Admissibility of the pruning test. The optimistic arrival it uses is the end
of the last scheduled activity, which every later arrival of a completion
reaches or passes, whatever the travel times are. -/
namespace LiveRoute.Planner
open CheckedInt Sequence Domain Search List

variable {input : BeamSearchInput} {state : ScoreLoop} {decisions : List ExpansionDecision}
  {planning : PlanningActivity} {decision : ExpansionDecision} {index : Nat}

theorem mem_of_containsScheduledAlternative
    (h : containsScheduledAlternative alternatives decision) : ∃ alternative ∈ alternatives,
    alternative.kind = .scheduled ∧ alternative.activityOrdinal = decision.activityOrdinal ∧
    alternative.start = decision.startUnixMs ∧ alternative.finish = decision.endUnixMs := by
  obtain ⟨alternative, hmem, hsame⟩ := any_eq_true.mp h
  simp only [Bool.and_eq_true, decide_eq_true_iff] at hsame
  exact ⟨alternative, hmem, hsame.1.1.1, hsame.1.1.2, hsame.1.2, hsame.2⟩

theorem offers_of_containsScheduledAlternative
    (h : containsScheduledAlternative (generateCandidateAlternatives input planning arrival)
      decision) :
    ∃ alternative ∈ rawAlternatives input planning arrival,
      OffersInterval input planning arrival alternative ∧
        alternative.start = decision.startUnixMs ∧ alternative.finish = decision.endUnixMs := by
  obtain ⟨alternative, hmem, hkind, -, hstart, hfinish⟩ := mem_of_containsScheduledAlternative h
  rcases mem_generateImpl_cases hmem with hraw | ⟨-, rfl⟩
  · exact ⟨alternative, hraw, offers_of_mem_rawAlternatives hraw, hstart, hfinish⟩
  · cases hkind

theorem suffixStart_foldl_le (segments : List CurrentPlanSegment) (start : Int) :
    start ≤ segments.foldl (fun start segment =>
      match segment.state, segment.scheduledEnd with
      | .scheduled, some scheduledEnd =>
        if start < scheduledEnd.toInt then scheduledEnd.toInt else start
      | _, _ => start) start := by
  induction segments generalizing start with
  | nil => exact le_refl start
  | cons _ _ ih =>
    rw [foldl_cons]
    refine le_trans ?_ (ih _)
    split
    · split <;> omega
    · exact le_refl start

theorem horizonStart_le_suffixStart (hinput : input.isValid) :
    input.planningHorizonStart.toInt ≤ input.suffixStartTime := by
  simp only [BeamSearchInput.isValid, Bool.and_eq_true, decide_eq_true_iff] at hinput
  have hcur := hinput.1.1.1.1.1.1.1.1.2
  exact le_trans hcur (suffixStart_foldl_le _ _)

theorem StepCase.priorEnd_le {next : ScoreLoop}
    (h : StepCase input index planning state decision next) :
    state.priorScheduledEnd ≤ next.priorScheduledEnd := by
  cases h with
  | skipped _ _ _ _ hnext => subst hnext; exact le_refl _
  | scheduled _ _ _ _ _ htravel harr hoffered _ hnext =>
    subst hnext
    obtain ⟨alternative, -, hoffers, hstart, -⟩ := offers_of_containsScheduledAlternative hoffered
    have hreach := (hardFeasible_of_locally hoffers.feasible).1
    have htravelNonneg := routeDurationMilliseconds_nonneg htravel
    have hvalue := checkedAdd_value harr
    change state.priorScheduledEnd ≤ decision.endUnixMs
    omega

theorem priorEnd_le_run
    (hrun : decisions.foldlM (scoreStep (rowAccess input) true input ranks) state = some final) :
    state.priorScheduledEnd ≤ final.priorScheduledEnd := by
  induction decisions generalizing state with
  | nil => cases hrun; exact le_refl _
  | cons _ _ ih =>
    obtain ⟨next, hstep, hrest⟩ := Option.bind_eq_some_iff.mp hrun
    obtain ⟨_, _, -, -, -, -, hcase⟩ := scoreStep_cases hstep
    exact le_trans hcase.priorEnd_le (ih hrest)

theorem horizonStart_le_priorEnd (hinput : input.isValid)
    (h : scoringLoop input decisions = some state) :
    input.planningHorizonStart.toInt ≤ state.priorScheduledEnd := by
  obtain ⟨utility, -, hrun⟩ := Option.bind_eq_some_iff.mp h
  exact le_trans (horizonStart_le_suffixStart hinput) (priorEnd_le_run hrun)

theorem lastScheduledState_eq (h : scoringLoop input decisions = some state) :
    lastScheduledState input (rowAccess input) decisions =
      some (state.priorScheduledActivityIndex, state.priorScheduledEnd) := by
  induction decisions using List.reverseRecOn generalizing state with
  | nil =>
    obtain ⟨utility, -, hrun⟩ := Option.bind_eq_some_iff.mp h
    cases hrun
    rfl
  | append_singleton _ _ ih =>
    rw [scoringLoop_append] at h
    obtain ⟨previous, hprevious, hstep⟩ := Option.bind_eq_some_iff.mp h
    obtain ⟨next, hstep, hdone⟩ := Option.bind_eq_some_iff.mp hstep
    cases hdone
    obtain ⟨index, planning, hindex, -, -, -, hcase⟩ := scoreStep_cases hstep
    have hearlier := ih hprevious
    unfold lastScheduledState at hearlier ⊢
    rw [reverse_append, reverse_singleton, singleton_append]
    cases hcase with
    | skipped _ _ hdec _ hnext =>
      subst hnext hdec
      exact hearlier
    | scheduled _ _ _ hdec _ _ _ _ _ hnext =>
      subst hnext
      unfold lastScheduledFrom
      rw [if_pos hdec]
      simp only [rowAccess, hindex]
      rfl

theorem flags_foldl {activityIndex : Nat → Option Nat} (hknown : ∀ decision ∈ decisions, ∃ index,
      activityIndex decision.activityOrdinal = some index) (flags : List Bool) :
    ∃ result, decisions.foldlM (fun flags decision =>
        (activityIndex decision.activityOrdinal).map fun index => flags.set index true) flags =
      some result ∧ result.length = flags.length ∧
      ∀ index < flags.length, (result.getD index false ↔ flags.getD index false ∨
          ∃ decision ∈ decisions, activityIndex decision.activityOrdinal = some index) := by
  induction decisions generalizing flags with
  | nil => exact ⟨flags, rfl, rfl, by simp⟩
  | cons decision _ ih =>
    obtain ⟨found, hfound⟩ := hknown decision mem_cons_self
    obtain ⟨result, hres, hlen, hmarks⟩ :=
      ih (fun other hother => hknown other (mem_cons_of_mem _ hother)) (flags.set found true)
    rw [length_set] at hlen
    refine ⟨result, ?_, hlen, ?_⟩
    · rw [foldlM_cons, hfound]
      exact hres
    · intro index hindex
      rw [hmarks index (by rwa [length_set])]
      simp only [getD_eq_getElem?_getD, getElem?_set, mem_cons,
        exists_eq_or_imp, hfound, Option.some.injEq]
      by_cases hsame : found = index
      · subst hsame
        simp [hindex]
      · simp [hsame]

theorem decidedFlags_eq (hinput : input.isValid) (h : LoopInvariant input decisions state) :
    ∃ flags, decidedFlags input.activityIndexForOrdinal input.remainingActivities.length
        decisions = some flags ∧ flags.length = input.remainingActivities.length ∧
      ∀ index planning, input.remainingActivities[index]? = some planning →
        (flags.getD index false ↔
          planning.originalTripOrdinal ∈ decisions.map ExpansionDecision.activityOrdinal) := by
  obtain ⟨flags, hflags, hlen, hmarks⟩ := flags_foldl h.known
    (List.replicate input.remainingActivities.length false)
  rw [List.length_replicate] at hlen
  refine ⟨flags, hflags, hlen, ?_⟩
  intro index planning hplan
  have hbound := (List.getElem?_eq_some_iff.mp hplan).1
  rw [hmarks index (by rwa [List.length_replicate]), getD_replicate_false]
  simp only [Bool.false_eq_true, false_or, List.mem_map]
  refine exists_congr fun decision => and_congr_right fun hmem => ?_
  obtain ⟨found, hfound⟩ := h.known decision hmem
  obtain ⟨other, hother, hord⟩ := activityIndexForOrdinal_eq_some hfound
  constructor
  · intro hindex
    cases hindex.symm.trans hfound
    cases hother.symm.trans hplan
    exact hord.symm
  · intro hequal
    rw [hfound, ordinal_injective hinput hother hplan (hord.trans hequal)]

theorem rawAlternatives_of_later {next : ScoreLoop} (hinput : input.isValid)
    (hfirst : scoringLoop input first = some state)
    (hlater : scoringLoop input (first ++ rest ++ [decision]) = some next)
    (hplan : input.remainingActivities[index]? = some planning)
    (hord : planning.originalTripOrdinal = decision.activityOrdinal)
    (hprotected : isProtected planning) (hvalid : planning.isValid) :
    rawAlternatives input planning state.priorScheduledEnd ≠ [] := by
  rw [scoringLoop_append, scoringLoop_append, hfirst] at hlater
  obtain ⟨middle, hmiddle, hstep⟩ := Option.bind_eq_some_iff.mp hlater
  obtain ⟨last, hstep, -⟩ := Option.bind_eq_some_iff.mp hstep
  obtain ⟨found, foundPlanning, -, hfound, hfoundOrdinal, -, hcase⟩ := scoreStep_cases hstep
  have hsame := ordinal_injective hinput hplan hfound (hord.trans hfoundOrdinal.symm)
  subst hsame
  cases hplan.symm.trans hfound
  cases hcase with
  | skipped _ _ _ hskip =>
    rw [isProtected, hskip] at hprotected
    cases hprotected
  | scheduled _ _ _ _ _ htravel harr hoffered =>
    obtain ⟨alternative, hraw, -⟩ := offers_of_containsScheduledAlternative hoffered
    have htravelNonneg := routeDurationMilliseconds_nonneg htravel
    have hvalue := checkedAdd_value harr
    have hmono := priorEnd_le_run hmiddle
    have htiming : planning.activity.timing.isValid := by
      simp only [PlanningActivity.isValid, Activity.isValid, Bool.and_eq_true] at hvalid
      exact hvalid.1.1.2
    exact rawAlternatives_earlier htiming (by omega) (horizonStart_le_priorEnd hinput hfirst)
      (ne_nil_of_mem hraw)

theorem planning_isValid (hinput : input.isValid)
    (hmem : planning ∈ input.remainingActivities) : planning.isValid := by
  simp only [BeamSearchInput.isValid, Bool.and_eq_true, all_eq_true] at hinput
  exact hinput.1.1.2 planning hmem

theorem complete_decides (h : scoreCandidate input decisions = some score)
    (hcomplete : decisions.length = input.remainingActivities.length)
    (hplan : input.remainingActivities[index]? = some planning) :
    planning.originalTripOrdinal ∈ decisions.map ExpansionDecision.activityOrdinal := by
  obtain ⟨hinput, -, state, hloop, hfinish⟩ := scoreCandidate_eq_some.mp h
  have hinv := scoringLoop_invariant hinput hloop
  rw [← hinv.decided index planning hplan]
  simp only [finishScore, Option.bind_eq_bind, Option.bind_eq_some_iff,
    Option.guard_eq_some'] at hfinish
  obtain ⟨-, hdec, -⟩ := hfinish
  have hall : state.decided.contains false = false := by
    by_contra hsome
    exact hdec ⟨hcomplete, by simpa using hsome⟩
  have hbound : index < state.decided.length := by
    rw [hinv.decidedLength]
    exact (List.getElem?_eq_some_iff.mp hplan).1
  rw [getD_eq_getElem?_getD, getElem?_eq_getElem hbound]
  by_contra hfalse
  have hmem : false ∈ state.decided := by
    rw [← Bool.eq_false_iff.mpr hfalse]
    exact getElem_mem hbound
  rw [contains_iff_mem.mpr hmem] at hall
  cases hall

theorem lowerBound_of_completion (h : scoreCandidate input (first ++ rest) = some score)
    (hcomplete : (first ++ rest).length = input.remainingActivities.length) :
    passesProtectedActivityLowerBound input first validateInput := by
  obtain ⟨hinput, -, final, hloop, -⟩ := scoreCandidate_eq_some.mp h
  have hsplit := hloop
  rw [scoringLoop_append] at hsplit
  obtain ⟨state, hfirst, -⟩ := Option.bind_eq_some_iff.mp hsplit
  have hinv := scoringLoop_invariant hinput hfirst
  obtain ⟨flags, hflags, -, hmarks⟩ := decidedFlags_eq hinput hinv
  unfold passesProtectedActivityLowerBound
  rw [hflags, lastScheduledState_eq hfirst]
  simp only [all_eq_true]
  rintro ⟨decided, planning⟩ hentry
  obtain ⟨index, hindex⟩ := mem_iff_getElem?.mp hentry
  obtain ⟨hflag, hplan⟩ := getElem?_zip_eq_some.mp hindex
  have hmem := mem_of_getElem? hplan
  have hvalid := planning_isValid hinput hmem
  cases decided with
  | true => simp
  | false =>
    cases hprotected : isProtected planning with
    | false => simp
    | true =>
      -- The activity is undecided in the prefix, so the completion decides it later.
      have hund : planning.originalTripOrdinal ∉ first.map ExpansionDecision.activityOrdinal := by
        rw [← hmarks index planning hplan, getD_eq_getElem?_getD, hflag]
        exact Bool.false_ne_true
      have hdec := complete_decides h hcomplete hplan
      rw [map_append, mem_append] at hdec
      obtain ⟨decision, hdecision, hord⟩ := mem_map.mp (hdec.resolve_left hund)
      obtain ⟨before, after, rfl⟩ := append_of_mem hdecision
      have hlater : ∃ next, scoringLoop input (first ++ before ++ [decision]) = some next := by
        rw [append_cons, ← append_assoc, ← append_assoc, scoringLoop_append] at hloop
        obtain ⟨next, hnext, -⟩ := Option.bind_eq_some_iff.mp hloop
        exact ⟨next, hnext⟩
      obtain ⟨next, hnext⟩ := hlater
      have hraw := rawAlternatives_of_later hinput hfirst hnext hplan hord.symm hprotected hvalid
      obtain ⟨alternative, halternative⟩ := exists_mem_of_ne_nil _ hraw
      obtain ⟨kept, hkept, hkind⟩ := exists_generated_of_raw hinput hvalid halternative
      simp only [Bool.not_true, Bool.or_self, Bool.false_or, any_eq_true, decide_eq_true_iff]
      exact ⟨kept, hkept, hkind⟩

end LiveRoute.Planner
