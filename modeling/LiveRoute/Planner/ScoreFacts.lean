import LiveRoute.Planner.HardConstraints
import LiveRoute.Planner.Score

/-! Facts about the decision loop: what one consumed decision means, the
invariant the accumulators keep, and that acceptance is closed under prefixes. -/
namespace LiveRoute.Planner
open CheckedInt Sequence Domain
open ScoreLoop (skip mark schedule finalScore)
open Option (bind_eq_bind bind_eq_some_iff guard_eq_some')
open ScheduledPlanKeyEntry (originalOrdinal)
open List (map_nil map_append map_cons mem_append mem_singleton append_assoc foldlM_cons range
  mem_cons_self)

variable {input : BeamSearchInput} {decisions : List ExpansionDecision} {total result : Int}
  {ranks : List Int} {decision : ExpansionDecision}

theorem generateImpl_validate (hinput : input.isValid) :
    generateCandidateAlternativesImpl input planning arrival validateInput =
      generateCandidateAlternatives input planning arrival := by
  simp [generateCandidateAlternatives, generateCandidateAlternativesImpl, hinput]

theorem scoreCandidateImpl_validate (hinput : input.isValid) :
    scoreCandidateImpl access validateInput input decisions =
      scoreCandidateImpl access true input decisions := by
  have hstep : ∀ ranks, scoreStep access validateInput input ranks =
      scoreStep access true input ranks := by
    intro ranks
    funext state decision
    simp only [scoreStep, scoreScheduled, generateImpl_validate hinput]
  simp [scoreCandidateImpl, hstep, hinput]

theorem activityIndexForOrdinal_eq_some (h : input.activityIndexForOrdinal ordinal = some index) :
    ∃ planning, input.remainingActivities[index]? = some planning ∧
      planning.originalTripOrdinal = ordinal := by
  obtain ⟨hbound, hfound, -⟩ := List.findIdx?_eq_some_iff_getElem.mp h
  exact ⟨_, List.getElem?_eq_getElem hbound, by simpa using hfound⟩

theorem row_eq {α : Type} (default : α)
    (read : PlanningActivity → α) (h : input.remainingActivities[index]? = some planning) :
    input.row default read index = read planning := by
  simp [BeamSearchInput.row, h]

inductive StepCase (input : BeamSearchInput) (index : Nat) (planning : PlanningActivity)
    (state : ScoreLoop) (decision : ExpansionDecision) (next : ScoreLoop) : Prop
  | skipped (skips : List Nat) (utility : Int) :
      decision = ⟨planning.originalTripOrdinal, 1, 0, 0⟩ → isSkippable planning →
      next = (state.mark index).skip (rowAccess input) index skips utility →
      StepCase input index planning state decision next
  | scheduled (travel arrival : Int) (totals : LegTotals) :
      decision.decision = 0 → decision.startUnixMs < decision.endUnixMs →
      routeDurationMilliseconds (input.route state.origin (index + 1)) = some travel →
      checkedAdd state.priorScheduledEnd travel = some arrival →
      containsScheduledAlternative (generateCandidateAlternatives input planning arrival)
        decision →
      legTotals (rowAccess input) index state.score decision travel = some totals →
      next = (state.mark index).schedule (rowAccess input) index decision totals →
      StepCase input index planning state decision next

theorem scoreStep_cases
    (h : scoreStep (rowAccess input) true input ranks state decision = some next) :
    ∃ index planning, input.activityIndexForOrdinal decision.activityOrdinal = some index ∧
    input.remainingActivities[index]? = some planning ∧
    planning.originalTripOrdinal = decision.activityOrdinal ∧
    state.decided.getD index false = false ∧ StepCase input index planning state decision next := by
  simp only [scoreStep, bind_eq_bind, bind_eq_some_iff, guard_eq_some'] at h
  obtain ⟨index, hindex, -, ⟨hund, hdec⟩, planning, hplan, h⟩ := h
  obtain ⟨found, hfound, hord⟩ := activityIndexForOrdinal_eq_some hindex
  cases hplan.symm.trans hfound
  refine ⟨index, planning, hindex, hplan, hord, hund, ?_⟩
  split at h
  next hskip =>
    simp only [scoreSkipped, bind_eq_bind, bind_eq_some_iff, guard_eq_some', Option.some.injEq] at h
    obtain ⟨-, ⟨hstart, hend, hmandatory, hcanSkip⟩, skips, -, utility, -, rfl⟩ := h
    have hmandatory' : planning.activity.timing.mandatory = false := by
      simpa [rowAccess, row_eq _ _ hplan] using hmandatory
    have hcanSkip' : planning.activity.timing.canSkip := by
      simpa [rowAccess, row_eq _ _ hplan] using hcanSkip
    refine StepCase.skipped skips utility ?_ (by simp [isSkippable, hmandatory', hcanSkip']) rfl
    cases decision
    simp_all
  next hsched =>
    simp only [scoreScheduled, bind_eq_bind, bind_eq_some_iff,
      guard_eq_some', Option.some.injEq] at h
    obtain ⟨-, hne, travel, htravel, arrival, harr, -, hoffered, totals, htotals,
      rfl⟩ := h
    exact StepCase.scheduled travel arrival totals (by omega) hne htravel harr
      hoffered htotals rfl

theorem addShortfall_nonneg (htotal : 0 ≤ total)
    (h : addShortfall preferred duration total = some result) : 0 ≤ result := by
  unfold addShortfall at h
  split at h
  · have hvalue := checkedAdd_value h
    omega
  · cases h; exact htotal

theorem addLateness_nonneg (htotal : 0 ≤ total)
    (h : addLateness anchor start total = some result) : 0 ≤ result := by
  unfold addLateness at h
  split at h
  · cases h; exact htotal
  split at h
  · obtain ⟨late, hlate, hadd⟩ := bind_eq_some_iff.mp h
    have hlate := checkedSubtract_value hlate
    have hadd := checkedAdd_value hadd
    omega
  · cases h; exact htotal

theorem addStartShift_nonneg (htotal : 0 ≤ total)
    (h : addStartShift access index start total = some result) : 0 ≤ result := by
  unfold addStartShift at h
  split at h
  · obtain ⟨moved, hmoved, hadd⟩ := bind_eq_some_iff.mp h
    have hmoved := checkedAbsoluteDifference_nonneg hmoved
    have hadd := checkedAdd_value hadd
    omega
  · cases h; exact htotal

theorem legTotals_nonneg
    (h : legTotals access index score decision travel = some totals) (htravel : 0 ≤ travel)
    (hscore : 0 ≤ score.totalTravelMs ∧ 0 ≤ score.totalPreferredShortfallMs ∧
      0 ≤ score.totalLatenessMs ∧ 0 ≤ score.totalStartShiftMs) :
    0 ≤ totals.travel ∧ 0 ≤ totals.shortfall ∧ 0 ≤ totals.lateness ∧ 0 ≤ totals.startShift := by
  simp only [legTotals, bind_eq_bind, bind_eq_some_iff, guard_eq_some', Option.some.injEq] at h
  obtain ⟨totalTravel, htotal, duration, -, -, -, shortfall, hshortfall, lateness, hlateness,
    shift, hshift, rfl⟩ := h
  obtain ⟨hscoreTravel, hscoreShortfall, hscoreLateness, hscoreShift⟩ := hscore
  have htotal := checkedAdd_value htotal
  have htotalNonneg : 0 ≤ totalTravel := by omega
  exact ⟨htotalNonneg, addShortfall_nonneg hscoreShortfall hshortfall,
    addLateness_nonneg hscoreLateness hlateness, addStartShift_nonneg hscoreShift hshift⟩

theorem routeDurationMilliseconds_nonneg
    (h : routeDurationMilliseconds estimate = some travel) : 0 ≤ travel := by
  unfold routeDurationMilliseconds at h
  dsimp only at h
  split at h
  · cases h
  rename_i hguard
  simp only [Bool.or_eq_true, decide_eq_true_iff, not_or, not_lt] at hguard
  cases h
  omega

structure LoopInvariant (input : BeamSearchInput) (decisions : List ExpansionDecision)
    (state : ScoreLoop) : Prop where
  decidedLength : state.decided.length = input.remainingActivities.length
  commonLength : state.commonScheduled.length = input.remainingActivities.length
  decided : ∀ index planning, input.remainingActivities[index]? = some planning →
    (state.decided.getD index false ↔
      planning.originalTripOrdinal ∈ decisions.map ExpansionDecision.activityOrdinal)
  distinct : (decisions.map ExpansionDecision.activityOrdinal).Nodup
  known : ∀ decision ∈ decisions, ∃ index,
    input.activityIndexForOrdinal decision.activityOrdinal = some index
  keyOrdinals : (state.score.canonicalPlanKey.scheduledOrdinalsInOrder ++
    state.score.canonicalPlanKey.skippedOrdinals).Perm
      (decisions.map ExpansionDecision.activityOrdinal)
  keyEntries : state.score.canonicalPlanKey.scheduledOrdinalsInOrder =
    state.score.canonicalPlanKey.scheduledEntries.map ScheduledPlanKeyEntry.originalOrdinal
  entriesNonempty : ∀ entry ∈ state.score.canonicalPlanKey.scheduledEntries,
    entry.startUnixMs < entry.endUnixMs
  common : ∀ index, index ∈ state.candidateCommonOrder ↔
    state.commonScheduled.getD index false
  commonDistinct : state.candidateCommonOrder.Nodup
  commonDecided : ∀ index, state.commonScheduled.getD index false →
    state.decided.getD index false
  totals : 0 ≤ state.score.totalTravelMs ∧ 0 ≤ state.score.totalPreferredShortfallMs ∧
    0 ≤ state.score.totalLatenessMs ∧ 0 ≤ state.score.totalStartShiftMs

theorem getD_replicate_false : (List.replicate count false).getD index false = false := by
  rw [List.getD_eq_getElem?_getD, List.getElem?_replicate]
  split <;> rfl

theorem loopInvariant_initial : LoopInvariant input [] (initialLoop input rankCount utility) where
  decidedLength := by simp [initialLoop]
  commonLength := by simp [initialLoop]
  decided := by
    intro index planning _
    simp only [initialLoop, getD_replicate_false, map_nil, List.not_mem_nil, Bool.false_eq_true]
  distinct := List.nodup_nil
  known := by simp
  keyOrdinals := by simp [initialLoop, initialScore]
  keyEntries := by simp [initialLoop, initialScore]
  entriesNonempty := by simp [initialLoop, initialScore]
  common := by
    intro index
    simp only [initialLoop, getD_replicate_false, List.not_mem_nil, Bool.false_eq_true]
  commonDistinct := by simp [initialLoop]
  commonDecided := by
    intro index hcommon
    simp only [initialLoop, getD_replicate_false, Bool.false_eq_true] at hcommon
  totals := by simp [initialLoop, initialScore]

theorem getD_set (marks : List Bool) (hindex : index < marks.length) :
    (marks.set index true).getD other false ↔ other = index ∨ marks.getD other false := by
  by_cases hsame : index = other
  · subst hsame
    simp [hindex]
  · simp [hsame, Ne.symm hsame]

theorem getD_markIf (marks : List Bool) (hindex : index < marks.length) :
    (markIf condition index marks).getD other false ↔
      (condition ∧ other = index) ∨ marks.getD other false := by
  cases condition with
  | false => simp [markIf]
  | true => simp only [markIf, if_true, true_and]; exact getD_set marks hindex

@[simp] theorem length_markIf : (markIf condition index marks).length = marks.length := by
  cases condition <;> simp [markIf]

section Fields

variable (access : ScoreAccess) (index : Nat) (state : ScoreLoop)

@[simp] theorem mark_decided : (state.mark index).decided = state.decided.set index true := rfl
@[simp] theorem mark_score : (state.mark index).score = state.score := rfl
@[simp] theorem mark_origin : (state.mark index).origin = state.origin := rfl

end Fields

theorem ordinal_injective (hinput : input.isValid) {index other : Nat}
    (hplan : input.remainingActivities[index]? = some planning)
    (hfound : input.remainingActivities[other]? = some found)
    (h : planning.originalTripOrdinal = found.originalTripOrdinal) : index = other := by
  simp only [BeamSearchInput.isValid, Bool.and_eq_true, allDistinct_iff] at hinput
  have hindex := (List.getElem?_eq_some_iff.mp hplan).1
  refine (List.getElem?_inj (by simpa using hindex) hinput.2).mp ?_
  simp [hplan, hfound, h]

/-- One consumed decision: its activity becomes decided, and its ordinal joins
either the scheduled or the skipped part of the plan key. -/
theorem LoopInvariant.step (hinput : input.isValid) {state next : ScoreLoop}
    (h : LoopInvariant input decisions state)
    (hstep : scoreStep (rowAccess input) true input ranks state decision = some next) :
    LoopInvariant input (decisions ++ [decision]) next := by
  obtain ⟨index, planning, hindex, hplan, hord, hund, hcase⟩ := scoreStep_cases hstep
  have hbound := (List.getElem?_eq_some_iff.mp hplan).1
  have hdecidedBound : index < state.decided.length := by rw [h.decidedLength]; exact hbound
  have hcommonBound : index < state.commonScheduled.length := by rw [h.commonLength]; exact hbound
  have hnew : planning.originalTripOrdinal ∉ decisions.map ExpansionDecision.activityOrdinal := by
    rw [← h.decided index planning hplan, hund]
    exact Bool.false_ne_true
  have hkey : (rowAccess input).originalOrdinal index = decision.activityOrdinal := by
    rw [← hord]
    exact row_eq _ _ hplan
  have hdec : ∀ other found, input.remainingActivities[other]? = some found →
      ((state.decided.set index true).getD other false ↔ found.originalTripOrdinal ∈
          (decisions ++ [decision]).map ExpansionDecision.activityOrdinal) := by
    intro other found hfound
    rw [getD_set _ hdecidedBound, h.decided other found hfound]
    simp only [map_append, map_cons, map_nil, mem_append, mem_singleton]
    have hsame : other = index ↔ found.originalTripOrdinal = decision.activityOrdinal := by
      constructor
      · rintro rfl
        cases hplan.symm.trans hfound
        exact hord
      · intro hequal
        exact ordinal_injective hinput hfound hplan (hequal.trans hord.symm)
    rw [hsame, or_comm]
  have hdist : ((decisions ++ [decision]).map ExpansionDecision.activityOrdinal).Nodup := by
    rw [map_append, List.map_singleton, ← List.concat_eq_append]
    exact List.Nodup.concat (hord ▸ hnew) h.distinct
  have hknown : ∀ consumed ∈ decisions ++ [decision], ∃ index,
      input.activityIndexForOrdinal consumed.activityOrdinal = some index := by
    intro consumed hmem
    rcases mem_append.mp hmem with hold | hlast
    · exact h.known consumed hold
    · rw [mem_singleton.mp hlast]
      exact ⟨index, hindex⟩
  cases hcase with
  | skipped _ _ _ _ hnext =>
    subst hnext
    exact {
      decidedLength := by simp [skip, mark, h.decidedLength]
      commonLength := h.commonLength
      decided := hdec
      distinct := hdist
      known := hknown
      keyOrdinals := by
        simp only [skip, mark, hkey, map_append, map_cons, map_nil, ← append_assoc]
        exact h.keyOrdinals.append_right _
      keyEntries := h.keyEntries
      entriesNonempty := h.entriesNonempty
      common := h.common
      commonDistinct := h.commonDistinct
      commonDecided := fun other hcommon =>
        (getD_set _ hdecidedBound).mpr (.inr (h.commonDecided other hcommon))
      totals := h.totals }
  | scheduled _ _ totals _ hne htravel _ _ htotals hnext =>
    subst hnext
    have hfresh : index ∉ state.candidateCommonOrder := by
      intro hmem
      have hcontra := h.commonDecided index ((h.common index).mp hmem)
      rw [hund] at hcontra
      cases hcontra
    exact {
      decidedLength := by simp [schedule, mark, h.decidedLength]
      commonLength := by simp [schedule, mark, h.commonLength]
      decided := hdec
      distinct := hdist
      known := hknown
      keyOrdinals := by
        simp only [schedule, mark, hkey, map_append, map_cons, map_nil, append_assoc]
        refine (List.perm_append_comm.append_left _).trans ?_
        rw [← append_assoc]
        exact h.keyOrdinals.append_right _
      keyEntries := by simp [schedule, mark, h.keyEntries]
      entriesNonempty := by
        intro entry hentry
        simp only [schedule, mark, mem_append, mem_singleton] at hentry
        rcases hentry with hold | rfl
        · exact h.entriesNonempty entry hold
        · exact hne
      common := by
        intro other
        simp only [schedule, mark, mem_append, getD_markIf _ hcommonBound, h.common other]
        cases (rowAccess input).isBaselineScheduled index <;> simp [or_comm]
      commonDistinct := by
        simp only [schedule, mark]
        cases (rowAccess input).isBaselineScheduled index
        · simpa using h.commonDistinct
        · rw [if_pos rfl, ← List.concat_eq_append]
          exact List.Nodup.concat hfresh h.commonDistinct
      commonDecided := by
        intro other hcommon
        simp only [schedule, mark, getD_markIf _ hcommonBound] at hcommon
        refine (getD_set _ hdecidedBound).mpr ?_
        rcases hcommon with ⟨-, rfl⟩ | hcommon
        · exact .inl rfl
        · exact .inr (h.commonDecided other hcommon)
      totals := legTotals_nonneg htotals (routeDurationMilliseconds_nonneg htravel) h.totals }

theorem LoopInvariant.run (hinput : input.isValid) (h : LoopInvariant input consumed state)
    (hrun : decisions.foldlM (scoreStep (rowAccess input) true input ranks) state = some final) :
    LoopInvariant input (consumed ++ decisions) final := by
  induction decisions generalizing consumed state with
  | nil =>
    cases hrun
    rwa [List.append_nil]
  | cons _ _ ih =>
    obtain ⟨next, hstep, hrest⟩ := bind_eq_some_iff.mp hrun
    rw [List.append_cons]
    exact ih (h.step hinput hstep) hrest

theorem foldl_countChanged (changed : Nat → Bool) (indices : List Nat) (total : Int)
    (htotal : 0 ≤ total) (hroom : total + indices.length ≤ maxInt64) : ∃ result, indices.foldlM
        (fun total index => if changed index then checkedAdd total 1 else some total) total =
      some result ∧ 0 ≤ result := by
  induction indices generalizing total with
  | nil => exact ⟨total, rfl, htotal⟩
  | cons _ _ ih =>
    rw [List.length_cons] at hroom
    rw [foldlM_cons]
    split
    next =>
      have hrange : InInt64 (total + 1) := by
        unfold InInt64 minInt64 maxInt64 at *
        omega
      have hadd : checkedAdd total 1 = some (total + 1) :=
        (checkedAdd_eq_some (by unfold InInt64 minInt64 maxInt64 at *; omega)).mpr ⟨rfl, hrange⟩
      rw [hadd]
      exact ih (total + 1) (by omega) (by omega)
    next => exact ih total htotal (by omega)

theorem countChanged_isSome (changed : Nat → Bool) (hcount : count ≤ 64) :
    ∃ result, countChanged changed count = some result ∧ 0 ≤ result := by
  apply foldl_countChanged changed (range count) 0 (le_refl 0)
  rw [List.length_range]
  unfold maxInt64
  omega

theorem isSorted_of_pairwise {ordinals : List Nat} (h : ordinals.Pairwise (· ≤ ·)) :
    isSorted ordinals := by
  induction ordinals with
  | nil => rfl
  | cons _ rest ih =>
    cases rest with
    | nil => rfl
    | cons second =>
      obtain ⟨hfirst, hrest⟩ := List.pairwise_cons.mp h
      simp [isSorted, hfirst second mem_cons_self, ih hrest]

theorem entriesValid_of_distinct {entries : List ScheduledPlanKeyEntry}
    (hdist : (seen ++ entries.map originalOrdinal).Nodup)
    (hskip : ∀ entry ∈ entries, entry.originalOrdinal ∉ skipped)
    (hne : ∀ entry ∈ entries, entry.startUnixMs < entry.endUnixMs) :
    entriesValid skipped seen (entries.map originalOrdinal) entries =
      true := by
  induction entries generalizing seen with
  | nil => rfl
  | cons entry rest ih =>
    have hseen : entry.originalOrdinal ∉ seen := by
      intro hmem
      exact (List.nodup_append.mp hdist).2.2 _ hmem _ mem_cons_self rfl
    have hseenRest : ((seen ++ [entry.originalOrdinal]) ++ rest.map originalOrdinal).Nodup := by
      rwa [append_assoc]
    have hrest := ih hseenRest (fun other hother => hskip other (List.mem_cons_of_mem _ hother))
      (fun other hother => hne other (List.mem_cons_of_mem _ hother))
    have hfresh := hskip entry mem_cons_self
    have hproper := hne entry mem_cons_self
    simp [entriesValid, hseen, hfresh, hproper, hrest]

theorem LoopInvariant.key_isValid (h : LoopInvariant input decisions state) (changedCount : Int) :
    (state.finalScore changedCount).canonicalPlanKey.isValid := by
  have hnodup := h.keyOrdinals.nodup_iff.mpr h.distinct
  obtain ⟨hsched, hskip, hdisjoint⟩ := List.nodup_append.mp hnodup
  have hadjacent : hasAdjacentEqual
      (sortOrdinals state.score.canonicalPlanKey.skippedOrdinals) = false := by
    have hall := allDistinct_iff.mpr hskip
    simpa [allDistinct, sortOrdinals] using hall
  have hfresh : ∀ entry ∈ state.score.canonicalPlanKey.scheduledEntries,
      entry.originalOrdinal ∉ sortOrdinals state.score.canonicalPlanKey.skippedOrdinals := by
    intro entry hentry hmem
    refine hdisjoint _ ?_ _ ((mem_sortBy ..).mp hmem) rfl
    rw [h.keyEntries]
    exact List.mem_map_of_mem hentry
  have hentries : ([] ++ state.score.canonicalPlanKey.scheduledEntries.map
      originalOrdinal).Nodup := by
    rw [← h.keyEntries]
    exact hsched
  unfold CanonicalPlanKey.isValid finalScore
  simp only [Bool.and_eq_true, decide_eq_true_iff, Bool.not_eq_true']
  refine ⟨⟨⟨?_, isSorted_of_pairwise (sortBy_lt_pairwise _)⟩, hadjacent⟩, ?_⟩
  · rw [h.keyEntries, List.length_map]
  · rw [h.keyEntries]
    exact entriesValid_of_distinct hentries hfresh h.entriesNonempty

theorem LoopInvariant.common_length (h : LoopInvariant input decisions state) :
    (state.baselineCommonOrder input.remainingActivities.length).length =
      state.candidateCommonOrder.length := by
  apply List.Perm.length_eq
  refine (List.perm_ext_iff_of_nodup (List.nodup_range.filter _) h.commonDistinct).mpr ?_
  intro index
  rw [List.mem_filter, List.mem_range, h.common index]
  refine ⟨fun hmem => hmem.2, fun hcommon => ⟨?_, hcommon⟩⟩
  by_contra hout
  have hlen : state.commonScheduled.length ≤ index := by rw [h.commonLength]; omega
  rw [List.getD_eq_getElem?_getD, List.getElem?_eq_none hlen] at hcommon
  cases hcommon

theorem remaining_length_le (hinput : input.isValid) : input.remainingActivities.length ≤ 64 := by
  simp only [BeamSearchInput.isValid, Bool.and_eq_true, decide_eq_true_iff] at hinput
  omega

theorem LoopInvariant.finish (hinput : input.isValid)
    (h : LoopInvariant input decisions state)
    (hopen : ¬(decisionCount = input.remainingActivities.length ∧
      state.decided.contains false)) :
    ∃ score, finishScore input decisionCount state = some score := by
  obtain ⟨changedCount, hchanged, hnonneg⟩ := countChanged_isSome
    (finalChanged input.remainingActivities.length state
      (state.baselineCommonOrder input.remainingActivities.length)) (remaining_length_le hinput)
  obtain ⟨htravel, hshortfall, hlateness, hshift⟩ := h.totals
  have hkey := h.key_isValid changedCount
  have hvalid : (state.finalScore changedCount).isValid := by
    unfold CandidateScore.isValid
    rw [hkey]
    simp [finalScore, hlateness, hshortfall, htravel, hnonneg, hshift]
  refine ⟨state.finalScore changedCount, ?_⟩
  unfold finishScore
  simp only [hopen, not_false_eq_true, guard_true, h.common_length, hchanged, hvalid,
    bind_eq_bind, Option.pure_def, Option.bind_some]

theorem foldl_checkedAdd_isSome (bound : Int) {values : List Int}
    (hvalues : ∀ value ∈ values, -2147483648 ≤ value ∧ value ≤ 2147483647)
    (htotal : -bound ≤ total ∧ total ≤ bound)
    (hroom : bound + values.length * 2147483648 ≤ maxInt64) :
    ∃ result, values.foldlM checkedAdd total = some result := by
  induction values generalizing total bound with
  | nil => exact ⟨total, rfl⟩
  | cons value _ ih =>
    have hvalue := hvalues value mem_cons_self
    rw [List.length_cons] at hroom
    have hadd : checkedAdd total value = some (total + value) := by
      refine (checkedAdd_eq_some ?_).mpr ⟨rfl, ?_⟩ <;>
        unfold InInt64 minInt64 maxInt64 at * <;> omega
    rw [foldlM_cons, hadd]
    exact ih (bound + 2147483648)
      (fun other hother => hvalues other (List.mem_cons_of_mem _ hother)) (by omega) (by omega)

theorem accumulateUtility_isSome (hinput : input.isValid) :
    ∃ utility, accumulateUtility ((range input.remainingActivities.length).map
      (rowAccess input).utilityScore) = some utility := by
  have hcount := remaining_length_le hinput
  have hvalues : ∀ value ∈ (range input.remainingActivities.length).map
      (rowAccess input).utilityScore, -2147483648 ≤ value ∧ value ≤ 2147483647 := by
    intro value hvalue
    obtain ⟨-, -, rfl⟩ := List.mem_map.mp hvalue
    simp only [rowAccess, BeamSearchInput.row]
    split
    next planning _ =>
      have hlow := planning.activity.utilityScore.le_toInt
      have hhigh := planning.activity.utilityScore.toInt_lt
      omega
    next => omega
  refine foldl_checkedAdd_isSome 0 hvalues (by omega) ?_
  rw [List.length_map, List.length_range]
  unfold maxInt64
  omega

def scoreRanks (input : BeamSearchInput) : List Int :=
  distinctRanks ((List.range input.remainingActivities.length).map (rowAccess input).priorityRank)

/-- The state of the decision loop after `decisions`. -/
def scoringLoop (input : BeamSearchInput) (decisions : List ExpansionDecision) :
    Option ScoreLoop := do
  let utility ← accumulateUtility ((List.range input.remainingActivities.length).map
    (rowAccess input).utilityScore)
  decisions.foldlM (scoreStep (rowAccess input) true input (scoreRanks input))
    (initialLoop input (scoreRanks input).length utility)

theorem scoreCandidate_eq_some : scoreCandidate input decisions = some score ↔
      input.isValid ∧ decisions.length ≤ input.remainingActivities.length ∧
        ∃ state, scoringLoop input decisions = some state ∧
          finishScore input decisions.length state = some score := by
  simp only [scoreCandidate, scoreCandidateImpl, scoringLoop, scoreRanks,
    bind_eq_bind, bind_eq_some_iff, guard_eq_some', Bool.true_eq_false,
    false_or]
  constructor
  · rintro ⟨-, hinput, -, hlen, utility, hutil, state, hloop, hfinish⟩
    exact ⟨hinput, hlen, state, ⟨utility, hutil, hloop⟩, hfinish⟩
  · rintro ⟨hinput, hlen, state, ⟨utility, hutil, hloop⟩, hfinish⟩
    exact ⟨(), hinput, (), hlen, utility, hutil, state, hloop, hfinish⟩

theorem scoringLoop_append :
    scoringLoop input (first ++ rest) = (scoringLoop input first).bind fun state =>
        rest.foldlM (scoreStep (rowAccess input) true input (scoreRanks input)) state := by
  simp only [scoringLoop, List.foldlM_append, bind_eq_bind, Option.bind_assoc]

theorem scoringLoop_invariant (hinput : input.isValid)
    (h : scoringLoop input decisions = some state) : LoopInvariant input decisions state := by
  obtain ⟨utility, -, hrun⟩ := bind_eq_some_iff.mp h
  exact loopInvariant_initial.run hinput hrun

theorem scoreCandidate_initial (h : scoreCandidate input (first ++ rest) = some score)
    (hshort : first.length < input.remainingActivities.length) :
    ∃ score', scoreCandidate input first = some score' := by
  obtain ⟨hinput, -, final, hloop, -⟩ := scoreCandidate_eq_some.mp h
  rw [scoringLoop_append] at hloop
  obtain ⟨state, hfirst, -⟩ := bind_eq_some_iff.mp hloop
  obtain ⟨score', hfinish⟩ := (scoringLoop_invariant hinput hfirst).finish hinput
    (fun hfull => Nat.ne_of_lt hshort hfull.1)
  exact ⟨score', scoreCandidate_eq_some.mpr ⟨hinput, hshort.le, state, hfirst, hfinish⟩⟩

theorem scoreCandidate_nil_isSome (hinput : input.isValid) :
    ∃ score, scoreCandidate input [] = some score := by
  obtain ⟨utility, hutil⟩ := accumulateUtility_isSome hinput
  have hloop :
      scoringLoop input [] = some (initialLoop input (scoreRanks input).length utility) := by
    simp [scoringLoop, hutil]
  have hopen : ¬(0 = input.remainingActivities.length ∧
      (initialLoop input (scoreRanks input).length utility).decided.contains false) := by
    rintro ⟨hempty, hmem⟩
    simp [initialLoop, ← hempty] at hmem
  obtain ⟨score, hfinish⟩ := loopInvariant_initial.finish hinput hopen
  exact ⟨score, scoreCandidate_eq_some.mpr ⟨hinput, Nat.zero_le _, _, hloop, hfinish⟩⟩

end LiveRoute.Planner
