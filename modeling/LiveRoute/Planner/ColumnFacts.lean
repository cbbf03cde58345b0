import LiveRoute.Planner.ScoreFacts

/-! The columnar view of a valid input answers every read as its rows do, so
scores and decisions do not depend on which of the two a traversal uses. -/
namespace LiveRoute.Planner
open CheckedInt Sequence Domain List

theorem getD_map_row {α : Type} (input : BeamSearchInput) (default : α)
    (read : PlanningActivity → α) :
    (fun index => (input.remainingActivities.map read).getD index default) =
      input.row default read := by
  funext index
  rw [getD_eq_getElem?_getD, getElem?_map, BeamSearchInput.row]
  cases input.remainingActivities[index]? <;> rfl

theorem activityFlags_test (planning : PlanningActivity) :
    (!(activityFlags planning &&& kBaselineScheduled == 0)) =
        decide (planning.currentPlanSegment.state = .scheduled) ∧
      (!(activityFlags planning &&& kMandatory == 0)) = planning.activity.timing.mandatory ∧
      (!(activityFlags planning &&& kSkippable == 0)) = planning.activity.timing.canSkip ∧
      (!(activityFlags planning &&& kReservationPresent == 0)) =
        planning.activity.timing.reservationStart.isSome := by
  unfold activityFlags
  dsimp only
  generalize decide (planning.currentPlanSegment.state = .scheduled) = scheduled
  generalize planning.activity.timing.mandatory = mandatory
  generalize planning.activity.timing.canMove = movable
  generalize planning.activity.timing.canSkip = skippable
  generalize planning.activity.timing.reservationStart.isSome = reserved
  generalize planning.activity.timing.mandatoryDeadline.isSome = bounded
  generalize planning.activity.foundClosedAt.isSome = closed
  revert scheduled mandatory movable skippable reserved bounded closed
  decide

theorem getD_flags_row (input : BeamSearchInput) (bit : UInt16) (read : PlanningActivity → Bool)
    (h : ∀ planning, (!(activityFlags planning &&& bit == 0)) = read planning) :
    (fun index => !((input.remainingActivities.map activityFlags).getD index 0 &&& bit == 0)) =
      input.row false read := by
  funext index
  rw [getD_eq_getElem?_getD, getElem?_map, BeamSearchInput.row]
  cases input.remainingActivities[index]? with
  | none => simp
  | some planning => exact h planning

theorem getD_locations_row (input : BeamSearchInput) :
    (fun index => ((List.range input.remainingActivities.length).map (· + 1)).getD index
      (index + 1)) = fun index => index + 1 := by
  funext index
  rw [getD_eq_getElem?_getD, getElem?_map]
  by_cases hindex : index < input.remainingActivities.length
  · rw [getElem?_range hindex]
    rfl
  · rw [getElem?_eq_none (by simpa using hindex)]
    rfl

section Prepared

variable {input : BeamSearchInput} {columns : PlannerActivityColumns}
  (hinput : input.isValid) (hcolumns : prepareActivityColumns input = some columns)

def ordinalAt (input : BeamSearchInput) (index : Nat) : Nat :=
  (input.remainingActivities.map PlanningActivity.originalTripOrdinal).getD index 0

def sortedIndices (input : BeamSearchInput) : List Nat :=
  sortBy (fun left right => decide (ordinalAt input left < ordinalAt input right))
    (List.range input.remainingActivities.length)

theorem mem_sortedIndices (index : Nat) :
    index ∈ sortedIndices input ↔ index < input.remainingActivities.length := by
  rw [sortedIndices, mem_sortBy, mem_range]

theorem ordinalAt_eq (h : input.remainingActivities[index]? = some planning) :
    ordinalAt input index = planning.originalTripOrdinal := by
  simp [ordinalAt, h]

include hinput in
theorem ordinalAt_inj (hindex : index < input.remainingActivities.length)
    (hother : other < input.remainingActivities.length)
    (h : ordinalAt input index = ordinalAt input other) : index = other := by
  have hplan := getElem?_eq_getElem hindex
  have hfound := getElem?_eq_getElem hother
  rw [ordinalAt_eq hplan, ordinalAt_eq hfound] at h
  exact ordinal_injective hinput hplan hfound h

include hinput in
theorem sortedOrdinals_ascending :
    ((sortedIndices input).map (ordinalAt input)).Pairwise (· < ·) := by
  have hsorted := sortBy_key_pairwise (ordinalAt input)
    (List.range input.remainingActivities.length)
  have hnodup : (sortedIndices input).Nodup := (sortBy_perm _ _).nodup_iff.mpr nodup_range
  rw [pairwise_map]
  refine (hsorted.and hnodup).imp_of_mem ?_
  rintro left right hleft hright ⟨hle, hne⟩
  refine Nat.lt_of_le_of_ne hle fun hequal => hne ?_
  exact ordinalAt_inj hinput ((mem_sortedIndices left).mp hleft)
    ((mem_sortedIndices right).mp hright) hequal

include hinput in
theorem sortedLookup : (let keys := (sortedIndices input).map (ordinalAt input)
      let position := keys.findIdx fun key => decide (ordinal ≤ key)
      if keys[position]? = some ordinal then (sortedIndices input)[position]? else none) =
      input.activityIndexForOrdinal ordinal := by
  dsimp only
  split
  next hfound =>
    rw [getElem?_map, Option.map_eq_some_iff] at hfound
    obtain ⟨index, hindex, hord⟩ := hfound
    rw [hindex]
    have hbound := (mem_sortedIndices index).mp (mem_of_getElem? hindex)
    refine (findIdx?_eq_some_iff_getElem.mpr ⟨hbound, ?_, fun earlier hearlier => ?_⟩).symm
    · rw [ordinalAt_eq (getElem?_eq_getElem hbound)] at hord
      simpa using hord
    · have hother : earlier < input.remainingActivities.length := Nat.lt_trans hearlier hbound
      have hne : ordinalAt input earlier ≠ ordinal := fun hequal =>
        Nat.ne_of_lt hearlier (ordinalAt_inj hinput hother hbound (hequal.trans hord.symm))
      rw [ordinalAt_eq (getElem?_eq_getElem hother)] at hne
      simpa using hne
  next hmiss =>
    symm
    rw [BeamSearchInput.activityIndexForOrdinal, findIdx?_eq_none_iff_findIdx_eq]
    cases hindex : input.activityIndexForOrdinal ordinal with
    | none => exact findIdx?_eq_none_iff_findIdx_eq.mp hindex
    | some index =>
      obtain ⟨planning, hplan, hord⟩ := activityIndexForOrdinal_eq_some hindex
      have hmem := (mem_sortedIndices index).mpr (List.getElem?_eq_some_iff.mp hplan).1
      obtain ⟨position, hpos⟩ := mem_iff_getElem?.mp hmem
      have hkey : ((sortedIndices input).map (ordinalAt input))[position]? = some ordinal := by
        rw [getElem?_map, hpos, Option.map_some, ordinalAt_eq hplan, hord]
      rw [findIdx_of_ascending (sortedOrdinals_ascending hinput) hkey] at hmiss
      exact absurd hkey hmiss

include hcolumns in
theorem prepare_eq_some : columns.sortedOrdinals = (sortedIndices input).map (ordinalAt input) ∧
    columns.sortedActivityIndices = sortedIndices input ∧
    columnAccess columns = { rowAccess input with
      activityIndex := columns.activityIndexForOrdinal } := by
  unfold prepareActivityColumns at hcolumns
  dsimp only at hcolumns
  split at hcolumns
  next =>
    cases hcolumns
    refine ⟨rfl, rfl, ?_⟩
    unfold columnAccess rowAccess
    simp only [getD_map_row, getD_locations_row,
      getD_flags_row input _ _ fun planning => (activityFlags_test planning).1,
      getD_flags_row input _ _ fun planning => (activityFlags_test planning).2.1,
      getD_flags_row input _ _ fun planning => (activityFlags_test planning).2.2.1,
      getD_flags_row input _ _ fun planning => (activityFlags_test planning).2.2.2]
  next => cases hcolumns

include hinput hcolumns in
theorem columnAccess_eq : columnAccess columns = rowAccess input := by
  obtain ⟨hordinals, hindices, haccess⟩ := prepare_eq_some hcolumns
  have hlookup : columns.activityIndexForOrdinal = input.activityIndexForOrdinal := by
    funext ordinal
    rw [← sortedLookup hinput]
    unfold PlannerActivityColumns.activityIndexForOrdinal
    rw [hordinals, hindices]
  rw [haccess, hlookup]
  rfl

include hinput hcolumns in
theorem scoreWithColumns_eq :
    scoreWithColumns columns validateInput input decisions = scoreCandidate input decisions := by
  have hlen : columns.originalTripOrdinals.length = input.remainingActivities.length := by
    unfold prepareActivityColumns at hcolumns
    dsimp only at hcolumns
    split at hcolumns
    next =>
      cases hcolumns
      simp
    next => cases hcolumns
  rw [scoreWithColumns, if_pos hlen, columnAccess_eq hinput hcolumns]
  exact scoreCandidateImpl_validate hinput

end Prepared

end LiveRoute.Planner
