import LiveRoute.Domain.TripStateFacts

/-! Progress along a plan. The activities are read in plan order: finished ones
first, then possibly a started one, then planned ones. -/
namespace LiveRoute.Domain
open Option
open List hiding all_eq_true count getElem?_eq_some_iff

variable {activities planned : List Activity} {completed : Nat} {activity : Activity}
  {state : TripState} {order : List ActivityId}

theorem activityFor_eq_some (h : activityFor activities activityId = some activity) :
    activity ∈ activities ∧ activity.activityId = activityId :=
  ⟨mem_of_find?_eq_some h, by simpa using find?_some h⟩

theorem containsActivity_iff :
    containsActivity activities activityId ↔ activityId ∈ activityIds activities := by
  simp [containsActivity, activityIds]

theorem activityFor_isSome_iff : (∃ activity, activityFor activities activityId = some activity) ↔
      activityId ∈ activityIds activities := by
  rw [← isSome_iff_exists, activityFor]
  simp [activityIds]

theorem activityFor_of_mem (hdist : (activityIds activities).Nodup) (hmem : activity ∈ activities) :
    activityFor activities activity.activityId = some activity := by
  obtain ⟨found, hfound⟩ := activityFor_isSome_iff.mpr (mem_map_of_mem hmem)
  obtain ⟨hfoundMem, hid⟩ := activityFor_eq_some hfound
  rw [hfound, inj_on_of_nodup_map hdist hfoundMem hmem hid]

def inPlanOrder (activities : List Activity) (order : List ActivityId) : List Activity :=
  order.filterMap (activityFor activities)

@[simp] theorem inPlanOrder_nil : inPlanOrder activities [] = [] := rfl

theorem inPlanOrder_cons
    (h : activityFor activities activityId = some activity) (order : List ActivityId) :
    inPlanOrder activities (activityId :: order) = activity :: inPlanOrder activities order := by
  simp [inPlanOrder, h]

theorem activityIds_inPlanOrder
    (hknown : ∀ activityId ∈ order, activityId ∈ activityIds activities) :
    activityIds (inPlanOrder activities order) = order := by
  induction order with
  | nil => rfl
  | cons activityId _ ih =>
    obtain ⟨activity, hact⟩ := activityFor_isSome_iff.mpr (hknown activityId mem_cons_self)
    rw [inPlanOrder_cons hact, activityIds, map_cons, (activityFor_eq_some hact).2]
    exact congrArg (activityId :: ·) (ih fun id hid => hknown id (mem_cons_of_mem _ hid))

theorem inPlanOrder_activityIds (hdist : (activityIds activities).Nodup) :
    inPlanOrder activities (activityIds activities) = activities := by
  unfold inPlanOrder activityIds
  rw [filterMap_map]
  conv_rhs => rw [← filterMap_some (l := activities)]
  apply filterMap_congr
  intro activity hmem
  exact activityFor_of_mem hdist hmem

theorem inPlanOrder_perm (hdist : (activityIds activities).Nodup)
    (horder : order.Perm (activityIds activities)) :
    (inPlanOrder activities order).Perm activities := by
  conv_rhs => rw [← inPlanOrder_activityIds hdist]
  exact horder.filterMap _

def Activity.isFinished (activity : Activity) : Bool := activity.activityState.isTerminal

def Activity.isStarted (activity : Activity) : Bool := decide (activity.activityState = .started)

theorem Activity.not_started_of_finished (h : activity.isFinished) :
    activity.isStarted = false := by
  unfold isFinished at h
  unfold isStarted
  cases hstate : activity.activityState <;> simp_all

/-- The first `completed` activities are finished, the others are not, and only
the one right after them may be started. -/
@[mk_iff progress_iff]
structure Progress (planned : List Activity) (completed : Nat) : Prop where
  finished : ∀ activity ∈ planned.take completed, activity.isFinished
  opened : ∀ activity ∈ planned.drop completed, activity.isFinished = false
  later : ∀ activity ∈ planned.drop (completed + 1), activity.isStarted = false

theorem scanPlanStates_outside (hindex : completed < index)
    (hknown : ∀ segment ∈ segments, segment.activityId ∈ activityIds activities)
    (found found' : Bool) :
    scanPlanStates activities completed index found segments = some found' ↔
      (∀ activity ∈ inPlanOrder activities (segments.map CurrentPlanSegment.activityId),
        activity.isFinished = false ∧ activity.isStarted = false) ∧ found' = found := by
  induction segments generalizing index with
  | nil =>
    rw [scanPlanStates, Option.some.injEq]
    exact ⟨fun h => ⟨by simp, h.symm⟩, fun h => h.2.symm⟩
  | cons segment _ ih =>
    obtain ⟨activity, hact⟩ := activityFor_isSome_iff.mpr (hknown segment mem_cons_self)
    have hrest := ih (Nat.lt_succ_of_lt hindex)
      fun other hother => hknown other (mem_cons_of_mem _ hother)
    have houtside : ¬ index < completed := by omega
    have hplace : ¬ index = completed := by omega
    rw [map_cons, inPlanOrder_cons hact, forall_mem_cons, and_assoc, ← hrest, scanPlanStates]
    simp only [hact, houtside, hplace, decide_false, Activity.isFinished, Activity.isStarted]
    cases activity.activityState <;> simp

theorem progress_cons_succ : Progress (activity :: planned) (completed + 1) ↔
    activity.isFinished ∧ Progress planned completed := by
  simp [progress_iff, and_assoc]

theorem progress_cons_zero : Progress (activity :: planned) 0 ↔ activity.isFinished = false ∧
    ∀ other ∈ planned, other.isFinished = false ∧ other.isStarted = false := by
  simp [progress_iff, forall_and, and_assoc]

theorem scanPlanStates_iff (hindex : index ≤ completed)
    (hknown : ∀ segment ∈ segments, segment.activityId ∈ activityIds activities) :
    scanPlanStates activities completed index false segments = some found ↔
      Progress (inPlanOrder activities (segments.map CurrentPlanSegment.activityId))
        (completed - index) ∧
      found = ((inPlanOrder activities (segments.map CurrentPlanSegment.activityId))[completed -
        index]?).any Activity.isStarted := by
  induction segments generalizing index with
  | nil =>
    rw [scanPlanStates, Option.some.injEq, eq_comm]
    simp [progress_iff]
  | cons segment rest ih =>
    obtain ⟨activity, hact⟩ := activityFor_isSome_iff.mpr (hknown segment mem_cons_self)
    have hknownRest : ∀ other ∈ rest, other.activityId ∈ activityIds activities :=
      fun other hother => hknown other (mem_cons_of_mem _ hother)
    rw [map_cons, inPlanOrder_cons hact, scanPlanStates]
    rcases Nat.lt_or_eq_of_le hindex with hinside | rfl
    · -- The head is in the prefix: it has to be finished.
      have hnext := ih (Nat.succ_le_of_lt hinside) hknownRest
      obtain ⟨position, hpos⟩ : ∃ position, completed - index = position + 1 :=
        ⟨completed - index - 1, by omega⟩
      rw [show completed - (index + 1) = position by omega] at hnext
      rw [hpos, progress_cons_succ, getElem?_cons_succ]
      cases hstate : activity.activityState <;>
        simp [hact, hinside, hnext, Activity.isFinished, hstate]
    · -- The head ends the prefix: nothing after it is finished or started.
      have houtside := scanPlanStates_outside (Nat.lt_succ_self index) hknownRest
      rw [Nat.sub_self, progress_cons_zero, getElem?_cons_zero, any_some]
      cases hstate : activity.activityState <;>
        simp [hact, houtside, Activity.isFinished, Activity.isStarted, hstate]

/-- The finished activities are as many as the trip counts, the started one is
its current activity, and it stands right after them in the plan order. -/
def progressFollows (activities : List Activity) (completed : Nat)
    (current : Option ActivityId) (order : List ActivityId) : Bool :=
  decide (activities.countP Activity.isFinished = completed) &&
    decide (activityIds (activities.filter Activity.isStarted) = current.toList) &&
    current.all fun activityId => decide (order[completed]? = some activityId)

def FinishedFirst (planned : List Activity) : Prop :=
  ∃ count, (∀ activity ∈ planned.take count, activity.isFinished) ∧
    ∀ activity ∈ planned.drop count, activity.isFinished = false

theorem countP_finished (hfin : ∀ activity ∈ planned.take count, activity.isFinished)
    (hopened : ∀ activity ∈ planned.drop count, activity.isFinished = false) :
    planned.countP Activity.isFinished = min count planned.length := by
  conv_lhs => rw [← take_append_drop count planned]
  rw [countP_append, countP_eq_length.mpr hfin, countP_eq_zero.mpr, length_take, Nat.add_zero]
  intro activity hmem
  simp [hopened activity hmem]

theorem Progress.filter_started (h : Progress planned completed) :
    planned.filter Activity.isStarted =
      (planned[completed]?.filter Activity.isStarted).toList := by
  induction planned generalizing completed with
  | nil => rfl
  | cons activity rest ih =>
    cases completed with
    | zero =>
      rw [progress_cons_zero] at h
      have hrest : rest.filter Activity.isStarted = [] :=
        filter_eq_nil_iff.mpr fun other hother => by simp [(h.2 other hother).2]
      cases hstart : activity.isStarted <;> simp [hstart, hrest, Option.filter]
    | succ completed =>
      rw [progress_cons_succ] at h
      rw [filter_cons, Activity.not_started_of_finished h.1, getElem?_cons_succ]
      exact ih h.2

theorem currentPlanIndexFor_iff {plan : CurrentPlan} (hdist : plan.activityIds.Nodup) :
    currentPlanIndexFor plan activityId = some position ↔
      plan.activityIds[position]? = some activityId := by
  unfold currentPlanIndexFor
  rw [findIdx?_eq_some_iff_getElem, CurrentPlan.activityIds, getElem?_map]
  constructor
  · rintro ⟨hbound, hfound, -⟩
    simpa [hbound] using hfound
  · intro h
    obtain ⟨segment, hseg, hid⟩ := map_eq_some_iff.mp h
    obtain ⟨hbound, rfl⟩ := List.getElem?_eq_some_iff.mp hseg
    refine ⟨hbound, by simpa using hid, fun earlier hearlier => ?_⟩
    simp only [decide_eq_true_eq]
    intro hsame
    have hpositionBound : position < plan.activityIds.length := by
      simpa [CurrentPlan.activityIds] using hbound
    have hids : plan.activityIds[earlier] = plan.activityIds[position] := by
      simp [CurrentPlan.activityIds, hsame, hid]
    exact absurd (hdist.getElem_inj_iff.mp hids) (Nat.ne_of_lt hearlier)

theorem currentActivityIsValid_iff (hdist : (activityIds state.activities).Nodup)
    (horder : state.currentPlan.activityIds.Perm (activityIds state.activities))
    (hprog : Progress (inPlanOrder state.activities state.currentPlan.activityIds)
      state.completedPrefixCount) :
    state.currentActivityIsValid ((inPlanOrder state.activities
          state.currentPlan.activityIds)[state.completedPrefixCount]?.any Activity.isStarted) ↔
      activityIds (state.activities.filter Activity.isStarted) = state.currentActivityId.toList ∧
        ∀ current ∈ state.currentActivityId,
          state.currentPlan.activityIds[state.completedPrefixCount]? = some current := by
  have hplannedIds : activityIds (inPlanOrder state.activities state.currentPlan.activityIds) =
      state.currentPlan.activityIds := activityIds_inPlanOrder fun id hid => horder.mem_iff.mp hid
  have hperm := inPlanOrder_perm hdist horder
  generalize inPlanOrder state.activities state.currentPlan.activityIds = planned at *
  have hstart : activityIds (state.activities.filter Activity.isStarted) =
      activityIds (planned[state.completedPrefixCount]?.filter Activity.isStarted).toList := by
    have hids := (hperm.filter Activity.isStarted).map Activity.activityId
    rw [hprog.filter_started] at hids
    cases hnext : planned[state.completedPrefixCount]?.filter Activity.isStarted with
    | none =>
      rw [hnext] at hids
      exact nil_perm.mp hids
    | some =>
      rw [hnext] at hids
      exact (singleton_perm.mp hids).symm
  have hnext : state.currentPlan.activityIds[state.completedPrefixCount]? =
      planned[state.completedPrefixCount]?.map Activity.activityId := by
    rw [← hplannedIds, activityIds, getElem?_map]
  have hmember : ∀ activity, planned[state.completedPrefixCount]? = some activity →
      activityFor state.activities activity.activityId = some activity := fun activity hget =>
    activityFor_of_mem hdist (hperm.mem_iff.mp (mem_of_getElem? hget))
  rw [hstart]
  unfold TripState.currentActivityIsValid
  cases hcur : state.currentActivityId with
  | none =>
    cases hget : planned[state.completedPrefixCount]? with
    | none => simp [activityIds]
    | some activity =>
      cases hstate : activity.isStarted <;> simp [activityIds, Option.filter, hstate]
  | some current =>
    simp only [Bool.and_eq_true, decide_eq_true_eq,
      currentPlanIndexFor_iff (horder.nodup_iff.mpr hdist), hnext]
    cases hget : planned[state.completedPrefixCount]? with
    | none => simp
    | some activity =>
      simp only [map_some, Option.some.injEq, any_some]
      constructor
      · rintro ⟨⟨rfl, -⟩, hstate⟩
        simp [activityIds, Option.filter, hstate]
      · rintro ⟨hids, hid⟩
        obtain rfl := hid current rfl
        have hstate : activity.isStarted := by
          by_contra hopen
          simp [activityIds, Option.filter, hopen] at hids
        refine ⟨⟨rfl, ?_⟩, hstate⟩
        rw [hmember activity hget]
        exact hstate

theorem progressFollows_iff (activities : List Activity) (completed : Nat)
    (current : Option ActivityId) (order : List ActivityId) :
    progressFollows activities completed current order ↔
      activities.countP Activity.isFinished = completed ∧
        activityIds (activities.filter Activity.isStarted) = current.toList ∧
        ∀ activityId ∈ current, order[completed]? = some activityId := by
  simp [progressFollows, and_assoc, all_eq_true]

theorem progress_of_follows {current : Option ActivityId}
    (hdist : (activityIds activities).Nodup) (horder : order.Perm (activityIds activities))
    (hfirst : FinishedFirst (inPlanOrder activities order))
    (h : progressFollows activities completed current order) :
    Progress (inPlanOrder activities order) completed := by
  obtain ⟨hcount, hstart, hnext⟩ := (progressFollows_iff _ _ _ _).mp h
  have hperm := inPlanOrder_perm hdist horder
  have hids : activityIds (inPlanOrder activities order) = order :=
    activityIds_inPlanOrder fun id hid => horder.mem_iff.mp hid
  generalize inPlanOrder activities order = planned at *
  obtain ⟨count, hfin, hopened⟩ := hfirst
  rw [← hperm.countP_eq, countP_finished hfin hopened] at hcount
  have hcut : planned.take completed = planned.take count ∧
      planned.drop completed = planned.drop count := by
    rcases Nat.le_total count planned.length with hle | hle
    · rw [← hcount, Nat.min_eq_left hle]
      exact ⟨rfl, rfl⟩
    · rw [← hcount, Nat.min_eq_right hle, take_length, drop_length,
        take_of_length_le hle, drop_of_length_le hle]
      exact ⟨rfl, rfl⟩
  refine ⟨hcut.1 ▸ hfin, hcut.2 ▸ hopened, fun activity hmem => ?_⟩
  by_contra hstate
  -- A later started activity would be the current one, which stands earlier.
  obtain ⟨offset, hoffset⟩ := mem_iff_getElem?.mp hmem
  rw [getElem?_drop] at hoffset
  have hcur : activity.activityId ∈ current := by
    rw [mem_def, ← mem_toList, ← hstart]
    exact mem_map_of_mem (mem_filter.mpr
      ⟨hperm.mem_iff.mp (mem_of_getElem? hoffset), by simpa using hstate⟩)
  have hearly := hnext _ hcur
  have hlate : order[completed + 1 + offset]? = some activity.activityId := by
    rw [← hids, activityIds, getElem?_map, hoffset, map_some]
  have hsame := (nodup_iff_getElem?_ne_getElem?.mp (horder.nodup_iff.mpr hdist))
    completed (completed + 1 + offset) (by omega) (List.getElem?_eq_some_iff.mp hlate).1
  exact hsame (hearly.trans hlate.symm)

theorem scanPlanStates_plan_iff {plan : CurrentPlan}
    (horder : plan.activityIds.Perm (activityIds activities)) (completed : Nat) (found : Bool) :
    scanPlanStates activities completed 0 false plan.segments = some found ↔
      Progress (inPlanOrder activities plan.activityIds) completed ∧
      found = (inPlanOrder activities plan.activityIds)[completed]?.any Activity.isStarted :=
  scanPlanStates_iff (Nat.zero_le completed) (fun _ hseg => horder.mem_iff.mp (mem_map_of_mem hseg))

theorem progress_valid_iff (state : TripState) (hdist : (activityIds state.activities).Nodup)
    (horder : state.currentPlan.activityIds.Perm (activityIds state.activities))
    (hcomp : state.completedPrefixCount ≤ state.activities.length)
    (hfirst : FinishedFirst (inPlanOrder state.activities state.currentPlan.activityIds)) :
    (∃ found, scanPlanStates state.activities state.completedPrefixCount 0 false
        state.currentPlan.segments = some found ∧ state.currentActivityIsValid found) ↔
      progressFollows state.activities state.completedPrefixCount state.currentActivityId
        state.currentPlan.activityIds := by
  have hscan := scanPlanStates_plan_iff horder state.completedPrefixCount
  have hlen := (inPlanOrder_perm hdist horder).length_eq
  constructor
  · rintro ⟨found, hfound, hcur⟩
    obtain ⟨hprog, rfl⟩ := (hscan found).mp hfound
    rw [progressFollows_iff, ← currentActivityIsValid_iff hdist horder hprog]
    refine ⟨?_, hcur⟩
    rw [← (inPlanOrder_perm hdist horder).countP_eq, countP_finished hprog.finished hprog.opened]
    omega
  · intro h
    have hprog := progress_of_follows hdist horder hfirst h
    refine ⟨_, (hscan _).mpr ⟨hprog, rfl⟩, ?_⟩
    exact (currentActivityIsValid_iff hdist horder hprog).mpr ((progressFollows_iff _ _ _ _).mp h).2

theorem progress_of_valid (h : state.Valid) : Progress
    (inPlanOrder state.activities state.currentPlan.activityIds) state.completedPrefixCount := by
  obtain ⟨found, hscan, -⟩ := h.progress
  exact ((scanPlanStates_plan_iff h.plan.order _ found).mp hscan).1

theorem finishedFirst_of_valid (h : state.Valid) :
    FinishedFirst (inPlanOrder state.activities state.currentPlan.activityIds) :=
  ⟨_, (progress_of_valid h).finished, (progress_of_valid h).opened⟩

theorem progressFollows_of_valid (h : state.Valid) :
    progressFollows state.activities state.completedPrefixCount state.currentActivityId
      state.currentPlan.activityIds :=
  (progress_valid_iff state h.distinct h.plan.order h.completed
    (finishedFirst_of_valid h)).mp h.progress

end LiveRoute.Domain
