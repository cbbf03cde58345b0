import LiveRoute.Domain.PlanOrder

/-! The completed part of a trip along a run of events. Only an edit may touch
what is finished: every other event keeps the state of a finished activity and
never shortens the completed prefix. -/
namespace LiveRoute.Domain
open List Option

variable {state : TripState} {activity : Activity}

theorem inPlanOrder_getElem? (h : state.Valid) (hmem : activity ∈ state.activities) {position : Nat}
    (hpos : state.currentPlan.activityIds[position]? = some activity.activityId) :
    (inPlanOrder state.activities state.currentPlan.activityIds)[position]? = some activity := by
  have hids : activityIds (inPlanOrder state.activities state.currentPlan.activityIds) =
      state.currentPlan.activityIds :=
    activityIds_inPlanOrder fun id hid => h.plan.order.mem_iff.mp hid
  rw [← hids, activityIds, getElem?_map] at hpos
  obtain ⟨planned, hplan, hid⟩ := map_eq_some_iff.mp hpos
  have hknown : planned ∈ state.activities :=
    (inPlanOrder_perm h.distinct h.plan.order).mem_iff.mp (mem_of_getElem? hplan)
  rw [hplan, inj_on_of_nodup_map h.distinct hknown hmem hid]

theorem isFinished_iff_position (h : state.Valid) (hmem : activity ∈ state.activities)
    {position : Nat} (hpos : state.currentPlan.activityIds[position]? = some activity.activityId) :
    activity.isFinished ↔ position < state.completedPrefixCount := by
  have hplan := inPlanOrder_getElem? h hmem hpos
  have hprog := progress_of_valid h
  constructor
  · intro hfin
    by_contra hlate
    have hdropped : activity ∈ (inPlanOrder state.activities state.currentPlan.activityIds).drop
        state.completedPrefixCount := by
      apply mem_of_getElem? (i := position - state.completedPrefixCount)
      rw [getElem?_drop, ← hplan]
      congr 1
      omega
    simp [hprog.opened activity hdropped] at hfin
  · intro hearly
    apply hprog.finished
    apply mem_of_getElem? (i := position)
    rw [getElem?_take_of_lt hearly, hplan]

theorem mem_completedPrefix_iff (h : state.Valid) (activityId : ActivityId) :
    activityId ∈ state.currentPlan.activityIds.take state.completedPrefixCount ↔
      ∃ activity ∈ state.activities,
        activity.activityId = activityId ∧ activity.activityState.isTerminal := by
  constructor
  · intro hprefix
    obtain ⟨position, htaken⟩ := mem_iff_getElem?.mp hprefix
    obtain ⟨hearly, hpos⟩ : position < state.completedPrefixCount ∧
        state.currentPlan.activityIds[position]? = some activityId := by
      rw [getElem?_take] at htaken
      split at htaken
      next hearly => exact ⟨hearly, htaken⟩
      next => cases htaken
    have hknown : activityId ∈ activityIds state.activities :=
      h.plan.order.mem_iff.mp (mem_of_getElem? hpos)
    obtain ⟨activity, hmem, rfl⟩ := mem_map.mp hknown
    exact ⟨activity, hmem, rfl, (isFinished_iff_position h hmem hpos).mpr hearly⟩
  · rintro ⟨activity, hmem, rfl, hfin⟩
    have hplan : activity.activityId ∈ state.currentPlan.activityIds :=
      h.plan.order.mem_iff.mpr (mem_map_of_mem hmem)
    obtain ⟨position, hpos⟩ := mem_iff_getElem?.mp hplan
    have hearly := (isFinished_iff_position h hmem hpos).mp hfin
    apply mem_of_getElem? (i := position)
    rw [getElem?_take_of_lt hearly, hpos]

theorem started_of_valid (h : state.Valid) :
    (state.activities.filter Activity.isStarted).length ≤ 1 ∧
      ∀ activity ∈ state.activities, activity.activityState = .started →
        state.currentPlan.activityIds[state.completedPrefixCount]? = some activity.activityId := by
  obtain ⟨-, hstart, hnext⟩ := (progressFollows_iff _ _ _ _).mp (progressFollows_of_valid h)
  constructor
  · have hlen := congrArg List.length hstart
    rw [activityIds, length_map] at hlen
    rw [hlen]
    exact length_toList_le
  · intro activity hmem hstate
    apply hnext
    have hfiltered : activity ∈ state.activities.filter Activity.isStarted :=
      mem_filter.mpr ⟨hmem, by simp [Activity.isStarted, hstate]⟩
    rw [mem_def, ← mem_toList, ← hstart]
    exact mem_map_of_mem hfiltered

structure HistoryKept (before after : TripState) : Prop where
  counted : before.completedPrefixCount ≤ after.completedPrefixCount
  terminal : ∀ activity ∈ before.activities, activity.activityState.isTerminal →
    ∃ kept ∈ after.activities,
      kept.activityId = activity.activityId ∧ kept.activityState = activity.activityState

theorem HistoryKept.of_same {before after : TripState}
    (hcomp : after.completedPrefixCount = before.completedPrefixCount)
    (hacts : after.activities = before.activities) : HistoryKept before after := by
  refine ⟨hcomp.ge, fun activity hmem _ => ⟨activity, ?_, rfl, rfl⟩⟩
  rwa [hacts]

theorem HistoryKept.refl (state : TripState) : HistoryKept state state :=
  HistoryKept.of_same rfl rfl

theorem HistoryKept.trans (h : HistoryKept first second)
    (h' : HistoryKept second third) : HistoryKept first third := by
  refine ⟨h.counted.trans h'.counted, fun activity hmem hterm => ?_⟩
  obtain ⟨kept, hkept, hid, hstate⟩ := h.terminal activity hmem hterm
  obtain ⟨final, hfinal, hid', hstate'⟩ := h'.terminal kept hkept (hstate ▸ hterm)
  exact ⟨final, hfinal, hid'.trans hid, hstate'.trans hstate⟩

theorem mem_updateActivity (hmem : activity ∈ activities) (update : Activity → Activity) :
    activity ∈ updateActivity activityId update activities ∨ activity.activityId = activityId ∧
        update activity ∈ updateActivity activityId update activities := by
  induction activities with
  | nil => cases hmem
  | cons _ _ ih =>
    unfold updateActivity
    split
    next hfirst =>
      rcases mem_cons.mp hmem with rfl | hrest
      · exact .inr ⟨hfirst, mem_cons_self⟩
      · exact .inl (mem_cons_of_mem _ hrest)
    next =>
      rcases mem_cons.mp hmem with rfl | hrest
      · exact .inl mem_cons_self
      · rcases ih hrest with hsame | ⟨hid, hupd⟩
        · exact .inl (mem_cons_of_mem _ hsame)
        · exact .inr ⟨hid, mem_cons_of_mem _ hupd⟩

theorem HistoryKept.withActivity
    {update : Activity → Activity}
    (hid : ∀ activity, (update activity).activityId = activity.activityId)
    (hstate : ∀ activity, (update activity).activityState = activity.activityState) :
    HistoryKept state (state.withActivity activityId update) := by
  refine ⟨Nat.le_refl _, fun activity hmem _ => ?_⟩
  rcases mem_updateActivity hmem update with hsame | ⟨-, hupd⟩
  · exact ⟨activity, hsame, rfl, rfl⟩
  · exact ⟨update activity, hupd, hid activity, hstate activity⟩

/-- A status change is about an activity outside the completed prefix, so no
finished activity is written. -/
theorem HistoryKept.statusChange (h : state.Valid)
    (hchanged : applyActivityStatusChange state activityId target = some changed) :
    HistoryKept state changed := by
  have hsplit : ∃ position, currentPlanIndexFor state.currentPlan activityId = some position ∧
      state.completedPrefixCount ≤ position ∧
      state.completedPrefixCount ≤ changed.completedPrefixCount ∧
      changed.activities = updateActivity activityId
        (fun activity => { activity with activityState := target }) state.activities := by
    unfold applyActivityStatusChange at hchanged
    split at hchanged
    next position hact hpos =>
      refine ⟨position, hpos, ?_⟩
      cases target with
      | planned =>
        simp only [ite_none_left_eq_some, Option.some.injEq, Nat.not_lt] at hchanged
        obtain ⟨hlate, rfl⟩ := hchanged
        exact ⟨hlate, Nat.le_refl _, rfl⟩
      | started =>
        simp only [ite_none_right_eq_some, Bool.and_eq_true, decide_eq_true_eq,
          Option.some.injEq] at hchanged
        obtain ⟨⟨hnext, -⟩, rfl⟩ := hchanged
        exact ⟨hnext.ge, Nat.le_refl _, rfl⟩
      | completed | skipped =>
        simp only [ite_none_right_eq_some, Bool.and_eq_true, decide_eq_true_eq,
          Option.some.injEq] at hchanged
        obtain ⟨⟨hnext, -⟩, rfl⟩ := hchanged
        exact ⟨hnext.ge, Nat.le_succ _, rfl⟩
    next => cases hchanged
  obtain ⟨position, hindex, hlate, hcounted, hacts⟩ := hsplit
  have hpos := (currentPlanIndexFor_iff (h.plan.order.nodup_iff.mpr h.distinct)).mp hindex
  refine ⟨hcounted, fun activity hmem hterm => ⟨activity, ?_, rfl, rfl⟩⟩
  rw [hacts]
  rcases mem_updateActivity hmem
    (fun activity => { activity with activityState := target }) with hsame | ⟨hid, -⟩
  · exact hsame
  · rw [← hid] at hpos
    have hearly := (isFinished_iff_position h hmem hpos).mp hterm
    omega

def TripEventPayload.isTripEdit : TripEventPayload → Bool
  | .tripEdited .. => true
  | _ => false

theorem HistoryKept.mutation (h : state.Valid) {event : TripEvent}
    (hedit : event.payload.isTripEdit = false) (hmut : mutateTrip state event = some mutated) :
    HistoryKept state mutated := by
  unfold mutateTrip at hmut
  cases hpay : event.payload <;> rw [hpay] at hmut hedit <;>
    simp only [Option.some.injEq] at hmut
  case activityStatusChanged => exact HistoryKept.statusChange h hmut
  case tripEdited => cases hedit
  case activityDelayed | reservationChanged | mandatoryDeadlineChanged | operatingHoursChanged |
      placeFoundClosed =>
    rw [← hmut]
    exact HistoryKept.withActivity (fun _ => rfl) fun _ => rfl
  all_goals
    rw [← hmut]
    exact HistoryKept.of_same rfl rfl

theorem HistoryKept.settle : HistoryKept mutated (settle event mutated) := by
  unfold Domain.settle
  split
  · exact HistoryKept.of_same rfl rfl
  · exact HistoryKept.refl mutated

/-- The states that a run of events goes through; a refused event leaves the
state as it is. -/
def TripState.applyEvents (bytes : Nat) (state : TripState) (events : List TripEvent) : TripState :=
  events.foldl (fun current event => (applyTripEvent current event bytes).1) state

theorem TripState.Valid.applyTripEvent (h : state.Valid) (event : TripEvent) (bytes : Nat) :
    (applyTripEvent state event bytes).1.Valid := by
  rcases applyTripEvent_cases with
    ⟨status, -, href⟩ | ⟨mutated, happ, hacc⟩
  · rw [href]
    exact h
  · rw [hacc]
    exact (isValid_iff _).mp happ.settledValid

theorem HistoryKept.applyTripEvent (h : state.Valid) {event : TripEvent}
    (hedit : event.payload.isTripEdit = false) (bytes : Nat) :
    HistoryKept state (applyTripEvent state event bytes).1 := by
  rcases applyTripEvent_cases with
    ⟨status, -, href⟩ | ⟨mutated, happ, hacc⟩
  · rw [href]
    exact HistoryKept.refl state
  · rw [hacc]
    exact (HistoryKept.mutation h hedit happ.mutation).trans HistoryKept.settle

theorem TripState.Valid.applyEvents (h : state.Valid) : (state.applyEvents bytes events).Valid := by
  induction events generalizing state with
  | nil => exact h
  | cons event _ ih => exact ih (h.applyTripEvent event bytes)

theorem HistoryKept.applyEvents (h : state.Valid)
    (hedits : ∀ event ∈ events, event.payload.isTripEdit = false) :
    HistoryKept state (state.applyEvents bytes events) := by
  induction events generalizing state with
  | nil => exact HistoryKept.refl state
  | cons event _ ih =>
    have hfirst := HistoryKept.applyTripEvent h (hedits event mem_cons_self) bytes
    have hrest := ih (h.applyTripEvent event bytes) fun later hlater =>
      hedits later (mem_cons_of_mem _ hlater)
    exact hfirst.trans hrest

/-- Between any two moments of a run without edits the completed history only
grows, and at the later one it is what the plan's prefix says. -/
theorem completed_history_append_only (state : TripState) (hvalid : state.isValid)
    (bytes : Nat) (earlier later : List TripEvent)
    (hedits : ∀ event ∈ later, event.payload.isTripEdit = false) :
    let before := state.applyEvents bytes earlier
    let after := state.applyEvents bytes (earlier ++ later)
    before.completedPrefixCount ≤ after.completedPrefixCount ∧
      (∀ activityId, activityId ∈ after.currentPlan.activityIds.take after.completedPrefixCount ↔
        ∃ activity ∈ after.activities,
          activity.activityId = activityId ∧ activity.activityState.isTerminal) ∧
      (∀ activity ∈ before.activities, activity.activityState.isTerminal →
        ∃ kept ∈ after.activities,
          kept.activityId = activity.activityId ∧ kept.activityState = activity.activityState) ∧
      (after.activities.filter Activity.isStarted).length ≤ 1 ∧
      ∀ activity ∈ after.activities, activity.activityState = .started →
        after.currentPlan.activityIds[after.completedPrefixCount]? = some activity.activityId := by
  intro before after
  have hbefore : before.Valid := ((TripState.isValid_iff state).mp hvalid).applyEvents
  have hafter : after.Valid := ((TripState.isValid_iff state).mp hvalid).applyEvents
  have hkept : HistoryKept before after := by
    have hrun : after = before.applyEvents bytes later := foldl_append
    rw [hrun]
    exact HistoryKept.applyEvents hbefore hedits
  exact ⟨hkept.counted, mem_completedPrefix_iff hafter, hkept.terminal, started_of_valid hafter⟩

def gardenVisit (activityState : ActivityState) : Activity where
  activityId := ⟨1⟩
  placeId := "garden"
  displayName := "visit"
  location := ⟨some 1, some 1⟩
  timeZoneName := "UTC"
  inboundTravelMode := .walking
  activityClass := .flexible
  activityState := activityState
  priorityRank := 1
  utilityScore := 5
  timing := {
    openWindows := []
    reservationStart := none
    reservationGraceSeconds := 0
    minDurationSeconds := 1800
    preferredDurationSeconds := 3600
    maxDurationSeconds := 7200
    mandatory := false
    canShorten := false
    canMove := true
    canSkip := true
    mandatoryDeadline := none }
  activityDelaySeconds := 0
  foundClosedAt := none

def gardenState : TripState := ⟨⟨9⟩, "UTC", [gardenVisit .planned], 0, none,
    ⟨⟨7⟩, 1, .userAuthored, [⟨⟨1⟩, .omitted, none, none⟩], 0, none⟩, [], .empty, none⟩

def gardenSkipped : TripEvent := ⟨⟨5⟩, 100, none, .activityStatusChanged ⟨1⟩ .skipped⟩

def gardenReopened : TripEvent := ⟨⟨6⟩, 200, none, .activityStatusChanged ⟨1⟩ .planned⟩

theorem completed_history_append_only_garden :
    (gardenState.applyEvents 0 [gardenSkipped]).completedPrefixCount = 1 ∧
      ∃ kept ∈ (gardenState.applyEvents 0 ([gardenSkipped] ++ [gardenReopened])).activities,
        kept.activityId = ⟨1⟩ ∧ kept.activityState = .skipped := by
  refine ⟨by decide, ?_⟩
  exact (completed_history_append_only gardenState (by decide) 0 [gardenSkipped] [gardenReopened]
    (by decide)).2.2.1 (gardenVisit .skipped) (by decide) rfl

end LiveRoute.Domain
