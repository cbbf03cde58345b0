import LiveRoute.Domain.PlanOrder
import LiveRoute.Persistence.CanonicalTrip

/-! The rows that `Load` accepts. It finds the progress of a trip by one walk
along the plan, which fails when the plan lists its activities out of order. -/
namespace LiveRoute.Persistence
open Domain List Bool

variable {trip changed : CanonicalTrip} {activities : List Activity} {plan : CurrentPlan}

/-- The finished activities come first and none but the next one is started. -/
def progressOrdered : List Activity → Bool
  | [] => true
  | activity :: rest =>
    if activity.isFinished then progressOrdered rest
    else rest.all fun later => decide (later.activityState = .planned)

theorem activityFor_eq_none_iff : activityFor activities activityId = none ↔
    activityId ∉ activityIds activities := by
  rw [← activityFor_isSome_iff, ← Option.isSome_iff_exists, Option.not_isSome_iff_eq_none]

/-- Past the first open activity every other one must be planned. -/
theorem scanProgress_after {current : Option ActivityId} (hindex : completed < index) :
    (scanProgress activities index false completed current segments).isSome ↔
      (∀ segment ∈ segments, segment.activityId ∈ activityIds activities) ∧
      (inPlanOrder activities (segments.map CurrentPlanSegment.activityId)).all fun activity =>
        decide (activity.activityState = .planned) := by
  induction segments generalizing index with
  | nil => simp [scanProgress]
  | cons segment _ ih =>
    have hrest := ih (Nat.lt_succ_of_lt hindex)
    have hplace : ¬index = completed := Nat.ne_of_gt hindex
    unfold scanProgress
    cases hact : activityFor activities segment.activityId with
    | none => simp [activityFor_eq_none_iff.mp hact]
    | some activity =>
      have hknown := activityFor_isSome_iff.mp ⟨activity, hact⟩
      rw [map_cons, inPlanOrder_cons hact]
      cases hstate : activity.activityState <;> simp [hstate, hknown, hplace, hrest]

theorem scanProgress_isSome_iff :
    (scanProgress activities index true index none segments).isSome ↔
      (∀ segment ∈ segments, segment.activityId ∈ activityIds activities) ∧
      progressOrdered
        (inPlanOrder activities (segments.map CurrentPlanSegment.activityId)) := by
  induction segments generalizing index with
  | nil => simp [scanProgress, progressOrdered]
  | cons segment rest ih =>
    have hafter := fun current => @scanProgress_after activities index (index + 1) rest current
      (Nat.lt_succ_self index)
    unfold scanProgress
    cases hact : activityFor activities segment.activityId with
    | none => simp [activityFor_eq_none_iff.mp hact]
    | some activity =>
      have hknown := activityFor_isSome_iff.mp ⟨activity, hact⟩
      rw [map_cons, inPlanOrder_cons hact]
      cases hstate : activity.activityState <;>
        simp [hstate, hknown, progressOrdered, Activity.isFinished, ih, hafter]

/-- The primary keys of `trip_activities` and `trip_travel_delays`. -/
structure RowsKeyed (trip : CanonicalTrip) : Prop where
  activities : (activityIds (trip.activities.map ActivityRow.activity)).Nodup
  delays : ((trip.travelDelays.map TravelDelayRow.delay).map TravelDelayState.key).Nodup

theorem RowsKeyed.congr (h : RowsKeyed trip) (hacts : changed.activities = trip.activities)
    (hdelays : changed.travelDelays = trip.travelDelays) : RowsKeyed changed :=
  ⟨hacts ▸ h.activities, hdelays ▸ h.delays⟩

/-- The checks of `Load` that do not look at the plan. -/
structure RowsValid (trip : CanonicalTrip) : Prop where
  revision : 0 < trip.tripRevision
  finalized : 0 < trip.finalizedMutationSequence
  zone : trip.defaultTimeZoneName.isEmpty = false
  activities : (trip.activities.map ActivityRow.activity).all Activity.isValid
  count : (trip.activities.map ActivityRow.activity).length ≤ 64
  delays : delaysAreLoadable (trip.activities.map ActivityRow.activity)
    (trip.travelDelays.map TravelDelayRow.delay)

theorem rowsValid_of_contents (hacts : trip.activities.map ActivityRow.activity = activities)
    (hdelays : trip.travelDelays.map TravelDelayRow.delay = delays) (hrev : 0 < trip.tripRevision)
    (hfin : 0 < trip.finalizedMutationSequence) (hzone : trip.defaultTimeZoneName.isEmpty = false)
    (hvalid : activities.all Activity.isValid) (hcount : activities.length ≤ 64)
    (hknown : delaysAreLoadable activities delays) : RowsValid trip := by
  subst hacts hdelays
  exact ⟨hrev, hfin, hzone, hvalid, hcount, hknown⟩

theorem RowsValid.keep (h : RowsValid trip) (hacts : changed.activities = trip.activities)
    (hdelays : changed.travelDelays = trip.travelDelays)
    (hzone : changed.defaultTimeZoneName.isEmpty = false) (hrev : 0 < changed.tripRevision)
    (hfin : 0 < changed.finalizedMutationSequence) : RowsValid changed :=
  rowsValid_of_contents (congrArg _ hacts) (congrArg _ hdelays) hrev hfin hzone h.activities
    h.count h.delays

/-- The rows and the plan that `Load` accepts. -/
structure LoadsAs (trip : CanonicalTrip) (plan : CurrentPlan) : Prop where
  rows : RowsValid trip
  parsed : parsedPlanIsValid plan
  order : plan.activityIds.Perm (activityIds (trip.activities.map ActivityRow.activity))
  progress : progressOrdered
    (inPlanOrder (trip.activities.map ActivityRow.activity) plan.activityIds)

theorem loadsAs_of_contents (hacts : trip.activities.map ActivityRow.activity = activities)
    (hrows : RowsValid trip) (hparsed : parsedPlanIsValid plan)
    (horder : plan.activityIds.Perm (activityIds activities))
    (hprog : progressOrdered (inPlanOrder activities plan.activityIds)) : LoadsAs trip plan := by
  subst hacts
  exact ⟨hrows, hparsed, horder, hprog⟩

theorem rowsAreValid_iff : trip.rowsAreValid ↔ RowsValid trip := by
  simp only [CanonicalTrip.rowsAreValid, and_eq_true, decide_eq_true_eq, not_eq_true']
  constructor
  · rintro ⟨⟨⟨⟨⟨hrev, hfin⟩, hzone⟩, hacts⟩, hcount⟩, hdelays⟩
    exact ⟨hrev, hfin, hzone, hacts, hcount, hdelays⟩
  · rintro ⟨hrev, hfin, hzone, hacts, hcount, hdelays⟩
    exact ⟨⟨⟨⟨⟨hrev, hfin⟩, hzone⟩, hacts⟩, hcount⟩, hdelays⟩

theorem perm_of_parsed (hparsed : parsedPlanIsValid plan)
    (hlen : plan.segments.length = activities.length)
    (hknown : ∀ segment ∈ plan.segments, segment.activityId ∈ activityIds activities) :
    plan.activityIds.Perm (activityIds activities) := by
  have hdist : plan.activityIds.Nodup := by
    simp only [parsedPlanIsValid, and_eq_true, decide_eq_true_eq] at hparsed
    exact hparsed.1.2
  have hsubset : plan.activityIds ⊆ activityIds activities := by
    intro activityId hmem
    obtain ⟨segment, hseg, rfl⟩ := mem_map.mp hmem
    exact hknown segment hseg
  apply (subperm_of_subset hdist hsubset).perm_of_length_le
  simp only [activityIds, CurrentPlan.activityIds, length_map]
  omega

theorem load_isSome_iff (hplan : trip.currentPlan = some plan) :
    (load trip).isSome ↔ LoadsAs trip plan := by
  have hscan := @scanProgress_isSome_iff (trip.activities.map ActivityRow.activity) 0 plan.segments
  constructor
  · intro h
    unfold load at h
    rw [hplan] at h
    split at h
    · cases h
    rename_i hrows
    dsimp only at h
    split at h
    · cases h
    rename_i hparsed
    rw [Option.isSome_map, hscan] at h
    simp only [not_eq_true, or_eq_false_iff, not_eq_false', decide_eq_true_eq] at hrows hparsed
    exact ⟨rowsAreValid_iff.mp hrows, hparsed.1, perm_of_parsed hparsed.1 hparsed.2 h.1, h.2⟩
  · intro h
    have hlen : plan.segments.length = (trip.activities.map ActivityRow.activity).length := by
      simpa [CurrentPlan.activityIds, activityIds] using h.order.length_eq
    have hknown : ∀ segment ∈ plan.segments, segment.activityId ∈
        activityIds (trip.activities.map ActivityRow.activity) :=
      fun segment hseg => h.order.mem_iff.mp (mem_map_of_mem hseg)
    simp only [load, rowsAreValid_iff.mpr h.rows, hplan, h.parsed, hlen, decide_true, Bool.not_true,
      Bool.or_self, Bool.false_eq_true, if_false, Option.isSome_map]
    exact hscan.mpr ⟨hknown, h.progress⟩

theorem delaysAreLoadable_iff (delays : List TravelDelayState) :
    delaysAreLoadable activities delays ↔ ∀ delay ∈ delays,
      delay.fromActivityId ∈ activityIds activities ∧
        delay.toActivityId ∈ activityIds activities := by
  simp [delaysAreLoadable, containsActivity_iff]

end LiveRoute.Persistence
