import LiveRoute.Domain.TripStateFacts
import LiveRoute.Persistence.CanonicalTrip

/-! Loading the rows of a valid trip. Progress is stored by the runtime and
recomputed from the plan order by the backend; both scans find the same. -/
namespace LiveRoute.Persistence
open Domain Sequence Bool

/-- Past the completed prefix nothing is started, so neither scan changes. -/
theorem scanProgress_outside (hindex : completed < index)
    (h : scanPlanStates activities completed index found segments = some found')
    (current : Option ActivityId) : found' = found ∧
    scanProgress activities index false completed current segments = some (completed, current) := by
  induction segments generalizing index with
  | nil =>
    cases h
    exact ⟨rfl, rfl⟩
  | cons segment _ ih =>
    have houtside : ¬index < completed := by omega
    have hplace : ¬index = completed := by omega
    unfold scanPlanStates at h
    unfold scanProgress
    cases hact : activityFor activities segment.activityId with
    | none => simp [hact] at h
    | some activity =>
      cases hstate : activity.activityState <;> simp [hact, hstate, houtside, hplace] at h ⊢
      exact ih (Nat.lt_succ_of_lt hindex) h

/-- The scan from inside the prefix. The started activity, if the runtime's
scan found one, stands right after the prefix. -/
theorem scanProgress_inside {segments : List CurrentPlanSegment}
    (hindex : index ≤ completed) (hlen : completed ≤ index + segments.length)
    (h : scanPlanStates activities completed index false segments = some found) :
    scanProgress activities index true index none segments = some (completed, if found then
        segments[completed - index]?.map CurrentPlanSegment.activityId else none) := by
  induction segments generalizing index with
  | nil =>
    obtain rfl : index = completed := Nat.le_antisymm hindex hlen
    simp [scanProgress]
  | cons segment _ ih =>
    unfold scanPlanStates at h
    unfold scanProgress
    cases hact : activityFor activities segment.activityId with
    | none => simp [hact] at h
    | some activity =>
      rcases Nat.lt_or_eq_of_le hindex with hinside | rfl
      · -- Inside the prefix the activity is finished and both scans go on.
        have hnext := ih hinside (by simp only [List.length_cons] at hlen; omega)
        have hpos : completed - index = completed - (index + 1) + 1 := by omega
        cases hstate : activity.activityState <;> simp [hact, hstate, hinside] at h ⊢
        all_goals simp [hnext h, hpos]
      · -- The first open activity closes the prefix.
        cases hstate : activity.activityState <;> simp [hact, hstate] at h ⊢
        · obtain ⟨rfl, hscan⟩ := scanProgress_outside (Nat.lt_succ_self index) h none
          simpa using hscan
        · obtain ⟨rfl, hscan⟩ :=
            scanProgress_outside (Nat.lt_succ_self index) h (some segment.activityId)
          simpa using hscan
theorem scanProgress_of_valid {state : TripState} (h : state.Valid) :
    scanProgress state.activities 0 true 0 none state.currentPlan.segments =
      some (state.completedPrefixCount, state.currentActivityId) := by
  obtain ⟨found, hscan, hcur⟩ := h.progress
  have hlen : state.currentPlan.segments.length = state.activities.length := by
    simpa [CurrentPlan.activityIds, activityIds] using h.plan.order.length_eq
  have hcomp := h.completed
  rw [scanProgress_inside (Nat.zero_le _) (by omega) hscan]
  unfold TripState.currentActivityIsValid at hcur
  cases hact : state.currentActivityId with
  | none =>
    simp only [hact, not_eq_true'] at hcur
    simp [hcur]
  | some =>
    simp only [hact, and_eq_true, decide_eq_true_eq] at hcur
    obtain ⟨⟨hindex, -⟩, rfl⟩ := hcur
    obtain ⟨hbound, hfound, -⟩ := List.findIdx?_eq_some_iff_getElem.mp hindex
    simp only [decide_eq_true_eq] at hfound
    simp [hbound, hfound]

theorem parsedPlanIsValid_of_covers {plan : CurrentPlan}
    (h : plan.Covers ids) : parsedPlanIsValid plan := by
  have hdist : (plan.segments.map CurrentPlanSegment.activityId).Nodup :=
    h.order.nodup_iff.mpr h.distinct
  have horigin := h.origin
  simp [parsedPlanIsValid, h.revision, h.ordered, hdist]
  exact horigin

theorem load_of_valid {trip : CanonicalTrip} {state : TripState} (hstate : state.Valid)
    (hzone : trip.defaultTimeZoneName = state.defaultTimeZoneName)
    (hacts : trip.activities.map ActivityRow.activity = state.activities)
    (hdelays : (trip.travelDelays.map TravelDelayRow.delay).Perm state.travelDelays)
    (hplan : trip.currentPlan = some state.currentPlan)
    (hrev : 0 < trip.tripRevision) (hfin : 0 < trip.finalizedMutationSequence) :
    load trip = some
      { tripId := trip.tripId, defaultTimeZoneName := state.defaultTimeZoneName
        tripRevision := trip.tripRevision
        finalizedMutationSequence := trip.finalizedMutationSequence
        completedPrefixCount := state.completedPrefixCount
        currentActivityId := state.currentActivityId, activities := state.activities
        travelDelays := trip.travelDelays.map TravelDelayRow.delay
        currentPlan := state.currentPlan } := by
  have hloadable : delaysAreLoadable state.activities
      (trip.travelDelays.map TravelDelayRow.delay) := by
    have hvalid := hstate.delays
    unfold travelDelaysAreValid at hvalid
    simp only [and_eq_true] at hvalid
    unfold delaysAreLoadable
    rw [hdelays.all_eq]
    exact hvalid.1
  have hrows : trip.rowsAreValid := by
    simp only [CanonicalTrip.rowsAreValid, hacts, hzone, hrev, hfin, hstate.zone,
      hstate.activities, hstate.count, hloadable]
    rfl
  have hlen : state.currentPlan.segments.length = state.activities.length := by
    simpa [CurrentPlan.activityIds, activityIds] using hstate.plan.order.length_eq
  simp [load, hrows, hplan, hacts, parsedPlanIsValid_of_covers hstate.plan, hlen,
    scanProgress_of_valid hstate, hzone]

theorem load_fields (h : load trip = some loaded) :
    loaded.tripId = trip.tripId ∧ loaded.defaultTimeZoneName = trip.defaultTimeZoneName ∧
      loaded.tripRevision = trip.tripRevision ∧
      loaded.finalizedMutationSequence = trip.finalizedMutationSequence ∧
      loaded.activities = trip.activities.map ActivityRow.activity ∧
      loaded.travelDelays = trip.travelDelays.map TravelDelayRow.delay ∧
      trip.currentPlan = some loaded.currentPlan := by
  revert h
  fun_cases load trip
  case case4 hplan _ =>
    intro h
    obtain ⟨-, -, rfl⟩ := Option.map_eq_some_iff.mp h
    exact ⟨rfl, rfl, rfl, rfl, rfl, rfl, hplan⟩
  all_goals simp

end LiveRoute.Persistence
