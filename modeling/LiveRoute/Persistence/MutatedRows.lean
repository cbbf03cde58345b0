import LiveRoute.Persistence.FinalizationFacts
import LiveRoute.Persistence.LoadedTrip

/-! The rows that an accepted mutation leaves. It keeps the keys of activities
and delays and the validity of their values; only a change of status can leave
activities that their plan lists in the wrong order. -/
namespace LiveRoute.Persistence
open Domain List

theorem inPlanOrder_map {update : Activity → Activity}
    (hid : ∀ activity, (update activity).activityId = activity.activityId)
    (activities : List Activity) :
    inPlanOrder (activities.map update) order = (inPlanOrder activities order).map update := by
  unfold inPlanOrder
  rw [map_filterMap]
  apply filterMap_congr
  intro activityId _
  unfold activityFor
  rw [find?_map]
  congr 2
  funext activity
  rw [Function.comp_apply, hid]

theorem activityIds_map {update : Activity → Activity}
    (hid : ∀ activity, (update activity).activityId = activity.activityId)
    (activities : List Activity) :
    activityIds (activities.map update) = activityIds activities := by
  unfold activityIds
  rw [map_map]
  apply map_congr_left
  intro activity _
  exact hid activity

/-- The activity with the status that the mutation gives it. -/
def AcceptedMutation.withStatus (mutation : AcceptedMutation) (activity : Activity) : Activity :=
  match mutation with
  | .activityStatus activityId state =>
    if activity.activityId = activityId then { activity with activityState := state } else activity
  | _ => activity

theorem progressOrdered_map {update other : Activity → Activity}
    (h : ∀ activity, (update activity).activityState = (other activity).activityState)
    (planned : List Activity) :
    progressOrdered (planned.map update) = progressOrdered (planned.map other) := by
  induction planned with
  | nil => rfl
  | cons => simp_all [progressOrdered, Activity.isFinished, Function.comp_def]

structure MutatedRows (trip mutated : CanonicalTrip) (mutation : AcceptedMutation) : Prop where
  rows : ∃ activities delays,
    mutated = { trip with activities := activities, travelDelays := delays }
  keyed : RowsKeyed trip → RowsKeyed mutated
  activities : ∃ update : Activity → Activity,
    mutated.activities.map ActivityRow.activity =
      (trip.activities.map ActivityRow.activity).map update ∧
    (∀ activity, (update activity).activityId = activity.activityId) ∧
    (∀ activity, activity.isValid → (update activity).isValid) ∧
    ∀ activity, (update activity).activityState = (mutation.withStatus activity).activityState
  delays : RowsKeyed trip → delaysAreLoadable (trip.activities.map ActivityRow.activity)
      (trip.travelDelays.map TravelDelayRow.delay) →
    delaysAreLoadable (mutated.activities.map ActivityRow.activity)
      (mutated.travelDelays.map TravelDelayRow.delay)

theorem updateActivityStatement_rows {update : Activity → Activity}
    (h : updateActivityStatement trip activityId update = .ok mutated)
    (hid : ∀ activity, (update activity).activityId = activity.activityId)
    (hvalid : ∀ activity, activity.isValid → (update activity).isValid)
    (hstate : ∀ activity, (updateMatching activityId update activity).activityState =
      (mutation.withStatus activity).activityState) : MutatedRows trip mutated mutation := by
  unfold updateActivityStatement at h
  split at h
  · cases h
  rename_i rows hrows
  split at h <;> cases h
  have hacts := updateActivityRows_activities hrows
  have hmatching : ∀ activity,
      (updateMatching activityId update activity).activityId = activity.activityId := by
    intro activity
    unfold updateMatching
    split
    · exact hid activity
    · rfl
  have hids := activityIds_map hmatching (trip.activities.map ActivityRow.activity)
  rw [← hacts] at hids
  constructor
  case rows => exact ⟨rows, trip.travelDelays, rfl⟩
  case keyed => exact fun hkeyed => ⟨hids ▸ hkeyed.activities, hkeyed.delays⟩
  case activities =>
    refine ⟨_, hacts, hmatching, fun activity hact => ?_, hstate⟩
    unfold updateMatching
    split
    · exact hvalid activity hact
    · exact hact
  case delays =>
    intro _ hdelays
    rw [delaysAreLoadable_iff] at hdelays ⊢
    rw [hids]
    exact hdelays

theorem upsertDelayStatement_rows (h : upsertDelayStatement trip delay = .ok mutated)
    (hstate : ∀ activity, mutation.withStatus activity = activity) :
    MutatedRows trip mutated mutation := by
  unfold upsertDelayStatement at h
  dsimp only at h
  split at h
  next hfits =>
    split at h
    next hknown =>
      cases h
      simp only [Bool.and_eq_true, containsActivity_iff] at hknown
      have hperm : RowsKeyed trip → ((upsertDelayRow ⟨delay, hfits⟩ trip.travelDelays).map
          TravelDelayRow.delay).Perm (delay :: (trip.travelDelays.map TravelDelayRow.delay).filter
            fun other => !decide (other.key = delay.key)) := by
        intro hkeyed
        rw [upsertDelayRow_delays]
        exact upsertTravelDelay_perm hkeyed.delays
      constructor
      case rows => exact ⟨trip.activities, _, rfl⟩
      case keyed =>
        intro hkeyed
        refine ⟨hkeyed.activities, ((hperm hkeyed).map _).nodup_iff.mpr ?_⟩
        rw [map_cons, nodup_cons]
        refine ⟨?_, (filter_sublist.map _).nodup hkeyed.delays⟩
        intro hmem
        obtain ⟨other, hother, hkey⟩ := mem_map.mp hmem
        simp [hkey] at hother
      case activities =>
        exact ⟨id, by simp, fun _ => rfl, fun _ hvalid => hvalid,
          fun activity => by rw [hstate]; rfl⟩
      case delays =>
        intro hkeyed hdelays
        rw [delaysAreLoadable_iff] at hdelays ⊢
        intro other hother
        rcases mem_cons.mp ((hperm hkeyed).mem_iff.mp hother) with rfl | hkept
        · exact hknown
        · exact hdelays other (mem_of_mem_filter hkept)
    · cases h
  · cases h

theorem applyAcceptedMutation_mutated {mutation : AcceptedMutation}
    (hrange : mutation.valuesInRange)
    (h : applyAcceptedMutation trip mutation = .ok mutated) :
    MutatedRows trip mutated mutation := by
  cases mutation with
  | travelDelay => exact upsertDelayStatement_rows h fun _ => rfl
  | operatingHours =>
    refine updateActivityStatement_rows h (fun _ => rfl) ?_ ?_
    · intro activity hvalid
      simp only [Activity.isValid, ActivityTiming.isValid, Bool.and_eq_true] at hvalid ⊢
      exact ⟨hvalid.1, hvalid.2.1, hrange⟩
    · intro activity
      unfold updateMatching
      split <;> rfl
  | activityStatus =>
    refine updateActivityStatement_rows h (fun _ => rfl) (fun _ hvalid => hvalid) ?_
    exact fun _ => rfl
  | _ =>
    refine updateActivityStatement_rows h (fun _ => rfl) (fun _ hvalid => hvalid) ?_
    intro activity
    unfold updateMatching
    split <;> rfl

/-- Rows that load still do after a mutation whose status the plan allows. -/
theorem LoadsAs.mutated {trip mutated : CanonicalTrip} {mutation : AcceptedMutation}
    {plan : CurrentPlan} (h : LoadsAs trip plan) (hkeyed : RowsKeyed trip)
    (hrows : MutatedRows trip mutated mutation)
    (hprog : progressOrdered ((inPlanOrder (trip.activities.map ActivityRow.activity)
      plan.activityIds).map mutation.withStatus)) : LoadsAs mutated plan := by
  obtain ⟨activities, delays, rfl⟩ := hrows.rows
  obtain ⟨update, hupd, hid, hvalid, hstate⟩ := hrows.activities
  constructor
  case rows =>
    refine ⟨h.rows.revision, h.rows.finalized, h.rows.zone, ?_, ?_,
      hrows.delays hkeyed h.rows.delays⟩
    · rw [hupd, all_map, all_eq_true]
      intro activity hact
      exact hvalid activity (all_eq_true.mp h.rows.activities activity hact)
    · rw [hupd, length_map]
      exact h.rows.count
  case parsed => exact h.parsed
  case order =>
    rw [hupd, activityIds_map hid]
    exact h.order
  case progress =>
    rw [hupd, inPlanOrder_map hid, progressOrdered_map hstate]
    exact hprog

end LiveRoute.Persistence
