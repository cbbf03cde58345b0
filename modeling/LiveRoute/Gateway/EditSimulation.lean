import LiveRoute.Gateway.CanonicalEdits
import Mathlib.Data.List.InsertIdx

/-! A committed edit in the runtime. Both sides make the same edit of activities
and delays; they differ in what they ask of the plan order and in how they find
the progress of the edited trip. -/
namespace LiveRoute.Gateway
open Domain LiveRoute.Runtime Persistence Dispatch List
open Sequence
open TripState (editActivities withActivity isValid_iff)

def CanonicalEdit.apply (state : TripState) : CanonicalEdit → TripState
  | .currentPlan => state
  | .trip operation => normalizeCurrentActivity (state.editActivities operation)

theorem travelDelaysAreValid_iff (delays : List TravelDelayState) :
    travelDelaysAreValid activities delays ↔
      (∀ delay ∈ delays, delay.fromActivityId ∈ activityIds activities ∧
        delay.toActivityId ∈ activityIds activities) ∧
      (delays.map TravelDelayState.key).Nodup := by
  simp [travelDelaysAreValid, containsActivity_iff]

theorem travelDelaysAreValid_mono (hids : activityIds activities ⊆ activityIds edited)
    (h : travelDelaysAreValid activities delays) : travelDelaysAreValid edited delays := by
  rw [travelDelaysAreValid_iff] at h ⊢
  exact ⟨fun delay hdelay => ⟨hids (h.1 delay hdelay).1, hids (h.1 delay hdelay).2⟩, h.2⟩

/-- The rows hold the activities and delays of the runtime, and those are valid. -/
structure SameRows (trip : CanonicalTrip) (state : TripState) : Prop where
  activities : trip.activities.map ActivityRow.activity = state.activities
  delays : (trip.travelDelays.map TravelDelayRow.delay).Perm state.travelDelays
  count : state.activities.length ≤ 64
  valid : state.activities.all Activity.isValid
  distinct : (activityIds state.activities).Nodup
  delaysValid : travelDelaysAreValid state.activities state.travelDelays

theorem sameRows_of_sameTrip (h : SameTrip trip state) : SameRows trip state :=
  ⟨h.activities, h.delays, h.valid.count, h.valid.activities, h.valid.distinct, h.valid.delays⟩

structure EditedRows (trip written : CanonicalTrip) (resulting : List Activity)
    (edited : TripState) : Prop extends SameRows written edited where
  rows : ∃ rows delays, written = { trip with activities := rows, travelDelays := delays }
  resulting : resulting = edited.activities

section Edits
variable {trip written : CanonicalTrip} {state : TripState} {resulting : List Activity}
  {request : CanonicalEditRequest} {context : CommitContext}

theorem addActivity_edits (hsame : SameRows trip state)
    (hval : (addActivity activity ordinal).validateRequest request = .ok ())
    (hnext : (addActivity activity ordinal).resulting state.activities = .ok resulting)
    (hwrote : (addActivity activity ordinal).write context trip = some written) :
    EditedRows trip written resulting (state.editActivities (.addActivity activity ordinal)) := by
  have hvalid := validateActivityRequest_ok hval
  simp only [addActivity] at hnext hwrote
  split at hnext
  · cases hnext
  split at hnext
  · cases hnext
  rename_i hord
  split at hnext
  · cases hnext
  rename_i hfresh
  cases hnext
  split at hwrote
  · cases hwrote
  obtain ⟨row, hrow, rfl⟩ := Option.map_eq_some_iff.mp hwrote
  obtain rfl := (storeActivity_eq_some_iff _).mp hrow
  have hperm := perm_insertIdx row.activity state.activities (Nat.not_lt.mp hord)
  have hids := hperm.map Activity.activityId
  rw [containsActivity_iff] at hfresh
  refine ⟨⟨?activities, ?delays, ?count, ?valid, ?distinct, ?delaysValid⟩, ?rows, ?resulting⟩
  case rows => exact ⟨_, _, rfl⟩
  case activities =>
    rw [map_insertIdx, hsame.activities]
    rfl
  case delays => exact hsame.delays
  case resulting => rfl
  case count =>
    have hlen := hperm.length_eq
    simp only [length_cons] at hlen
    simp only [editActivities]
    omega
  case valid =>
    simp only [editActivities, hperm.all_eq, all_cons, hvalid,
      hsame.valid, Bool.and_self]
  case distinct => exact hids.nodup_iff.mpr (nodup_cons.mpr ⟨hfresh, hsame.distinct⟩)
  case delaysValid =>
    exact travelDelaysAreValid_mono
      (fun id hid => hids.mem_iff.mpr (mem_cons_of_mem _ hid)) hsame.delaysValid

theorem activityIds_updateActivity {update : Activity → Activity}
    (hupd : ∀ activity, activity.activityId = activityId →
      (update activity).activityId = activityId) :
    activityIds (updateActivity activityId update activities) = activityIds activities := by
  induction activities with
  | nil => rfl
  | cons activity _ ih =>
    unfold updateActivity
    split
    next hmatch => simp [activityIds, hupd activity hmatch, hmatch]
    next => simpa [activityIds] using ih

theorem replaceActivity_edits (hsame : SameRows trip state)
    (hval : (replaceActivity activity).validateRequest request = .ok ())
    (hnext : (replaceActivity activity).resulting state.activities = .ok resulting)
    (hwrote : (replaceActivity activity).write context trip = some written) :
    EditedRows trip written resulting (state.editActivities (.replaceActivity activity)) := by
  have hvalid := validateActivityRequest_ok hval
  simp only [replaceActivity] at hnext hwrote
  split at hnext
  · cases hnext
    obtain ⟨rows, hrows, rfl⟩ := Option.map_eq_some_iff.mp hwrote
    have hmap := updateActivity_eq_map hsame.distinct activity.activityId fun _ => activity
    have hids : activityIds (updateActivity activity.activityId (fun _ => activity)
        state.activities) = activityIds state.activities :=
      activityIds_updateActivity (fun _ _ => rfl)
    refine ⟨⟨?activities, ?delays, ?count, ?valid, ?distinct, ?delaysValid⟩, ?rows, ?resulting⟩
    case rows => exact ⟨_, _, rfl⟩
    case activities =>
      rw [updateActivityRows_activities hrows, hsame.activities, ← hmap]
      rfl
    case delays => exact hsame.delays
    case resulting => rfl
    case count =>
      have hlen := congrArg List.length hids
      simp only [activityIds, length_map] at hlen
      simpa [editActivities, withActivity, hlen] using hsame.count
    case valid =>
      simp only [editActivities, withActivity, hmap, all_map]
      rw [all_eq_true]
      intro other hother
      simp only [Function.comp_apply, updateMatching]
      split
      · exact hvalid
      · exact all_eq_true.mp hsame.valid other hother
    case distinct => exact hids ▸ hsame.distinct
    case delaysValid =>
      exact travelDelaysAreValid_mono (fun _ hid => hids.symm ▸ hid) hsame.delaysValid
  · cases hnext

theorem eraseP_eq_filter (hdist : (activityIds activities).Nodup) (activityId : ActivityId) :
    activities.eraseP (fun activity => decide (activity.activityId = activityId)) =
      activities.filter fun activity => !decide (activity.activityId = activityId) := by
  induction activities with
  | nil => rfl
  | cons activity rest ih =>
    simp only [activityIds, map_cons, nodup_cons] at hdist
    by_cases hmatch : activity.activityId = activityId
    · have hrest : rest.filter (fun other => !decide (other.activityId = activityId)) = rest := by
        rw [filter_eq_self]
        intro other hother
        simp only [Bool.not_eq_true', decide_eq_false_iff_not]
        rintro rfl
        exact hdist.1 (hmatch ▸ mem_map_of_mem hother)
      simp [hmatch, hrest]
    · simp [hmatch, ih hdist.2]

theorem removeActivity_edits (hsame : SameRows trip state)
    (hnext : (removeActivity activityId).resulting state.activities = .ok resulting)
    (hwrote : (removeActivity activityId).write context trip = some written) :
    EditedRows trip written resulting (state.editActivities (.removeActivity activityId)) := by
  simp only [removeActivity] at hnext hwrote
  split at hnext
  · cases hnext
    cases hwrote
    have herase := eraseP_eq_filter hsame.distinct activityId
    refine ⟨⟨?activities, ?delays, ?count, ?valid, ?distinct, ?delaysValid⟩, ?rows, ?resulting⟩
    case rows => exact ⟨_, _, rfl⟩
    case activities =>
      change _ = state.activities.eraseP _
      rw [herase, ← hsame.activities, filter_map]
      rfl
    case delays =>
      have hdelays := hsame.delays.filter fun delay => !delayTouches activityId delay
      rw [filter_map] at hdelays
      exact hdelays
    case resulting => exact herase.symm
    case count => exact Nat.le_trans eraseP_sublist.length_le hsame.count
    case valid =>
      rw [all_eq_true]
      intro other hother
      exact all_eq_true.mp hsame.valid other (eraseP_sublist.subset hother)
    case distinct => exact (eraseP_sublist.map _).nodup hsame.distinct
    case delaysValid =>
      have hdelays := (travelDelaysAreValid_iff _).mp hsame.delaysValid
      rw [travelDelaysAreValid_iff]
      simp only [editActivities, herase]
      refine ⟨fun delay hdelay => ?_, (filter_sublist.map _).nodup hdelays.2⟩
      obtain ⟨hmem, hother⟩ := mem_filter.mp hdelay
      simp only [Bool.not_eq_true', Bool.or_eq_false_iff, decide_eq_false_iff_not] at hother
      have hkept : ∀ id ∈ activityIds state.activities, id ≠ activityId → id ∈ activityIds
          (state.activities.filter fun activity => !decide (activity.activityId = activityId)) := by
        intro id hid hne
        obtain ⟨activity, hact, rfl⟩ := mem_map.mp hid
        exact mem_map_of_mem (mem_filter.mpr ⟨hact, by simpa using hne⟩)
      exact ⟨hkept _ (hdelays.1 delay hmem).1 hother.1, hkept _ (hdelays.1 delay hmem).2 hother.2⟩
  · cases hnext

theorem checkReorder_ok (h : checkReorder activities previous ids = .ok ()) :
    ∀ activityId ∈ ids, activityId ∈ activityIds activities := by
  induction ids generalizing previous with
  | nil => simp
  | cons _ _ ih =>
    unfold checkReorder at h
    split at h
    · cases h
    rename_i hknown
    split at h
    · cases h
    rw [forall_mem_cons]
    exact ⟨containsActivity_iff.mp (by simpa using hknown), ih h⟩

theorem reordered_rows (ids : List ActivityId) :
    (ids.filterMap (rowFor rows)).map ActivityRow.activity =
      inPlanOrder (rows.map ActivityRow.activity) ids := by
  rw [map_filterMap]
  apply filterMap_congr
  intro activityId _
  unfold rowFor activityFor
  rw [find?_map]
  rfl

theorem reorderActivities_perm {activityIds : List ActivityId}
    (hval : (reorderActivities activityIds).validateRequest request = .ok ())
    (hnext : (reorderActivities activityIds).resulting state.activities = .ok resulting) :
    activityIds.Perm (Domain.activityIds state.activities) ∧
      resulting = inPlanOrder state.activities activityIds := by
  simp only [reorderActivities, validateReorderActivitiesRequest] at hval hnext
  split at hval
  · cases hval
  split at hval
  · cases hval
  split at hval
  next hdist =>
    split at hnext
    · cases hnext
    cases hcheck : checkReorder state.activities none activityIds with
    | error => simp [hcheck, Except.map] at hnext
    | ok =>
      rw [hcheck] at hnext
      cases hnext
      refine ⟨?_, rfl⟩
      apply (subperm_of_subset hdist (checkReorder_ok hcheck)).perm_of_length_le
      simp only [Domain.activityIds, length_map]
      omega
  · cases hval

theorem reorderActivities_edits {activityIds : List ActivityId} (hsame : SameRows trip state)
    (hval : (reorderActivities activityIds).validateRequest request = .ok ())
    (hnext : (reorderActivities activityIds).resulting state.activities = .ok resulting)
    (hwrote : (reorderActivities activityIds).write context trip = some written) :
    EditedRows trip written resulting (state.editActivities (.reorderActivities activityIds)) := by
  obtain ⟨hperm, rfl⟩ := reorderActivities_perm hval hnext
  simp only [reorderActivities, Option.some.injEq] at hwrote
  subst hwrote
  have hedited := inPlanOrder_perm hsame.distinct hperm
  have hids := hedited.map Activity.activityId
  refine ⟨⟨?activities, ?delays, ?count, ?valid, ?distinct, ?delaysValid⟩, ?rows, ?resulting⟩
  case rows => exact ⟨_, _, rfl⟩
  case activities =>
    rw [reordered_rows, hsame.activities]
    rfl
  case delays => exact hsame.delays
  case resulting => rfl
  case count => exact hedited.length_eq.trans_le hsame.count
  case valid => exact hedited.all_eq.trans hsame.valid
  case distinct => exact hids.nodup_iff.mpr hsame.distinct
  case delaysValid =>
    exact travelDelaysAreValid_mono (fun _ hid => hids.mem_iff.mpr hid) hsame.delaysValid

theorem edit_edits {edit : CanonicalEdit} (hsame : SameRows trip state)
    (hval : edit.transaction.validateRequest request = .ok ())
    (hnext : edit.transaction.resulting (trip.activities.map ActivityRow.activity) = .ok resulting)
    (hwrote : edit.transaction.write context trip = some written) :
    EditedRows trip written resulting (edit.apply state) := by
  rw [hsame.activities] at hnext
  -- Normalizing the progress leaves activities and delays alone.
  have hnormal : ∀ edited, EditedRows trip written resulting edited →
      EditedRows trip written resulting (normalizeCurrentActivity edited) :=
    fun edited h => ⟨⟨h.activities, h.delays, h.count, h.valid, h.distinct, h.delaysValid⟩,
      h.rows, h.resulting⟩
  cases edit with
  | currentPlan =>
    cases hnext
    cases hwrote
    exact ⟨hsame, ⟨_, _, rfl⟩, rfl⟩
  | trip operation =>
    apply hnormal
    cases operation with
    | addActivity => exact addActivity_edits hsame hval hnext hwrote
    | replaceActivity => exact replaceActivity_edits hsame hval hnext hwrote
    | removeActivity => exact removeActivity_edits hsame hnext hwrote
    | reorderActivities => exact reorderActivities_edits hsame hval hnext hwrote

theorem resultingIds_eq (hvalid : state.Valid)
    (hval : (CanonicalEdit.trip operation).transaction.validateRequest request = .ok ())
    (hnext : (CanonicalEdit.trip operation).transaction.resulting state.activities =
      .ok resulting) :
    operation.resultingIds state.activities =
      some (activityIds (state.editActivities operation).activities) := by
  cases operation with
  | addActivity activity ordinal =>
    have hact := validateActivityRequest_ok hval
    simp only [CanonicalEdit.transaction, addActivity] at hnext
    split at hnext
    · cases hnext
    rename_i hcount
    split at hnext
    · cases hnext
    rename_i hord
    split at hnext
    · cases hnext
    rename_i hfresh
    have hlen : (activityIds state.activities).length = state.activities.length := length_map _
    simp only [TripEditOperation.resultingIds, hact, hlen, hcount, hord, hfresh,
      Bool.not_true, decide_false, Bool.or_self, Bool.false_eq_true, if_false,
      editActivities, Option.some.injEq]
    exact (map_insertIdx Activity.activityId state.activities ordinal.toNat activity).symm
  | replaceActivity activity =>
    have hact := validateActivityRequest_ok hval
    simp only [CanonicalEdit.transaction, replaceActivity] at hnext
    split at hnext
    next hknown =>
      have hids : activityIds (updateActivity activity.activityId (fun _ => activity)
          state.activities) = activityIds state.activities :=
        activityIds_updateActivity (fun _ _ => rfl)
      simp [TripEditOperation.resultingIds, hact, hknown, editActivities, withActivity, hids]
    · cases hnext
  | removeActivity =>
    simp only [CanonicalEdit.transaction, removeActivity] at hnext
    split at hnext
    next hknown =>
      rw [containsActivity_iff] at hknown
      simp only [TripEditOperation.resultingIds, contains_iff_mem, hknown, if_true,
        editActivities, Option.some.injEq]
      rw [activityIds, erase_eq_eraseP', eraseP_map]
      rfl
    · cases hnext
  | reorderActivities ids =>
    obtain ⟨hperm, -⟩ := reorderActivities_perm hval hnext
    have hlen : ids.length = state.activities.length := by simpa [activityIds] using hperm.length_eq
    have hdist := (distinctIds_iff ids).mpr (hperm.nodup_iff.mpr hvalid.distinct)
    have hsorted := (sortedIds_iff ids (activityIds state.activities)).mpr hperm
    simp only [TripEditOperation.resultingIds, hlen, hdist, hsorted, decide_true,
      Bool.and_self, if_true, editActivities, Option.some.injEq]
    exact (activityIds_inPlanOrder fun id hid => hperm.mem_iff.mp hid).symm

end Edits

/-- A plan of the order of an edit is mirrored when the started activity stands
right after the finished ones. An edit of the activities needs more: the plan
must have the order of the edited activities, and the runtime, which only caps
its prefix and drops a removed activity, must still count them right. -/
def CanonicalEdit.mirrors (state : TripState) (order : List ActivityId) : CanonicalEdit → Bool
  | .currentPlan => state.currentActivityId.all fun current =>
      decide (order[state.completedPrefixCount]? = some current)
  | .trip operation =>
    let edited := normalizeCurrentActivity (state.editActivities operation)
    decide (order = activityIds edited.activities) &&
      progressFollows edited.activities edited.completedPrefixCount edited.currentActivityId order

def CanonicalEdit.settled (edit : CanonicalEdit) (state : TripState) (plan : CurrentPlan) :
    TripState :=
  { edit.apply state with currentPlan := plan, activeProposal := none }

theorem apply_keeps {state : TripState} (hvalid : state.Valid) (edit : CanonicalEdit) :
    (edit.apply state).tripId = state.tripId ∧
      (edit.apply state).defaultTimeZoneName = state.defaultTimeZoneName ∧
      (edit.apply state).currentObservation = state.currentObservation ∧
      (edit.apply state).completedPrefixCount ≤ (edit.apply state).activities.length := by
  cases edit with
  | currentPlan => exact ⟨rfl, rfl, rfl, hvalid.completed⟩
  | trip operation => cases operation <;> exact ⟨rfl, rfl, rfl, Nat.min_le_right _ _⟩

section Mirror
variable {trip written : CanonicalTrip} {state : TripState} {resulting : List Activity}
  {drafts : List CurrentPlanSegment} {metadata : CanonicalPlanMetadata} {edit : CanonicalEdit}

theorem userCurrentPlan_activityIds (metadata : CanonicalPlanMetadata)
    (hplan : ReplacementPlan drafts resulting) :
    (userCurrentPlan metadata drafts).activityIds = drafts.map CurrentPlanSegment.activityId := by
  rw [CurrentPlan.activityIds, userCurrentPlan, hplan.written]

theorem currentActivitiesAreValid_of_valid (hvalid : state.Valid) :
    currentActivitiesAreValid state.activities := by
  simp only [currentActivitiesAreValid, hvalid.count, hvalid.activities, decide_true, Bool.and_self,
    Bool.true_and]
  exact (distinctIds_iff _).mpr hvalid.distinct

theorem mutateTrip_edit (state : TripState) {event : TripEvent}
    (hpay : event.payload = edit.payload plan) :
    ∃ mutated, mutateTrip state event = some mutated ∧
      settle event mutated = edit.settled state plan := by
  obtain ⟨eventId, occurredAt, expiresAt, payload⟩ := event
  cases hpay
  cases edit <;> exact ⟨_, rfl, rfl⟩

variable (hrev : metadata.revision ≠ 0) (hplan : ReplacementPlan drafts resulting)
  (hrows : EditedRows trip written resulting (edit.apply state))
include hrev hplan hrows

theorem userCurrentPlan_covers :
    (userCurrentPlan metadata drafts).Covers (activityIds (edit.apply state).activities) := by
  have horder : (userCurrentPlan metadata drafts).activityIds.Perm
      (activityIds (edit.apply state).activities) := by
    rw [userCurrentPlan_activityIds _ hplan, ← hrows.resulting]
    exact hplan.order
  refine ⟨hrev, ?_, rfl, ?_, hrows.distinct, horder⟩
  · have hlen := horder.length_eq
    simp only [CurrentPlan.activityIds, activityIds, length_map] at hlen
    rw [hlen]
    exact hrows.count
  · simp only [userCurrentPlan, hplan.written]
    exact hplan.ordered

theorem settled_valid_iff (hvalid : state.Valid) :
    (edit.settled state (userCurrentPlan metadata drafts)).isValid ↔
      progressFollows (edit.apply state).activities (edit.apply state).completedPrefixCount
        (edit.apply state).currentActivityId (drafts.map CurrentPlanSegment.activityId) := by
  have hcovers := userCurrentPlan_covers hrev hplan hrows
  obtain ⟨-, hzone, hobs, hcomp⟩ := apply_keeps hvalid edit
  have hfirst : FinishedFirst (inPlanOrder (edit.apply state).activities
      (userCurrentPlan metadata drafts).activityIds) := by
    rw [userCurrentPlan_activityIds _ hplan, ← hrows.resulting]
    exact hplan.finishedFirst
  have hprog := progress_valid_iff (edit.settled state (userCurrentPlan metadata drafts))
    hrows.distinct hcovers.order hcomp hfirst
  rw [← userCurrentPlan_activityIds _ hplan, isValid_iff]
  refine Iff.trans ⟨TripState.Valid.progress, fun h => ?_⟩ hprog
  exact ⟨hzone ▸ hvalid.zone, hrows.count, hcomp, hrows.valid, hrows.distinct, hcovers, h,
    hobs ▸ hvalid.observation, hrows.delaysValid, rfl⟩

variable {event : TripEvent} (bytes : Nat) (hvalid : state.Valid)
  (hval : edit.transaction.validateRequest request = .ok ())
  (hnext : edit.transaction.resulting state.activities = .ok resulting)
  (hpay : event.payload = edit.payload (userCurrentPlan metadata drafts))
include hvalid hval hnext hpay

theorem editEvent_isValidFor_iff :
    event.isValidFor state.activities bytes ↔
      (edit = .currentPlan ∨ drafts.map CurrentPlanSegment.activityId =
        activityIds (edit.apply state).activities) := by
  have hcovers := (CurrentPlan.isValidFor_iff _).mpr (userCurrentPlan_covers hrev hplan hrows)
  have hcur := currentActivitiesAreValid_of_valid hvalid
  cases edit with
  | currentPlan =>
    simp only [TripEvent.isValidFor, hpay, CanonicalEdit.payload, hcur,
      currentPlanReplacedIsValidFor, Bool.true_and, true_or, iff_true, Bool.and_eq_true]
    exact ⟨rfl, hcovers⟩
  | trip =>
    have hids := resultingIds_eq hvalid hval hnext
    have horder := userCurrentPlan_activityIds metadata hplan
    simp only [CurrentPlan.activityIds] at horder
    simp only [TripEvent.isValidFor, hpay, CanonicalEdit.payload, hcur,
      tripEditedIsValidFor, hids, Bool.true_and, horder, reduceCtorEq, false_or, Bool.and_eq_true,
      decide_eq_true_eq]
    exact ⟨fun h => h.2, fun h => ⟨⟨rfl, hcovers⟩, h⟩⟩

theorem applied_edit_iff :
    (∃ mutated, Applied state event bytes mutated) ↔
      edit.mirrors state (drafts.map CurrentPlanSegment.activityId) := by
  have hevent := editEvent_isValidFor_iff hrev hplan hrows bytes hvalid hval hnext hpay
  have hsettled := settled_valid_iff hrev hplan hrows hvalid
  obtain ⟨mutated, hmut, hsettle⟩ := mutateTrip_edit state hpay
  have hfresh : state.proposalIsStale event.payload = false := by
    rw [hpay]
    cases edit <;> rfl
  have happ : (∃ mutated, Applied state event bytes mutated) ↔
      event.isValidFor state.activities bytes ∧
        (edit.settled state (userCurrentPlan metadata drafts)).isValid := by
    constructor
    · rintro ⟨other, h⟩
      obtain rfl := Option.some.inj (h.mutation.symm.trans hmut)
      exact ⟨h.eventValid, hsettle ▸ h.settledValid⟩
    · rintro ⟨heventValid, hsettledValid⟩
      exact ⟨mutated, (isValid_iff _).mpr hvalid, heventValid, hfresh, hmut,
        hsettle ▸ hsettledValid⟩
  rw [happ, hevent, hsettled]
  cases edit with
  | currentPlan =>
    obtain ⟨hcount, hstart, -⟩ := (progressFollows_iff _ _ _ _).mp (progressFollows_of_valid hvalid)
    simp only [CanonicalEdit.apply, CanonicalEdit.mirrors, true_or, true_and, progressFollows_iff,
      hcount, hstart, Option.all_eq_true, decide_eq_true_eq]
    rfl
  | trip =>
    simp [CanonicalEdit.apply, CanonicalEdit.mirrors]

end Mirror

end LiveRoute.Gateway
