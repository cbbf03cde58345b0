import LiveRoute.Execution.LeavingExecution
import LiveRoute.Gateway.EditSimulation
import LiveRoute.Library.Runs
import LiveRoute.Persistence.MutatedRows

/-! Which transactions leave a trip that can be loaded. Each writer checks its
values and the activities that its plan covers; the order in which a plan lists
finished and started activities is checked by `Load` alone. -/
namespace LiveRoute.Execution
open Domain Persistence Gateway List
open Option (bind_some all_some)

variable {plan : CurrentPlan} {row : CommandRow} {trip : CanonicalTrip} {activities : List Activity}

structure TripRecord.Constrained (record : TripRecord) : Prop where
  keyed : RowsKeyed record.rows
  zone : record.defaultTimeZoneName.isEmpty = false
  revision : 0 < record.tripRevision
  planRevisions : ∀ plan ∈ record.plans, plan.planRevision.toNat ≤ maxInt64

def TripRecord.currentPlan? (record : TripRecord) : Option CurrentPlan :=
  record.lifecycle.currentPlanId.bind fun planId => (record.canonicalTrip planId).currentPlan

/-- What the writers leave unchecked: that the requested or planned order puts
the finished activities first and a started one directly after them, and that
neither the saved offsets nor the opening windows of a saved plan overlap. -/
def TripRecord.inOrder (record : TripRecord) : TripTransaction → Bool
  | .edit edit request _ =>
    let activities := record.activities.map ActivityRow.activity
    (edit.transaction.resulting activities).toOption.all fun resulting =>
      progressOrdered
        (inPlanOrder resulting (request.planSegments.map CurrentPlanSegment.activityId))
  | .finalizeAccepted request => record.currentPlan?.all fun plan =>
    let planned := inPlanOrder (record.activities.map ActivityRow.activity) plan.activityIds
    progressOrdered (planned.map request.mutation.withStatus)
  | .acceptProposal request =>
    ((record.rows.command? request.eventId).bind CommandRow.plannedCurrentPlan).all fun plan =>
      progressOrdered (inPlanOrder (record.activities.map ActivityRow.activity) plan.activityIds)
  | .activate _ context => record.savedPlan.all fun plan =>
    (loadActivationActivities plan).toOption.all fun activities =>
      segmentsOrdered none (activities.map (ActivationActivity.segment context.activatedAt)) &&
        activities.all fun activity =>
          windowsNormalized none (activity.activity context.activatedAt).timing.openWindows
  | _ => true

open TripRecord (currentPlan? inOrder)

section Loading
variable {record other : TripRecord}

theorem maximum_succ_le (hbd : ∀ plan ∈ record.plans, plan.planRevision.toNat ≤ maxInt64)
    (hroom : record.rows.maximumPlanRevision ≠ maxInt64) :
    record.rows.maximumPlanRevision + 1 ≤ maxInt64 := by
  have hmaximum := (maximumPlanRevision_le_iff record.rows).mpr hbd
  omega

theorem executionPlan_revision_toNat
    (hbd : ∀ plan ∈ record.plans, plan.planRevision.toNat ≤ maxInt64)
    (hroom : record.rows.maximumPlanRevision ≠ maxInt64) (context : ActivationContext)
    (activities : List ActivationActivity) :
    (executionPlan record context activities).planRevision.toNat =
      record.rows.maximumPlanRevision + 1 :=
  Dispatch.ofNat_toNat_of_le (maximum_succ_le hbd hroom)

theorem load_ne_corrupt_iff : record.load ≠ .corrupt ↔ record.lifecycle.currentPlanId = none ∨
    ∃ plan, record.currentPlan? = some plan ∧ LoadsAs record.rows plan := by
  unfold TripRecord.load currentPlan?
  cases hplanId : record.lifecycle.currentPlanId with
  | none => simp
  | some planId =>
    rw [TripRecord.rows_eq hplanId, bind_some]
    cases hplan : (record.canonicalTrip planId).currentPlan with
    | none => simp [Persistence.load, hplan]
    | some plan =>
      have hload := load_isSome_iff hplan
      simp only [reduceCtorEq, false_or, Option.some.injEq, exists_eq_left', ← hload]
      cases Persistence.load (record.canonicalTrip planId) <;> simp

theorem loads_keep (hcon : record.Constrained) (hload : record.load ≠ .corrupt)
    (hacts : other.activities = record.activities)
    (hdelays : other.travelDelays = record.travelDelays) (hplans : other.plans = record.plans)
    (hcur : other.lifecycle.currentPlanId = record.lifecycle.currentPlanId)
    (hzone : other.defaultTimeZoneName.isEmpty = false) (hrev : 0 < other.tripRevision)
    (hfin : 0 < record.finalizedMutationSequence → 0 < other.finalizedMutationSequence) :
    other.Constrained ∧ other.load ≠ .corrupt := by
  refine ⟨⟨hcon.keyed.congr hacts hdelays, hzone, hrev, hplans ▸ hcon.planRevisions⟩, ?_⟩
  rw [load_ne_corrupt_iff] at hload ⊢
  rcases hload with hnone | ⟨plan, hplan, hloads⟩
  · exact .inl (hcur.trans hnone)
  refine .inr ⟨plan, ?_, loadsAs_of_contents (congrArg _ hacts)
    (hloads.rows.keep hacts hdelays hzone hrev (hfin hloads.rows.finalized))
    hloads.parsed hloads.order hloads.progress⟩
  rw [← hplan]
  unfold currentPlan? CanonicalTrip.currentPlan
  simp only [hcur, TripRecord.canonicalTrip_plans, hplans]
  rfl

theorem currentPlan?_published (hcur : record.lifecycle.currentPlanId = some plan.planId)
    (hplans : record.plans = plans ++ [plan])
    (hfresh : ∀ stored ∈ plans, stored.planId ≠ plan.planId) : record.currentPlan? = some plan := by
  unfold currentPlan?
  rw [hcur, bind_some, CanonicalTrip.currentPlan, TripRecord.canonicalTrip_plans, hplans,
    TripRecord.canonicalTrip_currentPlanId, find?_append]
  have hnone : (plans.find? fun stored => decide (stored.planId = plan.planId)) = none := by
    simpa using hfresh
  rw [hnone]
  simp

theorem loads_mutated {request : FinalizeAcceptedMutationRequest}
    (hcon : record.Constrained) (hload : record.load ≠ .corrupt) (hvalid : request.isValid)
    (hmut : applyAcceptedMutation record.rows request.mutation = .ok mutated)
    (hres : ResolvesAwaited record.rows mutated.invalidateProposals trip request.eventId row
      .applied .accepted (record.tripRevision + 1)) :
    (record.withRows trip).Constrained ∧ (record.inOrder (.finalizeAccepted request) →
      (record.withRows trip).load ≠ .corrupt) := by
  have hrange : request.mutation.valuesInRange := by
    simp only [FinalizeAcceptedMutationRequest.isValid, Bool.and_eq_true] at hvalid
    exact hvalid.2
  have hrows := applyAcceptedMutation_mutated hrange hmut
  obtain ⟨-, outcome, rfl⟩ := hres.resolution
  obtain ⟨activities, delays, rfl⟩ := hrows.rows
  have hkeyed := hrows.keyed hcon.keyed
  refine ⟨⟨⟨hkeyed.activities, hkeyed.delays⟩, hcon.zone, Nat.succ_pos _, hcon.planRevisions⟩,
    fun horder => load_ne_corrupt_iff.mpr ?_⟩
  rcases load_ne_corrupt_iff.mp hload with hnone | ⟨plan, hplan, hloads⟩
  · exact .inl hnone
  simp only [inOrder, hplan, all_some] at horder
  obtain ⟨hvalidRows, hparsed, hplanOrder, hprog⟩ := hloads.mutated hcon.keyed hrows horder
  exact .inr ⟨plan, hplan, hvalidRows.keep rfl rfl hvalidRows.zone (Nat.succ_pos _)
    row.sequenceFits.1, hparsed, hplanOrder, hprog⟩

theorem loadsAs_of_planned (hload : record.load ≠ .corrupt)
    (hplanned : record.lifecycle.currentPlanId.isSome) : ∃ plan, LoadsAs record.rows plan := by
  rcases load_ne_corrupt_iff.mp hload with hnone | ⟨plan, -, hloads⟩
  · rw [hnone] at hplanned
    cases hplanned
  · exact ⟨plan, hloads⟩

/-- Edits do not look at the progress of a trip, so any state that holds its
activities and delays will do. -/
theorem exists_sameRows (hkeyed : RowsKeyed trip) (hrows : RowsValid trip) (plan : CurrentPlan) :
    ∃ state, SameRows trip state := by
  refine ⟨⟨trip.tripId, trip.defaultTimeZoneName, trip.activities.map ActivityRow.activity, 0, none,
    plan, trip.travelDelays.map TravelDelayRow.delay, .empty, none⟩, rfl, .rfl, hrows.count,
    hrows.activities, hkeyed.activities, ?_⟩
  rw [travelDelaysAreValid_iff]
  exact ⟨(delaysAreLoadable_iff _).mp hrows.delays, hkeyed.delays⟩

theorem rowsKeyed_of_same (h : SameRows trip state) : RowsKeyed trip := by
  have hdelays := (travelDelaysAreValid_iff _).mp h.delaysValid
  exact ⟨h.activities.symm ▸ h.distinct, (h.delays.map _).nodup_iff.mpr hdelays.2⟩

theorem rowsValid_of_same (h : SameRows trip state) (hrev : 0 < trip.tripRevision)
    (hfin : 0 < trip.finalizedMutationSequence) (hzone : trip.defaultTimeZoneName.isEmpty = false) :
    RowsValid trip := by
  have hdelays := (travelDelaysAreValid_iff _).mp h.delaysValid
  refine rowsValid_of_contents h.activities rfl hrev hfin hzone h.valid h.count ?_
  rw [delaysAreLoadable_iff]
  exact fun delay hdelay => hdelays.1 delay (h.delays.mem_iff.mp hdelay)

theorem loads_edited {edit : CanonicalEdit} (hcon : record.Constrained)
    (hload : record.load ≠ .corrupt)
    (hplanned : record.lifecycle.currentPlanId.isSome)
    (hcom : CanonicallyCommitted edit.transaction record.rows trip request context row)
    (hpub : record.publish trip = .ok other) :
    other.Constrained ∧ (record.inOrder (.edit edit request context) → other.load ≠ .corrupt) := by
  obtain ⟨before, hbefore⟩ := loadsAs_of_planned hload hplanned
  obtain ⟨state, hsame⟩ := exists_sameRows hcon.keyed hbefore.rows before
  obtain ⟨resulting, hnext, hval⟩ := hcom.plan
  obtain ⟨written, hwrote, rfl⟩ := hcom.trip_eq
  obtain ⟨hseq, -, -⟩ := hcom.row_eq
  have hrows := edit_edits hsame hcom.validated hnext hwrote
  obtain ⟨rows, delays, rfl⟩ := hrows.rows
  have hplan : ReplacementPlan request.planSegments resulting := validateReplacementPlan_ok hval
  have hnat := editMetadata_revision request context hcom.revision
  have hrev : (editMetadata record.rows request context).revision ≠ 0 := by
    intro hzero
    rw [hzero] at hnat
    exact absurd hnat.symm (Nat.succ_ne_zero _)
  have hcovers := userCurrentPlan_covers hrev hplan hrows
  obtain ⟨lifecycle, hcols, rfl⟩ := publish_ok hpub
  have hbd : ∀ plan ∈ record.plans ++
      [userCurrentPlan (editMetadata record.rows request context) request.planSegments],
      plan.planRevision.toNat ≤ maxInt64 := by
    rw [forall_mem_append, forall_mem_singleton, userCurrentPlan, hnat]
    exact ⟨hcon.planRevisions, hcom.revision⟩
  have hwritten := rowsValid_of_same hrows.toSameRows hcon.revision hbefore.rows.finalized hcon.zone
  refine ⟨⟨(rowsKeyed_of_same hrows.toSameRows).congr rfl rfl, hcon.zone, Nat.succ_pos _, hbd⟩,
    fun horder => load_ne_corrupt_iff.mpr (.inr ⟨_, currentPlan?_published ?_ rfl
      (planId_fresh hcom.planFresh), loadsAs_of_contents hrows.activities
      (hwritten.keep rfl rfl hcon.zone (Nat.succ_pos _) hseq.1)
      (parsedPlanIsValid_of_covers hcovers) hcovers.order ?_⟩)⟩
  · rw [hcols]
    rfl
  · have hresulting : edit.transaction.resulting (record.activities.map ActivityRow.activity) =
      .ok resulting := hnext
    simp only [inOrder, hresulting, Except.toOption, all_some] at horder
    rw [← hrows.resulting, userCurrentPlan_activityIds _ hplan]
    exact horder

theorem loads_accepted {request : FinalizeProposalDecisionRequest} (hcon : record.Constrained)
    (hload : record.load ≠ .corrupt) (hplan : record.lifecycle.currentPlanId.isSome)
    (hfits : record.rows.PlannedPlanFits row proposal plan)
    (hres : ResolvesAwaited record.rows { record.rows with
        proposals := proposals, plans := record.plans ++ [plan], currentPlanId := plan.planId }
      trip request.eventId row .applied .accepted (record.tripRevision + 1))
    (hpub : record.publish trip = .ok other) :
    other.Constrained ∧ (record.inOrder (.acceptProposal request) → other.load ≠ .corrupt) := by
  obtain ⟨-, outcome, rfl⟩ := hres.resolution
  obtain ⟨lifecycle, hcols, rfl⟩ := publish_ok hpub
  obtain ⟨before, hbefore⟩ := loadsAs_of_planned hload hplan
  have hfresh : ∀ stored ∈ record.plans, stored.planId ≠ plan.planId := by
    have hunknown := hfits.unknown
    simp only [any_eq_false, decide_eq_true_eq] at hunknown
    exact hunknown
  have hbd : ∀ stored ∈ record.plans ++ [plan], stored.planRevision.toNat ≤ maxInt64 := by
    rw [forall_mem_append, forall_mem_singleton, hfits.revision.2]
    exact ⟨hcon.planRevisions, maximum_succ_le hcon.planRevisions hfits.revision.1⟩
  have hvalid := hfits.valid
  simp only [plannedPlanIsValid, Bool.and_eq_true, decide_eq_true_eq, all_eq_true,
    contains_iff_mem, length_map] at hvalid
  obtain ⟨⟨⟨⟨⟨hparsed, -⟩, -⟩, -⟩, hlen⟩, hknown⟩ := hvalid
  refine ⟨⟨⟨hcon.keyed.activities, hcon.keyed.delays⟩, hcon.zone, Nat.succ_pos _, hbd⟩,
    fun horder => load_ne_corrupt_iff.mpr (.inr ⟨plan, currentPlan?_published ?_ rfl hfresh,
      hbefore.rows.keep rfl rfl hcon.zone (Nat.succ_pos _) row.sequenceFits.1, hparsed, ?_, ?_⟩)⟩
  · exact congrArg LifecycleColumns.currentPlanId hcols
  · refine perm_of_parsed hparsed ?_ ?_
    · rw [length_map]
      exact hlen.symm
    · intro segment hseg
      rw [activityIds, map_map]
      exact hknown segment hseg
  · have hstored := hres.awaits.stored
    rw [hres.event] at hstored
    simp only [inOrder, hstored, bind_some, hfits.planned, all_some] at horder
    exact horder

theorem mapM_storeActivity
    (h : activities.mapM storeActivity = some rows) : rows.map ActivityRow.activity = activities :=
  (Sequence.map_of_mapM (fun _ _ => (storeActivity_eq_some_iff _).mp) h).trans (map_id _)

theorem loadActivationActivity_ok (h : loadActivationActivity saved = .ok activity) :
    activity.saved = saved ∧ activity.displayName.isEmpty = false := by
  unfold loadActivationActivity at h
  split at h
  · cases h
  rename_i displayName haddress
  split at h <;> cases h
  refine ⟨rfl, ?_⟩
  have hnamed := saved.place.named.2.2
  rw [haddress] at hnamed
  simpa using hnamed

theorem loadActivationActivities_ok {plan : SavedPlan} {activities : List ActivationActivity}
    (h : loadActivationActivities plan = .ok activities) :
    activities.map ActivationActivity.saved = plan.activities ∧
      ∀ activity ∈ activities, activity.displayName.isEmpty = false := by
  unfold loadActivationActivities at h
  generalize plan.activities = savedActivities at h ⊢
  induction savedActivities generalizing activities with
  | nil =>
    cases h
    simp
  | cons saved rest ih =>
    rw [mapM_cons] at h
    obtain ⟨first, hfirst, h⟩ := EarlyExit.bind_eq_ok.mp h
    obtain ⟨others, hrest, h⟩ := EarlyExit.bind_eq_ok.mp h
    cases h
    obtain ⟨hsaved, hnamed⟩ := ih hrest
    obtain ⟨rfl, hdisplay⟩ := loadActivationActivity_ok hfirst
    rw [map_cons, hsaved, forall_mem_cons]
    exact ⟨rfl, hdisplay, hnamed⟩

theorem executionActivity_isValid {activity : ActivationActivity}
    (hnamed : activity.displayName.isEmpty = false)
    (hwindows : windowsNormalized none (activity.activity activatedAt).timing.openWindows) :
    (activity.activity activatedAt).isValid := by
  obtain ⟨hmin, hmax, -⟩ := activity.saved.durationsOrdered
  have hplace : activity.saved.place.placeId.isEmpty = false := by
    simpa using activity.saved.place.named.1
  have hzone : activity.saved.place.timeZoneName.isEmpty = false := by
    simpa using activity.saved.place.named.2.1
  simp only [Activity.isValid, ActivityTiming.isValid, Bool.and_eq_true, Bool.not_eq_true',
    decide_eq_true_eq]
  exact ⟨⟨⟨⟨hplace, hnamed⟩, hzone⟩, activity.saved.place.located⟩, ⟨hmin, hmax⟩, hwindows⟩

theorem progressOrdered_of_planned (h : ∀ activity ∈ planned, activity.activityState = .planned) :
    progressOrdered planned := by
  cases planned with
  | nil => rfl
  | cons first rest =>
    rw [forall_mem_cons] at h
    simpa [progressOrdered, Activity.isFinished, h.1] using h.2

theorem executionPlan_segments (record : TripRecord) (context : ActivationContext)
    (activities : List ActivationActivity) :
    (executionPlan record context activities).segments =
      activities.map (ActivationActivity.segment context.activatedAt) := by
  rw [executionPlan, userCurrentPlan, map_map]
  rfl

theorem loads_activated {request : ActivateSavedTripRequest} {context : ActivationContext}
    (hcon : record.Constrained) (hactd : Activated record request context other) :
    other.Constrained ∧ (record.inOrder (.activate request context) → other.load ≠ .corrupt) := by
  obtain ⟨plan, activities, hstored, hloaded, hins⟩ := hactd.inserted
  obtain ⟨hsaved, hnamed⟩ := loadActivationActivities_ok hloaded
  obtain ⟨rows, lifecycle, hcols, hrows, rfl⟩ := hins.inserted
  have hcontents := mapM_storeActivity hrows
  have hids : activityIds (activities.map (ActivationActivity.activity context.activatedAt)) =
      plan.activities.map SavedActivity.activityId := by
    rw [← hsaved, activityIds, map_map, map_map]
    rfl
  have hdist : (activityIds (rows.map ActivityRow.activity)).Nodup := by
    rw [hcontents, hids]
    exact plan.distinct
  have hrev := executionPlan_revision_toNat hcon.planRevisions hins.planRoom context activities
  have hbd : ∀ stored ∈ record.plans ++ [executionPlan record context activities],
      stored.planRevision.toNat ≤ maxInt64 := by
    rw [forall_mem_append, forall_mem_singleton, hrev]
    exact ⟨hcon.planRevisions, maximum_succ_le hcon.planRevisions hins.planRoom⟩
  have horder : (executionPlan record context activities).activityIds.Perm
      (activityIds (activities.map (ActivationActivity.activity context.activatedAt))) := by
    rw [CurrentPlan.activityIds, executionPlan_segments, activityIds, map_map, map_map]
    rfl
  refine ⟨⟨⟨hdist, nodup_nil⟩, hcon.zone, hcon.revision, hbd⟩, fun hschedule =>
    load_ne_corrupt_iff.mpr (.inr ⟨_, currentPlan?_published ?_ rfl hins.planFresh,
      loadsAs_of_contents hcontents (rowsValid_of_contents hcontents rfl hcon.revision
        hins.sequenceRoom hcon.zone ?_ ?_ rfl) ?_ horder ?_⟩)⟩
  · exact congrArg LifecycleColumns.currentPlanId hcols
  all_goals simp only [inOrder, hstored, hloaded, Except.toOption, all_some, Bool.and_eq_true,
    all_eq_true] at hschedule
  · rw [all_eq_true, forall_mem_map]
    exact fun source hsource => executionActivity_isValid (hnamed source hsource)
      (hschedule.2 source hsource)
  · have hlen := congrArg List.length hids
    simp only [activityIds, length_map] at hlen ⊢
    rw [hlen]
    exact plan.count.2
  · have hpos : (executionPlan record context activities).planRevision ≠ 0 := by
      intro hzero
      rw [hzero] at hrev
      exact absurd hrev.symm (Nat.succ_ne_zero _)
    rw [← executionPlan_segments record] at hschedule
    rw [hcontents] at hdist
    simp only [parsedPlanIsValid, Bool.and_eq_true, Bool.not_eq_true', beq_eq_false_iff_ne,
      decide_eq_true_eq]
    exact ⟨⟨⟨hpos, hschedule.1⟩, horder.nodup_iff.mpr hdist⟩, rfl⟩
  · apply progressOrdered_of_planned
    intro activity hact
    obtain ⟨activityId, -, hfound⟩ := mem_filterMap.mp hact
    obtain ⟨-, -, rfl⟩ := mem_map.mp (activityFor_eq_some hfound).1
    rfl

theorem change_loads (hcon : record.Constrained)
    (hload : record.load ≠ .corrupt) (hchange : Change record transaction other) :
    other.Constrained ∧ (record.inOrder transaction → other.load ≠ .corrupt) := by
  -- A change of other rows leaves a trip that loads.
  have hother : other.Constrained ∧ other.load ≠ .corrupt → other.Constrained ∧
      (record.inOrder transaction → other.load ≠ .corrupt) :=
    fun h => ⟨h.1, fun _ => h.2⟩
  cases hchange with
  | unchanged => exact hother ⟨hcon, hload⟩
  | recorded _ hrec =>
    apply hother
    obtain rfl := hrec.trip_eq
    exact loads_keep hcon hload rfl rfl rfl rfl hcon.zone hcon.revision fun h => h
  | edited hplan _ hcom hpub => exact loads_edited hcon hload hplan hcom hpub
  | mutated hvalid hmut hres => exact loads_mutated hcon hload hvalid hmut hres
  | resolved _ hrev hres =>
    apply hother
    obtain ⟨-, -, rfl⟩ := hres.resolution
    exact loads_keep hcon hload rfl rfl rfl rfl hcon.zone
      (Nat.lt_of_lt_of_le hcon.revision hrev) fun _ => (CommandRow.sequenceFits _).1
  | accepted hplan hfits hres hpub => exact loads_accepted hcon hload hplan hfits hres hpub
  | mirrored =>
    exact hother (loads_keep hcon hload rfl rfl rfl rfl hcon.zone hcon.revision fun h => h)
  | leased =>
    exact hother (loads_keep hcon hload rfl rfl rfl rfl hcon.zone hcon.revision fun h => h)
  | revised =>
    apply hother
    refine loads_keep hcon hload rfl rfl rfl rfl ?_ (Nat.succ_pos _) fun h => h
    exact String.isEmpty_eq_false_iff.mpr (ReviseSavedTripRequest.zoneNamed _)
  | activated hactd => exact loads_activated hcon hactd
  | activationCompleted _ _ _ _ hcomp =>
    apply hother
    obtain ⟨-, lifecycle, hcols, -, rfl⟩ := completeOperation_ok hcomp
    exact loads_keep hcon hload rfl rfl rfl (by rw [hcols]) hcon.zone
      hcon.revision fun h => h
  | deactivated hdeact =>
    apply hother
    obtain ⟨lifecycle, hcols, rfl⟩ := hdeact.inserted
    exact loads_keep hcon hload rfl rfl rfl (by rw [hcols]) hcon.zone
      hcon.revision fun h => h
  | deactivationCompleted _ _ _ _ _ hcomp =>
    apply hother
    obtain ⟨-, lifecycle, hcols, -, rfl⟩ := completeOperation_ok hcomp
    refine ⟨⟨⟨nodup_nil, nodup_nil⟩, hcon.zone, hcon.revision, hcon.planRevisions⟩, ?_⟩
    unfold TripRecord.load
    simp only [hcols]
    simp

end Loading

theorem validateCreateTripActivities_ok
    (h : validateCreateTripActivities seen activities = .ok ()) : activities.all Activity.isValid ∧
    (activityIds activities).Nodup ∧ ∀ activityId ∈ activityIds activities, activityId ∉ seen := by
  induction activities generalizing seen with
  | nil => exact ⟨rfl, nodup_nil, by simp [activityIds]⟩
  | cons _ _ ih =>
    unfold validateCreateTripActivities at h
    split at h
    · cases h
    rename_i hact
    split at h
    · cases h
    rename_i hseen
    obtain ⟨hvalid, hdist, hfresh⟩ := ih h
    refine ⟨?_, ?_, ?_⟩
    · rw [all_cons, validateCanonicalActivity_ok hact, hvalid]
      rfl
    · rw [activityIds, map_cons, nodup_cons]
      refine ⟨fun hmem => hfresh _ hmem mem_cons_self, hdist⟩
    · rw [activityIds, map_cons, forall_mem_cons]
      exact ⟨hseen, fun activityId hmem hknown =>
        hfresh activityId hmem (mem_cons_of_mem _ hknown)⟩

theorem validateCreateTripDelays_ok (h : validateCreateTripDelays activities delays = .ok ()) :
    delaysAreLoadable activities delays := by
  revert h
  fun_induction validateCreateTripDelays activities delays
  case case1 => simp [delaysAreLoadable]
  case case5 horigin hdestination ih =>
    intro h
    have hrest := ih h
    simp only [Bool.not_eq_true, Bool.not_eq_false'] at horigin hdestination
    unfold delaysAreLoadable at hrest ⊢
    rw [all_cons, horigin, hdestination, hrest]
    rfl
  all_goals simp

structure CreatedRows (request : CreateTripRequest) : Prop where
  zone : request.defaultTimeZoneName.isEmpty = false
  count : request.activities.length ≤ 64
  activities : request.activities.all Activity.isValid
  distinct : (activityIds request.activities).Nodup
  plan : ReplacementPlan request.planSegments request.activities
  parsed : ∀ createdAt, parsedPlanIsValid (createTripPlan request createdAt)
  delays : delaysAreLoadable request.activities request.travelDelays

theorem validateCreateTripRequest_ok
    (h : validateCreateTripRequest request = .ok ()) : CreatedRows request := by
  revert h
  fun_cases validateCreateTripRequest request
  case case6 hdraft _ hacts hplan hparsed =>
    intro h
    simp only [not_or, not_not, Bool.not_eq_true, Bool.not_eq_false', not_lt] at hdraft hparsed
    obtain ⟨hvalid, hdist, -⟩ := validateCreateTripActivities_ok hacts
    exact ⟨hdraft.2.1, hdraft.2.2.2, hvalid, hdist, validateReplacementPlan_ok hplan,
      fun _ => hparsed, validateCreateTripDelays_ok h⟩
  all_goals nofun

theorem newTrip_loads {request : CreateTripRequest} {context : CreateTripContext}
    {activities : List ActivityRow} {delays : List TravelDelayRow} {record : TripRecord}
    (hnew : NewTrip request context activities delays record) :
    record.Constrained ∧ (record.load ≠ .corrupt ↔ progressOrdered
      (inPlanOrder request.activities
        (request.planSegments.map CurrentPlanSegment.activityId))) := by
  have hrows := validateCreateTripRequest_ok hnew.validated
  have hacts := mapM_storeActivity hnew.storedActivities
  have hdelays : delays.map TravelDelayRow.delay = request.travelDelays := by
    refine (Sequence.map_of_mapM (fun delay row hrow => ?_) hnew.storedDelays).trans (map_id _)
    unfold storeDelay at hrow
    split at hrow <;> cases hrow
    rfl
  have hids : (createTripPlan request context.createdAt).activityIds =
    request.planSegments.map CurrentPlanSegment.activityId :=
      userCurrentPlan_activityIds _ hrows.plan
  obtain rfl := hnew.record_eq
  refine ⟨⟨⟨?_, ?_⟩, hrows.zone, Nat.one_pos, ?_⟩, ?_⟩
  · change (activityIds (activities.map ActivityRow.activity)).Nodup
    rw [hacts]
    exact hrows.distinct
  · change ((delays.map TravelDelayRow.delay).map TravelDelayState.key).Nodup
    rw [hdelays]
    exact hnew.delayKeys
  · rw [forall_mem_singleton]
    exact (by decide : (1 : UInt64).toNat ≤ maxInt64)
  rw [load_ne_corrupt_iff,
    currentPlan?_published rfl (nil_append [createTripPlan request context.createdAt]).symm
      (by simp)]
  constructor
  · rintro (hnone | ⟨plan, hplan, hloads⟩)
    · cases hnone
    cases hplan
    have hprog := hloads.progress
    change progressOrdered (inPlanOrder (activities.map ActivityRow.activity) _) at hprog
    rwa [hacts, hids] at hprog
  · intro horder
    rw [← hids] at horder
    exact .inr ⟨_, rfl, loadsAs_of_contents hacts (rowsValid_of_contents hacts hdelays Nat.one_pos
      Nat.one_pos hrows.zone hrows.activities hrows.count hrows.delays) (hrows.parsed _)
      (hids ▸ hrows.plan.order) horder⟩

theorem created_constrained (h : Created record) : record.Constrained := by
  cases h with
  | saved _ _ named =>
    exact ⟨⟨nodup_nil, nodup_nil⟩, String.isEmpty_eq_false_iff.mpr named, Nat.one_pos,
      by simp [savedTrip]⟩
  | legacy hcreated =>
    obtain ⟨activities, delays, hnew⟩ := createTrip_ok hcreated
    exact (newTrip_loads hnew).1

theorem step_loads {record : TripRecord}
    (hcon : record.Constrained) (hload : record.load ≠ .corrupt) :
    (record.step transaction).Constrained ∧ (record.step transaction = record ∨
      record.inOrder transaction → (record.step transaction).load ≠ .corrupt) := by
  suffices h : (record.step transaction).Constrained ∧
      (record.inOrder transaction → (record.step transaction).load ≠ .corrupt) by
    refine ⟨h.1, fun hcond => hcond.elim (fun hsame => ?_) h.2⟩
    rw [hsame]
    exact hload
  unfold TripRecord.step
  cases hcommit : record.commit transaction with
  | error => exact ⟨hcon, fun _ => hload⟩
  | ok => exact change_loads hcon hload (commit_change hcommit)

/-- A created trip loads exactly when the request lists its activities in order,
and a trip that loads still does after a history whose transactions write
nothing or are in order on the record that they find. -/
theorem loadable_while_inOrder (record : TripRecord) (history : List TripTransaction) :
    (Created record → record.Constrained) ∧
    (∀ request context, createTrip request context = .ok record →
      (record.load ≠ .corrupt ↔ progressOrdered (inPlanOrder request.activities
        (request.planSegments.map CurrentPlanSegment.activityId)))) ∧
    (record.Constrained → record.load ≠ .corrupt →
      Runs.Along TripRecord.step (fun record transaction =>
        record.step transaction = record ∨ record.inOrder transaction) record history →
      (record.run history).load ≠ .corrupt) := by
  refine ⟨created_constrained, fun request context hcreated => ?_, fun hcon hload hhist => ?_⟩
  · obtain ⟨activities, delays, hnew⟩ := createTrip_ok hcreated
    exact (newTrip_loads hnew).2
  · have hinv : ∀ (record : TripRecord) (transaction : TripTransaction),
        record.Constrained ∧ record.load ≠ .corrupt →
        record.step transaction = record ∨ record.inOrder transaction →
        (record.step transaction).Constrained ∧ (record.step transaction).load ≠ .corrupt :=
      fun record transaction h hcond =>
        ⟨(step_loads h.1 h.2).1, (step_loads h.1 h.2).2 hcond⟩
    exact (Runs.foldl_of_along hinv ⟨hcon, hload⟩ hhist).2

/-- Two activities of a new trip, planned one after the other. -/
def quayStop (activityId : ActivityId) (state : ActivityState) : Activity :=
  { harbourWalk.activity 0 "Quay" with activityId := activityId, activityState := state }

def twoStopTrip (first second : ActivityState) : CreateTripRequest :=
  { tripId := ⟨1⟩, ownerUserId := ⟨2⟩, messageId := ⟨3⟩, eventId := ⟨3⟩, planId := ⟨4⟩
    defaultTimeZoneName := "UTC", activities := [quayStop ⟨1⟩ first, quayStop ⟨2⟩ second]
    travelDelays := [], planSegments := [⟨⟨1⟩, .omitted, none, none⟩, ⟨⟨2⟩, .omitted, none, none⟩]
    payloadDigest := ⟨0⟩ }

theorem twoStopTrip_created
    (h : (createTrip (twoStopTrip first second) ⟨0, true, [], []⟩).toOption.isSome) :
    ∃ record, createTrip (twoStopTrip first second) ⟨0, true, [], []⟩ = .ok record := by
  cases hres : createTrip (twoStopTrip first second) ⟨0, true, [], []⟩ with
  | error =>
    rw [hres] at h
    cases h
  | ok record => exact ⟨record, rfl⟩

theorem harbourTrip_loadable : (harbourTrip.run executeHarbour).load ≠ .corrupt ∧
    ∃ record, createTrip (twoStopTrip .started .planned) ⟨0, true, [], []⟩ = .ok record ∧
      record.load ≠ .corrupt := by
  obtain ⟨record, hcreated⟩ := @twoStopTrip_created .started .planned (by decide +kernel)
  have hharbour := (loadable_while_inOrder harbourTrip executeHarbour).1 harbourTrip_created
  exact ⟨(loadable_while_inOrder harbourTrip executeHarbour).2.2 hharbour
    (by decide +kernel) (by decide +kernel), record, hcreated,
    ((loadable_while_inOrder record []).2.1 _ _ hcreated).mpr (by decide +kernel)⟩

theorem startedSecond_created_corrupt :
    ∃ record, createTrip (twoStopTrip .planned .started) ⟨0, true, [], []⟩ = .ok record ∧
      Created record ∧ record.load = .corrupt := by
  obtain ⟨record, hcreated⟩ := @twoStopTrip_created .planned .started (by decide +kernel)
  have hload : (createTrip (twoStopTrip .planned .started) ⟨0, true, [], []⟩).toOption.map
      TripRecord.load = some .corrupt := by decide +kernel
  rw [hcreated] at hload
  exact ⟨record, hcreated, .legacy hcreated, Option.some.inj hload⟩

end LiveRoute.Execution
