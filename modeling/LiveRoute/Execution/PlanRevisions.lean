import LiveRoute.Execution.PlanPointers

/-! The revisions of stored plans. An edit takes its plan revision from the trip
revision, an accepted proposal and an activation from the greatest stored one. -/
namespace LiveRoute.Execution
open Domain Persistence Gateway List

def planRevisions (plans : List CurrentPlan) : List Nat :=
  plans.map fun plan => plan.planRevision.toNat

theorem foldl_max_le_iff (revisions : List Nat) :
    revisions.foldl max start ≤ bound ↔
      start ≤ bound ∧ ∀ revision ∈ revisions, revision ≤ bound := by
  induction revisions generalizing start with
  | nil => simp
  | cons _ _ ih => rw [foldl_cons, ih, forall_mem_cons, Nat.max_le, and_assoc]

theorem maximumPlanRevision_eq (trip : CanonicalTrip) :
    trip.maximumPlanRevision = (planRevisions trip.plans).foldl max 0 := by
  rw [CanonicalTrip.maximumPlanRevision, planRevisions, foldl_map]

theorem maximumPlanRevision_le_iff (trip : CanonicalTrip) :
    trip.maximumPlanRevision ≤ bound ↔ ∀ plan ∈ trip.plans, plan.planRevision.toNat ≤ bound := by
  rw [maximumPlanRevision_eq, foldl_max_le_iff, planRevisions]
  simp

theorem planRevision_le_maximum {trip : CanonicalTrip}
    (h : plan ∈ trip.plans) : plan.planRevision.toNat ≤ trip.maximumPlanRevision :=
  (maximumPlanRevision_le_iff trip).mp (Nat.le_refl _) plan h

def TripRecord.activations (record : TripRecord) : Nat :=
  record.operations.countP fun operation => decide (operation.kind = .activate)

/-- The plans of a saved trip are those of its activations: while it executes
no other plan is published, and before and after it has no current plan. -/
structure SavedOrigin (record : TripRecord) : Prop where
  saved : record.savedPlan.isSome
  unplanned : record.lifecycle.executionState = .inactive → record.lifecycle.currentPlanId = none
  revisions : planRevisions record.plans = List.range' 1 record.activations
  room : record.activations ≤ maxInt64
  revision : 0 < record.tripRevision

/-- A legacy trip is never activated, and each of its plans came with a trip
revision of its own. -/
structure LegacyOrigin (record : TripRecord) : Prop where
  unsaved : record.savedPlan = none
  inactive : record.lifecycle.executionState = .inactive
  activations : record.activations = 0
  increasing : (planRevisions record.plans).Pairwise (· < ·)
  bounded : record.rows.maximumPlanRevision ≤ record.tripRevision

structure PlanLedger (record : TripRecord) : Prop where
  stored : ∀ planId, record.lifecycle.currentPlanId = some planId →
    ∃ plan ∈ record.plans, plan.planId = planId
  origin : SavedOrigin record ∨ LegacyOrigin record

theorem SavedOrigin.maximum (h : SavedOrigin record) :
    record.rows.maximumPlanRevision = record.activations := by
  apply Nat.le_antisymm
  · rw [maximumPlanRevision_eq]
    change (planRevisions record.plans).foldl max 0 ≤ _
    rw [h.revisions, foldl_max_le_iff]
    refine ⟨Nat.zero_le _, fun revision hmem => ?_⟩
    rw [mem_range'_1] at hmem
    omega
  · rcases Nat.eq_zero_or_pos record.activations with hzero | hpos
    · omega
    · have hlast : record.activations ∈ planRevisions record.plans := by
        rw [h.revisions, mem_range'_1]
        omega
      obtain ⟨plan, hplan, hrev⟩ := mem_map.mp hlast
      rw [← hrev]
      exact planRevision_le_maximum hplan

theorem PlanLedger.increasing (h : PlanLedger record) :
    (planRevisions record.plans).Pairwise (· < ·) := by
  obtain hsaved | hleg := h.origin
  · rw [hsaved.revisions]
    exact pairwise_lt_range'
  · exact hleg.increasing

section Steps
variable {record other : TripRecord}

theorem PlanLedger.savedOrigin (h : PlanLedger record)
    (hexec : record.lifecycle.executionState ≠ .inactive) : SavedOrigin record :=
  h.origin.resolve_right fun hleg => hexec hleg.inactive

theorem PlanLedger.legacyOrigin (h : PlanLedger record) {trip : CanonicalTrip}
    (hplanned : record.lifecycle.currentPlanId.isSome)
    (hfresh : ∀ plan ∈ record.plans, plan.planId ≠ trip.currentPlanId)
    (hpub : record.publish trip = .ok other) : LegacyOrigin record := by
  refine h.origin.resolve_left fun hsaved => ?_
  obtain ⟨current, hcur⟩ := Option.isSome_iff_exists.mp hplanned
  have hexec : record.lifecycle.executionState ≠ .inactive := by
    intro hidle
    rw [hsaved.unplanned hidle] at hcur
    cases hcur
  obtain ⟨lifecycle, hcols, -⟩ := publish_ok hpub
  have hcheck := lifecycle.valid
  rw [hcols, pointAt_check_iff] at hcheck
  obtain ⟨plan, hplan, hid⟩ := h.stored _ (hcheck.resolve_left hexec)
  exact hfresh plan hplan hid

theorem PlanLedger.keep (h : PlanLedger record) (hplans : other.plans = record.plans)
    (hlife : other.lifecycle = record.lifecycle)
    (hsaved : other.savedPlan.isSome = record.savedPlan.isSome)
    (hops : other.operations = record.operations)
    (hrev : record.tripRevision ≤ other.tripRevision) : PlanLedger other := by
  have hacts : other.activations = record.activations := by
    rw [TripRecord.activations, hops]
    rfl
  constructor
  case stored =>
    rw [hlife, hplans]
    exact h.stored
  case origin =>
    obtain horigin | horigin := h.origin
    · left
      constructor
      case saved => rw [hsaved]; exact horigin.saved
      case unplanned => rw [hlife]; exact horigin.unplanned
      case revisions => rw [hplans, hacts]; exact horigin.revisions
      case room => rw [hacts]; exact horigin.room
      case revision => exact Nat.lt_of_lt_of_le horigin.revision hrev
    · right
      constructor
      case unsaved =>
        rw [← Option.not_isSome_iff_eq_none, hsaved, horigin.unsaved]
        simp
      case inactive => rw [hlife]; exact horigin.inactive
      case activations => rw [hacts]; exact horigin.activations
      case increasing => rw [hplans]; exact horigin.increasing
      case bounded =>
        rw [maximumPlanRevision_eq]
        change (planRevisions other.plans).foldl max 0 ≤ _
        rw [hplans]
        exact Nat.le_trans (maximumPlanRevision_eq record.rows ▸ horigin.bounded) hrev

theorem PlanLedger.transition (h : PlanLedger record)
    (hexec : record.lifecycle.executionState ≠ .inactive)
    (hplans : other.plans = record.plans) (hsaved : other.savedPlan = record.savedPlan)
    (hacts : other.activations = record.activations)
    (hrev : other.tripRevision = record.tripRevision)
    (hcur : other.lifecycle.currentPlanId = none ∨ other.lifecycle.executionState ≠ .inactive ∧
        other.lifecycle.currentPlanId = record.lifecycle.currentPlanId) : PlanLedger other := by
  have horigin := h.savedOrigin hexec
  constructor
  case stored =>
    intro planId hplan
    obtain hnone | ⟨-, hsame⟩ := hcur
    · rw [hnone] at hplan
      cases hplan
    · rw [hplans]
      exact h.stored planId (hsame ▸ hplan)
  case origin =>
    left
    constructor
    case saved => rw [hsaved]; exact horigin.saved
    case unplanned =>
      intro hidle
      exact hcur.resolve_right fun hstill => hstill.1 hidle
    case revisions => rw [hplans, hacts]; exact horigin.revisions
    case room => rw [hacts]; exact horigin.room
    case revision => rw [hrev]; exact horigin.revision

theorem LegacyOrigin.publish (h : LegacyOrigin record)
    (hplans : other.plans = record.plans ++ [plan])
    (hlife : other.lifecycle = lifecycle)
    (hidle : lifecycle.executionState = .inactive)
    (hcur : lifecycle.currentPlanId = some plan.planId)
    (hsaved : other.savedPlan = record.savedPlan) (hops : other.operations = record.operations)
    (hgreater : record.rows.maximumPlanRevision < plan.planRevision.toNat)
    (hbd : plan.planRevision.toNat ≤ other.tripRevision) : PlanLedger other := by
  have hacts : other.activations = record.activations := by
    rw [TripRecord.activations, hops]
    rfl
  constructor
  case stored =>
    intro planId hplan
    rw [hlife, hcur, Option.some.injEq] at hplan
    exact ⟨plan, by simp [hplans], hplan⟩
  case origin =>
    right
    constructor
    case unsaved => rw [hsaved]; exact h.unsaved
    case inactive => rw [hlife]; exact hidle
    case activations => rw [hacts]; exact h.activations
    case increasing =>
      rw [hplans, planRevisions, map_append, pairwise_append]
      refine ⟨h.increasing, by simp, ?_⟩
      intro revision hmem latest hlatest
      obtain ⟨stored, hstored, rfl⟩ := mem_map.mp hmem
      rw [map_singleton, mem_singleton] at hlatest
      have hstored : stored ∈ record.rows.plans := hstored
      have hmaximum := planRevision_le_maximum hstored
      omega
    case bounded =>
      rw [maximumPlanRevision_le_iff]
      intro stored hstored
      have hstored : stored ∈ record.plans ++ [plan] := hplans ▸ hstored
      rw [mem_append, mem_singleton] at hstored
      obtain hstored | rfl := hstored
      · have hstored : stored ∈ record.rows.plans := hstored
        have hmaximum := planRevision_le_maximum hstored
        omega
      · exact hbd

theorem activations_succeed : (succeedOperation operationId operations).countP
        (fun operation => decide (operation.kind = .activate)) =
      operations.countP fun operation => decide (operation.kind = .activate) := by
  rw [succeedOperation, countP_map]
  congr 1
  funext operation
  simp only [Function.comp_apply]
  split <;> rfl

theorem editMetadata_revision {trip : CanonicalTrip} (request : CanonicalEditRequest)
    (context : CommitContext) (h : trip.tripRevision < maxInt64) :
    (editMetadata trip request context).revision.toNat = trip.tripRevision + 1 := by
  apply UInt64.toNat_ofNat_of_lt'
  unfold maxInt64 at h
  simp only [UInt64.size]
  omega

theorem SavedOrigin.executionPlan_revision (h : SavedOrigin record)
    (context : ActivationContext) (activities : List ActivationActivity) :
    (executionPlan record context activities).planRevision.toNat = record.activations + 1 := by
  have hacts := h.room
  simp only [executionPlan, userCurrentPlan, h.maximum]
  apply UInt64.toNat_ofNat_of_lt'
  unfold maxInt64 at hacts
  simp only [UInt64.size]
  omega

theorem PlanLedger.edited (h : PlanLedger record) {edit : CanonicalEdit}
    (hplanned : record.lifecycle.currentPlanId.isSome)
    (hcom : CanonicallyCommitted edit.transaction record.rows trip request context row)
    (hpub : record.publish trip = .ok other) : PlanLedger other := by
  obtain ⟨written, -, htrip⟩ := hcom.trip_eq
  have hpointer : trip.currentPlanId = request.planId := congrArg CanonicalTrip.currentPlanId htrip
  have hleg := h.legacyOrigin hplanned (fun plan hplan => by
    rw [hpointer]
    exact planId_fresh hcom.planFresh plan hplan) hpub
  have hrev := editMetadata_revision request context hcom.revision
  obtain ⟨lifecycle, hcols, hother⟩ := publish_ok hpub
  apply hleg.publish
  · rw [hother, htrip]
    rfl
  · rw [hother]
  · rw [hcols]
    exact hleg.inactive
  · rw [hcols, hpointer]
    rfl
  · rw [hother]
    rfl
  · rw [hother]
    rfl
  · exact Nat.lt_of_le_of_lt hleg.bounded (by
      rw [userCurrentPlan, hrev]
      exact Nat.lt_succ_self _)
  · rw [userCurrentPlan, hrev, hother, htrip]
    exact Nat.le_refl _

theorem PlanLedger.accepted (h : PlanLedger record) (hplan : record.lifecycle.currentPlanId.isSome)
    (hfits : record.rows.PlannedPlanFits row proposal plan)
    (hres : ResolvesAwaited record.rows { record.rows with
        proposals := proposals, plans := record.plans ++ [plan], currentPlanId := plan.planId }
      trip eventId row .applied .accepted (record.tripRevision + 1))
    (hpub : record.publish trip = .ok other) : PlanLedger other := by
  obtain ⟨-, outcome, htrip⟩ := hres.resolution
  have hpointer : trip.currentPlanId = plan.planId := congrArg CanonicalTrip.currentPlanId htrip
  have hleg := h.legacyOrigin hplan (fun stored hstored => by
    have hunknown := any_eq_false.mp hfits.unknown stored hstored
    rw [hpointer]
    simpa using hunknown) hpub
  obtain ⟨lifecycle, hcols, hother⟩ := publish_ok hpub
  have hrev := hfits.revision.2
  have hbd := hleg.bounded
  apply hleg.publish
  · rw [hother, htrip]
    rfl
  · rw [hother]
  · rw [hcols]
    exact hleg.inactive
  · rw [hcols, Lifecycle.pointAt, hpointer]
  · rw [hother]
    rfl
  · rw [hother]
    rfl
  · omega
  · have hafter : other.tripRevision = record.tripRevision + 1 := by
      rw [hother, htrip]
      rfl
    omega

theorem PlanLedger.activated (h : PlanLedger record)
    (hactd : Activated record request context other) : PlanLedger other := by
  obtain ⟨plan, activities, hsaved, -, hins⟩ := hactd.inserted
  obtain ⟨rows, lifecycle, hcols, -, hother⟩ := hins.inserted
  have horigin : SavedOrigin record := h.origin.resolve_right fun hleg => by
    rw [hleg.unsaved] at hsaved
    cases hsaved
  have hrev := horigin.executionPlan_revision context activities
  have hroom := horigin.room
  have hmaximum := horigin.maximum ▸ hins.planRoom
  have hacts : other.activations = record.activations + 1 := by
    rw [hother]
    simp [TripRecord.activations, countP_append]
  constructor
  case stored =>
    intro planId hplan
    rw [hother] at hplan ⊢
    rw [hcols, Option.some.injEq] at hplan
    exact ⟨executionPlan record context activities, by simp, hplan⟩
  case origin =>
    left
    constructor
    case saved => rw [hother, hsaved]; rfl
    case unplanned =>
      intro hidle
      rw [hother, hcols] at hidle
      cases hidle
    case revisions =>
      rw [hacts, range'_concat, hother]
      simp only [planRevisions, map_append, map_cons, map_nil, hrev]
      rw [← horigin.revisions]
      congr 2
      omega
    case room => omega
    case revision =>
      rw [hother]
      exact horigin.revision

theorem PlanLedger.change (h : PlanLedger record)
    (hchange : Change record transaction other) : PlanLedger other := by
  cases hchange with
  | unchanged => exact h
  | recorded _ hrec =>
    apply h.keep
    · rw [hrec.trip_eq]
      rfl
    · rfl
    · rfl
    · rfl
    · rw [hrec.trip_eq]
      exact Nat.le_refl _
  | edited hplan _ hcom hpub => exact h.edited hplan hcom hpub
  | mutated _ hmut hres =>
    obtain ⟨activities, delays, hrows⟩ := applyAcceptedMutation_rows hmut
    obtain ⟨-, -, rfl⟩ := hres.resolution
    apply h.keep
    · rw [hrows]
      rfl
    · rfl
    · rfl
    · rfl
    · exact Nat.le_succ _
  | resolved _ hrev hres =>
    obtain ⟨-, -, rfl⟩ := hres.resolution
    exact h.keep rfl rfl rfl rfl hrev
  | accepted hplan hfits hres hpub => exact h.accepted hplan hfits hres hpub
  | mirrored => exact h.keep rfl rfl rfl rfl (Nat.le_refl _)
  | leased => exact h.keep rfl rfl rfl rfl (Nat.le_refl _)
  | revised _ hsaved => exact h.keep rfl rfl hsaved.symm rfl (Nat.le_succ _)
  | activated hactd => exact h.activated hactd
  | activationCompleted _ _ _ hstate hcomp =>
    obtain ⟨-, lifecycle, hcols, -, rfl⟩ := completeOperation_ok hcomp
    refine h.transition (by simp [hstate]) rfl rfl activations_succeed rfl ?_
    rw [hcols]
    exact .inr ⟨by simp, rfl⟩
  | deactivated hdeact =>
    obtain ⟨lifecycle, hcols, rfl⟩ := hdeact.inserted
    refine h.transition ?_ rfl rfl ?_ rfl ?_
    · obtain hstate | hstate := hdeact.executing <;> simp [hstate]
    · simp [TripRecord.activations, countP_append]
    · rw [hcols]
      exact .inr ⟨by simp, rfl⟩
  | deactivationCompleted _ _ _ hstate _ hcomp =>
    obtain ⟨-, lifecycle, hcols, -, rfl⟩ := completeOperation_ok hcomp
    refine h.transition (by simp [hstate]) rfl rfl activations_succeed rfl ?_
    rw [hcols]
    exact .inl rfl

end Steps

theorem PlanLedger.created (h : Created record) : PlanLedger record := by
  cases h with
  | saved => exact ⟨by simp [savedTrip, inactiveLifecycle], .inl ⟨rfl, fun _ => rfl, rfl,
      Nat.zero_le _, Nat.one_pos⟩⟩
  | legacy hcreated =>
    obtain ⟨activities, delays, hnew⟩ := createTrip_ok hcreated
    rw [hnew.record_eq]
    refine ⟨?_, .inr ⟨rfl, rfl, rfl, pairwise_singleton _ _, Nat.le_refl _⟩⟩
    intro planId hplan
    exact ⟨_, mem_singleton_self _, Option.some.inj hplan⟩

theorem Reachable.planLedger (h : Reachable record) : PlanLedger record := by
  obtain ⟨created, history, hcreated, rfl⟩ := h
  exact run_induction PlanLedger.change (PlanLedger.created hcreated) history

structure ActivationPasses (record : TripRecord) (request : ActivateSavedTripRequest)
    (context : ActivationContext) (activities : List ActivationActivity) : Prop where
  validated : validateActivateSavedTrip request
  owner : record.ownerUserId = request.userId
  reserved : record.reserve .activate request.idempotencyKey request.requestDigest = .reserved
  plan : ∃ plan, record.savedPlan = some plan ∧ loadActivationActivities plan = .ok activities
  inactive : record.lifecycle.executionState = .inactive
  revision : record.tripRevision = request.expectedRevision.toNat
  alone : context.otherTripExecutes = false
  day : ∃ day, context.day = some day ∧
    activities.all (fun activity => activity.insideDay context.activatedAt day)

/-- The transaction has passed the checks before its insert of a plan, and
`revision` is the plan revision that it inserts. -/
def TripRecord.ChoosesRevision (record : TripRecord) (revision : Nat) : TripTransaction → Prop
  | .edit edit request context => ∃ current, record.lifecycle.currentPlanId = some current ∧
      record.creationBy? request.messageId = none ∧
      edit.transaction.Passes (record.canonicalTrip current) request ∧
      (editMetadata (record.canonicalTrip current) request context).revision.toNat = revision
  | .acceptProposal request => ∃ current trip plan, record.lifecycle.currentPlanId = some current ∧
      finalizeProposalAcceptance (record.canonicalTrip current) request = .ok trip ∧
      trip.plans = record.plans ++ [plan] ∧ plan.planRevision.toNat = revision
  | .activate request context => ∃ activities, ActivationPasses record request context activities ∧
      (executionPlan record context activities).planRevision.toNat = revision
  | _ => False

def isEdit : TripTransaction → Bool
  | .edit .. => true
  | _ => false

theorem acceptance_revision (h : finalizeProposalAcceptance trip request = .ok finalized)
    (hplans : finalized.plans = trip.plans ++ [plan]) :
    plan.planRevision.toNat = trip.maximumPlanRevision + 1 := by
  obtain ⟨rfl, -⟩ | ⟨row, proposal, accepted, proposals, hfits, -, hres⟩ :=
    finalizeProposalAcceptance_ok h
  · simp at hplans
  · obtain ⟨-, outcome, rfl⟩ := hres.resolution
    have hsame : trip.plans ++ [accepted] = trip.plans ++ [plan] := hplans
    obtain rfl : accepted = plan := by simpa using hsame
    exact hfits.revision.2

theorem maximum_succ_fresh (record : TripRecord)
    (h : revision = record.rows.maximumPlanRevision + 1) :
    ∀ plan ∈ record.plans, plan.planRevision.toNat < revision := by
  intro plan hplan
  have hplan : plan ∈ record.rows.plans := hplan
  have hmaximum := planRevision_le_maximum hplan
  omega

/-- A revision from the trip revision is new, or else it is that of one of the
activations, which have the revisions from 1 on. -/
theorem PlanLedger.edit_revision (h : PlanLedger record) :
    if record.tripRevision < record.activations then
      ∃ plan ∈ record.plans, plan.planRevision.toNat = record.tripRevision + 1
    else ∀ plan ∈ record.plans, plan.planRevision.toNat < record.tripRevision + 1 := by
  split
  next hmore =>
    have hsaved : SavedOrigin record := h.origin.resolve_right fun hleg => by
      rw [hleg.activations] at hmore
      omega
    have hmem : record.tripRevision + 1 ∈ planRevisions record.plans := by
      rw [hsaved.revisions, mem_range'_1]
      omega
    obtain ⟨plan, hplan, hrev⟩ := mem_map.mp hmem
    exact ⟨plan, hplan, hrev⟩
  next hfew =>
    intro plan hplan
    have hplan : plan ∈ record.rows.plans := hplan
    have hmaximum := planRevision_le_maximum hplan
    obtain hsaved | hleg := h.origin
    · have hacts := hsaved.maximum
      omega
    · have hbd := hleg.bounded
      omega

/-- The stored plans of a trip have increasing revisions. A revision that a
command chooses is above all of them, and so is not taken, except for an edit of
a trip that was activated more often than its revision counts: that revision is
taken, and the edit is refused. -/
theorem chosen_revision_fresh_iff {record : TripRecord} (hreachable : Reachable record) :
    (planRevisions record.plans).Pairwise (· < ·) ∧
    ∀ transaction revision, record.ChoosesRevision revision transaction →
      ((∀ plan ∈ record.plans, plan.planRevision.toNat < revision) ↔
        ¬ (isEdit transaction ∧ record.tripRevision < record.activations)) ∧
      ((∃ plan ∈ record.plans, plan.planRevision.toNat = revision) ↔
        isEdit transaction ∧ record.tripRevision < record.activations) ∧
      (isEdit transaction ∧ record.tripRevision < record.activations →
        record.commit transaction = .error (.edit .storage)) := by
  have hledger := hreachable.planLedger
  refine ⟨hledger.increasing, fun transaction revision hchooses => ?_⟩
  -- A revision above all others is not one of them.
  have hfresh : (∀ plan ∈ record.plans, plan.planRevision.toNat < revision) →
      ¬ ∃ plan ∈ record.plans, plan.planRevision.toNat = revision := by
    rintro habove ⟨plan, hplan, rfl⟩
    exact Nat.lt_irrefl _ (habove plan hplan)
  cases transaction with
  | edit _ request context =>
    obtain ⟨current, hcur, hnew, hpasses, hrev⟩ := hchooses
    rw [editMetadata_revision request context hpasses.room.1] at hrev
    subst hrev
    have hedit := hledger.edit_revision
    split at hedit
    next hmore =>
      obtain ⟨plan, hplan, htaken⟩ := hedit
      refine ⟨?_, ?_, fun _ => ?_⟩
      · simp only [isEdit, hmore, and_self, not_true_eq_false, iff_false]
        exact fun habove => hfresh habove ⟨plan, hplan, htaken⟩
      · simp only [isEdit, hmore, and_self, iff_true]
        exact ⟨plan, hplan, htaken⟩
      · have hkey : planKeyTaken (record.canonicalTrip current) context
            (editMetadata (record.canonicalTrip current) request context) := by
          simp only [planKeyTaken, Bool.or_eq_true, any_eq_true, beq_iff_eq]
          refine .inr ⟨plan, hplan, .inr (UInt64.toNat_inj.mp ?_)⟩
          rw [htaken, editMetadata_revision request context hpasses.room.1]
          rfl
        have howner : record.ownerUserId = request.ownerUserId := hpasses.owner
        simp [TripRecord.commit, TripRecord.edit, hpasses.validated, hcur, howner, hnew,
          CanonicalTransaction.run_taken hpasses hkey, Except.map]
    next hfew =>
      simp only [isEdit, hfew, and_false, not_false_eq_true, iff_true, iff_false,
        false_implies, and_true]
      exact ⟨hedit, hfresh hedit⟩
  | acceptProposal =>
    obtain ⟨current, trip, plan, hcur, htrip, hplans, rfl⟩ := hchooses
    rw [← TripRecord.rows_eq hcur] at htrip
    have habove := maximum_succ_fresh record (acceptance_revision htrip hplans)
    simp only [isEdit, Bool.false_eq_true, false_and, not_false_eq_true, iff_true, iff_false,
      false_implies, and_true]
    exact ⟨habove, hfresh habove⟩
  | activate _ context =>
    obtain ⟨activities, hpasses, rfl⟩ := hchooses
    obtain ⟨plan, hplan, -⟩ := hpasses.plan
    have hsaved : SavedOrigin record := hledger.origin.resolve_right fun hleg => by
      rw [hleg.unsaved] at hplan
      cases hplan
    have hrev := hsaved.executionPlan_revision context activities
    rw [← hsaved.maximum] at hrev
    have habove := maximum_succ_fresh record hrev
    simp only [isEdit, Bool.false_eq_true, false_and, not_false_eq_true, iff_true, iff_false,
      false_implies, and_true]
    exact ⟨habove, hfresh habove⟩
  | _ => exact hchooses.elim

def executeHarbourTwice : List TripTransaction := executeHarbour ++ leaveHarbour ++
    [activateHarbour 3, .acquireLease ⟨9⟩ 1000 20 20, .completeActivation ⟨⟨3⟩, ⟨9⟩, 1⟩ 21]

theorem harbourTrip_twice_reachable : Reachable (harbourTrip.run executeHarbourTwice) :=
  ⟨harbourTrip, executeHarbourTwice, harbourTrip_created, rfl⟩

theorem harbourTrip_twice_chooses : (harbourTrip.run executeHarbourTwice).ChoosesRevision 2
    (.edit .currentPlan replaceHarbourPlan ⟨1500000, [], []⟩) := by
  refine ⟨⟨3⟩, by decide +kernel, by decide +kernel, ?_, by decide +kernel⟩
  exact ⟨rfl, by decide +kernel, by decide +kernel, by decide +kernel, by decide +kernel,
    by decide +kernel, by decide +kernel, _, rfl, rfl⟩

theorem harbourTrip_revisions_increase : Reachable (harbourTrip.run executeHarbourTwice) ∧
    (planRevisions (harbourTrip.run executeHarbourTwice).plans).Pairwise (· < ·) ∧
    (harbourTrip.run executeHarbourTwice).commit
      (.edit .currentPlan replaceHarbourPlan ⟨1500000, [], []⟩) = .error (.edit .storage) := by
  obtain ⟨hincreasing, hchosen⟩ := chosen_revision_fresh_iff harbourTrip_twice_reachable
  obtain ⟨-, -, hrefused⟩ := hchosen _ 2 harbourTrip_twice_chooses
  exact ⟨harbourTrip_twice_reachable, hincreasing, hrefused (by decide +kernel)⟩

theorem harbourTrip_revision_taken : Reachable (harbourTrip.run executeHarbourTwice) ∧
    (harbourTrip.run executeHarbourTwice).ChoosesRevision 2
      (.edit .currentPlan replaceHarbourPlan ⟨1500000, [], []⟩) ∧
    planRevisions (harbourTrip.run executeHarbourTwice).plans = [1, 2] :=
  ⟨harbourTrip_twice_reachable, harbourTrip_twice_chooses, by decide +kernel⟩

end LiveRoute.Execution
