import LiveRoute.Execution.PlanRevisions

/-! Leaving an execution. The transition that a trip is in is its one pending
operation, whose stored response still promises a completion; the index that
allows one pending operation lets nothing leave a trip that is activating. -/
namespace LiveRoute.Execution
open Domain Persistence List Bool

variable {operation : ExecutionOperation} {operationId : OperationId}

def awaitedKind : ExecutionState → Option OperationKind
  | .activating => some .activate
  | .deactivating => some .deactivate
  | .inactive | .active => none

structure OperationLedger (record : TripRecord) : Prop where
  operationIds : (record.operations.map ExecutionOperation.operationId).Nodup
  recordIds : (record.idempotencyRecords.map IdempotencyRecord.recordId).Nodup
  revision : record.tripRevision ≤ maxInt64
  pending : ∀ operation ∈ record.operations, operation.state = .pending →
    record.lifecycle.transitionOperationId = some operation.operationId ∧
      awaitedKind record.lifecycle.executionState = some operation.kind
  transition : ∀ operationId, record.lifecycle.transitionOperationId = some operationId →
    ∃ operation ∈ record.operations, operation.operationId = operationId ∧
      operation.state = .pending ∧
      ∃ stored ∈ record.idempotencyRecords, stored.awaitsCompletion operation

section Steps
variable {record other : TripRecord}

theorem Lifecycle.transition_isSome (lifecycle : Lifecycle) :
    lifecycle.transitionOperationId.isSome = (awaitedKind lifecycle.executionState).isSome := by
  have hvalid := lifecycle.valid
  unfold LifecycleColumns.check at hvalid
  cases hstate : lifecycle.executionState with
  | inactive | active =>
    simp only [hstate, and_eq_true, Option.isNone_iff_eq_none] at hvalid
    rw [hvalid.2]
    rfl
  | activating | deactivating =>
    simp only [hstate, and_eq_true] at hvalid
    rw [hvalid.2]
    rfl

theorem OperationLedger.settled (h : OperationLedger record)
    (hstate : awaitedKind record.lifecycle.executionState = none) :
    ∀ operation ∈ record.operations, operation.state ≠ .pending := by
  intro operation hop hpend
  have hkind := (h.pending operation hop hpend).2
  rw [hstate] at hkind
  cases hkind

theorem OperationLedger.keep (h : OperationLedger record)
    (hops : other.operations = record.operations)
    (hrecs : other.idempotencyRecords = record.idempotencyRecords)
    (hstate : other.lifecycle.executionState = record.lifecycle.executionState)
    (htrans : other.lifecycle.transitionOperationId = record.lifecycle.transitionOperationId)
    (hrev : other.tripRevision ≤ maxInt64) : OperationLedger other := by
  constructor
  case operationIds => rw [hops]; exact h.operationIds
  case recordIds => rw [hrecs]; exact h.recordIds
  case revision => exact hrev
  case pending => rw [hops, hstate, htrans]; exact h.pending
  case transition => rw [hops, hrecs, htrans]; exact h.transition

theorem OperationLedger.insert (h : OperationLedger record)
    (hsettled : ∀ operation ∈ record.operations, operation.state ≠ .pending)
    (hops : other.operations = record.operations ++ [operation])
    (hrecs : other.idempotencyRecords = record.idempotencyRecords ++ [stored])
    (hnewOperation : ∀ known ∈ record.operations, known.operationId ≠ operation.operationId)
    (hnewRecord : ∀ known ∈ record.idempotencyRecords, known.recordId ≠ stored.recordId)
    (hpend : operation.state = .pending) (hawaits : stored.awaitsCompletion operation)
    (hstate : awaitedKind other.lifecycle.executionState = some operation.kind)
    (htrans : other.lifecycle.transitionOperationId = some operation.operationId)
    (hrev : other.tripRevision = record.tripRevision) : OperationLedger other := by
  constructor
  case operationIds =>
    rw [hops]
    exact KeyedRows.nodup_append_new h.operationIds hnewOperation
  case recordIds =>
    rw [hrecs]
    exact KeyedRows.nodup_append_new h.recordIds hnewRecord
  case revision => rw [hrev]; exact h.revision
  case pending =>
    intro known hknown hopen
    rw [hops, mem_append, mem_singleton] at hknown
    obtain hknown | rfl := hknown
    · exact absurd hopen (hsettled known hknown)
    · exact ⟨htrans, hstate⟩
  case transition =>
    intro operationId hid
    rw [htrans, Option.some.injEq] at hid
    exact ⟨operation, by simp [hops], hid, hpend, stored, by simp [hrecs], hawaits⟩

theorem completeRecord_recordIds (h : completeRecord operation records = some completed) :
    completed.map IdempotencyRecord.recordId = records.map IdempotencyRecord.recordId := by
  unfold completeRecord at h
  split at h <;> cases h
  apply KeyedRows.map_keys
  intro stored
  split <;> rfl

theorem OperationLedger.complete (h : OperationLedger record)
    (hfound : record.operation? operationId = some operation) (hpend : operation.state = .pending)
    (hops : other.operations = succeedOperation operation.operationId record.operations)
    (hrecs : completeRecord operation record.idempotencyRecords = some other.idempotencyRecords)
    (hstate : awaitedKind other.lifecycle.executionState = none)
    (hrev : other.tripRevision = record.tripRevision) : OperationLedger other := by
  have hmem := mem_of_find?_eq_some hfound
  have hsettled : ∀ known ∈ other.operations, known.state ≠ .pending := by
    intro known hknown hopen
    rw [hops] at hknown
    obtain ⟨before, hbefore, rfl⟩ := mem_map.mp hknown
    split at hopen
    · cases hopen
    rename_i hother
    -- A second pending operation would be the same transition.
    have hsame : some before.operationId = some operation.operationId :=
      (h.pending before hbefore hopen).1.symm.trans (h.pending operation hmem hpend).1
    exact hother ⟨Option.some.inj hsame, hopen⟩
  constructor
  case operationIds =>
    rw [hops]
    unfold succeedOperation
    rw [KeyedRows.map_keys]
    · exact h.operationIds
    · intro known
      split <;> rfl
  case recordIds =>
    rw [completeRecord_recordIds hrecs]
    exact h.recordIds
  case revision => rw [hrev]; exact h.revision
  case pending => exact fun known hknown hopen => absurd hopen (hsettled known hknown)
  case transition =>
    intro operationId htrans
    have hnone := other.lifecycle.transition_isSome
    rw [htrans, hstate] at hnone
    cases hnone

theorem OperationLedger.published (h : OperationLedger record) {trip : CanonicalTrip}
    (hrev : trip.tripRevision ≤ maxInt64) (hpub : record.publish trip = .ok other) :
    OperationLedger other := by
  obtain ⟨lifecycle, hcols, rfl⟩ := publish_ok hpub
  refine h.keep rfl rfl ?_ ?_ hrev <;> rw [hcols] <;> rfl

theorem OperationLedger.change (h : OperationLedger record)
    (hchange : Change record transaction other) : OperationLedger other := by
  cases hchange with
  | unchanged => exact h
  | recorded _ hrec =>
    refine h.keep rfl rfl rfl rfl ?_
    rw [hrec.trip_eq]
    exact h.revision
  | edited _ _ hcom hpub =>
    refine h.published ?_ hpub
    obtain ⟨written, -, rfl⟩ := hcom.trip_eq
    exact hcom.revision
  | mutated _ _ hres =>
    obtain ⟨-, outcome, rfl⟩ := hres.resolution
    exact h.keep rfl rfl rfl rfl hres.revisionFits
  | resolved _ _ hres =>
    obtain ⟨-, outcome, rfl⟩ := hres.resolution
    exact h.keep rfl rfl rfl rfl hres.revisionFits
  | accepted _ _ hres hpub =>
    refine h.published ?_ hpub
    obtain ⟨-, outcome, rfl⟩ := hres.resolution
    exact hres.revisionFits
  | mirrored => exact h.keep rfl rfl rfl rfl h.revision
  | leased => exact h.keep rfl rfl rfl rfl h.revision
  | revised _ _ hroom => exact h.keep rfl rfl rfl rfl hroom
  | activated hactd =>
    obtain ⟨-, activities, -, -, hins⟩ := hactd.inserted
    obtain ⟨rows, lifecycle, hcols, -, hother⟩ := hins.inserted
    refine h.insert hins.settled (congrArg TripRecord.operations hother)
      (congrArg TripRecord.idempotencyRecords hother) hins.operationFresh
      hins.recordFresh rfl ?_ ?_ ?_ (by rw [hother])
    · simp [IdempotencyRecord.awaitsCompletion]
    · rw [hother, hcols]
      rfl
    · rw [hother, hcols]
  | activationCompleted hfound _ hpend _ hcomp =>
    obtain ⟨records, lifecycle, hcols, hrecs, rfl⟩ := completeOperation_ok hcomp
    refine h.complete hfound hpend rfl hrecs ?_ rfl
    rw [hcols]
    rfl
  | deactivated hdeact =>
    obtain ⟨lifecycle, hcols, hother⟩ := hdeact.inserted
    refine h.insert hdeact.settled (congrArg TripRecord.operations hother)
      (congrArg TripRecord.idempotencyRecords hother) hdeact.operationFresh
      hdeact.recordFresh rfl ?_ ?_ ?_ (by rw [hother])
    · simp [IdempotencyRecord.awaitsCompletion]
    · rw [hother, hcols]
      rfl
    · rw [hother, hcols]
  | deactivationCompleted hfound _ hpend _ _ hcomp =>
    obtain ⟨records, lifecycle, hcols, hrecs, rfl⟩ := completeOperation_ok hcomp
    refine h.complete hfound hpend rfl hrecs ?_ rfl
    rw [hcols]
    rfl

end Steps

theorem OperationLedger.created (h : Created record) : OperationLedger record := by
  cases h with
  | saved =>
    exact ⟨nodup_nil, nodup_nil, show 1 ≤ maxInt64 by decide, by simp [savedTrip],
      by simp [savedTrip, inactiveLifecycle]⟩
  | legacy hcreated =>
    obtain ⟨activities, delays, hnew⟩ := createTrip_ok hcreated
    rw [hnew.record_eq]
    exact ⟨nodup_nil, nodup_nil, show 1 ≤ maxInt64 by decide, by simp, by simp [inactiveLifecycle]⟩

theorem Reachable.operationLedger (h : Reachable record) : OperationLedger record := by
  obtain ⟨created, history, hcreated, rfl⟩ := h
  exact run_induction OperationLedger.change (OperationLedger.created hcreated) history

section Enabled
variable {record : TripRecord}

/-- The columns of an execution, whichever transition it is in, pass the check of
the table as soon as the transition column fits the state. -/
theorem executing_check {lifecycle : Lifecycle}
    (h : lifecycle.executionState ≠ .inactive) :
    ({ lifecycle.toLifecycleColumns with
      executionState := .deactivating, transitionOperationId := some operationId } :
        LifecycleColumns).check := by
  rw [LifecycleColumns.check, and_eq_true]
  exact ⟨lifecycle.executes h, rfl⟩

theorem OperationLedger.activating_pending (h : OperationLedger record)
    (hstate : record.lifecycle.executionState = .activating) :
    record.operations.any (fun operation => decide (operation.state = .pending)) := by
  have htrans := record.lifecycle.transition_isSome
  rw [hstate] at htrans
  obtain ⟨operationId, hid⟩ := Option.isSome_iff_exists.mp htrans
  obtain ⟨operation, hop, -, hpend, -⟩ := h.transition operationId hid
  rw [any_eq_true]
  exact ⟨operation, hop, by simp [hpend]⟩

structure TripRecord.Draws (record : TripRecord) (operationId : OperationId)
    (recordId : IdempotencyRecordId) : Prop where
  operation : ∀ operation ∈ record.operations, operation.operationId ≠ operationId
  stored : ∀ stored ∈ record.idempotencyRecords, stored.recordId ≠ recordId

theorem TripRecord.Draws.any_eq_false (h : record.Draws operationId recordId) :
    (record.operations.any (fun operation => decide (operation.operationId = operationId)) ||
      record.idempotencyRecords.any (fun stored => decide (stored.recordId = recordId))) =
        false := by
  simp only [or_eq_false_iff, List.any_eq_false, decide_eq_true_eq]
  exact ⟨h.operation, h.stored⟩

theorem any_pending_eq_false (h : ∀ operation ∈ record.operations, operation.state ≠ .pending) :
    record.operations.any (fun operation => decide (operation.state = .pending)) = false := by
  simpa [List.any_eq_false] using h

theorem insertDeactivation_of_settled {draws : DeactivationDraws}
    (hsettled : ∀ operation ∈ record.operations, operation.state ≠ .pending)
    (hdraws : record.Draws draws.operationId draws.recordId)
    (hexec : record.lifecycle.executionState ≠ .inactive) :
    ∃ deactivated, record.insertDeactivation request draws = .ok deactivated ∧
      deactivated.lifecycle.executionState = .deactivating := by
  unfold TripRecord.insertDeactivation
  rw [any_pending_eq_false hsettled, hdraws.any_eq_false,
    setLifecycle_of_check (executing_check hexec)]
  exact ⟨_, rfl, rfl⟩

structure DeactivationPasses (record : TripRecord) (request : DeactivateSavedTripRequest) :
    Prop where
  owner : record.ownerUserId = request.userId
  revision : record.tripRevision = request.expectedRevision.toNat
  reserved : record.reserve .deactivate request.idempotencyKey request.requestDigest = .reserved

theorem DeactivationPasses.deactivate (h : DeactivationPasses record request)
    (hledger : OperationLedger record) (hexec : record.lifecycle.executionState = .active ∨
      record.lifecycle.executionState = .activating) :
    record.deactivate request draws = record.insertDeactivation request draws := by
  have hplan : record.lifecycle.currentPlanId.isNone = false := by
    have hexecutes := record.lifecycle.executes (by rcases hexec with h | h <;> simp [h])
    obtain ⟨⟨planId, hplanId, -⟩, -⟩ := (executesCurrentPlan_iff _).mp hexecutes
    rw [hplanId]
    rfl
  have hfits : ¬ maxInt64 < request.expectedRevision.toNat := by
    rw [← h.revision]
    exact Nat.not_lt.mpr hledger.revision
  unfold TripRecord.deactivate
  rw [if_neg hfits, if_neg (by rw [h.owner]; simp), h.reserved]
  rw [hplan, if_neg (by simp), if_neg (by rw [h.revision]; simp), if_neg (by tauto)]

theorem OperationLedger.completeRecord_isSome (h : OperationLedger record)
    (hstored : stored ∈ record.idempotencyRecords) (hawaits : stored.awaitsCompletion operation) :
    ∃ records, completeRecord operation record.idempotencyRecords = some records := by
  have hcount : record.idempotencyRecords.countP
      (fun stored => stored.awaitsCompletion operation) = 1 := by
    have hid : ∀ stored : IdempotencyRecord, stored.awaitsCompletion operation →
        stored.recordId = operation.recordId := by
      intro stored hawaits
      simp only [IdempotencyRecord.awaitsCompletion, and_eq_true, decide_eq_true_eq] at hawaits
      exact hawaits.1.1
    exact KeyedRows.countP_eq_one h.recordIds (fun other _ hother => hid other hother) hstored
      hawaits
  unfold completeRecord
  rw [if_pos hcount]
  exact ⟨_, rfl⟩

theorem OperationLedger.completeDeactivation (h : OperationLedger record)
    (hsaved : record.savedPlan.isSome)
    (hstate : record.lifecycle.executionState = .deactivating) (hlease : record.lease = none)
    (htrans : record.lifecycle.transitionOperationId = some operationId) :
    ∃ completed, record.completeDeactivation operationId = .ok completed := by
  obtain ⟨operation, hop, rfl, hpend, stored, hstored, hawaits⟩ := h.transition operationId htrans
  have hkind : operation.kind = .deactivate := by
    have hawaited := (h.pending operation hop hpend).2
    rw [hstate] at hawaited
    exact (Option.some.inj hawaited).symm
  obtain ⟨records, hrecs⟩ := h.completeRecord_isSome hstored hawaits
  have hmatch : ¬ (record.lifecycle.executionState ≠ .deactivating ∨
      operation.kind ≠ .deactivate ∨ operation.state ≠ .pending) := by
    simp [hstate, hkind, hpend]
  have hplan : record.savedPlan.isNone = false := by simpa [Option.isSome_iff_ne_none] using hsaved
  unfold TripRecord.completeDeactivation
  rw [hlease, TripRecord.operation?, KeyedRows.find?_eq_some h.operationIds hop]
  dsimp only [Option.isSome_none]
  rw [if_neg hmatch, hplan]
  unfold TripRecord.completeOperation
  rw [hrecs]
  exact ⟨_, rfl⟩

/-- What the rows of an activation still have to find: free keys, values that
their columns hold and counters below their bounds. -/
structure ActivationStorable (record : TripRecord) (context : ActivationContext)
    (activities : List ActivationActivity) : Prop where
  planRoom : record.rows.maximumPlanRevision ≠ maxInt64
  planOwn : context.planId ∉ context.foreignPlanIds
  planFresh : ∀ plan ∈ record.plans, plan.planId ≠ context.planId
  activitiesOwn : ∀ activity ∈ activities, activity.saved.activityId ∉ context.foreignActivityIds
  rows : ∃ rows, (activities.map (ActivationActivity.activity context.activatedAt)).mapM
    storeActivity = some rows
  sequenceRoom : record.nextMutationSequence ≠ 0 ∧ record.nextMutationSequence ≠ maxInt64
  draws : record.Draws context.operationId context.recordId

theorem ActivationStorable.insertExecution (h : ActivationStorable record context activities)
    (hsettled : ∀ operation ∈ record.operations, operation.state ≠ .pending) :
    ∃ activated, record.insertExecution request context activities = .ok activated ∧
      activated.lifecycle.executionState = .activating := by
  obtain ⟨rows, hrows⟩ := h.rows
  have hkeys : (decide (record.rows.maximumPlanRevision = maxInt64) ||
      context.foreignPlanIds.contains context.planId ||
      record.plans.any (fun plan => decide (plan.planId = context.planId)) ||
      activities.any (fun activity =>
        context.foreignActivityIds.contains activity.saved.activityId)) = false := by
    simp only [or_eq_false_iff, decide_eq_false_iff_not, any_eq_false,
      decide_eq_true_eq, contains_eq_mem]
    exact ⟨⟨⟨h.planRoom, h.planOwn⟩, h.planFresh⟩, h.activitiesOwn⟩
  have hseq : (decide (record.nextMutationSequence = 0) ||
      decide (record.nextMutationSequence = maxInt64)) = false := by
    simp [h.sequenceRoom.1, h.sequenceRoom.2]
  unfold TripRecord.insertExecution
  rw [hkeys, hrows]
  dsimp only
  rw [hseq, any_pending_eq_false hsettled, h.draws.any_eq_false,
    setLifecycle_of_check (by simp [LifecycleColumns.check, LifecycleColumns.executesCurrentPlan])]
  exact ⟨_, rfl, rfl⟩

theorem ActivationPasses.activate (h : ActivationPasses record request context activities) :
    record.activate request context = record.insertExecution request context activities := by
  obtain ⟨plan, hplan, hacts⟩ := h.plan
  obtain ⟨day, hday, hinside⟩ := h.day
  unfold TripRecord.activate
  rw [h.validated, h.reserved, hplan, h.alone]
  dsimp only
  rw [hacts, hday]
  simp [h.owner, h.inactive, h.revision, hinside]

end Enabled

/-- A trip that is active can be left, one that is activating cannot: its
activation is the pending operation. A deactivation without a lease completes,
and leaves nothing behind that a further activation would meet. -/
theorem execution_left_iff_active {record : TripRecord} (hreachable : Reachable record) :
    (∀ request draws, DeactivationPasses record request →
      record.Draws draws.operationId draws.recordId →
      (record.lifecycle.executionState = .activating ∨ record.lifecycle.executionState = .active) →
      ((∃ deactivated, record.deactivate request draws = .ok deactivated ∧
          deactivated.lifecycle.executionState = .deactivating) ↔
        record.lifecycle.executionState = .active) ∧
      (record.lifecycle.executionState = .activating →
        record.deactivate request draws = .error (.execution .operationPending))) ∧
    ∀ operationId, record.lifecycle.executionState = .deactivating → record.lease = none →
      record.lifecycle.transitionOperationId = some operationId →
      ∃ completed, record.completeDeactivation operationId = .ok completed ∧
        completed.lifecycle.executionState = .inactive ∧
        ∀ request context activities, ActivationPasses completed request context activities →
          ActivationStorable completed context activities →
          ∃ activated, completed.activate request context = .ok activated ∧
            activated.lifecycle.executionState = .activating := by
  have hledger := hreachable.operationLedger
  refine ⟨fun request draws hpasses hdraws hexec => ?_, fun operationId hstate hlease htrans => ?_⟩
  · have href : record.lifecycle.executionState = .activating →
        record.deactivate request draws = .error (.execution .operationPending) := by
      intro hact
      rw [hpasses.deactivate hledger hexec.symm]
      unfold TripRecord.insertDeactivation
      rw [if_pos (hledger.activating_pending hact)]
    refine ⟨⟨?_, fun hactive => ?_⟩, href⟩
    · rintro ⟨deactivated, hdeact, -⟩
      refine hexec.resolve_left fun hact => ?_
      rw [href hact] at hdeact
      cases hdeact
    · rw [hpasses.deactivate hledger hexec.symm]
      exact insertDeactivation_of_settled (hledger.settled (by rw [hactive]; rfl)) hdraws
        (by simp [hactive])
  · have hsaved := (hreachable.planLedger.savedOrigin (by simp [hstate])).saved
    obtain ⟨completed, hcomp⟩ := hledger.completeDeactivation hsaved hstate hlease htrans
    have hchange : Change record (.completeDeactivation operationId) completed :=
      commit_change hcomp
    have hidle : completed.lifecycle.executionState = .inactive := by
      obtain ⟨operation, -, -, -, -, -, hwrote⟩ := completeDeactivation_ok hcomp
      obtain ⟨-, lifecycle, hcols, -, rfl⟩ := completeOperation_ok hwrote
      exact congrArg LifecycleColumns.executionState hcols
    refine ⟨completed, hcomp, hidle, fun request context activities hagain hstor => ?_⟩
    rw [hagain.activate]
    exact hstor.insertExecution ((hledger.change hchange).settled (by rw [hidle]; rfl))

def leaveHarbourRequest : DeactivateSavedTripRequest := ⟨⟨2⟩, ⟨2⟩, 1, ⟨0⟩⟩

theorem harbourTrip_active_left : Reachable (harbourTrip.run executeHarbour) ∧
      ∃ deactivated, (harbourTrip.run executeHarbour).deactivate leaveHarbourRequest ⟨⟨2⟩, ⟨2⟩⟩ =
        .ok deactivated ∧ deactivated.lifecycle.executionState = .deactivating := by
  have hreach : Reachable (harbourTrip.run executeHarbour) :=
    ⟨harbourTrip, executeHarbour, harbourTrip_created, rfl⟩
  refine ⟨hreach, (((execution_left_iff_active hreach).1 leaveHarbourRequest ⟨⟨2⟩, ⟨2⟩⟩
    ?_ ?_ (.inr (by decide +kernel))).1).mpr (by decide +kernel)⟩
  · exact ⟨by decide +kernel, by decide +kernel, by decide +kernel⟩
  · exact ⟨by decide +kernel, by decide +kernel⟩

theorem harbourTrip_activating_not_left : Reachable (harbourTrip.run [activateHarbour 1]) ∧
      DeactivationPasses (harbourTrip.run [activateHarbour 1]) leaveHarbourRequest ∧
      (harbourTrip.run [activateHarbour 1]).lifecycle.executionState = .activating ∧
      (match (harbourTrip.run [activateHarbour 1]).deactivate leaveHarbourRequest ⟨⟨2⟩, ⟨2⟩⟩ with
        | .error error => decide (error = .execution .operationPending)
        | .ok _ => false) = true :=
  ⟨⟨harbourTrip, [activateHarbour 1], harbourTrip_created, rfl⟩,
    ⟨by decide +kernel, by decide +kernel, by decide +kernel⟩, by decide +kernel,
    by decide +kernel⟩

end LiveRoute.Execution
