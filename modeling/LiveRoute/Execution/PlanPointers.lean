import LiveRoute.Execution.SequenceAccounting

/-! The two plan pointers of an executing trip. Edits and accepted proposals
move the current plan and leave the executed one, which the lifecycle
constraint refuses while the trip executes. -/
namespace LiveRoute.Execution
open Domain Persistence Gateway EarlyExit Option

variable {record : TripRecord}
open TripRecord (commit finalize)

theorem executesCurrentPlan_iff (columns : LifecycleColumns) : columns.executesCurrentPlan ↔
      (∃ planId, columns.currentPlanId = some planId ∧
        columns.activeExecutionPlanId = some planId) ∧ columns.activatedAt.isSome := by
  simp only [LifecycleColumns.executesCurrentPlan, Bool.and_eq_true, decide_eq_true_eq,
    isSome_iff_exists]
  constructor
  · rintro ⟨⟨⟨planId, hplan⟩, hsame⟩, hactd⟩
    exact ⟨⟨planId, hplan, hsame.trans hplan⟩, hactd⟩
  · rintro ⟨⟨planId, hplan, hactive⟩, hactd⟩
    exact ⟨⟨⟨planId, hplan⟩, hactive.trans hplan.symm⟩, hactd⟩

theorem Lifecycle.executes (lifecycle : Lifecycle) (h : lifecycle.executionState ≠ .inactive) :
    lifecycle.executesCurrentPlan := by
  have hvalid := lifecycle.valid
  unfold LifecycleColumns.check at hvalid
  cases hstate : lifecycle.executionState with
  | inactive => exact absurd hstate h
  | activating | active | deactivating =>
    simp only [hstate, Bool.and_eq_true] at hvalid
    exact hvalid.1

theorem pointAt_check_iff (lifecycle : Lifecycle) (planId : PlanId) :
    (lifecycle.pointAt planId).check ↔
      lifecycle.executionState = .inactive ∨ lifecycle.currentPlanId = some planId := by
  have hvalid := lifecycle.valid
  constructor
  · intro hcheck
    by_cases hidle : lifecycle.executionState = .inactive
    · exact .inl hidle
    right
    -- Both pointers stand for the executed plan, before and after.
    obtain ⟨⟨before, hbefore, hexecuted⟩, -⟩ :=
      (executesCurrentPlan_iff _).mp (lifecycle.executes hidle)
    have hafter : (lifecycle.pointAt planId).executesCurrentPlan :=
      Lifecycle.executes ⟨lifecycle.pointAt planId, hcheck⟩ hidle
    obtain ⟨⟨moved, hmoved, hsame⟩, -⟩ := (executesCurrentPlan_iff _).mp hafter
    rw [hbefore, ← hexecuted]
    exact hsame.trans hmoved.symm
  · rintro (hidle | hplan)
    · simp only [LifecycleColumns.check, hidle] at hvalid
      simpa only [LifecycleColumns.check, Lifecycle.pointAt, hidle] using hvalid
    · have hsame : lifecycle.pointAt planId = lifecycle.toLifecycleColumns := by
        rw [Lifecycle.pointAt, ← hplan]
      rw [hsame]
      exact hvalid

theorem publish_eq_error_iff : record.publish trip = .error error ↔
      error = .lifecycleCheck ∧ record.lifecycle.executionState ≠ .inactive ∧
        record.lifecycle.currentPlanId ≠ some trip.currentPlanId := by
  have hcheck := pointAt_check_iff record.lifecycle trip.currentPlanId
  rw [← not_or, ← hcheck]
  by_cases hvalid : (record.lifecycle.pointAt trip.currentPlanId).check
  · rw [publish_of_check hvalid]
    simp [hvalid]
  · rw [publish_of_not_check hvalid]
    simp [hvalid, eq_comm]

/-- The transaction passes every check that the code makes, with `planId` as
the current plan. -/
def TripRecord.PublishesPlan (record : TripRecord) (planId : PlanId) : TripTransaction → Prop
  | .edit edit request context => ∃ current trip command,
      record.lifecycle.currentPlanId = some current ∧
      record.creationBy? request.messageId = none ∧
      edit.transaction.run (record.canonicalTrip current) request context = .ok (trip, command) ∧
      trip.currentPlanId = planId
  | .acceptProposal request => ∃ current trip, record.lifecycle.currentPlanId = some current ∧
      finalizeProposalAcceptance (record.canonicalTrip current) request = .ok trip ∧
      trip.currentPlanId = planId
  | _ => False

theorem finalizeDecision_lifecycleCheck_iff {transaction : CanonicalTrip → Transaction} :
    record.finalizeDecision transaction = .error .lifecycleCheck ↔ ∃ current trip,
      record.lifecycle.currentPlanId = some current ∧ transaction
      (record.canonicalTrip current) = .ok trip ∧ record.lifecycle.executionState ≠ .inactive ∧
      record.lifecycle.currentPlanId ≠ some trip.currentPlanId := by
  unfold TripRecord.finalizeDecision
  cases hplan : record.lifecycle.currentPlanId with
  | none => simp
  | some current =>
    cases htrip : transaction (record.canonicalTrip current) with
    | error => simp [htrip]
    | ok => simp [htrip, publish_eq_error_iff, hplan]

theorem edit_lifecycleCheck_iff : record.commit
    (.edit edit request context) = .error .lifecycleCheck ↔ ∃ current trip command,
    record.lifecycle.currentPlanId = some current ∧ record.creationBy? request.messageId = none ∧
    edit.transaction.run (record.canonicalTrip current) request context = .ok (trip, command) ∧
    record.lifecycle.executionState ≠ .inactive ∧
    record.lifecycle.currentPlanId ≠ some trip.currentPlanId := by
  simp only [commit, TripRecord.edit, map_eq_error]
  cases hval : edit.transaction.validateRequest request with
  | error => simp [CanonicalTransaction.run, hval]
  | ok =>
    cases hplan : record.lifecycle.currentPlanId with
    | none => simp
    | some current =>
      by_cases howner : record.ownerUserId = request.ownerUserId
      · cases hnew : record.creationBy? request.messageId with
        | some => simp [howner]
        | none =>
          cases hrun : edit.transaction.run (record.canonicalTrip current) request context with
          | error => simp [howner, hrun]
          | ok recorded =>
            obtain ⟨trip, command⟩ := recorded
            simp [howner, hrun, map_eq_error, publish_eq_error_iff, hplan]
      · simp [howner, CanonicalTransaction.run, hval]

theorem setLifecycle_ne_none {columns : LifecycleColumns} (h : columns.check) :
    record.setLifecycle columns ≠ none := by
  simp [setLifecycle_of_check h]

theorem insertExecution_lifecycle :
    record.insertExecution request context activities ≠ .error .lifecycleCheck := by
  fun_cases TripRecord.insertExecution record request context activities
  case case6 href =>
    refine absurd href (setLifecycle_ne_none ?_)
    simp [LifecycleColumns.check, LifecycleColumns.executesCurrentPlan]
  all_goals simp

theorem activate_lifecycle : record.activate request context ≠ .error .lifecycleCheck := by
  fun_cases TripRecord.activate record request context
  case case11 => exact insertExecution_lifecycle
  all_goals simp

theorem completeOperation_lifecycle {columns : LifecycleColumns} (hcheck : columns.check) :
    record.completeOperation operation columns ≠ .error .lifecycleCheck := by
  intro h
  unfold TripRecord.completeOperation at h
  split at h
  next href => exact setLifecycle_ne_none hcheck href
  · split at h <;> cases h

theorem completeActivation_lifecycle :
    record.completeActivation request now ≠ .error .lifecycleCheck := by
  fun_cases TripRecord.completeActivation record request now
  case case8 hstate =>
    have hexec := record.lifecycle.executes (by simp [not_not.mp hstate])
    refine completeOperation_lifecycle ?_
    simp only [LifecycleColumns.check, isNone_none, Bool.and_true]
    exact hexec
  all_goals simp

theorem insertDeactivation_lifecycle (hexec : record.lifecycle.executionState ≠ .inactive) :
    record.insertDeactivation request draws ≠ .error .lifecycleCheck := by
  fun_cases TripRecord.insertDeactivation record request draws
  case case3 href =>
    refine absurd href (setLifecycle_ne_none ?_)
    simp only [LifecycleColumns.check, isSome_some, Bool.and_true]
    exact record.lifecycle.executes hexec
  all_goals simp

theorem deactivate_lifecycle : record.deactivate request draws ≠ .error .lifecycleCheck := by
  fun_cases TripRecord.deactivate record request draws
  case case8 hexec =>
    refine insertDeactivation_lifecycle fun hidle => ?_
    simp [hidle] at hexec
  all_goals simp

theorem completeDeactivation_lifecycle :
    record.completeDeactivation operationId ≠ .error .lifecycleCheck := by
  fun_cases TripRecord.completeDeactivation record operationId
  case case5 => exact completeOperation_lifecycle rfl
  all_goals simp

theorem rejection_currentPlanId (h : finalizeProposalRejection trip request = .ok finalized) :
    finalized.currentPlanId = trip.currentPlanId := by
  unfold finalizeProposalRejection at h
  split at h
  · cases h
  · exact finalizeProposalDecision_currentPlanId h

theorem decision_lifecycle {transaction : CanonicalTrip → Transaction}
    (hkeeps : ∀ {trip finalized}, transaction trip = .ok finalized →
      finalized.currentPlanId = trip.currentPlanId) :
    record.finalizeDecision transaction ≠ .error .lifecycleCheck := by
  intro h
  obtain ⟨current, trip, hplan, htrip, -, hmoved⟩ := finalizeDecision_lifecycleCheck_iff.mp h
  exact hmoved (by rw [hkeeps htrip, hplan, TripRecord.canonicalTrip_currentPlanId])

/-- The pointers of an executing trip agree, and the constraint that keeps them
so aborts a transaction exactly when the trip executes and the transaction, past
every check of its own, publishes another plan. -/
theorem lifecycleCheck_aborts_iff (record : TripRecord) :
    (record.lifecycle.executionState ≠ .inactive → ∃ planId,
      record.lifecycle.currentPlanId = some planId ∧
        record.lifecycle.activeExecutionPlanId = some planId) ∧
    ∀ transaction, record.commit transaction = .error .lifecycleCheck ↔
      record.lifecycle.executionState ≠ .inactive ∧ ∃ planId,
        record.PublishesPlan planId transaction ∧ record.lifecycle.currentPlanId ≠ some planId := by
  refine ⟨fun hexec => ((executesCurrentPlan_iff _).mp
    (record.lifecycle.executes hexec)).1, fun transaction => ?_⟩
  have hnever : record.commit transaction ≠ .error .lifecycleCheck →
      (∀ planId, ¬ record.PublishesPlan planId transaction) →
      (record.commit transaction = .error .lifecycleCheck ↔
        record.lifecycle.executionState ≠ .inactive ∧ ∃ planId,
          record.PublishesPlan planId transaction ∧ record.lifecycle.currentPlanId ≠ some planId) :=
    fun hcommit hplans => ⟨fun h => absurd h hcommit, fun h =>
      h.2.elim fun planId hplan => absurd hplan.1 (hplans planId)⟩
  cases transaction with
  | edit =>
    rw [edit_lifecycleCheck_iff]
    constructor
    · rintro ⟨current, trip, command, hplan, hnew, hrun, hexec, hmoved⟩
      exact ⟨hexec, _, ⟨current, trip, command, hplan, hnew, hrun, rfl⟩, hmoved⟩
    · rintro ⟨hexec, _, ⟨current, trip, command, hplan, hnew, hrun, rfl⟩, hmoved⟩
      exact ⟨current, trip, command, hplan, hnew, hrun, hexec, hmoved⟩
  | acceptProposal =>
    simp only [commit]
    rw [finalizeDecision_lifecycleCheck_iff]
    constructor
    · rintro ⟨current, trip, hplan, htrip, hexec, hmoved⟩
      exact ⟨hexec, _, ⟨current, trip, hplan, htrip, rfl⟩, hmoved⟩
    · rintro ⟨hexec, _, ⟨current, trip, hplan, htrip, rfl⟩, hmoved⟩
      exact ⟨current, trip, hplan, htrip, hexec, hmoved⟩
  | record =>
    refine hnever ?_ fun _ => id
    rw [commit, Ne]
    fun_cases TripRecord.recordCommand <;> intro h <;> cases h
  | finalizeAccepted request | finalizeTerminal request =>
    refine hnever (fun h => ?_) fun _ => id
    simp only [commit, finalize] at h
    split at h <;> cases h
  | rejectProposal => exact hnever (decision_lifecycle rejection_currentPlanId) fun _ => id
  | staleProposal =>
    exact hnever (decision_lifecycle finalizeProposalDecision_currentPlanId) fun _ => id
  | finalizeMirror => exact hnever (fun h => by cases h) fun _ => id
  | persistProposal =>
    refine hnever ?_ fun _ => id
    rw [commit]
    fun_cases TripRecord.persistProposal <;> simp
  | acquireLease | renewLease | releaseLease =>
    refine hnever (fun h => ?_) fun _ => id
    simp only [commit, TripRecord.acquireLease, TripRecord.renewLease,
      TripRecord.releaseLease] at h
    split at h <;> cases h
  | reviseSavedPlan =>
    refine hnever ?_ fun _ => id
    rw [commit]
    fun_cases TripRecord.reviseSavedPlan <;> simp
  | activate => exact hnever activate_lifecycle fun _ => id
  | completeActivation => exact hnever completeActivation_lifecycle fun _ => id
  | deactivate => exact hnever deactivate_lifecycle fun _ => id
  | completeDeactivation => exact hnever completeDeactivation_lifecycle fun _ => id

def replaceHarbourPlan : CanonicalEditRequest :=
  { ownerUserId := ⟨2⟩, messageId := ⟨8⟩, eventId := ⟨8⟩, planId := ⟨50⟩, expectedTripRevision := 1
    commandExpiresAt := none, maxPendingCanonicalMirror := 4
    planSegments := [⟨⟨1⟩, .scheduled, some 2000000, some 3000000⟩], payloadDigest := ⟨8⟩
    eventPayloadBuilder := fun metadata => ⟨⟨8⟩, metadata.createdAt, none,
      .currentPlanReplaced ⟨metadata.planId, metadata.revision, .userAuthored,
        [⟨⟨1⟩, .scheduled, some 2000000, some 3000000⟩], metadata.createdAt, none⟩⟩ }

theorem active_plan_replacement_aborted : Reachable (harbourTrip.run executeHarbour) ∧
    (harbourTrip.run executeHarbour).lifecycle.executionState = .active ∧
    ((replaceCurrentPlan.run (harbourTrip.run executeHarbour).rows replaceHarbourPlan
      ⟨1500000, [], []⟩).toOption.map fun committed => committed.1.currentPlanId) = some ⟨50⟩ ∧
    (match (harbourTrip.run executeHarbour).commit
        (.edit .currentPlan replaceHarbourPlan ⟨1500000, [], []⟩) with
      | .error error => some error
      | .ok _ => none) = some .lifecycleCheck :=
  ⟨⟨harbourTrip, executeHarbour, harbourTrip_created, rfl⟩, by decide +kernel, by decide +kernel,
    by decide +kernel⟩

end LiveRoute.Execution
