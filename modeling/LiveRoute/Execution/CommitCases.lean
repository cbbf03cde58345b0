import LiveRoute.Execution.TripTransactions
import LiveRoute.Persistence.CommitFacts

/-! What a transaction has done to the rows of its trip when it commits. Every
invariant of the histories below is derived from these cases. -/
namespace LiveRoute.Execution
open Domain Persistence Gateway EarlyExit
open TripRecord (publish finalize commit run step)

theorem TripRecord.rows_eq {record : TripRecord}
    (h : record.lifecycle.currentPlanId = some planId) :
    record.rows = record.canonicalTrip planId := by
  rw [TripRecord.rows, h, Option.getD_some]

theorem setLifecycle_eq_some {record : TripRecord}
    (h : record.setLifecycle columns = some written) :
    ∃ lifecycle : Lifecycle, lifecycle.toLifecycleColumns = columns ∧
      written = { record with lifecycle := lifecycle } := by
  unfold TripRecord.setLifecycle at h
  split at h <;> cases h
  exact ⟨_, rfl, rfl⟩

theorem setLifecycle_of_check {record : TripRecord} {columns : LifecycleColumns}
    (h : columns.check) :
    record.setLifecycle columns = some { record with lifecycle := ⟨columns, h⟩ } :=
  dif_pos h

def Lifecycle.pointAt (lifecycle : Lifecycle) (planId : PlanId) : LifecycleColumns :=
  { lifecycle.toLifecycleColumns with currentPlanId := some planId }

theorem publish_ok {record : TripRecord} (h : record.publish trip = .ok published) :
    ∃ lifecycle : Lifecycle,
      lifecycle.toLifecycleColumns = record.lifecycle.pointAt trip.currentPlanId ∧
      published = { record.withRows trip with lifecycle := lifecycle } := by
  unfold publish at h
  split at h <;> cases h
  next hwrote => exact setLifecycle_eq_some hwrote

theorem publish_of_check {record : TripRecord} {trip : CanonicalTrip}
    (h : (record.lifecycle.pointAt trip.currentPlanId).check) :
    record.publish trip = .ok { record.withRows trip with lifecycle := ⟨_, h⟩ } := by
  have hwrote : (record.withRows trip).setLifecycle (record.lifecycle.pointAt trip.currentPlanId) =
        some { record.withRows trip with lifecycle := ⟨_, h⟩ } := setLifecycle_of_check h
  unfold publish
  split
  next hnone => cases hwrote.symm.trans hnone
  next hsome => rw [Option.some.inj (hsome.symm.trans hwrote)]

theorem publish_of_not_check {record : TripRecord} {trip : CanonicalTrip}
    (h : ¬ (record.lifecycle.pointAt trip.currentPlanId).check) :
    record.publish trip = .error .lifecycleCheck := by
  have hnone : (record.withRows trip).setLifecycle
      (record.lifecycle.pointAt trip.currentPlanId) = none := dif_neg h
  unfold publish
  split
  · rfl
  next hsome => cases hnone.symm.trans hsome

theorem publish_same {record : TripRecord} {trip : CanonicalTrip}
    (h : record.lifecycle.currentPlanId = some trip.currentPlanId) :
    record.publish trip = .ok (record.withRows trip) := by
  have hcols : record.lifecycle.pointAt trip.currentPlanId =
      record.lifecycle.toLifecycleColumns := by
    rw [Lifecycle.pointAt, ← h]
  rw [publish_of_check (hcols ▸ record.lifecycle.valid)]
  simp only [hcols]
  rfl

structure ExecutionInserted (record : TripRecord) (request : ActivateSavedTripRequest)
    (context : ActivationContext) (activities : List ActivationActivity) (activated : TripRecord) :
    Prop where
  planRoom : record.rows.maximumPlanRevision ≠ maxInt64
  planFresh : ∀ plan ∈ record.plans, plan.planId ≠ context.planId
  sequenceRoom : 0 < record.nextMutationSequence
  settled : ∀ operation ∈ record.operations, operation.state ≠ .pending
  operationFresh : ∀ operation ∈ record.operations, operation.operationId ≠ context.operationId
  recordFresh : ∀ stored ∈ record.idempotencyRecords, stored.recordId ≠ context.recordId
  inserted : ∃ rows, ∃ lifecycle : Lifecycle,
    lifecycle.toLifecycleColumns = ⟨.activating, some context.planId, some context.planId,
      some context.activatedAt, some context.operationId⟩ ∧
    (activities.map (ActivationActivity.activity context.activatedAt)).mapM storeActivity =
      some rows ∧
    activated = { record with
      plans := record.plans ++ [executionPlan record context activities], travelDelays := []
      activities := rows
      operations := record.operations ++ [⟨context.operationId, context.recordId, .activate,
        .pending, record.tripRevision, some context.planId⟩]
      nextMutationSequence := record.nextMutationSequence + 1
      finalizedMutationSequence := record.nextMutationSequence
      idempotencyRecords := record.idempotencyRecords ++ [⟨context.recordId, .activate,
        request.idempotencyKey, request.requestDigest, 202⟩]
      lifecycle := lifecycle }

theorem insertExecution_ok {record : TripRecord}
    (h : record.insertExecution request context activities = .ok activated) :
    ExecutionInserted record request context activities activated := by
  revert h
  fun_cases TripRecord.insertExecution record request context activities
  case case7 hkeys rows hrows hseq hsettled hfresh _ hwrote =>
    intro h
    cases h
    obtain ⟨lifecycle, hcols, rfl⟩ := setLifecycle_eq_some hwrote
    simp only [Bool.not_eq_true, Bool.or_eq_false_iff, List.any_eq_false,
      decide_eq_true_eq, decide_eq_false_iff_not] at hkeys hseq hsettled hfresh
    exact ⟨hkeys.1.1.1, hkeys.1.2, Nat.pos_of_ne_zero hseq.1, hsettled, hfresh.1,
      hfresh.2, rows, lifecycle, hcols, hrows, rfl⟩
  all_goals nofun

structure Activated (record : TripRecord) (request : ActivateSavedTripRequest)
    (context : ActivationContext) (activated : TripRecord) : Prop where
  inactive : record.lifecycle.executionState = .inactive
  revision : record.tripRevision = request.expectedRevision.toNat
  positive : 0 < request.expectedRevision.toNat
  inserted : ∃ plan activities, record.savedPlan = some plan ∧
    loadActivationActivities plan = .ok activities ∧
    ExecutionInserted record request context activities activated

theorem expectedRevision_pos
    (h : validateActivateSavedTrip request) : 0 < request.expectedRevision.toNat := by
  simp only [validateActivateSavedTrip, Bool.and_eq_true, Bool.not_eq_true',
    beq_eq_false_iff_ne] at h
  apply Nat.pos_of_ne_zero
  intro hzero
  exact h.1.1 (UInt64.toNat_inj.mp hzero)

theorem activate_ok {record : TripRecord} (h : record.activate request context = .ok activated) :
    activated = record ∨ Activated record request context activated := by
  revert h
  fun_cases TripRecord.activate record request context
  case case4 =>
    intro h
    cases h
    exact .inl rfl
  case case11 hvalid _ _ plan hplan hidle hrev _ activities hacts _ _ _ =>
    intro h
    rw [not_not] at hidle hrev
    exact .inr ⟨hidle, hrev, expectedRevision_pos (by simpa using hvalid),
      plan, activities, hplan, hacts, insertExecution_ok h⟩
  all_goals nofun

theorem completeOperation_ok {record : TripRecord}
    (h : record.completeOperation operation columns = .ok completed) :
    ∃ records, ∃ lifecycle : Lifecycle, lifecycle.toLifecycleColumns = columns ∧
      completeRecord operation record.idempotencyRecords = some records ∧
      completed = { record with
        operations := succeedOperation operation.operationId record.operations
        lifecycle := lifecycle
        idempotencyRecords := records } := by
  unfold TripRecord.completeOperation at h
  split at h
  · cases h
  rename_i written hwrote
  obtain ⟨lifecycle, hcols, rfl⟩ := setLifecycle_eq_some hwrote
  split at h <;> cases h
  next records hrecs => exact ⟨records, lifecycle, hcols, hrecs, rfl⟩

theorem completeActivation_ok {record : TripRecord}
    (h : record.completeActivation request now = .ok completed) :
    ∃ operation, record.operation? request.operationId = some operation ∧
      operation.kind = .activate ∧ operation.state = .pending ∧
      record.lifecycle.executionState = .activating ∧
      record.completeOperation operation { record.lifecycle.toLifecycleColumns with
        executionState := .active, transitionOperationId := none } = .ok completed := by
  revert h
  fun_cases TripRecord.completeActivation record request now
  case case8 operation hop hmatch hstate =>
    intro h
    simp only [not_or, not_not] at hmatch hstate
    exact ⟨operation, hop, hmatch.1, hmatch.2.1, hstate, h⟩
  all_goals nofun

structure Deactivated (record : TripRecord) (request : DeactivateSavedTripRequest)
    (draws : DeactivationDraws) (deactivated : TripRecord) : Prop where
  executing : record.lifecycle.executionState = .active ∨
    record.lifecycle.executionState = .activating
  settled : ∀ operation ∈ record.operations, operation.state ≠ .pending
  operationFresh : ∀ operation ∈ record.operations, operation.operationId ≠ draws.operationId
  recordFresh : ∀ stored ∈ record.idempotencyRecords, stored.recordId ≠ draws.recordId
  inserted : ∃ lifecycle : Lifecycle,
    lifecycle.toLifecycleColumns = { record.lifecycle.toLifecycleColumns with
      executionState := .deactivating, transitionOperationId := some draws.operationId } ∧
    deactivated = { record with
      operations := record.operations ++
        [⟨draws.operationId, draws.recordId, .deactivate, .pending, record.tripRevision, none⟩]
      proposals := record.rows.invalidateProposals.proposals
      idempotencyRecords := record.idempotencyRecords ++ [⟨draws.recordId, .deactivate,
        request.idempotencyKey, request.requestDigest, 202⟩]
      lifecycle := lifecycle }

theorem deactivate_ok {record : TripRecord}
    (h : record.deactivate request draws = .ok deactivated) :
    deactivated = record ∨ Deactivated record request draws deactivated := by
  revert h
  fun_cases TripRecord.deactivate record request draws
  case case4 =>
    intro h
    cases h
    exact .inl rfl
  case case8 hexec =>
    fun_cases TripRecord.insertDeactivation record request draws
    case case4 hsettled hfresh _ hwrote =>
      intro h
      cases h
      obtain ⟨lifecycle, hcols, rfl⟩ := setLifecycle_eq_some hwrote
      simp only [Bool.not_eq_true, Bool.or_eq_false_iff, List.any_eq_false,
        decide_eq_true_eq] at hsettled hfresh
      exact .inr ⟨by tauto, hsettled, hfresh.1, hfresh.2, lifecycle, hcols, rfl⟩
    all_goals nofun
  all_goals nofun

theorem completeDeactivation_ok {record : TripRecord}
    (h : record.completeDeactivation operationId = .ok completed) :
    ∃ operation, record.operation? operationId = some operation ∧
      operation.kind = .deactivate ∧ operation.state = .pending ∧
      record.lifecycle.executionState = .deactivating ∧ record.lease = none ∧
      { record with activities := [], travelDelays := [] : TripRecord }.completeOperation
        operation ⟨.inactive, none, none, none, none⟩ = .ok completed := by
  unfold TripRecord.completeDeactivation at h
  split at h
  · cases h
  rename_i hlease
  split at h
  · cases h
  rename_i operation hop
  simp only [ite_error_eq_ok] at h
  obtain ⟨hmatch, -, h⟩ := h
  simp only [not_or, not_not, Option.not_isSome_iff_eq_none] at hmatch hlease
  exact ⟨operation, hop, hmatch.2.1, hmatch.2.2, hmatch.1, hlease, h⟩

theorem reviseSavedPlan_ok {record : TripRecord}
    (h : record.reviseSavedPlan request = .ok revised) :
    record.lifecycle.executionState = .inactive ∧ record.savedPlan.isSome ∧
      record.tripRevision < maxInt64 ∧
      revised = { record with
        savedPlan := some request.plan, defaultTimeZoneName := request.defaultTimeZoneName
        tripRevision := record.tripRevision + 1 } := by
  unfold TripRecord.reviseSavedPlan at h
  simp only [ite_error_eq_ok] at h
  obtain ⟨hfound, hstate, hrev, hroom, h⟩ := h
  cases h
  rw [not_not] at hstate
  simp only [not_or, not_not, not_lt, Option.isNone_iff_eq_none,
    ← Option.isSome_iff_ne_none] at hfound hrev
  exact ⟨hstate, hfound.2, by omega, rfl⟩

/-- What the lease operations and the insertion of a proposal write to the
proposals of a trip. -/
inductive TripRecord.WritesProposals (record : TripRecord) : List ProposalRow → Prop where
  | settled {proposals : List ProposalRow} (h : Settled record.proposals proposals) :
      record.WritesProposals proposals
  | persisted {row : ProposalRow} (pending : row.isPending)
      (revision : row.stored.proposal.sourceTripRevision.toNat = record.tripRevision)
      (base : record.lifecycle.currentPlanId = some row.stored.proposal.baseCurrentPlanId)
      (fresh : ∀ stored ∈ record.proposals, stored.proposalId ≠ row.proposalId) :
      record.WritesProposals (closePending .superseded record.proposals ++ [row])

inductive Change (record : TripRecord) : TripTransaction → TripRecord → Prop where
  | unchanged (transaction : TripTransaction) : Change record transaction record
  | recorded {request : RecordRuntimeCommandRequest} {row : CommandRow} {trip : CanonicalTrip}
      (message : request.eventId = request.messageId)
      (h : NewlyRecorded record.rows trip request row) :
      Change record (.record request) (record.withRows trip)
  | edited {edit : CanonicalEdit} {request : CanonicalEditRequest} {context : CommitContext}
      {row : CommandRow} {trip : CanonicalTrip} {published : TripRecord}
      (planned : record.lifecycle.currentPlanId.isSome)
      (settled : record.commands.any CommandRow.isPendingRuntimeFirst = false)
      (committed : CanonicallyCommitted edit.transaction record.rows trip request context row)
      (h : record.publish trip = .ok published) :
      Change record (.edit edit request context) published
  | mutated {request : FinalizeAcceptedMutationRequest} {row : CommandRow}
      {mutated trip : CanonicalTrip} (valid : request.isValid)
      (applied : applyAcceptedMutation record.rows request.mutation = .ok mutated)
      (h : ResolvesAwaited record.rows mutated.invalidateProposals trip request.eventId row
        .applied .accepted (record.tripRevision + 1)) :
      Change record (.finalizeAccepted request) (record.withRows trip)
  | resolved {transaction : TripTransaction} {eventId : EventId} {row : CommandRow}
      {proposals : List ProposalRow} {trip : CanonicalTrip} {tripRevision : Nat}
      (finalizes : transaction.finalizes = some eventId)
      (revision : record.tripRevision ≤ tripRevision)
      (h : ResolvesAwaited record.rows { record.rows with proposals := proposals } trip eventId row
        state delivery tripRevision)
      (decides : DecidesNamed record.proposals proposals ∨
        proposals = record.proposals ∧ tripRevision = record.tripRevision) :
      Change record transaction (record.withRows trip)
  | accepted {request : FinalizeProposalDecisionRequest} {row : CommandRow}
      {proposal : PlanProposal} {plan : CurrentPlan} {proposals : List ProposalRow}
      {trip : CanonicalTrip} {published : TripRecord}
      (planned : record.lifecycle.currentPlanId.isSome)
      (fits : record.rows.PlannedPlanFits row proposal plan)
      (resolves : ResolvesAwaited record.rows { record.rows with
          proposals := proposals, plans := record.plans ++ [plan], currentPlanId := plan.planId }
        trip request.eventId row .applied .accepted (record.tripRevision + 1))
      (h : record.publish trip = .ok published)
      (decides : DecidesNamed record.proposals proposals) :
      Change record (.acceptProposal request) published
  | mirrored {request : FinalizeCanonicalMirrorRequest} {row : CommandRow}
      {syncState : RuntimeSyncState} {delivery : DeliveryState}
      (h : MirrorResolves record.rows request row syncState delivery) :
      Change record (.finalizeMirror request)
        (record.withRows (record.rows.setMirror request.eventId syncState delivery))
  | leased {transaction : TripTransaction} (command : transaction.finalizes = none)
      (lease : Option LeaseRow) (proposals : List ProposalRow)
      (written : record.WritesProposals proposals) :
      Change record transaction { record with lease := lease, proposals := proposals }
  | revised {request : ReviseSavedTripRequest}
      (inactive : record.lifecycle.executionState = .inactive)
      (saved : record.savedPlan.isSome) (room : record.tripRevision < maxInt64) :
      Change record (.reviseSavedPlan request)
        { record with
          savedPlan := some request.plan, defaultTimeZoneName := request.defaultTimeZoneName
          tripRevision := record.tripRevision + 1 }
  | activated {request : ActivateSavedTripRequest} {context : ActivationContext}
      {activated : TripRecord} (h : Activated record request context activated) :
      Change record (.activate request context) activated
  | activationCompleted {request : CompleteActivationRequest} {now : DatabaseTime}
      {operation : ExecutionOperation} {completed : TripRecord}
      (found : record.operation? request.operationId = some operation)
      (kind : operation.kind = .activate) (pending : operation.state = .pending)
      (activating : record.lifecycle.executionState = .activating)
      (h : record.completeOperation operation { record.lifecycle.toLifecycleColumns with
        executionState := .active, transitionOperationId := none } = .ok completed) :
      Change record (.completeActivation request now) completed
  | deactivated {request : DeactivateSavedTripRequest} {draws : DeactivationDraws}
      {deactivated : TripRecord} (h : Deactivated record request draws deactivated) :
      Change record (.deactivate request draws) deactivated
  | deactivationCompleted {operationId : OperationId} {operation : ExecutionOperation}
      {completed : TripRecord} (found : record.operation? operationId = some operation)
      (kind : operation.kind = .deactivate) (pending : operation.state = .pending)
      (deactivating : record.lifecycle.executionState = .deactivating)
      (unleased : record.lease = none)
      (h : { record with activities := [], travelDelays := [] : TripRecord }.completeOperation
        operation ⟨.inactive, none, none, none, none⟩ = .ok completed) :
      Change record (.completeDeactivation operationId) completed

section Commit
variable {record committed : TripRecord}

theorem recordCommand_change (h : record.recordCommand request = .ok (committed, intent)) :
    Change record (.record request) committed := by
  revert h
  fun_cases TripRecord.recordCommand record request
  case case3 =>
    intro h
    cases h
    exact .unchanged _
  case case6 trip command hrec =>
    intro h
    cases h
    obtain ⟨row, duplicate⟩ := command
    cases duplicate with
    | false => exact .recorded (recordRuntimeFirst_message hrec) (recordRuntimeFirst_recorded hrec)
    | true =>
      rw [(recordRuntimeFirst_duplicate hrec).1]
      exact .unchanged _
  all_goals nofun

theorem edit_change (h : record.edit edit request context = .ok (committed, intent)) :
    Change record (.edit edit request context) committed := by
  revert h
  fun_cases TripRecord.edit record edit request context
  case case6 planId hplan _ _ trip command hrun =>
    intro h
    obtain ⟨published, hpub, hpair⟩ := map_eq_ok.mp h
    cases hpair
    obtain ⟨row, duplicate⟩ := command
    rw [← TripRecord.rows_eq hplan] at hrun
    cases duplicate with
    | false =>
      exact .edited (by simp [hplan]) (CanonicalTransaction.run_settled hrun)
        (CanonicalTransaction.run_committed hrun) hpub
    | true =>
      obtain ⟨rfl, -⟩ := CanonicalTransaction.run_duplicate hrun
      rw [publish_same (by rw [TripRecord.rows_eq hplan, hplan]; rfl)] at hpub
      cases hpub
      exact .unchanged _
  all_goals nofun

theorem finalize_ok {transaction : CanonicalTrip → Transaction}
    (h : record.finalize transaction = .ok committed) :
    ∃ trip, transaction record.rows = .ok trip ∧ committed = record.withRows trip := by
  unfold finalize at h
  split at h <;> cases h
  next trip htrip => exact ⟨trip, htrip, rfl⟩

theorem finalizeDecision_ok {transaction : CanonicalTrip → Transaction}
    (h : record.finalizeDecision transaction = .ok committed) :
    record.lifecycle.currentPlanId = some record.rows.currentPlanId ∧
      ∃ trip, transaction record.rows = .ok trip ∧ record.publish trip = .ok committed := by
  unfold TripRecord.finalizeDecision at h
  split at h
  · cases h
  rename_i planId hplan
  split at h
  · cases h
  rename_i trip htrip
  rw [TripRecord.rows_eq hplan]
  exact ⟨hplan, trip, htrip, h⟩

theorem decision_change {transaction : TripTransaction} {decide : CanonicalTrip → Transaction}
    (state : IntentState) (delivery : DeliveryState) (hfin : transaction.finalizes = some eventId)
    (hdecide : ∀ {trip finalized}, decide trip = .ok finalized → finalized = trip ∨
      ∃ row proposals tripRevision, trip.tripRevision ≤ tripRevision ∧
        (DecidesNamed trip.proposals proposals ∨
          proposals = trip.proposals ∧ tripRevision = trip.tripRevision) ∧
        ResolvesAwaited trip { trip with proposals := proposals } finalized eventId row state
          delivery tripRevision) (h : record.finalizeDecision decide = .ok committed) :
    Change record transaction committed := by
  obtain ⟨hplan, trip, htrip, hpub⟩ := finalizeDecision_ok h
  obtain rfl | ⟨row, proposals, tripRevision, hrev, hdec, hres⟩ := hdecide htrip
  · rw [publish_same hplan] at hpub
    cases hpub
    exact .unchanged _
  · have hpointer : trip.currentPlanId = record.rows.currentPlanId := by
      obtain ⟨-, -, rfl⟩ := hres.resolution
      rfl
    rw [publish_same (hpointer ▸ hplan)] at hpub
    cases hpub
    exact .resolved hfin hrev hres hdec

theorem persistProposal_change (h : record.persistProposal request now = .ok committed) :
    Change record (.persistProposal request now) committed := by
  revert h
  fun_cases TripRecord.persistProposal record request now
  case case4 =>
    intro h
    cases h
    exact .unchanged _
  case case6 planId hplan _ _ hfresh hcur =>
    intro h
    cases h
    simp only [sourceIsCurrent, Bool.and_eq_true, decide_eq_true_eq] at hcur
    have hfresh : ∀ stored ∈ record.proposals,
        stored.proposalId ≠ request.stored.proposal.proposalId := by
      intro stored hstored
      simpa [ProposalRow.proposalId] using List.find?_eq_none.mp hfresh stored hstored
    exact .leased rfl record.lease _ (.persisted rfl hcur.1.1.1.1.2
      (hcur.1.1.2.symm ▸ hplan) hfresh)
  all_goals simp

theorem commit_change
    (h : record.commit transaction = .ok committed) : Change record transaction committed := by
  unfold commit at h
  cases transaction with
  | record =>
    obtain ⟨⟨_, intent⟩, hrec, rfl⟩ := map_eq_ok.mp h
    exact recordCommand_change hrec
  | edit =>
    obtain ⟨⟨_, intent⟩, hedited, rfl⟩ := map_eq_ok.mp h
    exact edit_change hedited
  | finalizeAccepted =>
    obtain ⟨trip, htrip, rfl⟩ := finalize_ok h
    obtain ⟨rfl, -⟩ | ⟨row, mutated, hvalid, hmut, hres⟩ := finalizeAcceptedMutation_ok htrip
    · exact .unchanged _
    · exact .mutated hvalid hmut hres
  | finalizeTerminal =>
    obtain ⟨trip, htrip, rfl⟩ := finalize_ok h
    obtain ⟨rfl, -⟩ | ⟨row, hres⟩ := finalizeTerminal_ok htrip
    · exact .unchanged _
    · exact .resolved rfl (Nat.le_refl _) hres (.inr ⟨rfl, rfl⟩)
  | rejectProposal =>
    refine decision_change .applied .accepted rfl (fun {trip finalized} hrejected => ?_) h
    obtain ⟨rfl, -⟩ | ⟨row, proposals, hdec, hres⟩ := finalizeProposalRejection_ok hrejected
    · exact .inl rfl
    · exact .inr ⟨row, proposals, _, Nat.le_succ _, .inl hdec, hres⟩
  | staleProposal =>
    refine decision_change .rejected .terminalRejected rfl (fun {trip finalized} hstale => ?_) h
    obtain ⟨rfl, -⟩ | ⟨row, proposals, hdec, hres⟩ := finalizeStaleProposalDecision_ok hstale
    · exact .inl rfl
    · exact .inr ⟨row, proposals, _, Nat.le_refl _, hdec.imp_right fun hsame => ⟨hsame, rfl⟩, hres⟩
  | acceptProposal =>
    obtain ⟨hplan, trip, htrip, hpub⟩ := finalizeDecision_ok h
    obtain ⟨rfl, -⟩ | ⟨row, proposal, plan, proposals, hfits, hdec, hres⟩ :=
      finalizeProposalAcceptance_ok htrip
    · rw [publish_same hplan] at hpub
      cases hpub
      exact .unchanged _
    · exact .accepted (by rw [hplan]; rfl) hfits hres hpub hdec
  | finalizeMirror =>
    cases h
    unfold TripRecord.finalizeMirror
    obtain hsame | ⟨row, syncState, delivery, hres, hset⟩ := finalizeCanonicalMirror_trip
    · rw [hsame]
      exact .unchanged _
    · rw [hset]
      exact .mirrored hres
  | persistProposal => exact persistProposal_change h
  | acquireLease =>
    simp only [TripRecord.acquireLease] at h
    split at h <;> cases h
    next rows lease hacquired => exact .leased rfl _ _ (.settled (acquire_settled hacquired))
  | renewLease =>
    simp only [TripRecord.renewLease] at h
    split at h <;> cases h
    next rows lease hrenewed =>
      obtain ⟨-, -, -, -, -, hprops⟩ := renew_cases hrenewed
      exact .leased rfl _ _ (.settled (hprops ▸ Settled.refl))
  | releaseLease =>
    simp only [TripRecord.releaseLease] at h
    split at h <;> cases h
    next rows hrel =>
      obtain ⟨-, -, -, -, hprops⟩ := release_cases hrel
      exact .leased rfl _ _ (.settled (hprops ▸ Settled.refl))
  | reviseSavedPlan =>
    obtain ⟨hidle, hsaved, hroom, rfl⟩ := reviseSavedPlan_ok h
    exact .revised hidle hsaved hroom
  | activate =>
    obtain rfl | hactd := activate_ok h
    · exact .unchanged _
    · exact .activated hactd
  | completeActivation =>
    obtain ⟨operation, hfound, hkind, hpend, hstate, hcomp⟩ := completeActivation_ok h
    exact .activationCompleted hfound hkind hpend hstate hcomp
  | deactivate =>
    obtain rfl | hdeact := deactivate_ok h
    · exact .unchanged _
    · exact .deactivated hdeact
  | completeDeactivation =>
    obtain ⟨operation, hfound, hkind, hpend, hstate, hlease, hcomp⟩ := completeDeactivation_ok h
    exact .deactivationCompleted hfound hkind hpend hstate hlease hcomp

end Commit

theorem run_induction {motive : TripRecord → Prop}
    (hchange : ∀ {record transaction committed}, motive record →
      Change record transaction committed → motive committed)
    (hrecord : motive record) (history : List TripTransaction) : motive (record.run history) := by
  induction history generalizing record with
  | nil => exact hrecord
  | cons _ _ ih =>
    apply ih
    unfold step
    split
    · exact hrecord
    next committed hcom => exact hchange hrecord (commit_change hcom)

end LiveRoute.Execution
