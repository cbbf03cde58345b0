import LiveRoute.Execution.TripRecord
import LiveRoute.Gateway.CanonicalEdits

/-! The transactions on current plans as they run on the rows of a saved or a
legacy trip. None of them reads the execution state. -/
namespace LiveRoute.Execution
open Domain Persistence Gateway

inductive PersistProposalError where
  | invalidRequest | proposalStale | identityConflict
deriving DecidableEq

inductive ExecutionError where
  | savedTripInput | idempotencyReused | tripNotFound | notInactive | tripRevisionStale
  | executionTripConflict | activationUnscheduled | activationOutsideDay | timeZone
  | sequenceOverflow | leaseLost | leaseHeld | operationNotFound | operationMismatch | notActivating
  | notExecuting | operationPending | idempotencyNotPending | storage
deriving DecidableEq

inductive TripError where
  | noCurrentPlan | lifecycleCheck
  | record (error : RecordError)
  | edit (error : CanonicalCommandError)
  | finalize (error : FinalizeError)
  | persistProposal (error : PersistProposalError)
  | lease (error : LeaseError)
  | execution (error : ExecutionError)
deriving DecidableEq

inductive RecordedIntent where
  | command (command : RecordedCommand)
  | creation (intent : CreationIntent)
deriving DecidableEq

def TripRecord.creationBy? (record : TripRecord) (messageId : EventId) : Option CreationIntent :=
  record.creation.filter fun intent => decide (intent.messageId = messageId)

/-- The intents of a trip share one message key, so `RecordRuntimeFirst` also
finds the intent that created the trip. -/
def TripRecord.recordCommand (record : TripRecord) (request : RecordRuntimeCommandRequest) :
    Except TripError (TripRecord × RecordedIntent) :=
  if !validateRecordRuntimeCommand request then .error (.record .invalidRequest)
  else if record.ownerUserId ≠ request.ownerUserId then .error (.record .tripNotFound)
  else
    match record.creationBy? request.messageId with
    | some intent =>
      if intent.payloadDigest = request.payloadDigest then .ok (record, .creation intent)
      else .error (.record .idempotencyKeyReused)
    | none =>
      match recordRuntimeFirst record.rows request with
      | .error error => .error (.record error)
      | .ok (trip, command) => .ok (record.withRows trip, .command command)

/-- Commits rows under a current plan. The statement that moves the plan pointer
leaves `active_execution_plan_id` as it was. -/
def TripRecord.publish (record : TripRecord) (trip : CanonicalTrip) : Except TripError TripRecord :=
  match (record.withRows trip).setLifecycle
      { record.lifecycle.toLifecycleColumns with currentPlanId := some trip.currentPlanId } with
  | none => .error .lifecycleCheck
  | some published => .ok published

def TripRecord.edit (record : TripRecord) (edit : CanonicalEdit) (request : CanonicalEditRequest)
    (context : CommitContext) : Except TripError (TripRecord × RecordedIntent) :=
  match edit.transaction.validateRequest request with
  | .error reason => .error (.edit (.invalid reason))
  | .ok () =>
    match record.lifecycle.currentPlanId with
    | none => .error .noCurrentPlan
    | some planId =>
      if record.ownerUserId ≠ request.ownerUserId then .error (.edit .tripConflict)
      else if (record.creationBy? request.messageId).isSome then
        .error (.edit .idempotencyKeyReused)
      else
        match edit.transaction.run (record.canonicalTrip planId) request context with
        | .error error => .error (.edit error)
        | .ok (trip, command) =>
          (record.publish trip).map fun published => (published, .command command)

def TripRecord.finalize (record : TripRecord) (transaction : CanonicalTrip → Transaction) :
    Except TripError TripRecord :=
  match transaction record.rows with
  | .error error => .error (.finalize error)
  | .ok trip => .ok (record.withRows trip)

def TripRecord.finalizeDecision (record : TripRecord) (transaction : CanonicalTrip → Transaction) :
    Except TripError TripRecord :=
  match record.lifecycle.currentPlanId with
  | none => .error .noCurrentPlan
  | some planId =>
    match transaction (record.canonicalTrip planId) with
    | .error error => .error (.finalize error)
    | .ok trip => record.publish trip

def TripRecord.finalizeMirror (record : TripRecord) (request : FinalizeCanonicalMirrorRequest) :
    TripRecord :=
  record.withRows (finalizeCanonicalMirror record.rows request).1

structure PersistProposalRequest where
  stored : StoredPlanProposal
  holderId : HolderId
  (runtimeEpoch plannerStateVersion acceptedMutationSequence : UInt64)
deriving DecidableEq

def PersistProposalRequest.isValid (request : PersistProposalRequest) : Bool :=
  let source := request.stored.proposal
  decide (source.sourceAcceptedMutationSequence.toNat ≤ maxInt64) &&
    decide (request.runtimeEpoch.toNat ≤ maxInt64) &&
    decide (request.plannerStateVersion.toNat ≤ maxInt64) &&
    decide (request.acceptedMutationSequence.toNat ≤ maxInt64) &&
    !(source.sourceTripRevision == 0) && !(source.sourceAcceptedMutationSequence == 0) &&
    !(request.runtimeEpoch == 0) && !(request.acceptedMutationSequence == 0)

def sourceIsCurrent (record : TripRecord) (planId : PlanId) (lease : LeaseRow)
    (request : PersistProposalRequest) (now : DatabaseTime) : Bool :=
  let source := request.stored.proposal
  source.sourceRuntimeEpoch == request.runtimeEpoch &&
    source.sourcePlannerStateVersion == request.plannerStateVersion &&
    source.sourceAcceptedMutationSequence == request.acceptedMutationSequence &&
    decide (source.sourceTripRevision.toNat = record.tripRevision) &&
    decide (source.sourceAcceptedMutationSequence.toNat ≤ record.finalizedMutationSequence) &&
    decide (source.baseCurrentPlanId = planId) &&
    holds lease request.holderId request.runtimeEpoch.toNat && decide (now < lease.leaseExpiresAt)

/-- `ProposalStore.Persist`: the pending proposal is superseded by the new one. -/
def TripRecord.persistProposal (record : TripRecord) (request : PersistProposalRequest)
    (now : DatabaseTime) : Except TripError TripRecord :=
  if fits : proposalFits request.stored.proposal then
    if !request.isValid then .error (.persistProposal .invalidRequest)
    else
      match record.lifecycle.currentPlanId with
      | none => .error .noCurrentPlan
      | some planId =>
        match record.lease with
        | none => .error (.persistProposal .proposalStale)
        | some lease =>
          match (record.canonicalTrip planId).proposal? request.stored.proposal.proposalId with
          | some row =>
            if row.stored = request.stored then .ok record
            else .error (.persistProposal .identityConflict)
          | none =>
            if sourceIsCurrent record planId lease request now then
              .ok { record with
                proposals := (record.canonicalTrip planId).supersedeProposals.proposals ++
                  [⟨request.stored, .pending, none, none, fits⟩] }
            else .error (.persistProposal .proposalStale)
  else .error (.persistProposal .invalidRequest)

def TripRecord.leaseRows (record : TripRecord) : LeaseRows := ⟨record.lease, record.proposals⟩

def TripRecord.withLeaseRows (record : TripRecord) (rows : LeaseRows) : TripRecord :=
  { record with lease := rows.lease, proposals := rows.proposals }

def TripRecord.acquireLease (record : TripRecord) (holderId : HolderId)
    (durationMilliseconds : Int) (readAt writtenAt : DatabaseTime) : Except TripError TripRecord :=
  match acquire record.leaseRows holderId durationMilliseconds readAt writtenAt with
  | .error error => .error (.lease error)
  | .ok (rows, _) => .ok (record.withLeaseRows rows)

def TripRecord.renewLease (record : TripRecord) (holderId : HolderId) (runtimeEpoch : Nat)
    (durationMilliseconds : Int) (now : DatabaseTime) : Except TripError TripRecord :=
  match renew record.leaseRows holderId runtimeEpoch durationMilliseconds now with
  | .error error => .error (.lease error)
  | .ok (rows, _) => .ok (record.withLeaseRows rows)

def TripRecord.releaseLease (record : TripRecord) (holderId : HolderId) (runtimeEpoch : Nat) :
    Except TripError TripRecord :=
  match release record.leaseRows holderId runtimeEpoch with
  | .error error => .error (.lease error)
  | .ok rows => .ok (record.withLeaseRows rows)

end LiveRoute.Execution
