import LiveRoute.Execution.Transitions
import LiveRoute.Execution.TripCreation

/-! Every transaction on the rows of one trip, and what a history of them
leaves. The row lock of the trip puts the transactions in one order; one that
fails is rolled back. -/
namespace LiveRoute.Execution
open Domain Persistence Gateway

inductive TripTransaction where
  | record (request : RecordRuntimeCommandRequest)
  | edit (edit : CanonicalEdit) (request : CanonicalEditRequest) (context : CommitContext)
  | finalizeAccepted (request : FinalizeAcceptedMutationRequest)
  | finalizeTerminal (request : FinalizeTerminalCommandRequest)
  | rejectProposal (request : FinalizeProposalDecisionRequest)
  | staleProposal (request : FinalizeProposalDecisionRequest)
  | acceptProposal (request : FinalizeProposalDecisionRequest)
  | finalizeMirror (request : FinalizeCanonicalMirrorRequest)
  | persistProposal (request : PersistProposalRequest) (now : DatabaseTime)
  | acquireLease (holderId : HolderId) (durationMilliseconds : Int)
      (readAt writtenAt : DatabaseTime)
  | renewLease (holderId : HolderId) (runtimeEpoch : Nat) (durationMilliseconds : Int)
      (now : DatabaseTime)
  | releaseLease (holderId : HolderId) (runtimeEpoch : Nat)
  | reviseSavedPlan (request : ReviseSavedTripRequest)
  | activate (request : ActivateSavedTripRequest) (context : ActivationContext)
  | completeActivation (request : CompleteActivationRequest) (now : DatabaseTime)
  | deactivate (request : DeactivateSavedTripRequest) (draws : DeactivationDraws)
  | completeDeactivation (operationId : OperationId)

def TripTransaction.finalizes : TripTransaction → Option EventId
  | .finalizeAccepted request => some request.eventId
  | .finalizeTerminal request => some request.eventId
  | .rejectProposal request | .staleProposal request | .acceptProposal request =>
    some request.eventId
  | .finalizeMirror request => some request.eventId
  | _ => none

def TripRecord.commit (record : TripRecord) : TripTransaction → Except TripError TripRecord
  | .record request => (record.recordCommand request).map Prod.fst
  | .edit edit request context => (record.edit edit request context).map Prod.fst
  | .finalizeAccepted request => record.finalize fun trip => finalizeAcceptedMutation trip request
  | .finalizeTerminal request => record.finalize fun trip => finalizeTerminal trip request
  | .rejectProposal request =>
    record.finalizeDecision fun trip => finalizeProposalRejection trip request
  | .staleProposal request =>
    record.finalizeDecision fun trip => finalizeStaleProposalDecision trip request
  | .acceptProposal request =>
    record.finalizeDecision fun trip => finalizeProposalAcceptance trip request
  | .finalizeMirror request => .ok (record.finalizeMirror request)
  | .persistProposal request now => record.persistProposal request now
  | .acquireLease holderId durationMilliseconds readAt writtenAt =>
    record.acquireLease holderId durationMilliseconds readAt writtenAt
  | .renewLease holderId runtimeEpoch durationMilliseconds now =>
    record.renewLease holderId runtimeEpoch durationMilliseconds now
  | .releaseLease holderId runtimeEpoch => record.releaseLease holderId runtimeEpoch
  | .reviseSavedPlan request => record.reviseSavedPlan request
  | .activate request context => record.activate request context
  | .completeActivation request now => record.completeActivation request now
  | .deactivate request draws => record.deactivate request draws
  | .completeDeactivation operationId => record.completeDeactivation operationId

def TripRecord.step (record : TripRecord) (transaction : TripTransaction) : TripRecord :=
  match record.commit transaction with
  | .error _ => record
  | .ok committed => committed

def TripRecord.run (record : TripRecord) (history : List TripTransaction) : TripRecord :=
  history.foldl TripRecord.step record

inductive Created : TripRecord → Prop where
  | legacy {request : CreateTripRequest} {context : CreateTripContext} {record : TripRecord}
      (created : createTrip request context = .ok record) : Created record
  | saved (tripId : TripId) (ownerUserId : UserId) {defaultTimeZoneName : String}
      (named : defaultTimeZoneName ≠ "") (plan : SavedPlan) :
      Created (savedTrip tripId ownerUserId defaultTimeZoneName plan)

def Reachable (record : TripRecord) : Prop :=
  ∃ created history, Created created ∧ created.run history = record

end LiveRoute.Execution
