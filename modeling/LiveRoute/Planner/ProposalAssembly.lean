import LiveRoute.Domain.PlanProposal
import LiveRoute.Planner.BeamSearch

/-! From a complete decision sequence to a proposal. -/
namespace LiveRoute.Planner
open Domain

structure ProposalSource where
  proposalId : ProposalId
  (runtimeEpoch plannerStateVersion : UInt64)
  baseCurrentPlanId : PlanId
  (tripRevision acceptedMutationSequence : UInt64)
  createdAt : UnixTimeMilliseconds
deriving DecidableEq

/-- A proposal of the two parts under the versions of its source. -/
def ProposalSource.propose (source : ProposalSource)
    (preservedPrefix revisedSuffix : List ProposalSegment) : PlanProposal where
  proposalId := source.proposalId
  sourceRuntimeEpoch := source.runtimeEpoch
  sourcePlannerStateVersion := source.plannerStateVersion
  baseCurrentPlanId := source.baseCurrentPlanId
  sourceTripRevision := source.tripRevision
  sourceAcceptedMutationSequence := source.acceptedMutationSequence
  preservedPrefix := preservedPrefix
  revisedSuffix := revisedSuffix
  createdAt := source.createdAt

end LiveRoute.Planner
