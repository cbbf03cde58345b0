import LiveRoute.Planner.ProposalAssembly
import LiveRoute.Runtime.TransactionalAdmission

/-! Planning work of one trip: what an event asks for, with which priority, and
what comes back from the search. -/
namespace LiveRoute.Runtime
open Domain Planner

inductive EventPriority where
  | critical | high | normal | advisory
deriving DecidableEq

def EventPriority.rank : EventPriority → Nat
  | .critical => 0
  | .high => 1
  | .normal => 2
  | .advisory => 3

def hasHigherPriority (candidate current : EventPriority) : Bool :=
  decide (candidate.rank < current.rank)

def priorityFor (payload : TripEventPayload) (currentActivities : List Activity) : EventPriority :=
  match payload with
  | .locationUpdated .. | .velocityUpdated .. | .headingUpdated .. => .normal
  | .routeDeviationDetected .. => .high
  | .advisoryUpdate .. => .advisory
  | .operatingHoursChanged activityId _ =>
    -- Hours of a finished activity cannot affect the rest of the itinerary.
    if (activityFor currentActivities activityId).any
        fun activity => !activity.activityState.isTerminal then .high
    else .critical
  | _ => .critical

def isRecommendationRefresh : TripEventPayload → Bool
  | .advisoryUpdate kind _ _ => decide (kind = .recommendationRefresh)
  | _ => false

def isOrdinaryObservation : TripEventPayload → Bool
  | .locationUpdated .. | .velocityUpdated .. | .headingUpdated .. => true
  | _ => false

structure RuntimePlanningContext where
  (currentTime planningHorizonStart planningHorizonEnd : UnixTimeMilliseconds)
  proposalId : ProposalId
  proposalCreatedAt : UnixTimeMilliseconds
  (maxCandidates beamWidth maxExpansions : UInt64)
deriving DecidableEq

def RuntimePlanningContext.isValid (context : RuntimePlanningContext) : Bool :=
  decide (context.planningHorizonStart.toInt < context.planningHorizonEnd.toInt) &&
    decide (context.planningHorizonStart.toInt ≤ context.currentTime.toInt) &&
    decide (context.currentTime.toInt < context.planningHorizonEnd.toInt) &&
    !(context.maxCandidates == 0) && !(context.beamWidth == 0) && !(context.maxExpansions == 0)

structure PendingPlanning where
  seed : ImmutablePlanningSeed
  context : RuntimePlanningContext
  priority : EventPriority
  latestInputIsOrdinaryObservation : Bool
deriving DecidableEq

def preserveHigherPriorityTrigger (replacement : PendingPlanning)
    (retainedPriority : EventPriority) (retainedTrigger : TripEventPayload) : PendingPlanning :=
  if !hasHigherPriority retainedPriority replacement.priority then replacement
  else { replacement with
    priority := retainedPriority, seed := { replacement.seed with trigger := retainedTrigger } }

inductive RuntimePlanningStatus where
  | ok | noNewProposal | stale | invalidArgument | resourceExhausted | cancelled | deadlineExceeded
  | providerUnavailable | matrixTooLarge | infeasible | internal
deriving DecidableEq

def mapSearchOutcome : BeamSearchOutcome → RuntimePlanningStatus
  | .complete | .bestSoFar => .ok
  | .searchLimited => .noNewProposal
  | .exhaustiveInfeasible => .infeasible
  | .deadlineExceeded => .deadlineExceeded
  | .cancelled => .cancelled
  | .invalidInput => .invalidArgument

def RuntimePlanningStatus.retryable : RuntimePlanningStatus → Bool
  | .resourceExhausted | .deadlineExceeded | .providerUnavailable => true
  | _ => false

/-- What the search leaves to the runtime; the itinerary is absent when no
complete candidate was found or it could not be assembled. -/
structure SearchReport where
  outcome : BeamSearchOutcome
  itinerary : Option (List ProposalSegment × List ProposalSegment)
  searchDepth : UInt32
deriving DecidableEq

def storedQuality : BeamSearchOutcome → Option PlanQuality
  | .complete => some .complete
  | .bestSoFar => some .bestSoFar
  | _ => none

/-- The source that `run_planner` hands to the assembler. -/
def PendingPlanning.proposalSource (pending : PendingPlanning) : ProposalSource where
  proposalId := pending.context.proposalId
  runtimeEpoch := pending.seed.sourceVersions.runtimeEpoch
  plannerStateVersion := pending.seed.sourceVersions.plannerStateVersion
  baseCurrentPlanId := pending.seed.state.currentPlan.planId
  tripRevision := pending.seed.sourceVersions.tripRevision
  acceptedMutationSequence := pending.seed.sourceVersions.acceptedMutationSequence
  createdAt := pending.context.proposalCreatedAt

def assembleStoredPlanProposal (pending : PendingPlanning) (report : SearchReport) :
    Option StoredPlanProposal :=
  match report.itinerary, storedQuality report.outcome with
  | some (preservedPrefix, revisedSuffix), some quality =>
    let stored : StoredPlanProposal :=
      ⟨pending.proposalSource.propose preservedPrefix revisedSuffix, report.searchDepth, quality⟩
    if stored.isValidFor pending.seed.state.activities then some stored else none
  | _, _ => none

inductive AttemptResult where
  | failed (status : RuntimePlanningStatus)
  | searched (report : SearchReport)
deriving DecidableEq

structure Completion where
  pending : PendingPlanning
  result : AttemptResult
deriving DecidableEq

inductive PlanningCommitStatus where
  | committed | stale | invalidArgument
deriving DecidableEq

/-- The answer of `commit_planning_result`, whose effect on the trip is
`commitPlanningResult`. -/
def planningCommitStatus (runtime : TripRuntime) (token : PlanningWorkToken)
    (stored : StoredPlanProposal) : PlanningCommitStatus :=
  if !runtime.versions.canCommitPlanningWork token ||
      !(stored.proposal.sourceRuntimeEpoch == token.runtimeEpoch) ||
      !(stored.proposal.sourcePlannerStateVersion == token.plannerStateVersion) ||
      !decide (stored.proposal.baseCurrentPlanId = runtime.state.currentPlan.planId) then .stale
  else if !runtime.state.isValid || !stored.isValidFor runtime.state.activities then
    .invalidArgument
  else .committed

end LiveRoute.Runtime
