import LiveRoute.Domain.Activity

/-! Engine proposals. A proposal covers every activity of the trip once, keeps
the immutable prefix, and schedules the rest without overlap. -/
namespace LiveRoute.Domain
open Sequence

inductive SegmentDisposition where
  | preserved | moved | shortened | skipped | added
deriving DecidableEq

inductive PlanQuality where
  | complete | bestSoFar | noNewProposal
deriving DecidableEq

/-- Every value of the notification and reason enumerations is a valid one,
so neither is kept. -/
structure ProposalSegment where
  activityId : ActivityId
  location : Location
  timeZoneName : String
  (scheduledStart scheduledEnd : Option UnixTimeMilliseconds)
  inboundRoute : Option RouteEstimate
  disposition : SegmentDisposition
deriving DecidableEq

def ProposalSegment.isValidFor (segment : ProposalSegment) (activity : Activity)
    (inboundRouteRequired : Bool) : Bool :=
  decide (segment.activityId = activity.activityId) && activity.isValid &&
    segment.location.isValid && decide (segment.location = activity.location) &&
    !segment.timeZoneName.isEmpty && decide (segment.timeZoneName = activity.timeZoneName) &&
    !decide (segment.disposition = .shortened) &&
    if segment.disposition = .skipped then
      segment.scheduledStart.isNone && segment.scheduledEnd.isNone && segment.inboundRoute.isNone
    else
      match segment.scheduledStart, segment.scheduledEnd with
      | some start, some finish =>
        decide (start.toInt < finish.toInt) &&
          (!inboundRouteRequired || segment.inboundRoute.isSome) &&
          segment.inboundRoute.all fun route => route.isValid && route.reachable
      | _, _ => false

structure PlanProposal where
  proposalId : ProposalId
  (sourceRuntimeEpoch sourcePlannerStateVersion : UInt64)
  baseCurrentPlanId : PlanId
  (sourceTripRevision sourceAcceptedMutationSequence : UInt64)
  (preservedPrefix revisedSuffix : List ProposalSegment)
  createdAt : UnixTimeMilliseconds
deriving DecidableEq

def activityFor (activities : List Activity) (activityId : ActivityId) : Option Activity :=
  activities.find? fun activity => decide (activity.activityId = activityId)

/-- One run of `validate_segment`: the end of the last scheduled segment so
far, or `none` once a segment is refused. -/
def validateProposalSegment (activities : List Activity) (preserved : Bool)
    (priorScheduledEnd : Option UnixTimeMilliseconds) (segment : ProposalSegment) :
    Option (Option UnixTimeMilliseconds) :=
  match activityFor activities segment.activityId with
  | none => none
  | some activity =>
    if !segment.isValidFor activity (!preserved) ||
        (preserved && !decide (segment.disposition = .preserved) &&
          !decide (segment.disposition = .skipped)) then
      none
    else if segment.disposition = .skipped then
      some priorScheduledEnd
    else if priorScheduledEnd.any fun prior =>
        segment.scheduledStart.any fun start => decide (start.toInt < prior.toInt) then
      none
    else
      some segment.scheduledEnd

def PlanProposal.isValidFor (proposal : PlanProposal) (activities : List Activity) : Bool :=
  let segments := proposal.preservedPrefix ++ proposal.revisedSuffix
  let expected := activities.map fun activity => activity.activityId.key
  let actual := segments.map fun segment => segment.activityId.key
  !(proposal.sourceRuntimeEpoch == 0) && !(proposal.sourceTripRevision == 0) &&
    !(proposal.sourceAcceptedMutationSequence == 0) &&
    decide (activities.length ≤ 64) && decide (segments.length = activities.length) &&
    activities.all Activity.isValid && allDistinct expected &&
    ((proposal.preservedPrefix.foldlM (validateProposalSegment activities true) none).bind
      fun prior => proposal.revisedSuffix.foldlM (validateProposalSegment activities false)
        prior).isSome &&
    allDistinct actual && decide (sortKeys actual = sortKeys expected)

structure StoredPlanProposal where
  proposal : PlanProposal
  searchDepth : UInt32
  planQuality : PlanQuality
deriving DecidableEq

def StoredPlanProposal.isValidFor (stored : StoredPlanProposal) (activities : List Activity) :
    Bool :=
  stored.proposal.isValidFor activities && decide (stored.searchDepth ≤ 64) &&
    !decide (stored.planQuality = .noNewProposal)

end LiveRoute.Domain
