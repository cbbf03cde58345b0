import LiveRoute.Domain.TripState
import Mathlib.Data.List.Perm.Basic

/-! Consequences of a valid trip state, and the two ways an event can end. -/
namespace LiveRoute.Domain
open Sequence

@[simp] theorem isTerminal_planned : ActivityState.planned.isTerminal = false := rfl
@[simp] theorem isTerminal_started : ActivityState.started.isTerminal = false := rfl
@[simp] theorem isTerminal_completed : ActivityState.completed.isTerminal := rfl
@[simp] theorem isTerminal_skipped : ActivityState.skipped.isTerminal := rfl

theorem sortKeys_eq_iff : sortKeys left = sortKeys right ↔ left.Perm right := by
  unfold sortKeys
  constructor
  · intro h
    exact (sortBy_perm _ left).symm.trans (h ▸ sortBy_perm _ right)
  · intro h
    apply List.Perm.eq_of_pairwise' (sortBy_lt_pairwise left) (sortBy_lt_pairwise right)
    exact ((sortBy_perm _ left).trans h).trans (sortBy_perm _ right).symm

theorem distinctIds_iff (ids : List ActivityId) :
    allDistinct (ids.map ActivityId.key) ↔ ids.Nodup := by
  rw [allDistinct_iff, List.nodup_map_iff ActivityId.key_injective]

theorem sortedIds_iff (left right : List ActivityId) :
    sortKeys (left.map ActivityId.key) = sortKeys (right.map ActivityId.key) ↔
      left.Perm right := by
  rw [sortKeys_eq_iff, List.map_perm_map_iff ActivityId.key_injective]

def CurrentPlan.activityIds (plan : CurrentPlan) : List ActivityId :=
  plan.segments.map CurrentPlanSegment.activityId

def CurrentPlan.originMatches (plan : CurrentPlan) : Bool :=
  match plan.origin with
  | .userAuthored => plan.sourceProposalId.isNone
  | .acceptedEngineProposal => plan.sourceProposalId.isSome

structure CurrentPlan.Covers (plan : CurrentPlan) (ids : List ActivityId) : Prop where
  revision : plan.planRevision ≠ 0
  count : plan.segments.length ≤ 64
  origin : plan.originMatches
  ordered : segmentsOrdered none plan.segments
  distinct : ids.Nodup
  order : plan.activityIds.Perm ids

theorem CurrentPlan.isValidFor_iff (plan : CurrentPlan) :
    plan.isValidFor ids ↔ plan.Covers ids := by
  have hkeys : (plan.segments.map fun segment => segment.activityId.key) =
      plan.activityIds.map ActivityId.key := by
    simp [CurrentPlan.activityIds]
  have hlen : plan.activityIds.length = plan.segments.length := by simp [CurrentPlan.activityIds]
  unfold CurrentPlan.isValidFor
  rw [hkeys]
  simp only [Bool.and_eq_true, Bool.not_eq_true', beq_eq_false_iff_ne, decide_eq_true_eq,
    distinctIds_iff, sortedIds_iff]
  constructor
  · rintro ⟨⟨⟨⟨⟨⟨⟨hrev, hcount⟩, -⟩, horigin⟩, hord⟩, hexp⟩, -⟩, horder⟩
    exact ⟨hrev, hcount, horigin, hord, hexp, horder.symm⟩
  · rintro ⟨hrev, hcount, horigin, hord, hexp, horder⟩
    exact ⟨⟨⟨⟨⟨⟨⟨hrev, hcount⟩, hlen ▸ horder.length_eq⟩, horigin⟩, hord⟩, hexp⟩,
      horder.nodup_iff.mpr hexp⟩, horder.symm⟩

structure TripState.Valid (state : TripState) : Prop where
  zone : state.defaultTimeZoneName.isEmpty = false
  count : state.activities.length ≤ 64
  completed : state.completedPrefixCount ≤ state.activities.length
  activities : state.activities.all Activity.isValid
  distinct : (activityIds state.activities).Nodup
  plan : state.currentPlan.Covers (activityIds state.activities)
  progress : ∃ foundStarted, scanPlanStates state.activities state.completedPrefixCount 0 false
    state.currentPlan.segments = some foundStarted ∧
      state.currentActivityIsValid foundStarted
  observation : state.currentObservation.isValid
  delays : travelDelaysAreValid state.activities state.travelDelays
  proposal : (state.activeProposal.all fun stored =>
    stored.isValidFor state.activities &&
      decide (stored.proposal.baseCurrentPlanId = state.currentPlan.planId))

theorem TripState.isValid_iff (state : TripState) : state.isValid ↔ state.Valid := by
  unfold TripState.isValid
  simp only [Bool.and_eq_true, Bool.not_eq_true', decide_eq_true_eq, distinctIds_iff,
    CurrentPlan.isValidFor_iff, Option.any_eq_true]
  constructor
  · rintro ⟨⟨⟨⟨⟨⟨⟨⟨⟨hzone, hcount⟩, hcomp⟩, hacts⟩, hdist⟩, hplan⟩, hprog⟩, hobs⟩, hdelays⟩, hprop⟩
    exact ⟨hzone, hcount, hcomp, hacts, hdist, hplan, hprog, hobs, hdelays, hprop⟩
  · rintro ⟨hzone, hcount, hcomp, hacts, hdist, hplan, hprog, hobs, hdelays, hprop⟩
    exact ⟨⟨⟨⟨⟨⟨⟨⟨⟨hzone, hcount⟩, hcomp⟩, hacts⟩, hdist⟩, hplan⟩, hprog⟩, hobs⟩, hdelays⟩, hprop⟩

def TripEventPayload.isRuntimeFirst (payload : TripEventPayload) : Bool :=
  decide (payload.eventClass = some .durable) ||
    decide (payload.eventClass = some .durableCompareAndSwap)

theorem planningInputChanged_of_runtimeFirst {payload : TripEventPayload}
    (h : payload.isRuntimeFirst) : payload.planningInputChanged := by
  cases payload <;> simp_all [TripEventPayload.isRuntimeFirst, TripEventPayload.eventClass,
    TripEventPayload.planningInputChanged]

def settle (event : TripEvent) (mutated : TripState) : TripState :=
  if event.payload.planningInputChanged then { mutated with activeProposal := none } else mutated

structure Applied (state : TripState) (event : TripEvent) (bytes : Nat) (mutated : TripState) :
    Prop where
  valid : state.isValid
  eventValid : event.isValidFor state.activities bytes
  current : state.proposalIsStale event.payload = false
  mutation : mutateTrip state event = some mutated
  settledValid : (settle event mutated).isValid

theorem applyTripEvent_cases : (∃ status, status ≠ .accepted ∧
      applyTripEvent state event bytes = (state, ⟨status, false, false⟩)) ∨
    (∃ mutated, Applied state event bytes mutated ∧ applyTripEvent state event bytes =
        (settle event mutated, ⟨.accepted, event.payload.planningInputChanged,
          event.payload.currentPlanChanged⟩)) := by
  unfold applyTripEvent
  split
  · exact .inl ⟨.invalidArgument, by decide, rfl⟩
  rename_i hvalid
  split
  · exact .inl ⟨.staleProposal, by decide, rfl⟩
  rename_i hstale
  split
  · exact .inl ⟨.invalidArgument, by decide, rfl⟩
  rename_i mutated hmut
  by_cases hsettled : (settle event mutated).isValid
  · simp only [Bool.or_eq_true, Bool.not_eq_true', not_or, Bool.not_eq_false] at hvalid
    refine .inr ⟨mutated, ⟨hvalid.1, hvalid.2, by simpa using hstale, hmut, hsettled⟩, ?_⟩
    exact if_pos hsettled
  · exact .inl ⟨.invalidArgument, by decide, if_neg hsettled⟩

theorem applyTripEvent_of_applied (h : Applied state event bytes mutated) :
    applyTripEvent state event bytes = (settle event mutated,
      ⟨.accepted, event.payload.planningInputChanged, event.payload.currentPlanChanged⟩) := by
  unfold applyTripEvent
  simp only [h.valid, h.eventValid, h.current, h.mutation, Bool.not_true, Bool.or_self,
    Bool.false_eq_true, if_false]
  exact if_pos h.settledValid

theorem applyTripEvent_not_stale {state : TripState} {event : TripEvent}
    (h : state.proposalIsStale event.payload = false) :
    (applyTripEvent state event bytes).2.status ≠ .staleProposal := by
  unfold applyTripEvent
  split
  · simp
  rw [if_neg (by simp [h])]
  cases mutateTrip state event with
  | none => simp
  | some mutated =>
    change (if (settle event mutated).isValid then _ else _ :
      TripState × TripStateApplyResult).2.status ≠ _
    split <;> simp

theorem applied_of_accepted
    (h : applyTripEvent state event bytes = (candidate, ⟨.accepted, changed, planChanged⟩)) :
    ∃ mutated, Applied state event bytes mutated ∧ candidate = settle event mutated ∧
      changed = event.payload.planningInputChanged := by
  rcases applyTripEvent_cases with ⟨status, hstatus, href⟩ | ⟨mutated, happ, hacc⟩
  · rw [href] at h
    exact absurd (congrArg (fun pair => pair.2.status) h) hstatus
  · rw [hacc] at h
    exact ⟨mutated, happ, (congrArg Prod.fst h).symm,
      (congrArg (fun pair => pair.2.planningInputChanged) h).symm⟩

end LiveRoute.Domain
