import LiveRoute.Runtime.StaleResults

/-! The proposal that a trip holds, and decisions on it. A decision that names
another proposal, or other versions than the present ones, is refused. -/
namespace LiveRoute.Runtime
open Domain Planner

/-- The decision is about the proposal that the trip holds, under the versions
that the trip has. -/
def NamesHeldProposal (runtime : TripRuntime) (decision : PlanDecisionEvent) : Prop :=
  ∃ stored, runtime.state.activeProposal = some stored ∧
    stored.proposal.proposalId = decision.proposalId ∧
    runtime.versions.snapshot.runtimeEpoch = decision.sourceRuntimeEpoch ∧
    runtime.versions.snapshot.plannerStateVersion = decision.sourcePlannerStateVersion ∧
    runtime.state.currentPlan.planId = decision.baseCurrentPlanId

structure PassesChecks (runtime : TripRuntime) (request : EventAdmissionRequest)
    (currentTime : UnixTimeMilliseconds) (bytes : Nat) : Prop where
  envelope : envelopeMatches true request
  versions : previewEvent runtime.versions .durableCompareAndSwap request = .accepted
  unexpired : isExpired request.event currentTime = false
  event : request.event.isValidFor runtime.state.activities bytes

section Decisions
variable {runtime : TripRuntime} {request : EventAdmissionRequest} {decision : PlanDecisionEvent}

theorem proposalIsStale_iff (hfresh : FreshProposal runtime) : runtime.state.proposalIsStale
    (.planDecision decision) ↔ ¬ NamesHeldProposal runtime decision := by
  unfold TripState.proposalIsStale NamesHeldProposal
  cases hheld : runtime.state.activeProposal with
  | none => simp
  | some stored =>
    obtain ⟨hepoch, hver, -, hbase, -⟩ := hfresh stored hheld
    simp only [Option.any_some, Option.some.injEq, exists_eq_left', Bool.not_eq_true',
      ← Bool.not_eq_true, matchesActiveProposal, hepoch, hver, hbase, Bool.and_eq_true,
      decide_eq_true_eq, and_assoc]

theorem decision_keeps_state (hfresh : FreshProposal runtime)
    (hpay : request.event.payload = .planDecision decision)
    (hother : ¬ NamesHeldProposal runtime decision) :
    (coordinateEventAdmission runtime request currentTime bytes).1.state = runtime.state := by
  obtain ⟨⟨hstate, -, -, -⟩, -⟩ := coordinateEventAdmission_facts runtime request currentTime bytes
  split at hstate
  next =>
    obtain ⟨mutated, happ, -, -⟩ := applied_of_accepted hstate
    have hcur := happ.current
    rw [hpay, (proposalIsStale_iff hfresh).mpr hother] at hcur
    cases hcur
  next => exact hstate

theorem applyTripEvent_staleProposal {state : TripState} {event : TripEvent}
    (hvalid : state.isValid) (hevent : event.isValidFor state.activities bytes)
    (hstale : state.proposalIsStale event.payload) :
    applyTripEvent state event bytes = (state, ⟨.staleProposal, false, false⟩) := by
  unfold applyTripEvent
  simp [hvalid, hevent, hstale]

theorem decision_answered_stale (hsound : SoundRuntime runtime)
    (hpay : request.event.payload = .planDecision decision)
    (hother : ¬ NamesHeldProposal runtime decision)
    (hchecks : PassesChecks runtime request currentTime bytes) :
    (coordinateEventAdmission runtime request currentTime bytes).2.status =
      .stale .planProposal := by
  have hclass : request.event.payload.eventClass = some .durableCompareAndSwap := by
    rw [hpay]
    rfl
  have hstale : runtime.state.proposalIsStale request.event.payload := by
    rw [hpay]
    exact (proposalIsStale_iff hsound.fresh).mpr hother
  have happly := applyTripEvent_staleProposal hsound.valid hchecks.event hstale
  have hexp := (previewDurable_expects rfl hchecks.versions).1
  simp only [coordinateEventAdmission, hclass, isDurable, hchecks.envelope, hchecks.versions,
    hchecks.unexpired, Bool.not_true, Bool.and_false, Bool.false_eq_true, if_false]
  rw [applyAdmitted_refused (by simp) happly]
  rw [consumeTerminal_eq hexp]
  rfl

end Decisions

/-- As long as no bootstrap takes the epoch of an attempt that is still out,
every stored trip is valid, its proposal belongs to the trip's present versions
and plan, and a decision that names anything else is refused. -/
theorem active_proposals_fresh (maxAdvisoryPayloadBytes : Nat) (history : List ShardStep)
    (hepochs : Runs.Along TripShard.next (fun shard action => shard.reusesEpoch action = false)
      (TripShard.initial maxAdvisoryPayloadBytes) history) (trip : ShardTrip)
    (hheld : ((TripShard.initial maxAdvisoryPayloadBytes).run history).trip = some trip) :
    trip.runtime.state.isValid ∧ FreshProposal trip.runtime ∧
      ∀ (request : EventAdmissionRequest) (decision : PlanDecisionEvent)
      (currentTime : UnixTimeMilliseconds), request.event.payload = .planDecision decision →
      ¬ NamesHeldProposal trip.runtime decision →
        let admitted := coordinateEventAdmission trip.runtime request currentTime
          maxAdvisoryPayloadBytes
        admitted.1.state = trip.runtime.state ∧
          (PassesChecks trip.runtime request currentTime maxAdvisoryPayloadBytes →
            admitted.2.status = .stale .planProposal) := by
  have hsound : SoundRuntime trip.runtime := (fenced_initial.run hepochs).sound trip hheld
  refine ⟨hsound.valid, hsound.fresh, fun request decision currentTime hpay hother => ?_⟩
  exact ⟨decision_keeps_state hsound.fresh hpay hother, decision_answered_stale hsound hpay hother⟩

theorem active_proposals_fresh_undisturbed :
    let trip := visitedTrip false (assembleStoredPlanProposal visitedPending visitedReport)
    trip.runtime.state.activeProposal.isSome ∧ FreshProposal trip.runtime := by
  refine ⟨by decide, ?_⟩
  exact (active_proposals_fresh 0 (undisturbed ++ [.runCompletion ⟨true, true⟩]) (by decide) _
    (by decide)).2.1

/-- The old result is stored under the revision of the old trip. -/
theorem reactivated_trip_holds_old_proposal :
    let shard := (TripShard.initial 0).run
      (reactivation ++ [.post 0 (.searched visitedReport), .runCompletion ⟨true, true⟩])
    shard.trip.bind (fun trip => trip.runtime.state.activeProposal.map
        fun stored => stored.proposal.sourceTripRevision) = some 1 ∧
      shard.trip.map (fun trip => trip.runtime.versions.snapshot.tripRevision) = some 2 := by
  decide

end LiveRoute.Runtime
