import LiveRoute.Gateway.ProposalDecision
import LiveRoute.Runtime.TripMap

/-! What the acceptance of a proposal installs in the runtime. The event carries
a plan of its own, which is checked against the activities of the trip and
never against the active proposal. -/
namespace LiveRoute.Gateway
open Domain LiveRoute.Runtime Dispatch

def PlanOf (proposal : PlanProposal) (plan : CurrentPlan) : Prop :=
  List.Forall₂ SegmentImage (proposal.preservedPrefix ++ proposal.revisedSuffix) plan.segments

def CarriesActiveProposal (state : TripState) (decision : PlanDecisionEvent) : Prop :=
  ∃ stored plan, state.activeProposal = some stored ∧
    decision.resultingCurrentPlan = some plan ∧ PlanOf stored.proposal plan

/-- An accepted decision installs the active proposal, and one with another plan
is refused without a change. -/
structure InstallsActiveProposal (state : TripState) (event : TripEvent)
    (decision : PlanDecisionEvent) (bytes : Nat) : Prop where
  installed : (applyTripEvent state event bytes).2.status = .accepted →
    ∃ stored, state.activeProposal = some stored ∧
      PlanOf stored.proposal (applyTripEvent state event bytes).1.currentPlan
  refused : ¬ CarriesActiveProposal state decision →
    (applyTripEvent state event bytes).2.status ≠ .accepted ∧
      (applyTripEvent state event bytes).1 = state

/-- An accepting decision that a trip takes: it names the active proposal, and
the trip is valid with the plan that it carries. -/
structure Admissible (state : TripState) (decision : PlanDecisionEvent)
    (stored : StoredPlanProposal) (plan : CurrentPlan) : Prop where
  valid : state.isValid
  active : state.activeProposal = some stored
  named : matchesActiveProposal stored decision
  epoch : decision.sourceRuntimeEpoch ≠ 0
  carried : decision.resultingCurrentPlan = some plan
  origin : plan.origin = .acceptedEngineProposal ∧ plan.sourceProposalId = some decision.proposalId
  fits : { state with currentPlan := plan, activeProposal := none }.isValid

section Acceptance
variable {state : TripState} {event : TripEvent} {decision : PlanDecisionEvent} (bytes : Nat)
  (hpay : event.payload = .planDecision decision) (haccept : decision.decision = .accept)
include hpay haccept

theorem Admissible.applied (h : Admissible state decision stored plan) :
    applyTripEvent state event bytes = ({ state with currentPlan := plan, activeProposal := none },
      ⟨.accepted, true, true⟩) := by
  have hfits := h.fits
  simp only [TripState.isValid, Bool.and_eq_true, decide_eq_true_eq] at hfits
  obtain ⟨⟨⟨⟨⟨⟨⟨⟨⟨-, hcount⟩, -⟩, hacts⟩, hdistinct⟩, hplan⟩, -⟩, -⟩, -⟩, -⟩ := hfits
  have hacts : currentActivitiesAreValid state.activities := by
    simp [currentActivitiesAreValid, hcount, hacts, hdistinct]
  have hstate : settle event { state with currentPlan := plan, activeProposal := none } =
      { state with currentPlan := plan, activeProposal := none } := by
    simp [settle]
  have happ : Applied state event bytes
      { state with currentPlan := plan, activeProposal := none } := by
    refine ⟨h.valid, ?_, ?_, ?_, by rw [hstate]; exact h.fits⟩
    · simp [TripEvent.isValidFor, hpay, PlanDecisionEvent.isValidFor, haccept, hacts, h.epoch,
        h.carried, h.origin, hplan]
    · simp [TripState.proposalIsStale, hpay, h.active, h.named]
    · simp [mutateTrip, hpay, haccept, h.carried]
  rw [applyTripEvent_of_applied happ, hstate]
  simp [hpay, haccept, TripEventPayload.planningInputChanged, TripEventPayload.currentPlanChanged]

theorem applyTripEvent_admissible : (applyTripEvent state event bytes).2.status ≠ .accepted ∧
      (applyTripEvent state event bytes).1 = state ∨
    ∃ stored plan, Admissible state decision stored plan := by
  rcases applyTripEvent_cases with ⟨status, hstatus, href⟩ | ⟨mutated, happ, -⟩
  · rw [href]
    exact .inl ⟨hstatus, rfl⟩
  · right
    have hvalid := happ.eventValid
    simp only [TripEvent.isValidFor, hpay, PlanDecisionEvent.isValidFor, haccept, Bool.and_eq_true,
      Option.any_eq_true, decide_eq_true_eq, Bool.not_eq_true', beq_eq_false_iff_ne] at hvalid
    obtain ⟨-, ⟨-, hepoch⟩, plan, hplan, horigin, -⟩ := hvalid
    have hcurrent := happ.current
    simp only [TripState.proposalIsStale, hpay, Bool.not_eq_false', Option.any_eq_true] at hcurrent
    obtain ⟨stored, hstored, hnamed⟩ := hcurrent
    have hmut := happ.mutation
    simp only [mutateTrip, hpay, haccept, hplan, Option.getD_some, Option.some_inj] at hmut
    have hfits := happ.settledValid
    rw [← hmut, settle, hpay] at hfits
    exact ⟨stored, plan, happ.valid, hstored, hnamed, hepoch, hplan, horigin, hfits⟩

end Acceptance

/-- In every state, a decision installs the active proposal exactly when, where
the trip takes it at all, it carries the plan of that proposal. -/
theorem acceptance_installs_proposal_iff {event : TripEvent} {decision : PlanDecisionEvent}
    (hpayload : event.payload = .planDecision decision) (haccept : decision.decision = .accept)
    (state : TripState) (bytes : Nat) :
    InstallsActiveProposal state event decision bytes ↔
      ∀ stored plan, Admissible state decision stored plan → PlanOf stored.proposal plan := by
  constructor
  · intro h stored plan hadm
    have happ := hadm.applied bytes hpayload haccept
    obtain ⟨active, hactive, himage⟩ := h.installed (by rw [happ])
    rw [happ] at himage
    rw [Option.some.inj (hadm.active.symm.trans hactive)]
    exact himage
  · intro hcarries
    rcases applyTripEvent_admissible bytes hpayload haccept with href | ⟨stored, plan, hadm⟩
    · exact ⟨fun hacc => absurd hacc href.1, fun _ => href⟩
    · have himage := hcarries stored plan hadm
      refine ⟨fun _ => ⟨stored, hadm.active, ?_⟩, fun hother => ?_⟩
      · rw [hadm.applied bytes hpayload haccept]
        exact himage
      · exact absurd ⟨stored, plan, hadm.active, hadm.carried, himage⟩ hother

/-- The planner after the bootstrap of the museum trip and its first search,
which proposes to skip the visit. -/
def proposingPlanner : TripMap :=
  ((TripMap.empty 1).tryBootstrap ⟨museumState, ⟨8⟩, 1, 1, 1, 0⟩).1.finishPlanning ⟨9⟩ ⟨1, 0, 0⟩
    museumProposal.stored

def museumAcceptance (plan : CurrentPlan) : PlanDecisionEvent :=
  ⟨.accept, ⟨4⟩, 1, 0, ⟨7⟩, some plan⟩

def acceptMuseum (plan : CurrentPlan) : TripEvent :=
  ⟨⟨5⟩, 1, none, .planDecision (museumAcceptance plan)⟩

def retimedPlan : CurrentPlan :=
  ⟨⟨6⟩, 2, .acceptedEngineProposal, [⟨⟨1⟩, .scheduled, some 10, some 20⟩], 1, some ⟨4⟩⟩

theorem museum_acceptance_installs :
    (proposingPlanner.find ⟨9⟩).map (fun trip => trip.runtime.state) = some freshRuntime.state ∧
    (applyTripEvent freshRuntime.state (acceptMuseum acceptedPlan) 0).2.status = .accepted ∧
    InstallsActiveProposal freshRuntime.state (acceptMuseum acceptedPlan)
      (museumAcceptance acceptedPlan) 0 := by
  refine ⟨by decide +kernel, by decide +kernel,
    (acceptance_installs_proposal_iff rfl rfl freshRuntime.state 0).mpr fun stored plan hadm => ?_⟩
  obtain rfl := Option.some.inj hadm.active
  obtain rfl := Option.some.inj hadm.carried
  exact .cons ⟨rfl, fun _ => ⟨rfl, rfl, rfl⟩, fun hother => absurd rfl hother⟩ .nil

/-- An acceptance with another plan is installed as well. -/
theorem retimed_acceptance_installed :
    (proposingPlanner.find ⟨9⟩).map (fun trip => trip.runtime.state) = some freshRuntime.state ∧
    (applyTripEvent freshRuntime.state (acceptMuseum retimedPlan) 0).2.status = .accepted ∧
    (applyTripEvent freshRuntime.state (acceptMuseum retimedPlan) 0).1.currentPlan = retimedPlan ∧
    ¬ PlanOf museumProposal.stored.proposal retimedPlan := by
  refine ⟨by decide +kernel, by decide +kernel, by decide +kernel, fun himage => ?_⟩
  cases himage with
  | cons hseg => exact absurd (hseg.omitted rfl).1 (by decide)

end LiveRoute.Gateway
