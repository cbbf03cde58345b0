import LiveRoute.Runtime.TripShard
import LiveRoute.Runtime.VersionTurns

/-! What an admission does to the trip and which seed it leaves. An event either
is only noted, or it advances the planner state and clears the proposal. -/
namespace LiveRoute.Runtime
open Domain Planner
open TripRuntimeVersions (call answer acceptAdvisory supersedes consume capturePlanningWork)

structure Noted (before after : TripRuntime) : Prop where
  state : after.state = before.state
  active : after.versions.active = before.versions.active
  epoch : after.versions.snapshot.runtimeEpoch = before.versions.snapshot.runtimeEpoch
  revision : after.versions.snapshot.tripRevision = before.versions.snapshot.tripRevision
  version : after.versions.snapshot.plannerStateVersion =
    before.versions.snapshot.plannerStateVersion
  generation : after.versions.snapshot.planningGeneration =
    before.versions.snapshot.planningGeneration
  accepted : before.versions.snapshot.acceptedMutationSequence.toNat ≤
    after.versions.snapshot.acceptedMutationSequence.toNat

/-- The planning input changed: a new planner state and no proposal. -/
structure Advanced (before after : TripRuntime) : Prop where
  active : before.versions.active ∧ after.versions.active
  epoch : after.versions.snapshot.runtimeEpoch = before.versions.snapshot.runtimeEpoch
  version : after.versions.snapshot.plannerStateVersion.toNat =
    before.versions.snapshot.plannerStateVersion.toNat + 1
  valid : after.state.isValid
  cleared : after.state.activeProposal = none

theorem Noted.refl (runtime : TripRuntime) : Noted runtime runtime :=
  ⟨rfl, rfl, rfl, rfl, rfl, rfl, Nat.le_refl _⟩

theorem Noted.of_turn (state : TripState) {versions : TripRuntimeVersions}
    (hkept : versions.supersedes operation = false)
    (hrev : (versions.call operation).snapshot.tripRevision = versions.snapshot.tripRevision) :
    Noted ⟨state, versions⟩ ⟨state, versions.call operation⟩ := by
  cases versions.call_turn operation with
  | unchanged same =>
    rw [same]
    exact .refl _
  | restarted _ superseded =>
    rw [hkept] at superseded
    cases superseded
  | advanced _ superseded =>
    rw [hkept] at superseded
    cases superseded
  | noted active _ epoch counts version generation =>
    refine ⟨rfl, active.2.trans active.1.symm, epoch, hrev, version, generation, ?_⟩
    rcases counts.acceptedMutationSequence with hsame | hnext <;> dsimp only <;> omega

theorem TripRuntimeVersions.call_advances {versions : TripRuntimeVersions}
    (hacc : versions.supersedes operation)
    (hepoch : (versions.call operation).snapshot.runtimeEpoch = versions.snapshot.runtimeEpoch)
    (hactive : versions.active) :
    (versions.call operation).active ∧
      (versions.call operation).snapshot.plannerStateVersion.toNat =
        versions.snapshot.plannerStateVersion.toNat + 1 := by
  cases versions.call_turn operation with
  | unchanged _ kept =>
    rw [hacc] at kept
    cases kept
  | restarted _ _ epoch =>
    have hhigher := epoch hactive
    rw [hepoch] at hhigher
    exact absurd hhigher (Nat.lt_irrefl _)
  | advanced active _ _ _ version => exact ⟨active.2, version⟩
  | noted _ kept =>
    rw [hacc] at kept
    cases kept

theorem commitEvent_answer (versions : TripRuntimeVersions) (eventClass : TripEventClass)
    (request : EventAdmissionRequest) (changed : Bool) :
    ∃ operation, commitEvent versions eventClass request changed = versions.answer operation ∧
      operation.fences = !decide (eventClass = .advisory) ∧
      ((versions.call operation).active = versions.active ∧
        (versions.call operation).snapshot.runtimeEpoch = versions.snapshot.runtimeEpoch) ∧
      (eventClass = .advisory →
        (versions.call operation).snapshot.tripRevision = versions.snapshot.tripRevision) := by
  unfold commitEvent
  split
  next hdur =>
    refine ⟨.acceptDurable _ _ _ _ _ _, rfl, ?_, ?_, ?_⟩
    · cases eventClass <;> simp_all [isDurable, VersionCall.fences]
    · simp only [call, answer, TripRuntimeVersions.acceptDurable]
      split <;> simp
    · rintro rfl
      simp [isDurable] at hdur
  next =>
    split
    next hadvisory =>
      refine ⟨.acceptAdvisory _ _ _, rfl, by simp [hadvisory, VersionCall.fences], ?_, fun _ => ?_⟩
      all_goals
        simp only [call, answer, acceptAdvisory]
        split <;> simp
    next hobs =>
      refine ⟨.acceptObservation _ _ _ _, rfl, by simp [hobs, VersionCall.fences], ?_,
        fun hadvisory => absurd hadvisory hobs⟩
      simp only [call, answer, TripRuntimeVersions.acceptObservation]
      split <;> simp

theorem consumeTerminal_unchanged :
    (consumeTerminal runtime request status).2.planningInputChanged = false := by
  unfold consumeTerminal
  split <;> rfl

theorem applyAdmitted_changes :
    (applyAdmitted runtime eventClass request bytes).2.planningInputChanged →
      (applyAdmitted runtime eventClass request bytes).2.status = .accepted := by
  fun_cases applyAdmitted runtime eventClass request bytes
  case case1 => exact fun _ => rfl
  case case3 =>
    rw [consumeTerminal_unchanged]
    nofun
  all_goals nofun

theorem planningInputChanged_accepted (runtime : TripRuntime) (request : EventAdmissionRequest)
    (currentTime : UnixTimeMilliseconds) (bytes : Nat) :
    (coordinateEventAdmission runtime request currentTime bytes).2.planningInputChanged →
      (coordinateEventAdmission runtime request currentTime bytes).2.status = .accepted := by
  fun_cases coordinateEventAdmission runtime request currentTime bytes
  case case3 =>
    rw [consumeTerminal_unchanged]
    nofun
  case case4 => exact applyAdmitted_changes
  all_goals nofun

structure SeedOf (runtime : TripRuntime) (trigger : TripEventPayload)
    (seed : ImmutablePlanningSeed) : Prop where
  state : seed.state = runtime.state
  trigger : seed.trigger = trigger
  versions : seed.sourceVersions = runtime.versions.snapshot
  captured : runtime.versions.capturePlanningWork = some seed.workToken

inductive AdmissionTurn (runtime : TripRuntime) (payload : TripEventPayload) :
    TripRuntime → EventCoordinatorResult → Option ImmutablePlanningSeed → Prop
  | noted {admitted : TripRuntime} {result : EventCoordinatorResult} (kept : Noted runtime admitted)
      (unchanged : result.planningInputChanged = false) :
      AdmissionTurn runtime payload admitted result none
  | advanced {admitted : TripRuntime} {result : EventCoordinatorResult}
      {seed : ImmutablePlanningSeed} (moved : Advanced runtime admitted)
      (input : payload.planningInputChanged) (accepted : result.status = .accepted)
      (changed : result.planningInputChanged)
      (seeded : SeedOf admitted payload seed) :
      AdmissionTurn runtime payload admitted result (some seed)

theorem settle_unchanged {event : TripEvent} (hsame : event.payload.planningInputChanged = false)
    (hmut : mutateTrip state event = some mutated) : settle event mutated = state := by
  unfold settle
  unfold mutateTrip at hmut
  cases hpay : event.payload <;>
    simp_all [TripEventPayload.planningInputChanged]

theorem eventClass_advisory {payload : TripEventPayload}
    (hclass : payload.eventClass = some eventClass) :
    payload.planningInputChanged = !decide (eventClass = .advisory) := by
  cases payload <;>
    simp_all [TripEventPayload.eventClass, TripEventPayload.planningInputChanged] <;>
    simp [← hclass]

theorem coordinateEventAdmission_turn (runtime : TripRuntime) (request : EventAdmissionRequest)
    (currentTime : UnixTimeMilliseconds) (bytes : Nat) :
    let outcome := coordinateEventAdmission runtime request currentTime bytes
    if outcome.2.planningInputChanged then
      Advanced runtime outcome.1 ∧ request.event.payload.planningInputChanged
    else Noted runtime outcome.1 := by
  intro outcome
  have hchanges := planningInputChanged_accepted runtime request currentTime bytes
  obtain ⟨⟨hstate, hvers, -, -⟩, hactive⟩ :=
    coordinateEventAdmission_facts runtime request currentTime bytes
  by_cases hacc : outcome.2.status = .accepted
  · rw [if_pos hacc] at hstate hvers
    obtain ⟨eventClass, hclass, hcommit⟩ := hvers
    obtain ⟨mutated, happ, hsettled, hchanged⟩ := applied_of_accepted hstate
    obtain ⟨operation, hanswer, hfences, ⟨hkeeps, hepoch⟩, hrev⟩ := commitEvent_answer
      runtime.versions eventClass request outcome.2.planningInputChanged
    change outcome.2.planningInputChanged = _ at hchanged
    have hcalled : outcome.1.versions = runtime.versions.call operation := by
      rw [call, ← hanswer, hcommit]
    have hsupersedes : runtime.versions.supersedes operation = outcome.2.planningInputChanged := by
      rw [supersedes, ← hanswer, hcommit, hfences, hchanged, eventClass_advisory hclass]
      simp
    split
    next hseeded =>
      have hbefore : runtime.versions.active := by
        rw [← hkeeps, ← hcalled]
        exact hactive hseeded
      obtain ⟨hafter, hver⟩ := TripRuntimeVersions.call_advances
        (hsupersedes.trans hseeded) hepoch hbefore
      rw [← hcalled] at hafter hver hepoch
      refine ⟨⟨⟨hbefore, hafter⟩, hepoch, hver, hsettled ▸ happ.settledValid, ?_⟩,
        hchanged ▸ hseeded⟩
      rw [hsettled, settle, if_pos (hchanged ▸ hseeded)]
    next hquiet =>
      have hunchanged : request.event.payload.planningInputChanged = false := by
        simpa [hchanged] using hquiet
      have hadvisory : eventClass = .advisory := by
        simpa [eventClass_advisory hclass] using hunchanged
      rw [hunchanged] at hchanged
      rw [hchanged] at hsupersedes
      have hnoted := Noted.of_turn runtime.state hsupersedes (hrev hadvisory)
      rw [← hcalled] at hnoted
      rw [settle_unchanged hunchanged happ.mutation] at hsettled
      rw [show outcome.1 = ⟨runtime.state, outcome.1.versions⟩ by rw [← hsettled]]
      exact hnoted
  · rw [if_neg hacc] at hstate hvers
    rw [if_neg fun hseeded => hacc (hchanges hseeded)]
    rcases hvers with hsame | ⟨-, -, hnext, hconsumed⟩
    · exact ⟨hstate, by rw [hsame], by rw [hsame], by rw [hsame], by rw [hsame], by rw [hsame],
        by rw [hsame]⟩
    · change outcome.1.versions = _ at hconsumed
      refine ⟨hstate, ?_, ?_, ?_, ?_, ?_, ?_⟩
      all_goals rw [hconsumed, consume]
      dsimp only
      omega

theorem admitEvent_turn (runtime : TripRuntime) (request : EventAdmissionRequest)
    (currentTime : UnixTimeMilliseconds) (bytes : Nat) :
    let outcome := admitEvent runtime request currentTime bytes
    AdmissionTurn runtime request.event.payload outcome.1 outcome.2.1 outcome.2.2 := by
  have hturn := coordinateEventAdmission_turn runtime request currentTime bytes
  have hchanges := planningInputChanged_accepted runtime request currentTime bytes
  unfold admitEvent
  dsimp only at hturn ⊢
  unfold seedPlanning
  split
  next hchanged =>
    rw [if_pos hchanged] at hturn
    obtain ⟨hmoved, hinput⟩ := hturn
    rw [capturePlanningWork, if_pos hmoved.active.2]
    refine .advanced hmoved hinput (hchanges hchanged) hchanged ⟨rfl, rfl, rfl, ?_⟩
    rw [capturePlanningWork, if_pos hmoved.active.2]
  next hsame =>
    rw [if_neg hsame] at hturn
    exact .noted hturn (by simpa using hsame)

/-- The ends of an admission on the shard, with the seed that is left to plan
from. -/
inductive AdmitTurn (trip : ShardTrip) (payload : TripEventPayload) :
    TripRuntime → EventCoordinatorResult → Option ImmutablePlanningSeed → Prop
  | quiet {admitted : TripRuntime} {result : EventCoordinatorResult}
      (kept : Noted trip.runtime admitted) (unchanged : result.planningInputChanged = false) :
      AdmitTurn trip payload admitted result none
  | refreshed {admitted : TripRuntime} {result : EventCoordinatorResult}
      {seed : ImmutablePlanningSeed} (kept : Noted trip.runtime admitted)
      (unchanged : result.planningInputChanged = false)
      (refresh : isRecommendationRefresh payload)
      (idle : trip.planningRunning = false) (free : trip.pending = none)
      (seeded : SeedOf admitted payload seed) : AdmitTurn trip payload admitted result (some seed)
  | advanced {admitted : TripRuntime} {result : EventCoordinatorResult}
      {seed : ImmutablePlanningSeed} (moved : Advanced trip.runtime admitted)
      (input : payload.planningInputChanged) (changed : result.planningInputChanged)
      (seeded : SeedOf admitted payload seed) :
      AdmitTurn trip payload admitted result (some seed)
  | avoided {admitted : TripRuntime} {result : EventCoordinatorResult}
      (moved : Advanced trip.runtime admitted) (changed : result.planningInputChanged)
      (idle : trip.planningRunning = false) (free : trip.pending = none) :
      AdmitTurn trip payload admitted result none

theorem avoidsReplan_iff (trip : ShardTrip) : trip.avoidsReplan payload ↔
      isOrdinaryObservation payload ∧ trip.planningRunning = false ∧ trip.pending = none ∨
        isRecommendationRefresh payload ∧ (trip.planningRunning ∨ trip.pending.isSome) := by
  simp [ShardTrip.avoidsReplan, and_assoc]

theorem refresh_of_input {payload : TripEventPayload}
    (h : payload.planningInputChanged) : isRecommendationRefresh payload = false := by
  cases payload <;> simp_all [isRecommendationRefresh, TripEventPayload.planningInputChanged]

theorem admit_turn (trip : ShardTrip) (bytes : Nat) (request : RuntimeEventRequest) :
    let outcome := trip.admitRequest bytes request
    AdmitTurn trip request.admission.event.payload outcome.1 outcome.2.1 outcome.2.2 := by
  have hturn := admitEvent_turn trip.runtime request.admission request.planning.currentTime bytes
  unfold ShardTrip.admitRequest
  generalize admitEvent trip.runtime request.admission request.planning.currentTime bytes =
    outcome at hturn
  obtain ⟨admitted, result, seed⟩ := outcome
  dsimp only at hturn ⊢
  cases hturn with
  | advanced moved input _ changed seeded =>
    have hrefresh := refresh_of_input input
    simp only [refreshSeed, hrefresh, Bool.false_and, Bool.false_eq_true, if_false]
    by_cases havoids : trip.avoidsReplan request.admission.event.payload
    · rw [if_pos havoids]
      rw [avoidsReplan_iff, hrefresh] at havoids
      simp only [Bool.false_eq_true, false_and, or_false] at havoids
      exact .avoided moved changed havoids.2.1 havoids.2.2
    · rw [if_neg havoids]
      exact .advanced moved input changed seeded
  | noted kept unchanged =>
    unfold refreshSeed
    split
    next hrefresh =>
      simp only [Bool.and_eq_true] at hrefresh
      by_cases havoids : trip.avoidsReplan request.admission.event.payload
      · cases admitted.versions.capturePlanningWork <;> simp only [if_pos havoids] <;>
          exact .quiet kept unchanged
      · cases hcapture : admitted.versions.capturePlanningWork with
        | none =>
          simp only [ite_self]
          exact .quiet kept unchanged
        | some =>
          simp only [if_neg havoids]
          rw [avoidsReplan_iff] at havoids
          simp only [hrefresh.1.1, true_and, not_or, Bool.not_eq_true, Option.isSome_eq_false_iff,
            Option.isNone_iff_eq_none] at havoids
          exact .refreshed kept unchanged hrefresh.1.1 havoids.2.1 havoids.2.2
            ⟨rfl, rfl, rfl, hcapture⟩
    next =>
      simp only [ite_self]
      exact .quiet kept unchanged

end LiveRoute.Runtime
