import LiveRoute.Runtime.CoordinatorFacts
import LiveRoute.Runtime.TripMap

/-! One admission is one transaction on the trip and its versions, whatever the
class of the event. The preview is made as if the planning input changed, which
is the stricter of the two, so that the commit never contradicts it. -/
namespace LiveRoute.Runtime
open Domain

variable {epoch sequence : UInt64} {expected : Option UInt64} {result : EventCoordinatorResult}

def TripRuntimeVersions.capturePlanningWork (versions : TripRuntimeVersions) :
    Option PlanningWorkToken :=
  if versions.active then
    some ⟨versions.snapshot.runtimeEpoch, versions.snapshot.plannerStateVersion,
      versions.snapshot.planningGeneration⟩
  else none

structure ImmutablePlanningSeed where
  state : TripState
  trigger : TripEventPayload
  sourceVersions : TripRuntimeVersionSnapshot
  workToken : PlanningWorkToken
deriving DecidableEq

/-- The last step of `coordinate_event_admission`: an accepted event that changed
the planning input carries the seed of the next search. -/
def seedPlanning (request : EventAdmissionRequest) (runtime : TripRuntime)
    (result : EventCoordinatorResult) :
    TripRuntime × EventCoordinatorResult × Option ImmutablePlanningSeed :=
  if result.planningInputChanged then
    match runtime.versions.capturePlanningWork with
    | none => (runtime, makeResult .internal runtime.versions, none)
    | some token => (runtime, result, some
        ⟨runtime.state, request.event.payload, runtime.versions.snapshot, token⟩)
  else (runtime, result, none)

def admitEvent (runtime : TripRuntime) (request : EventAdmissionRequest)
    (currentTime : UnixTimeMilliseconds) (maxAdvisoryPayloadBytes : Nat) :
    TripRuntime × EventCoordinatorResult × Option ImmutablePlanningSeed :=
  let admitted := coordinateEventAdmission runtime request currentTime maxAdvisoryPayloadBytes
  seedPlanning request admitted.1 admitted.2

def isMalformed (request : EventAdmissionRequest) : Bool :=
  !request.event.payload.eventClass.any fun eventClass =>
    envelopeMatches (isDurable eventClass) request

def usesSequence (request : EventAdmissionRequest) : Bool :=
  request.event.payload.eventClass.any fun eventClass =>
    isDurable eventClass && !isCanonicalMirror eventClass

def leavesNoTrace (request : EventAdmissionRequest) (status : EventCoordinatorStatus) : Bool :=
  isMalformed request || (!usesSequence request && !decide (status = .accepted)) ||
    match status with
    | .duplicate | .inactive => true
    | .stale reason => !decide (reason = .planProposal)
    | _ => false

structure Transactional (runtime : TripRuntime) (request : EventAdmissionRequest)
    (bytes : Nat) (admitted : TripRuntime) (result : EventCoordinatorResult) : Prop where
  state : if result.status = .accepted then
      applyTripEvent runtime.state request.event bytes =
        (admitted.state, ⟨.accepted, result.planningInputChanged, result.currentPlanChanged⟩)
    else admitted.state = runtime.state
  versions : if result.status = .accepted then
      ∃ eventClass, request.event.payload.eventClass = some eventClass ∧
        commitEvent runtime.versions eventClass request result.planningInputChanged =
          (admitted.versions, .accepted)
    else admitted.versions = runtime.versions ∨ usesSequence request ∧
      result.status ∈ [.commandExpired, .invalidArgument, .stale .planProposal] ∧
      request.mutationSequence.toNat =
        runtime.versions.snapshot.acceptedMutationSequence.toNat + 1 ∧
      admitted.versions = runtime.versions.consume request.mutationSequence
  untouched : leavesNoTrace request result.status → admitted = runtime
  noInternal : result.status ≠ .internal

section Versions
variable {versions : TripRuntimeVersions} {request : EventAdmissionRequest}
  {eventClass : TripEventClass}

theorem validateEpoch_active (h : versions.validateEpoch epoch = .accepted) : versions.active := by
  unfold TripRuntimeVersions.validateEpoch at h
  split at h
  · cases h
  rename_i hactive
  simpa using hactive

theorem previewAdvisory_active (h : versions.previewAdvisory epoch sequence expected = .accepted) :
    versions.active := by
  unfold TripRuntimeVersions.previewAdvisory at h
  split at h
  next hepoch => exact validateEpoch_active hepoch
  next href => exact absurd h href

theorem previewObservation_compares
    (h : versions.previewObservation epoch sequence expected advances = .accepted) :
    versions.previewAdvisory epoch sequence expected = .accepted := by
  unfold TripRuntimeVersions.previewObservation at h
  split at h
  next hcompared => exact hcompared
  next href => exact absurd h href

theorem previewObservation_mono
    (h : versions.previewObservation epoch sequence expected true = .accepted) :
    versions.previewObservation epoch sequence expected advances = .accepted := by
  have hcompared := previewObservation_compares h
  unfold TripRuntimeVersions.previewObservation at h ⊢
  rw [hcompared] at h ⊢
  cases advances with
  | true => exact h
  | false =>
    dsimp only at h ⊢
    split at h
    · cases h
    rename_i hroom
    simp only [Bool.true_and, Bool.or_eq_true, not_or] at hroom
    rw [if_neg (by simpa using hroom.1)]

theorem previewDurable_expects (hdur : isDurable eventClass)
    (h : previewEvent versions eventClass request = .accepted) :
    versions.Expects request ∧ versions.hasRoom := by
  simp only [previewEvent, hdur, if_true, advancesTripRevision,
    versions.previewDurable_eq request] at h
  rw [← versions.compare_accepted_iff]
  cases hcmp : versions.compare request with
  | accepted =>
    rw [hcmp] at h
    cases hroom : versions.hasRoom with
    | true => exact ⟨rfl, rfl⟩
    | false => simp [hroom] at h
  | _ => simp [hcmp] at h

theorem previewDurable_mono (hexp : versions.Expects request) (hroom : versions.hasRoom) :
    versions.previewDurable request.runtimeEpoch request.mutationSequence
      request.expectedTripRevision true request.expectedPlannerStateVersion advances =
        .accepted := by
  have hcmp := (versions.compare_accepted_iff request).mpr hexp
  simp only [TripRuntimeVersions.hasRoom, Bool.and_eq_true] at hroom
  unfold TripRuntimeVersions.compare at hcmp
  unfold TripRuntimeVersions.previewDurable
  rw [hcmp]
  simp [hroom.1.1, hroom.1.2, hroom.2]

theorem commitEvent_of_preview (h : previewEvent versions eventClass request = .accepted) :
    ∃ committed, commitEvent versions eventClass request planningInputChanged =
      (committed, .accepted) ∧ committed.active := by
  unfold commitEvent
  by_cases hdur : isDurable eventClass
  · obtain ⟨hexp, hroom⟩ := previewDurable_expects hdur h
    unfold TripRuntimeVersions.acceptDurable
    rw [advancesTripRevision, hdur, previewDurable_mono hexp hroom]
    exact ⟨_, rfl, hexp.active⟩
  · rw [previewEvent, if_neg hdur] at h
    rw [if_neg hdur]
    by_cases hadvisory : eventClass = .advisory
    · rw [if_pos hadvisory] at h
      rw [if_pos hadvisory]
      have hactive : versions.active := previewAdvisory_active h
      unfold TripRuntimeVersions.acceptAdvisory
      rw [h]
      exact ⟨_, rfl, hactive⟩
    · rw [if_neg hadvisory] at h
      rw [if_neg hadvisory]
      have hactive : versions.active := previewAdvisory_active (previewObservation_compares h)
      unfold TripRuntimeVersions.acceptObservation
      rw [previewObservation_mono h]
      exact ⟨_, rfl, hactive⟩

end Versions

section Admission
variable {runtime : TripRuntime} {request : EventAdmissionRequest} {bytes : Nat}
  {eventClass : TripEventClass}

theorem Transactional.refused (href : result.status ≠ .accepted)
    (hint : result.status ≠ .internal) : Transactional runtime request bytes runtime result := by
  refine ⟨?_, ?_, fun _ => rfl, hint⟩
  · rw [if_neg href]
  · rw [if_neg href]
    exact .inl rfl

theorem Transactional.consumed
    (hstatus : result.status ∈ [.commandExpired, .invalidArgument, .stale .planProposal])
    (hclass : request.event.payload.eventClass = some eventClass)
    (henv : envelopeMatches (isDurable eventClass) request)
    (huses : isDurable eventClass ∧ isCanonicalMirror eventClass = false)
    (hexp : runtime.versions.Expects request) :
    Transactional runtime request bytes
      { runtime with versions := runtime.versions.consume request.mutationSequence } result := by
  have hseq : usesSequence request := by simp [usesSequence, hclass, huses.1, huses.2]
  have hwellFormed : isMalformed request = false := by simp [isMalformed, hclass, henv]
  have href : result.status ≠ .accepted := by
    intro hacc
    simp [hacc] at hstatus
  refine ⟨?_, ?_, fun htrace => ?_, fun hint => ?_⟩
  · rw [if_neg href]
  · rw [if_neg href]
    exact .inr ⟨hseq, hstatus, hexp.sequence, rfl⟩
  · simp only [List.mem_cons, List.not_mem_nil, or_false] at hstatus
    obtain hstatus | hstatus | hstatus := hstatus <;>
      simp [leavesNoTrace, hseq, hwellFormed, hstatus] at htrace
  · simp [hint] at hstatus

theorem applyFailureStatus_mem (status : TripStateApplyStatus) : applyFailureStatus status ∈
      [EventCoordinatorStatus.commandExpired, .invalidArgument, .stale .planProposal] := by
  cases status <;> simp [applyFailureStatus]

theorem applyAdmitted_refused (hstatus : status ≠ .accepted)
    (h : applyTripEvent runtime.state request.event bytes =
      (runtime.state, ⟨status, false, false⟩)) :
    applyAdmitted runtime eventClass request bytes =
      if isDurable eventClass && !isCanonicalMirror eventClass then
        consumeTerminal runtime request (applyFailureStatus status)
      else (runtime, makeResult (applyFailureStatus status) runtime.versions) := by
  unfold applyAdmitted
  rw [h]
  cases status with
  | accepted => exact absurd rfl hstatus
  | invalidArgument => rfl
  | staleProposal => rfl

/-- The candidate state and the versions are committed together or not at all;
the trip of a new planning input is active. -/
structure AdmissionFacts (runtime : TripRuntime) (request : EventAdmissionRequest) (bytes : Nat)
    (outcome : TripRuntime × EventCoordinatorResult) : Prop where
  transactional : Transactional runtime request bytes outcome.1 outcome.2
  active : outcome.2.planningInputChanged → outcome.1.versions.active

theorem AdmissionFacts.unchanged (href : result.status ≠ .accepted)
    (hint : result.status ≠ .internal) (hchanged : result.planningInputChanged = false) :
    AdmissionFacts runtime request bytes (runtime, result) := by
  refine ⟨.refused href hint, fun hseeded => ?_⟩
  rw [show (runtime, result).2.planningInputChanged = false from hchanged] at hseeded
  cases hseeded

theorem applyAdmitted_facts (hclass : request.event.payload.eventClass = some eventClass)
    (henv : envelopeMatches (isDurable eventClass) request)
    (hprev : previewEvent runtime.versions eventClass request = .accepted) :
    AdmissionFacts runtime request bytes (applyAdmitted runtime eventClass request bytes) := by
  rcases applyTripEvent_cases with
    ⟨status, hstatus, href⟩ | ⟨mutated, -, hacc⟩
  · rw [applyAdmitted_refused hstatus href]
    have hfailed := applyFailureStatus_mem status
    by_cases huses : (isDurable eventClass && !isCanonicalMirror eventClass)
    · rw [if_pos huses]
      simp only [Bool.and_eq_true, Bool.not_eq_true'] at huses
      obtain ⟨hexp, -⟩ := previewDurable_expects huses.1 hprev
      rw [consumeTerminal_eq hexp]
      exact ⟨.consumed hfailed hclass henv huses hexp, fun hchanged => by cases hchanged⟩
    · have hother : applyFailureStatus status ≠ .internal := by
        intro hint
        simp [hint] at hfailed
      rw [if_neg huses]
      exact .unchanged applyFailureStatus_ne_accepted hother rfl
  · obtain ⟨committed, hcom, hactive⟩ := commitEvent_of_preview hprev
    unfold applyAdmitted
    rw [hacc]
    dsimp only
    rw [hcom]
    refine ⟨⟨?_, ?_, fun htrace => ?_, fun hint => by cases hint⟩, fun _ => hactive⟩
    · rw [if_pos rfl]
      exact hacc
    · rw [if_pos rfl]
      exact ⟨eventClass, hclass, hcom⟩
    · simp [leavesNoTrace, isMalformed, hclass, henv] at htrace

theorem coordinateEventAdmission_facts (runtime : TripRuntime) (request : EventAdmissionRequest)
    (currentTime : UnixTimeMilliseconds) (bytes : Nat) : AdmissionFacts runtime request bytes
    (coordinateEventAdmission runtime request currentTime bytes) := by
  have hmalformed : AdmissionFacts runtime request bytes
      (runtime, makeResult .invalidArgument runtime.versions) :=
    .unchanged (by simp [makeResult]) (by simp [makeResult]) rfl
  unfold coordinateEventAdmission
  cases hclass : request.event.payload.eventClass with
  | none => exact hmalformed
  | some eventClass =>
    dsimp only
    by_cases henv : envelopeMatches (isDurable eventClass) request
    · rw [if_neg (by simp [henv])]
      cases hprev : previewEvent runtime.versions eventClass request with
      | accepted =>
        by_cases hexp : (isDurable eventClass && !isCanonicalMirror eventClass &&
            isExpired request.event currentTime)
        · rw [if_pos hexp]
          simp only [Bool.and_eq_true, Bool.not_eq_true'] at hexp
          obtain ⟨hexpects, -⟩ := previewDurable_expects hexp.1.1 hprev
          rw [consumeTerminal_eq hexpects]
          exact ⟨.consumed (by simp [makeResult]) hclass henv hexp.1 hexpects,
            fun hchanged => by cases hchanged⟩
        · rw [if_neg hexp]
          exact applyAdmitted_facts hclass henv hprev
      | _ =>
        exact .unchanged (by simp [makeResult, mapVersionStatus])
          (by simp [makeResult, mapVersionStatus]) rfl
    · rw [if_pos (by simpa using henv)]
      exact hmalformed

end Admission

/-- Every admission is a transaction, and the preview is never contradicted. -/
theorem event_admission_transactional (runtime : TripRuntime) (request : EventAdmissionRequest)
    (currentTime : UnixTimeMilliseconds) (maxAdvisoryPayloadBytes : Nat) :
    Transactional runtime request maxAdvisoryPayloadBytes
      (admitEvent runtime request currentTime maxAdvisoryPayloadBytes).1
      (admitEvent runtime request currentTime maxAdvisoryPayloadBytes).2.1 := by
  obtain ⟨htransactional, hactive⟩ :=
    coordinateEventAdmission_facts runtime request currentTime maxAdvisoryPayloadBytes
  unfold admitEvent seedPlanning
  dsimp only
  split
  next hchanged =>
    rw [TripRuntimeVersions.capturePlanningWork, if_pos (hactive hchanged)]
    exact htransactional
  next => exact htransactional

end LiveRoute.Runtime
