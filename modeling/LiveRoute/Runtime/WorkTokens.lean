import LiveRoute.Library.Runs
import LiveRoute.Runtime.VersionTurns

/-! Fencing of planning work. The versions of a trip count up within an epoch
and restart under a higher one, so a captured token is good exactly until the
first call that supersedes it. -/
namespace LiveRoute.Runtime
open Domain
open UInt64 (le_refl le_trans le_iff_toNat_le lt_trans lt_iff_toNat_lt ne_of_lt)

namespace TripRuntimeVersions

structure Sound (versions : TripRuntimeVersions) : Prop where
  nonzero : versions.active → versions.snapshot.runtimeEpoch ≠ 0
  idle : versions.active = false → versions.snapshot.runtimeEpoch = 0
  watermark : versions.snapshot.finalizedMutationSequence.toNat ≤
    versions.snapshot.acceptedMutationSequence.toNat

theorem initial_sound : initial.Sound := ⟨by simp [initial], fun _ => rfl, Nat.le_refl _⟩

theorem Sound.call {versions : TripRuntimeVersions} (h : versions.Sound)
    (operation : VersionCall) : (versions.call operation).Sound := by
  cases versions.call_turn operation with
  | unchanged same =>
    rw [same]
    exact h
  | restarted active _ _ nonzero watermark =>
    refine ⟨fun _ => nonzero, fun hidle => ?_, by rw [watermark]⟩
    rw [active] at hidle
    cases hidle
  | advanced active _ epoch counts _ finalized =>
    refine ⟨fun _ => epoch ▸ h.nonzero active.1, fun hidle => ?_, ?_⟩
    · rw [active.2] at hidle
      cases hidle
    · have hwatermark := h.watermark
      rw [finalized]
      rcases counts.acceptedMutationSequence with hsame | hnext <;> omega
  | noted active _ epoch _ _ _ watermark =>
    refine ⟨fun _ => epoch ▸ h.nonzero active.1, fun hidle => ?_, watermark h.watermark⟩
    rw [active.2] at hidle
    cases hidle

theorem Sound.calls {versions : TripRuntimeVersions} (h : versions.Sound) :
    (versions.calls operations).Sound :=
  List.foldlRecOn operations TripRuntimeVersions.call h fun _ h operation _ => h.call operation

end TripRuntimeVersions

structure NeverFalls (before after : TripRuntimeVersionSnapshot) : Prop where
  tripRevision : before.tripRevision ≤ after.tripRevision
  plannerStateVersion : before.plannerStateVersion ≤ after.plannerStateVersion
  planningGeneration : before.planningGeneration ≤ after.planningGeneration
  acceptedMutationSequence : before.acceptedMutationSequence ≤ after.acceptedMutationSequence
  finalizedMutationSequence : before.finalizedMutationSequence ≤ after.finalizedMutationSequence
  acceptedObservationSequence :
    before.acceptedObservationSequence ≤ after.acceptedObservationSequence

theorem NeverFalls.refl : NeverFalls snapshot snapshot :=
  ⟨le_refl _, le_refl _, le_refl _, le_refl _, le_refl _, le_refl _⟩

theorem NeverFalls.trans (hfirst : NeverFalls first second) (hsecond : NeverFalls second third) :
    NeverFalls first third where
  tripRevision := le_trans hfirst.tripRevision hsecond.tripRevision
  plannerStateVersion := le_trans hfirst.plannerStateVersion hsecond.plannerStateVersion
  planningGeneration := le_trans hfirst.planningGeneration hsecond.planningGeneration
  acceptedMutationSequence :=
    le_trans hfirst.acceptedMutationSequence hsecond.acceptedMutationSequence
  finalizedMutationSequence :=
    le_trans hfirst.finalizedMutationSequence hsecond.finalizedMutationSequence
  acceptedObservationSequence :=
    le_trans hfirst.acceptedObservationSequence hsecond.acceptedObservationSequence

theorem CountsUp.neverFalls (h : CountsUp before after) : NeverFalls before after where
  tripRevision := le_iff_toNat_le.mpr (by have := h.tripRevision; omega)
  plannerStateVersion := le_iff_toNat_le.mpr (by have := h.plannerStateVersion; omega)
  planningGeneration := le_iff_toNat_le.mpr (by have := h.planningGeneration; omega)
  acceptedMutationSequence := le_iff_toNat_le.mpr (by have := h.acceptedMutationSequence; omega)
  finalizedMutationSequence := le_iff_toNat_le.mpr h.finalizedMutationSequence
  acceptedObservationSequence := le_iff_toNat_le.mpr h.acceptedObservationSequence

def Follows (before after : TripRuntimeVersionSnapshot) : Prop :=
  before.runtimeEpoch < after.runtimeEpoch ∨
    before.runtimeEpoch = after.runtimeEpoch ∧ NeverFalls before after

theorem Follows.trans
    (hfirst : Follows first second) (hsecond : Follows second third) : Follows first third := by
  rcases hfirst with hlower | ⟨hsame, hcounts⟩
  · rcases hsecond with hlower' | ⟨hsame', -⟩
    · exact .inl (lt_trans hlower hlower')
    · exact .inl (hsame' ▸ hlower)
  · rcases hsecond with hlower' | ⟨hsame', hcounts'⟩
    · exact .inl (hsame ▸ hlower')
    · exact .inr ⟨hsame.trans hsame', hcounts.trans hcounts'⟩

namespace TripRuntimeVersions

theorem Sound.call_counts {versions : TripRuntimeVersions} (h : versions.Sound) :
    versions.snapshot.runtimeEpoch < (versions.call operation).snapshot.runtimeEpoch ∨
      versions.snapshot.runtimeEpoch = (versions.call operation).snapshot.runtimeEpoch ∧
        CountsUp versions.snapshot (versions.call operation).snapshot := by
  cases versions.call_turn operation with
  | unchanged same =>
    rw [same]
    exact .inr ⟨rfl, CountsUp.refl⟩
  | restarted _ _ epoch nonzero =>
    left
    cases hactive : versions.active with
    | true => exact lt_iff_toNat_lt.mpr (epoch hactive)
    | false =>
      rw [h.idle hactive]
      exact UInt64.pos_iff_ne_zero.mpr nonzero
  | advanced _ _ epoch counts => exact .inr ⟨epoch.symm, counts⟩
  | noted _ _ epoch counts => exact .inr ⟨epoch.symm, counts⟩

theorem Sound.calls_follow {versions : TripRuntimeVersions} (h : versions.Sound) :
    Follows versions.snapshot (versions.calls operations).snapshot := by
  induction operations generalizing versions with
  | nil => exact .inr ⟨rfl, .refl⟩
  | cons operation _ ih =>
    have hfirst : Follows versions.snapshot (versions.call operation).snapshot :=
      h.call_counts.imp_right fun hsame => ⟨hsame.1, hsame.2.neverFalls⟩
    exact hfirst.trans (ih (h.call operation))

structure Past (token : PlanningWorkToken) (versions : TripRuntimeVersions) : Prop where
  active : versions.active
  later : token.runtimeEpoch < versions.snapshot.runtimeEpoch ∨
    token.runtimeEpoch = versions.snapshot.runtimeEpoch ∧
      (token.plannerStateVersion < versions.snapshot.plannerStateVersion ∨
        token.plannerStateVersion = versions.snapshot.plannerStateVersion ∧
          token.planningGeneration = versions.snapshot.planningGeneration)

section Past
variable {token : PlanningWorkToken} {versions : TripRuntimeVersions}

theorem canCommitPlanningWork_iff (token : PlanningWorkToken) (h : versions.Sound)
    (hactive : versions.active) : versions.canCommitPlanningWork token ↔
    token.runtimeEpoch = versions.snapshot.runtimeEpoch ∧
    token.plannerStateVersion = versions.snapshot.plannerStateVersion ∧
    token.planningGeneration = versions.snapshot.planningGeneration := by
  simp only [canCommitPlanningWork, hactive, Bool.true_and, Bool.and_eq_true, Bool.not_eq_true',
    beq_eq_false_iff_ne, beq_iff_eq, and_assoc]
  constructor
  · exact And.right
  · intro hsame
    exact ⟨hsame.1 ▸ h.nonzero hactive, hsame⟩

theorem past_of_capture (h : versions.capturePlanningWork = some token) : Past token versions := by
  unfold capturePlanningWork at h
  split at h
  next hactive =>
    cases h
    exact ⟨hactive, .inr ⟨rfl, .inr ⟨rfl, rfl⟩⟩⟩
  next => cases h

theorem Past.call (hsound : versions.Sound) (h : Past token versions) :
    Past token (versions.call operation) ∧ ((versions.call operation).canCommitPlanningWork token ↔
        versions.canCommitPlanningWork token ∧ versions.supersedes operation = false) := by
  have hbefore := canCommitPlanningWork_iff token hsound h.active
  cases versions.call_turn operation with
  | unchanged same kept => simp [same, kept, h]
  | restarted active superseded epoch =>
    have hhigher := lt_iff_toNat_lt.mpr (epoch h.active)
    have hpast : token.runtimeEpoch < (versions.call operation).snapshot.runtimeEpoch := by
      rcases h.later with hlower | ⟨hsame, -⟩
      · exact lt_trans hlower hhigher
      · rw [hsame]
        exact hhigher
    refine ⟨⟨active, .inl hpast⟩, ?_⟩
    rw [canCommitPlanningWork_iff token (hsound.call operation) active, superseded]
    refine iff_of_false (fun hsame => ?_) (by simp)
    exact ne_of_lt hpast hsame.1
  | advanced active superseded epoch _ version =>
    have hcounted : versions.snapshot.plannerStateVersion <
        (versions.call operation).snapshot.plannerStateVersion := by
      rw [lt_iff_toNat_lt, version]
      exact Nat.lt_succ_self _
    have hpast : token.runtimeEpoch < versions.snapshot.runtimeEpoch ∨
        token.runtimeEpoch = versions.snapshot.runtimeEpoch ∧ token.plannerStateVersion <
          (versions.call operation).snapshot.plannerStateVersion := by
      rcases h.later with hlower | ⟨hsame, hbehind | ⟨hequal, -⟩⟩
      · exact .inl hlower
      · exact .inr ⟨hsame, lt_trans hbehind hcounted⟩
      · exact .inr ⟨hsame, hequal ▸ hcounted⟩
    rw [← epoch] at hpast
    refine ⟨⟨active.2, hpast.imp_right fun hsame => ⟨hsame.1, .inl hsame.2⟩⟩, ?_⟩
    rw [canCommitPlanningWork_iff token (hsound.call operation) active.2, superseded]
    refine iff_of_false (fun hsame => ?_) (by simp)
    rcases hpast with hlower | ⟨-, hbehind⟩
    · exact ne_of_lt hlower hsame.1
    · exact ne_of_lt hbehind hsame.2.1
  | noted active kept epoch _ version generation =>
    have hlater := h.later
    rw [← epoch, ← version, ← generation] at hlater hbefore
    refine ⟨⟨active.2, hlater⟩, ?_⟩
    rw [canCommitPlanningWork_iff token (hsound.call operation) active.2, hbefore, kept]
    simp

end Past

/-- A captured token can be committed exactly until an accepted durable event,
observation or higher-epoch bootstrap. Counters never wrap: within an epoch each
call keeps them or counts up, and finalized work never passes accepted work. -/
theorem planning_work_fenced (history later : List VersionCall) :
    let versions := initial.calls history
    (∀ token, versions.capturePlanningWork = some token →
      ((versions.calls later).canCommitPlanningWork token ↔
        Runs.Along call (fun held operation => held.supersedes operation = false) versions later)) ∧
      versions.snapshot.finalizedMutationSequence ≤ versions.snapshot.acceptedMutationSequence ∧
      (∀ operation,
        (versions.call operation).snapshot.runtimeEpoch = versions.snapshot.runtimeEpoch →
          CountsUp versions.snapshot (versions.call operation).snapshot) ∧
      ((versions.calls later).snapshot.runtimeEpoch = versions.snapshot.runtimeEpoch →
        NeverFalls versions.snapshot (versions.calls later).snapshot) := by
  intro versions
  have hsound : versions.Sound := initial_sound.calls
  refine ⟨fun token hcapture => ?_, le_iff_toNat_le.mpr hsound.watermark,
    fun operation hepoch => ?_, fun hepoch => ?_⟩
  · have hpast := past_of_capture hcapture
    have hstart : versions.canCommitPlanningWork token := by
      rw [canCommitPlanningWork_iff token hsound hpast.active]
      unfold capturePlanningWork at hcapture
      rw [if_pos hpast.active] at hcapture
      cases hcapture
      exact ⟨rfl, rfl, rfl⟩
    have hstep : ∀ (held : TripRuntimeVersions) (operation : VersionCall),
        held.Sound ∧ Past token held →
        ((held.call operation).canCommitPlanningWork token ↔
          held.canCommitPlanningWork token ∧ held.supersedes operation = false) :=
      fun held operation h => (h.2.call h.1).2
    have hkept : ∀ (held : TripRuntimeVersions) (operation : VersionCall), held.Sound ∧
        Past token held → (held.call operation).Sound ∧ Past token (held.call operation) :=
      fun held operation h => ⟨h.1.call operation, (h.2.call h.1).1⟩
    have hrun := @Runs.foldl_iff_along_of_invariant _ _ call
      (fun held => held.Sound ∧ Past token held)
        (fun held => held.canCommitPlanningWork token)
      (fun held operation => held.supersedes operation = false) hkept hstep _ ⟨hsound, hpast⟩ later
    exact hrun.trans (and_iff_right hstart)
  · rcases hsound.call_counts with hhigher | ⟨-, hcounts⟩
    · exact absurd hepoch.symm (ne_of_lt hhigher)
    · exact hcounts
  · rcases hsound.calls_follow with hhigher | ⟨-, hcounts⟩
    · exact absurd hepoch.symm (ne_of_lt hhigher)
    · exact hcounts

/-- An advisory leaves the work of a new trip good, an observation does not. -/
theorem planning_work_fenced_newTrip :
    let versions := initial.calls [.bootstrap 1 1 0 0]
    (versions.calls [.acceptAdvisory 1 1 none]).canCommitPlanningWork ⟨1, 0, 0⟩ ∧
      (versions.calls [.acceptObservation 1 1 none true]).canCommitPlanningWork ⟨1, 0, 0⟩ =
        false := by
  have hadvisory := (planning_work_fenced [.bootstrap 1 1 0 0] [.acceptAdvisory 1 1 none]).1
    ⟨1, 0, 0⟩ (by decide)
  have hobserved := (planning_work_fenced [.bootstrap 1 1 0 0]
    [.acceptObservation 1 1 none true]).1 ⟨1, 0, 0⟩ (by decide)
  exact ⟨hadvisory.mpr (by decide),
    Bool.eq_false_iff.mpr fun h => absurd (hobserved.mp h) (by decide)⟩

end TripRuntimeVersions

end LiveRoute.Runtime
