import LiveRoute.Runtime.SingleAttempt

/-! The fence around planning results. A seed remembers the versions it was taken
under; as long as no epoch is used twice, a result whose token is still current
was computed from the trip as it is. -/
namespace LiveRoute.Runtime
open Domain Planner
open TripShard (initial step run)

variable {shard : TripShard} {action : ShardStep}

def planningInput (state : TripState) : TripState := { state with activeProposal := none }

structure CurrentSeed (runtime : TripRuntime) (seed : ImmutablePlanningSeed) : Prop where
  version : seed.workToken.plannerStateVersion = runtime.versions.snapshot.plannerStateVersion
  input : planningInput seed.state = planningInput runtime.state
  revision : seed.sourceVersions.tripRevision = runtime.versions.snapshot.tripRevision
  accepted : seed.sourceVersions.acceptedMutationSequence.toNat ≤
    runtime.versions.snapshot.acceptedMutationSequence.toNat

structure ShapedSeed (seed : ImmutablePlanningSeed) : Prop where
  epoch : seed.workToken.runtimeEpoch = seed.sourceVersions.runtimeEpoch
  version : seed.workToken.plannerStateVersion = seed.sourceVersions.plannerStateVersion

/-- Within its epoch the trip has left the seed behind, or stands where it was
taken. -/
def TrackedSeed (runtime : TripRuntime) (seed : ImmutablePlanningSeed) : Prop :=
  seed.workToken.runtimeEpoch = runtime.versions.snapshot.runtimeEpoch →
    seed.workToken.plannerStateVersion.toNat <
      runtime.versions.snapshot.plannerStateVersion.toNat ∨ CurrentSeed runtime seed

section Seeds
variable {runtime after : TripRuntime} {seed : ImmutablePlanningSeed}

theorem TrackedSeed.current (h : TrackedSeed runtime seed)
    (htoken : runtime.versions.canCommitPlanningWork seed.workToken) :
    seed.workToken.runtimeEpoch = runtime.versions.snapshot.runtimeEpoch ∧
      CurrentSeed runtime seed := by
  simp only [TripRuntimeVersions.canCommitPlanningWork, Bool.and_eq_true, beq_iff_eq] at htoken
  obtain ⟨⟨⟨-, hepoch⟩, hver⟩, -⟩ := htoken
  refine ⟨hepoch, ?_⟩
  rcases h hepoch with hbehind | hcur
  · rw [hver] at hbehind
    exact absurd hbehind (Nat.lt_irrefl _)
  · exact hcur

theorem TrackedSeed.noted (h : TrackedSeed runtime seed) (hnoted : Noted runtime after) :
    TrackedSeed after seed := by
  intro hepoch
  rw [hnoted.epoch] at hepoch
  rcases h hepoch with hbehind | hcur
  · exact .inl (hnoted.version ▸ hbehind)
  · exact .inr ⟨hcur.version.trans hnoted.version.symm, hnoted.state ▸ hcur.input,
      hcur.revision.trans hnoted.revision.symm, hcur.accepted.trans hnoted.accepted⟩

theorem TrackedSeed.advanced (h : TrackedSeed runtime seed) (hadvanced : Advanced runtime after) :
    TrackedSeed after seed := by
  intro hepoch
  rw [hadvanced.epoch] at hepoch
  rw [hadvanced.version]
  rcases h hepoch with hbehind | hcur
  · exact .inl (Nat.lt_succ_of_lt hbehind)
  · exact .inl (by rw [hcur.version]; exact Nat.lt_succ_self _)

theorem TrackedSeed.committed (h : TrackedSeed runtime seed)
    (hcommit : CommitTurn runtime pending after) : TrackedSeed after seed := by
  cases hcommit with
  | kept => exact h
  | committed =>
    intro hepoch
    rcases h hepoch with hbehind | hcur
    · exact .inl hbehind
    · exact .inr ⟨hcur.version, hcur.input, hcur.revision, hcur.accepted⟩

theorem SeedOf.shaped {trigger : TripEventPayload} (h : SeedOf runtime trigger seed) :
    ShapedSeed seed ∧ TrackedSeed runtime seed := by
  have hcap := h.captured
  unfold TripRuntimeVersions.capturePlanningWork at hcap
  split at hcap
  next =>
    rw [Option.some.injEq] at hcap
    have hver : seed.workToken.plannerStateVersion =
        runtime.versions.snapshot.plannerStateVersion := by rw [← hcap]
    refine ⟨⟨?_, ?_⟩, fun _ => .inr ⟨hver, by rw [h.state], by rw [h.versions], ?_⟩⟩
    · rw [← hcap, h.versions]
    · rw [hver, h.versions]
    · rw [h.versions]
  next => cases hcap

end Seeds

structure FencedSeed (runtime : TripRuntime) (pending : PendingPlanning) : Prop where
  shaped : ShapedSeed pending.seed
  tracked : TrackedSeed runtime pending.seed

theorem Coalesces.fenced (hcoal : Coalesces pending replacement retained)
    (h : FencedSeed runtime pending) : FencedSeed runtime replacement := by
  obtain ⟨⟨hepoch, hver⟩, htrk⟩ := h
  refine ⟨⟨?_, ?_⟩, fun hcur => ?_⟩
  · rw [hcoal.token, hcoal.versions, hepoch]
  · rw [hcoal.token, hcoal.versions, hver]
  · rw [hcoal.token] at hcur ⊢
    refine (htrk hcur).imp_right fun hseed => ?_
    exact ⟨hcoal.token ▸ hseed.version, hcoal.state ▸ hseed.input,
      hcoal.versions ▸ hseed.revision, hcoal.versions ▸ hseed.accepted⟩

structure FencedWork (runtime : TripRuntime) (work : TripWork) : Prop where
  ends : work.trip.runtime = runtime
  started : ∀ pending, work.started = some pending → FencedSeed runtime pending
  waiting : ∀ pending, work.trip.pending = some pending → FencedSeed runtime pending

section Work
variable {trip : ShardTrip} {view : ShardView} {pending : PendingPlanning} {work : TripWork}

theorem Dispatched.fenced (h : Dispatched trip pending work)
    (hpend : FencedSeed trip.runtime pending)
    (hwait : ∀ other, trip.pending = some other → FencedSeed trip.runtime other) :
    FencedWork trip.runtime work := by
  cases h with
  | started =>
    refine ⟨rfl, fun other hstart => ?_, hwait⟩
    cases hstart
    exact hpend
  | refused => exact ⟨rfl, fun other hstart => (by cases hstart), hwait⟩

theorem PendingTurn.fenced (h : PendingTurn trip view work)
    (hwait : ∀ other, trip.pending = some other → FencedSeed trip.runtime other) :
    FencedWork trip.runtime work := by
  cases h with
  | kept => exact ⟨rfl, fun other hstart => (by cases hstart), hwait⟩
  | sent held dispatched => exact dispatched.fenced (hwait _ held) fun other hnone => by cases hnone

theorem Planned.fenced (h : Planned trip view pending work)
    (hpend : FencedSeed trip.runtime pending)
    (hwait : ∀ other, trip.pending = some other → FencedSeed trip.runtime other) :
    FencedWork trip.runtime work := by
  cases h with
  | refused => exact ⟨rfl, fun other hstart => (by cases hstart), hwait⟩
  | queued _ _ coalesces =>
    refine ⟨rfl, fun other hstart => (by cases hstart), fun other hother => ?_⟩
    cases hother
    exact coalesces.fenced hpend
  | merged _ _ _ coalesces turn =>
    refine turn.fenced fun other hother => ?_
    cases hother
    exact coalesces.fenced hpend
  | fresh _ _ _ dispatched => exact dispatched.fenced hpend hwait

theorem FencedWork.after (h : FencedWork runtime work) : FencedWork runtime (work.after effect) :=
  ⟨h.ends, h.started, h.waiting⟩

end Work

def FreshProposal (runtime : TripRuntime) : Prop :=
  ∀ stored, runtime.state.activeProposal = some stored →
    stored.proposal.sourceRuntimeEpoch = runtime.versions.snapshot.runtimeEpoch ∧
      stored.proposal.sourcePlannerStateVersion = runtime.versions.snapshot.plannerStateVersion ∧
      stored.proposal.sourceTripRevision = runtime.versions.snapshot.tripRevision ∧
      stored.proposal.baseCurrentPlanId = runtime.state.currentPlan.planId ∧
      stored.proposal.sourceAcceptedMutationSequence.toNat ≤
        runtime.versions.snapshot.acceptedMutationSequence.toNat

structure SoundRuntime (runtime : TripRuntime) : Prop where
  active : runtime.versions.active
  valid : runtime.state.isValid
  fresh : FreshProposal runtime

inductive RuntimeTurn (runtime : TripRuntime) : TripRuntime → Prop
  | noted {after : TripRuntime} (kept : Noted runtime after) : RuntimeTurn runtime after
  | advanced {after : TripRuntime} (moved : Advanced runtime after) : RuntimeTurn runtime after
  | committed {after : TripRuntime} {pending : PendingPlanning}
      (current : runtime.versions.canCommitPlanningWork pending.seed.workToken)
      (fenced : FencedSeed runtime pending) (commit : CommitTurn runtime pending after) :
      RuntimeTurn runtime after

theorem RuntimeTurn.tracked
    (h : RuntimeTurn runtime after) (hseed : TrackedSeed runtime seed) :
    TrackedSeed after seed := by
  cases h with
  | noted kept => exact hseed.noted kept
  | advanced moved => exact hseed.advanced moved
  | committed _ _ commit => exact hseed.committed commit

theorem RuntimeTurn.epoch (h : RuntimeTurn runtime after) :
    after.versions.snapshot.runtimeEpoch = runtime.versions.snapshot.runtimeEpoch := by
  cases h with
  | noted kept => exact kept.epoch
  | advanced moved => exact moved.epoch
  | committed _ _ commit => cases commit <;> rfl

theorem assembled_source (h : assembleStoredPlanProposal pending report = some stored) :
    ∃ preservedPrefix revisedSuffix,
      stored.proposal = pending.proposalSource.propose preservedPrefix revisedSuffix := by
  unfold assembleStoredPlanProposal at h
  split at h
  next preservedPrefix revisedSuffix _ _ _ =>
    dsimp only at h
    split at h
    next =>
      cases h
      exact ⟨preservedPrefix, revisedSuffix, rfl⟩
    next => cases h
  next => cases h

theorem isValid_proposed {state : TripState} {stored : StoredPlanProposal}
    (hvalid : state.isValid) (hfits : stored.isValidFor state.activities)
    (hbase : stored.proposal.baseCurrentPlanId = state.currentPlan.planId) :
    ({ state with activeProposal := some stored } : TripState).isValid := by
  rw [TripState.isValid_iff] at hvalid ⊢
  obtain ⟨hzone, hcount, hcomp, hacts, hdist, hplan, hprog, hobs, hdelays, -⟩ := hvalid
  refine ⟨hzone, hcount, hcomp, hacts, hdist, hplan, hprog, hobs, hdelays, ?_⟩
  simp [hfits, hbase]

theorem SoundRuntime.turn (h : SoundRuntime runtime)
    (hturn : RuntimeTurn runtime after) : SoundRuntime after := by
  cases hturn with
  | noted kept =>
    refine ⟨kept.active.trans h.active, kept.state ▸ h.valid, fun stored hstored => ?_⟩
    rw [kept.state] at hstored
    obtain ⟨hepoch, hver, hrev, hbase, hacc⟩ := h.fresh stored hstored
    exact ⟨hepoch.trans kept.epoch.symm, hver.trans kept.version.symm,
      hrev.trans kept.revision.symm, kept.state ▸ hbase, hacc.trans kept.accepted⟩
  | advanced moved =>
    refine ⟨moved.active.2, moved.valid, fun stored hstored => ?_⟩
    rw [moved.cleared] at hstored
    cases hstored
  | committed current fenced commit =>
    cases commit with
    | kept => exact h
    | committed assembled base valid fits =>
      refine ⟨h.active, isValid_proposed valid fits base, fun stored hstored => ?_⟩
      cases hstored
      obtain ⟨preservedPrefix, revisedSuffix, hprop⟩ := assembled_source assembled
      obtain ⟨hepoch, hcur⟩ := fenced.tracked.current current
      refine ⟨?_, ?_, ?_, base, ?_⟩
      · rw [hprop]
        exact fenced.shaped.epoch.symm.trans hepoch
      · rw [hprop]
        exact fenced.shaped.version.symm.trans hcur.version
      · rw [hprop]
        exact hcur.revision
      · rw [hprop]
        exact hcur.accepted

theorem Bootstrapped.sound (h : Bootstrapped request runtime) : SoundRuntime runtime := by
  refine ⟨h.active, h.state ▸ h.valid, fun stored hstored => ?_⟩
  rw [h.state, h.unproposed] at hstored
  cases hstored

structure Fenced (shard : TripShard) : Prop where
  shaped : ∀ pending ∈ shard.outstanding, ShapedSeed pending.seed
  tracked : ∀ trip, shard.trip = some trip → ∀ pending ∈ shard.outstanding,
    TrackedSeed trip.runtime pending.seed
  waiting : ∀ trip, shard.trip = some trip → ∀ pending, trip.pending = some pending →
    FencedSeed trip.runtime pending
  sound : ∀ trip, shard.trip = some trip → SoundRuntime trip.runtime

def TripShard.bootstrapEpoch? (shard : TripShard) : ShardStep → Option UInt64
  | .runTask lane capacity =>
    match popLane lane shard.queue with
    | some (.bootstrap request streamBinding, _) =>
      if (bootstrapTrip capacity.tripPlace shard.trip request streamBinding).2.status = .accepted
      then some request.runtimeEpoch
      else none
    | _ => none
  | _ => none

def TripShard.reusesEpoch (shard : TripShard) (action : ShardStep) : Bool :=
  (shard.bootstrapEpoch? action).any fun epoch =>
    shard.outstanding.any fun pending => pending.seed.sourceVersions.runtimeEpoch == epoch

theorem bootstrapEpoch_accepted
    (hpopped : popLane lane shard.queue = some (.bootstrap request streamBinding, rest)) :
    shard.bootstrapEpoch? (.runTask lane capacity) =
      if (bootstrapTrip capacity.tripPlace shard.trip request streamBinding).2.status = .accepted
      then some request.runtimeEpoch else none := by
  simp only [TripShard.bootstrapEpoch?, hpopped]

theorem AdmitTurn.runtimeTurn
    (h : AdmitTurn trip payload admitted result seed) : RuntimeTurn trip.runtime admitted := by
  cases h with
  | quiet kept => exact .noted kept
  | refreshed kept => exact .noted kept
  | advanced moved => exact .advanced moved
  | avoided moved => exact .advanced moved

theorem AdmitTurn.seedOf
    (h : AdmitTurn trip payload admitted result (some seed)) : SeedOf admitted payload seed := by
  cases h with
  | refreshed _ _ _ _ _ seeded => exact seeded
  | advanced _ _ _ seeded => exact seeded

theorem FencedSeed.turn (h : FencedSeed runtime pending) (hturn : RuntimeTurn runtime after) :
    FencedSeed after pending :=
  ⟨h.shaped, hturn.tracked h.tracked⟩

theorem EventTurn.fenced (h : EventTurn trip view bytes request work)
    (hwait : ∀ other, trip.pending = some other → FencedSeed trip.runtime other) :
    ∃ after, RuntimeTurn trip.runtime after ∧ FencedWork after work := by
  cases h with
  | closed =>
    exact ⟨trip.runtime, .noted (.refl _), rfl, fun other hstart => (by cases hstart), hwait⟩
  | @noted admitted _ _ _ admission =>
    have hturn := admission.runtimeTurn
    exact ⟨admitted, hturn, rfl, fun other hstart => (by cases hstart),
      fun other hother => (hwait other hother).turn hturn⟩
  | @planned admitted _ _ _ _ _ admission plan =>
    have hturn := admission.runtimeTurn
    obtain ⟨hshaped, htrk⟩ := admission.seedOf.shaped
    have hwork := plan.fenced ⟨hshaped, htrk⟩ fun other hother => (hwait other hother).turn hturn
    exact ⟨admitted, hturn, hwork.after⟩

theorem FinishTurn.fenced (h : FinishTurn trip view pending work)
    (hpend : FencedSeed trip.runtime pending)
    (hwait : ∀ other, trip.pending = some other → FencedSeed trip.runtime other) :
    ∃ after, RuntimeTurn trip.runtime after ∧ FencedWork after work := by
  cases h with
  | stale _ turn => exact ⟨trip.runtime, .noted (.refl _), turn.fenced hwait⟩
  | @delivered _ committed _ current commit turn =>
    have hturn : RuntimeTurn trip.runtime committed := .committed current hpend commit
    have hwork := turn.fenced fun other hother => (hwait other hother).turn hturn
    exact ⟨committed, hturn, hwork.after⟩

theorem Fenced.of_work {after : TripShard} (h : Fenced shard) (hheld : shard.trip = some trip)
    (hturn : RuntimeTurn trip.runtime runtime) (hwork : FencedWork runtime work)
    (htrip : after.trip = some work.trip)
    (hout : ∀ pending ∈ after.outstanding, pending ∈ shard.outstanding ∨
      work.started = some pending) : Fenced after := by
  have hends := hwork.ends
  refine ⟨fun pending hmem => ?_, fun left hleft => ?_, fun left hleft => ?_, fun left hleft => ?_⟩
  · rcases hout pending hmem with hold | hstart
    · exact h.shaped pending hold
    · exact (hwork.started pending hstart).shaped
  all_goals
    rw [htrip] at hleft
    cases hleft
    rw [hends]
  · intro pending hmem
    rcases hout pending hmem with hold | hstart
    · exact hturn.tracked (h.tracked trip hheld pending hold)
    · exact (hwork.started pending hstart).tracked
  · exact hwork.waiting
  · exact (h.sound trip hheld).turn hturn

theorem ControlTurn.runtimeTurn (h : ControlTurn trip (some after)) :
    RuntimeTurn trip.runtime after.runtime := by
  cases h with
  | kept noted => exact .noted noted

theorem Bootstrapped.tracked (h : Bootstrapped request runtime) (hshaped : ShapedSeed seed)
    (hother : seed.sourceVersions.runtimeEpoch ≠ request.runtimeEpoch) :
    TrackedSeed runtime seed := by
  intro hepoch
  rw [hshaped.epoch, h.epoch] at hepoch
  exact absurd hepoch hother

theorem Fenced.bootstrap (h : Fenced shard) (hturn : BootstrapTurn request shard.trip left result)
    (hsafe : result.status = .accepted → ∀ pending ∈ shard.outstanding,
      pending.seed.sourceVersions.runtimeEpoch ≠ request.runtimeEpoch) :
    Fenced { shard with queue := queue, trip := left } := by
  obtain ⟨hshaped, htrk, hwait, hsound⟩ := h
  have hrestarted : ∀ after : ShardTrip, Bootstrapped request after.runtime →
      after.pending = none → result.status = .accepted →
      Fenced { shard with queue := queue, trip := some after } := by
    intro after hboot hfree hacc
    refine ⟨hshaped, fun trip hheld => ?_, fun trip hheld => ?_, fun trip hheld => ?_⟩
    all_goals cases hheld
    · exact fun pending hmem => hboot.tracked (hshaped pending hmem) (hsafe hacc pending hmem)
    · intro pending hpend
      rw [hfree] at hpend
      cases hpend
    · exact hboot.sound
  generalize shard.trip = before at *
  cases hturn with
  | refused => exact ⟨hshaped, htrk, hwait, hsound⟩
  | @rebound trip =>
    refine ⟨hshaped, fun after hafter => ?_, fun after hafter => ?_, fun after hafter => ?_⟩
    all_goals cases hafter
    · exact htrk trip rfl
    · exact hwait trip rfl
    · exact hsound trip rfl
  | inserted bootstrapped _ free status => exact hrestarted _ bootstrapped free status
  | replaced bootstrapped _ free status => exact hrestarted _ bootstrapped free status

theorem Fenced.turn (h : Fenced shard) (hturn : StepTurn shard action after effects)
    (hsafe : shard.reusesEpoch action = false) : Fenced after := by
  cases hturn with
  | quiet trip outstanding =>
    refine ⟨fun pending hmem => h.shaped pending (outstanding.mem_iff.mp hmem),
      fun held hheld pending hmem => h.tracked held (trip ▸ hheld) pending
        (outstanding.mem_iff.mp hmem),
      fun held hheld => h.waiting held (trip ▸ hheld),
        fun held hheld => h.sound held (trip ▸ hheld)⟩
  | @bootstrapped _ capacity request streamBinding _ label popped =>
    subst label
    exact h.bootstrap (bootstrapTrip_turn capacity.tripPlace shard.trip request streamBinding)
      fun hacc => by simpa [TripShard.reusesEpoch, bootstrapEpoch_accepted popped, hacc] using hsafe
  | applied _ _ held turn =>
    obtain ⟨runtime, hrun, hwork⟩ := turn.fenced (h.waiting _ held)
    refine h.of_work held hrun hwork rfl fun pending hmem => ?_
    simp only [TripShard.outstanding, List.mem_append, Option.mem_toList] at hmem ⊢
    tauto
  | controlled _ _ held turn =>
    cases turn with
    | erased =>
      exact ⟨h.shaped, fun trip hnone => (by cases hnone), fun trip hnone => (by cases hnone),
        fun trip hnone => (by cases hnone)⟩
    | @kept left noted _ pending =>
      have hrun : RuntimeTurn _ left.runtime := .noted noted
      refine ⟨h.shaped, fun trip hleft => ?_, fun trip hleft => ?_, fun trip hleft => ?_⟩
      all_goals cases hleft
      · exact fun other hmem => hrun.tracked (h.tracked _ held other hmem)
      · intro other hother
        rcases pending with hsame | hnone
        · exact (h.waiting _ held other (hsame ▸ hother)).turn hrun
        · rw [hnone] at hother
          cases hother
      · exact (h.sound _ held).turn hrun
  | dropped posted missing =>
    refine ⟨fun pending hmem => h.shaped pending ?_, fun trip hheld => ?_, fun trip hheld => ?_,
      fun trip hheld => ?_⟩
    · simp only [TripShard.outstanding, posted, List.map_cons, List.mem_append,
        List.mem_cons] at hmem ⊢
      tauto
    all_goals
      rw [missing] at hheld
      cases hheld
  | @finished completion _ _ _ _ _ posted held turn =>
    have hmem : completion.pending ∈ shard.outstanding := by simp [TripShard.outstanding, posted]
    obtain ⟨runtime, hrun, hwork⟩ := turn.fenced
      ⟨h.shaped _ hmem, h.tracked _ held _ hmem⟩ (h.waiting _ held)
    refine h.of_work held hrun hwork rfl fun pending hmem => ?_
    simp only [TripShard.outstanding, posted, List.map_cons, List.mem_append, List.mem_cons,
      Option.mem_toList] at hmem ⊢
    tauto

theorem fenced_initial : Fenced (initial bytes) :=
  ⟨by simp [initial, TripShard.outstanding], fun trip hnone => (by cases hnone),
    fun trip hnone => (by cases hnone), fun trip hnone => (by cases hnone)⟩

theorem Fenced.run (h : Fenced shard)
    (hepochs : Runs.Along TripShard.next (fun shard action => shard.reusesEpoch action = false)
      shard history) : Fenced (shard.run history) :=
  Runs.foldl_of_along (fun shard action h hsafe => h.turn (step_turn shard action) hsafe) h hepochs

def RunsUnder (epoch : UInt64) (shard : TripShard) : Prop :=
  ∀ trip, shard.trip = some trip → trip.runtime.versions.snapshot.runtimeEpoch = epoch

theorem RunsUnder.turn (h : RunsUnder epoch shard) (hfenced : Fenced shard)
    (hturn : StepTurn shard action after effects) (hkept : shard.bootstrapEpoch? action = none) :
    RunsUnder epoch after := by
  intro left hleft
  cases hturn with
  | quiet trip => exact h left (trip ▸ hleft)
  | @bootstrapped _ capacity request streamBinding _ label popped =>
    subst label
    rw [bootstrapEpoch_accepted popped] at hkept
    have hturn := bootstrapTrip_turn capacity.tripPlace shard.trip request streamBinding
    generalize bootstrapTrip capacity.tripPlace shard.trip request streamBinding = outcome at *
    obtain ⟨placed, result⟩ := outcome
    dsimp only at hleft hturn hkept
    unfold RunsUnder at h
    generalize shard.trip = before at *
    cases hturn with
    | refused => exact h left hleft
    | @rebound trip =>
      cases hleft
      exact h trip rfl
    | inserted _ _ _ status => simp [status] at hkept
    | replaced _ _ _ status => simp [status] at hkept
  | applied _ _ held turn =>
    obtain ⟨runtime, hrun, hwork⟩ := turn.fenced (hfenced.waiting _ held)
    cases hleft
    rw [hwork.ends, hrun.epoch]
    exact h _ held
  | controlled _ _ held turn =>
    cases hleft
    rw [turn.runtimeTurn.epoch]
    exact h _ held
  | dropped => exact h left hleft
  | @finished completion _ _ _ _ _ posted held turn =>
    have hmem : completion.pending ∈ shard.outstanding := by simp [TripShard.outstanding, posted]
    obtain ⟨runtime, hrun, hwork⟩ := turn.fenced
      ⟨hfenced.shaped _ hmem, hfenced.tracked _ held _ hmem⟩ (hfenced.waiting _ held)
    cases hleft
    rw [hwork.ends, hrun.epoch]
    exact h _ held

theorem Fenced.run_under (h : Fenced shard) (hunder : RunsUnder epoch shard)
    (hquiet : Runs.Along TripShard.next (fun shard action => shard.bootstrapEpoch? action = none)
      shard history) : Fenced (shard.run history) ∧ RunsUnder epoch (shard.run history) := by
  have hstep : ∀ (shard : TripShard) action, Fenced shard ∧ RunsUnder epoch shard →
      shard.bootstrapEpoch? action = none →
      Fenced (shard.next action) ∧ RunsUnder epoch (shard.next action) := by
    intro shard action hboth hnone
    have hturn := step_turn shard action
    exact ⟨hboth.1.turn hturn (by rw [TripShard.reusesEpoch, hnone, Option.any_none]),
      hboth.2.turn hboth.1 hturn hnone⟩
  exact Runs.foldl_of_along hstep ⟨h, hunder⟩ hquiet

theorem runsUnder_bootstrap (hacc : shard.bootstrapEpoch? action = some epoch) : RunsUnder epoch
    (shard.next action) := by
  unfold TripShard.bootstrapEpoch? at hacc
  split at hacc
  next lane capacity =>
    split at hacc
    next request streamBinding rest hpopped =>
      split at hacc
      next hstatus =>
        cases hacc
        obtain ⟨after, hplaced, hboot⟩ := (bootstrapTrip_turn capacity.tripPlace shard.trip
          request streamBinding).accepted hstatus
        rw [next_bootstrap hpopped, hplaced]
        intro left hleft
        cases hleft
        exact hboot.epoch
      next => cases hacc
    next => cases hacc
  next => cases hacc

theorem runCompletion_finish
    (hposted : shard.completions = completion :: rest) (hheld : shard.trip = some trip) :
    ∃ work, FinishTurn trip (TripShard.view { shard with completions := rest } capacity)
        completion.pending work ∧
      (shard.next (.runCompletion capacity)).trip = some work.trip := by
  refine ⟨trip.finish (TripShard.view { shard with completions := rest } capacity) completion,
    finish_cases completion, ?_⟩
  simp only [TripShard.next, step, hposted, TripShard.runCompletion, hheld, TripShard.settleWork]

theorem FinishTurn.current (h : FinishTurn trip view pending work)
    (hwait : ∀ other, trip.pending = some other → FencedSeed trip.runtime other)
    (hchanged : work.trip.runtime.state.activeProposal ≠ trip.runtime.state.activeProposal) :
    trip.runtime.versions.canCommitPlanningWork pending.seed.workToken := by
  cases h with
  | stale _ turn =>
    rw [(turn.fenced hwait).ends] at hchanged
    exact absurd rfl hchanged
  | delivered current => exact current

/-- As long as no bootstrap takes the epoch of an attempt that is still out, a
completion changes the proposal only if it was computed from the trip's present
planning input, and no attempt that was out at the trip's last bootstrap does. -/
theorem stale_results_fenced (maxAdvisoryPayloadBytes : Nat) (history : List ShardStep)
    (hepochs : Runs.Along TripShard.next (fun shard action => shard.reusesEpoch action = false)
      (TripShard.initial maxAdvisoryPayloadBytes) history)
    (completion : Completion) (rest : List Completion) (capacity : DispatchCapacity)
    (trip left : ShardTrip) :
    let start := initial maxAdvisoryPayloadBytes
    let shard := start.run history
    shard.completions = completion :: rest → shard.trip = some trip →
    (shard.next (.runCompletion capacity)).trip = some left →
    left.runtime.state.activeProposal ≠ trip.runtime.state.activeProposal →
      planningInput completion.pending.seed.state = planningInput trip.runtime.state ∧
      ∀ earlier action later epoch, history = earlier ++ action :: later →
        (start.run earlier).bootstrapEpoch? action = some epoch →
        Runs.Along TripShard.next (fun shard action => shard.bootstrapEpoch? action = none)
          ((start.run earlier).next action) later →
        completion.pending ∉ (start.run earlier).outstanding := by
  intro start shard hposted hheld hleft hchanged
  have hfenced : Fenced shard := fenced_initial.run hepochs
  have hmem : completion.pending ∈ shard.outstanding := by simp [TripShard.outstanding, hposted]
  obtain ⟨work, hturn, hwork⟩ := runCompletion_finish hposted hheld
  rw [hwork] at hleft
  cases hleft
  have hcur := hturn.current (hfenced.waiting trip hheld) hchanged
  obtain ⟨hepoch, hseed⟩ := (hfenced.tracked trip hheld _ hmem).current hcur
  refine ⟨hseed.input, ?_⟩
  rintro earlier action later epoch rfl hbootstrap hquiet hout
  obtain ⟨hearlier, hsafe, -⟩ := Runs.along_append_iff.mp hepochs
  have hunder : RunsUnder epoch shard := by
    have hrun : shard = ((start.run earlier).next action).run later := by
      simp [shard, run]
    have hmiddle : Fenced ((start.run earlier).next action) :=
      (fenced_initial.run hearlier).turn (step_turn _ action) hsafe
    rw [hrun]
    exact (hmiddle.run_under (runsUnder_bootstrap hbootstrap) hquiet).2
  have hother : completion.pending.seed.sourceVersions.runtimeEpoch ≠ epoch := by
    intro hsame
    change TripShard.reusesEpoch (start.run earlier) action = false at hsafe
    rw [TripShard.reusesEpoch, hbootstrap, Option.any_some, List.any_eq_false] at hsafe
    exact hsafe _ hout (by simp [hsame])
  apply hother
  rw [← (hfenced.shaped _ hmem).epoch, hepoch]
  exact hunder trip hheld

/-- Nothing is left to plan, so the search ends at once with the visit as it was. -/
def visitedReport : SearchReport :=
  ⟨.complete, some ([⟨⟨1⟩, ⟨some 1, some 1⟩, "UTC", none, none, none, .skipped⟩], []), 0⟩

def refreshPayload : TripEventPayload := .advisoryUpdate .recommendationRefresh "app" 0

def visitedVersions : TripRuntimeVersionSnapshot := ⟨1, 1, 0, 0, 1, 1, 1⟩

def visitedPending : PendingPlanning :=
  ⟨⟨visitedState 0, refreshPayload, visitedVersions, ⟨1, 0, 0⟩⟩, planningAt 100, .advisory, false⟩

def visitedTrip (running : Bool) (proposal : Option StoredPlanProposal) : ShardTrip where
  runtime := ⟨{ visitedState 0 with activeProposal := proposal }, ⟨true, visitedVersions⟩⟩
  ownerUserId := ⟨4⟩
  deactivationPending := false
  streamBinding := none
  planningRunning := running
  planningPriority := .advisory
  planningTrigger := refreshPayload
  pending := none

def undisturbed : List ShardStep :=
  runAtOnce (activation 0 1) ++ runAtOnce refreshTask ++ [.post 0 (.searched visitedReport)]

theorem stale_results_fenced_undisturbed :
    (visitedTrip false (assembleStoredPlanProposal visitedPending visitedReport)).runtime.state ≠
    (visitedTrip true none).runtime.state ∧ planningInput visitedPending.seed.state = planningInput
    (visitedTrip true none).runtime.state := by
  refine ⟨by decide, ?_⟩
  exact (stale_results_fenced 0 undisturbed (by decide) ⟨visitedPending, .searched visitedReport⟩
    [] ⟨true, true⟩ (visitedTrip true none)
    (visitedTrip false (assembleStoredPlanProposal visitedPending visitedReport))
    (by decide) (by decide) (by decide) (by decide)).1

theorem reactivated_trip_takes_old_result :
    let shard := (initial 0).run (reactivation ++ [.post 0 (.searched visitedReport)])
    shard.completions.map (fun completion => completion.pending.seed.state) = [visitedState 0] ∧
      shard.trip.map (fun trip => trip.runtime.state) = some (visitedState 600) ∧
      (shard.next (.runCompletion ⟨true, true⟩)).trip.bind
          (fun trip => trip.runtime.state.activeProposal) =
        assembleStoredPlanProposal visitedPending visitedReport ∧
      (assembleStoredPlanProposal visitedPending visitedReport).isSome ∧
      planningInput (visitedState 0) ≠ planningInput (visitedState 600) := by
  decide

end LiveRoute.Runtime
