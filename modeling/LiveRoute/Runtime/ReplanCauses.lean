import LiveRoute.Runtime.DeferredReplans
import LiveRoute.Runtime.StaleResults

/-! Why a trip is replanned. Every event that asks for planning is a cause until
a result is delivered; whatever is dispatched next carries the most urgent cause
and the newest planning input. -/
namespace LiveRoute.Runtime
open Domain Planner Option
open RuntimeEventRequest (acknowledged)
open List hiding after

variable {out : List PendingPlanning} {shard : TripShard} {runtime admitted : TripRuntime}
  {action : ShardStep}

/-- The causes since the last delivery, and the trip after the newest event that
changed the planning input. -/
structure ReplanRecord where
  causes : List PlanningCause
  newest : TripRuntime

def ReplanRecord.note (record : ReplanRecord) : ShardEffect → ReplanRecord
  | .acknowledged payload priority result seed runtime =>
    { causes := if seed.isSome then record.causes ++ [(priority, payload)] else record.causes
      newest := if result.planningInputChanged then runtime else record.newest }
  | .delivered _ => { record with causes := [] }
  | _ => record

open ReplanRecord (note)

structure SinceInput (newest runtime : TripRuntime) : Prop where
  input : planningInput runtime.state = planningInput newest.state
  epoch : runtime.versions.snapshot.runtimeEpoch = newest.versions.snapshot.runtimeEpoch
  revision : runtime.versions.snapshot.tripRevision = newest.versions.snapshot.tripRevision
  version : runtime.versions.snapshot.plannerStateVersion =
    newest.versions.snapshot.plannerStateVersion
  generation : runtime.versions.snapshot.planningGeneration =
    newest.versions.snapshot.planningGeneration

theorem SinceInput.refl : SinceInput runtime runtime := ⟨rfl, rfl, rfl, rfl, rfl⟩

theorem SinceInput.noted {newest after : TripRuntime} (h : SinceInput newest runtime)
    (hnoted : Noted runtime after) : SinceInput newest after :=
  ⟨hnoted.state ▸ h.input, hnoted.epoch.trans h.epoch, hnoted.revision.trans h.revision,
    hnoted.version.trans h.version, hnoted.generation.trans h.generation⟩

theorem SinceInput.committed (h : SinceInput newest runtime)
    (hcommit : CommitTurn runtime pending after) : SinceInput newest after := by
  cases hcommit with
  | kept => exact h
  | committed => exact ⟨h.input, h.epoch, h.revision, h.version, h.generation⟩

/-- The seed is the newest input; a refresh may add what was only noted since. -/
structure SeededBy (newest : TripRuntime) (seed : ImmutablePlanningSeed) : Prop where
  input : planningInput seed.state = planningInput newest.state
  epoch : seed.sourceVersions.runtimeEpoch = newest.versions.snapshot.runtimeEpoch
  revision : seed.sourceVersions.tripRevision = newest.versions.snapshot.tripRevision
  version : seed.sourceVersions.plannerStateVersion = newest.versions.snapshot.plannerStateVersion
  generation : seed.sourceVersions.planningGeneration = newest.versions.snapshot.planningGeneration
  exact : isRecommendationRefresh seed.trigger = false →
    seed.state = newest.state ∧ seed.sourceVersions = newest.versions.snapshot

structure CarriesCauses (record : ReplanRecord) (pending : PendingPlanning) : Prop where
  highest : ∀ cause ∈ record.causes, pending.priority.rank ≤ cause.1.rank
  cause : pending.cause ∈ record.causes
  seeded : SeededBy record.newest pending.seed

def Carried : ReplanRecord → List ShardEffect → Prop
  | _, [] => True
  | record, effect :: rest =>
    (∀ pending started, effect = .dispatching pending started → CarriesCauses record pending) ∧
      Carried (record.note effect) rest

theorem carried_append_iff : Carried record (first ++ second) ↔
      Carried record first ∧ Carried (first.foldl note record) second := by
  induction first generalizing record with
  | nil => simp [Carried]
  | cons _ _ ih => rw [cons_append, Carried, Carried, ih, and_assoc, foldl_cons]

theorem carried_answers (h : ∀ effect ∈ effects, effect.isAnswer) :
    Carried record effects ∧ effects.foldl note record = record := by
  induction effects with
  | nil => exact ⟨trivial, rfl⟩
  | cons effect _ ih =>
    obtain ⟨hfirst, hrest⟩ := forall_mem_cons.mp h
    have hnote : record.note effect = record := by cases effect <;> first | rfl | cases hfirst
    obtain ⟨hcarry, hkept⟩ := ih hrest
    refine ⟨⟨fun pending started hdisp => ?_, hnote.symm ▸ hcarry⟩, ?_⟩
    · rw [hdisp] at hfirst
      cases hfirst
    · rw [foldl_cons, hnote, hkept]

structure Accounts (out : List PendingPlanning) (trip : ShardTrip) (record : ReplanRecord) :
    Prop where
  since : SinceInput record.newest trip.runtime
  active : trip.runtime.versions.active
  nonzero : trip.runtime.versions.snapshot.runtimeEpoch ≠ 0
  idle : trip.planningRunning = false → trip.pending = none → record.causes = []
  waiting : ∀ pending, trip.pending = some pending → CarriesCauses record pending ∧
    trip.runtime.versions.canCommitPlanningWork pending.seed.workToken
  superseded : ∀ pending, trip.pending = some pending → ∀ attempt ∈ out,
    attempt.seed.workToken.plannerStateVersion.toNat <
      trip.runtime.versions.snapshot.plannerStateVersion.toNat
  running : trip.planningRunning →
    (trip.planningPriority, trip.planningTrigger) ∈ record.causes
  current : trip.planningRunning → trip.pending = none →
    (∀ cause ∈ record.causes, trip.planningPriority.rank ≤ cause.1.rank) ∧ ∀ attempt ∈ out,
        trip.runtime.versions.canCommitPlanningWork attempt.seed.workToken

theorem not_current_of_superseded {versions : TripRuntimeVersions} {token : PlanningWorkToken}
    (h : token.plannerStateVersion.toNat < versions.snapshot.plannerStateVersion.toNat) :
    versions.canCommitPlanningWork token = false := by
  by_contra hcur
  simp only [Bool.not_eq_false, TripRuntimeVersions.canCommitPlanningWork, Bool.and_eq_true,
    beq_iff_eq] at hcur
  rw [hcur.1.2] at h
  exact Nat.lt_irrefl _ h

theorem SeedOf.current {trigger : TripEventPayload} {seed : ImmutablePlanningSeed}
    (h : SeedOf runtime trigger seed) (hnz : runtime.versions.snapshot.runtimeEpoch ≠ 0) :
    runtime.versions.canCommitPlanningWork seed.workToken := by
  have hcap := h.captured
  unfold TripRuntimeVersions.capturePlanningWork at hcap
  split at hcap
  next hactive =>
    rw [Option.some.injEq] at hcap
    simp [TripRuntimeVersions.canCommitPlanningWork, ← hcap, hactive, hnz]
  next => cases hcap

theorem Noted.canCommit (h : Noted before after) :
    after.versions.canCommitPlanningWork token = before.versions.canCommitPlanningWork token := by
  simp only [TripRuntimeVersions.canCommitPlanningWork, h.active, h.epoch, h.version, h.generation]

theorem CommitTurn.versions
    (h : CommitTurn runtime pending after) : after.versions = runtime.versions := by
  cases h <;> rfl

structure AccountedWork (record : ReplanRecord) (others : List PendingPlanning)
    (work : TripWork) : Prop where
  carried : Carried record work.effects
  accounts : Accounts (others ++ work.started.toList) work.trip
    (work.effects.foldl ReplanRecord.note record)

theorem AccountedWork.after {record : ReplanRecord}
    (h : AccountedWork (record.note effect) others work)
    (hdisp : effect.isDispatch = false) : AccountedWork record others (work.after effect) := by
  refine ⟨⟨fun pending started heffect => ?_, h.carried⟩, h.accounts⟩
  rw [heffect] at hdisp
  cases hdisp

section Work
variable {trip : ShardTrip} {view : ShardView} {pending : PendingPlanning} {work : TripWork}
  {record : ReplanRecord}

theorem Dispatched.accounted (h : Dispatched trip pending work)
    (hidle : trip.planningRunning = false) (hfree : trip.pending = none)
    (hsince : SinceInput record.newest trip.runtime) (hactive : trip.runtime.versions.active)
    (hnz : trip.runtime.versions.snapshot.runtimeEpoch ≠ 0)
    (hcarries : CarriesCauses record pending)
    (hcur : trip.runtime.versions.canCommitPlanningWork pending.seed.workToken) :
    AccountedWork record [] work := by
  have hwaits : ∀ {P : PendingPlanning → Prop} other, trip.pending = some other → P other := by
    intro P other hother
    rw [hfree] at hother
    cases hother
  cases h with
  | started =>
    refine ⟨⟨fun other started heffect => ?_, trivial⟩, hsince, hactive, hnz, ?_, hwaits,
      hwaits, fun _ => hcarries.cause, fun _ _ => ⟨hcarries.highest, ?_⟩⟩
    · cases heffect
      exact hcarries
    · intro hidle
      cases hidle
    · intro attempt hatt
      rw [mem_singleton.mp hatt]
      exact hcur
  | refused =>
    refine ⟨⟨fun other started heffect => ?_, fun other started heffect => ?_, trivial⟩, hsince,
      hactive, hnz, fun _ _ => rfl, hwaits, hwaits, ?_, ?_⟩
    · cases heffect
      exact hcarries
    · cases heffect
    all_goals
      intro hrun
      rw [show trip.planningRunning = true from hrun] at hidle
      cases hidle

theorem PendingTurn.accounted (h : PendingTurn trip view work)
    (hidle : trip.planningRunning = false) (hacct : Accounts [] trip record) :
    AccountedWork record [] work := by
  cases h with
  | kept => exact ⟨trivial, hacct⟩
  | sent held dispatched =>
    obtain ⟨hcarries, hcur⟩ := hacct.waiting _ held
    exact dispatched.accounted hidle rfl hacct.since hacct.active hacct.nonzero hcarries hcur

theorem Coalesces.carries (h : Coalesces pending replacement retained)
    (hcauses : record.causes = old ++ [pending.cause]) (hretained : ∀ cause ∈ retained, cause ∈ old)
    (hleast : ∀ cause ∈ old, ∃ kept ∈ retained, kept.1.rank ≤ cause.1.rank)
    (hseed : pending.seed.state = record.newest.state ∧
      pending.seed.sourceVersions = record.newest.versions.snapshot) :
    CarriesCauses record replacement := by
  obtain ⟨hstate, hvers⟩ := hseed
  rw [← h.state] at hstate
  rw [← h.versions] at hvers
  refine ⟨fun cause hmem => ?_, ?_, ?_⟩
  · rw [hcauses, mem_append, mem_singleton] at hmem
    rcases hmem with hold | rfl
    · obtain ⟨kept, hkept, hrank⟩ := hleast cause hold
      exact Nat.le_trans (h.highest kept (mem_cons_of_mem _ hkept)) hrank
    · exact h.highest _ mem_cons_self
  · rw [hcauses, mem_append, mem_singleton]
    rcases mem_cons.mp h.cause with hnew | hkept
    · exact .inr hnew
    · exact .inl (hretained _ hkept)
  · exact ⟨by rw [hstate], by rw [hvers], by rw [hvers], by rw [hvers],
      by rw [hvers], fun _ => ⟨hstate, hvers⟩⟩

end Work

structure SeededEvent (out : List PendingPlanning) (trip : ShardTrip) (record : ReplanRecord)
    (pending : PendingPlanning) (admitted : TripRuntime) (noted : ReplanRecord) : Prop where
  causes : noted.causes = record.causes ++ [pending.cause]
  since : SinceInput noted.newest admitted
  active : admitted.versions.active
  nonzero : admitted.versions.snapshot.runtimeEpoch ≠ 0
  seeded : SeededBy noted.newest pending.seed
  current : admitted.versions.canCommitPlanningWork pending.seed.workToken
  -- Beside another attempt or replacement only a new planning input has a seed.
  busy : trip.planningRunning ∨ trip.pending.isSome →
    (pending.seed.state = noted.newest.state ∧
      pending.seed.sourceVersions = noted.newest.versions.snapshot) ∧
    ∀ attempt ∈ out, attempt.seed.workToken.plannerStateVersion.toNat <
      admitted.versions.snapshot.plannerStateVersion.toNat

theorem Accounts.retains (h : Accounts out trip record) (hrun : trip.planningRunning) :
    ∀ cause ∈ record.causes, ∃ kept ∈ (trip.planningPriority, trip.planningTrigger) ::
      trip.pending.toList.map PendingPlanning.cause, kept.1.rank ≤ cause.1.rank := by
  intro cause hmem
  cases hheld : trip.pending with
  | none => exact ⟨_, mem_cons_self, (h.current hrun hheld).1 cause hmem⟩
  | some waiting =>
    refine ⟨waiting.cause, by simp, ?_⟩
    exact (h.waiting waiting hheld).1.highest cause hmem

theorem Planned.accounted (h : Planned { trip with runtime := admitted } view pending work)
    (hacct : Accounts out trip record) (hout : trip.planningRunning = false → out = [])
    (hevent : SeededEvent out trip record pending admitted noted)
    (hvalid : pending.context.isValid) : AccountedWork noted out work := by
  have hcauses := hevent.causes
  cases h with
  | refused invalid =>
    rw [hvalid] at invalid
    cases invalid
  | @queued replacement _ running coalesces =>
    have hrun : trip.planningRunning := running
    obtain ⟨hexact, hbehind⟩ := hevent.busy (.inl hrun)
    have hcause := hacct.running hrun
    have hcarries : CarriesCauses noted replacement := by
      refine coalesces.carries hcauses ?_ (hacct.retains hrun) hexact
      intro cause hmem
      rcases mem_cons.mp hmem with rfl | hmem
      · exact hcause
      · obtain ⟨waiting, hwait, rfl⟩ := mem_map.mp hmem
        exact (hacct.waiting waiting (mem_toList.mp hwait)).1.cause
    refine ⟨trivial, hevent.since, hevent.active, hevent.nonzero, ?_, ?_, ?_, fun _ => ?_, ?_⟩
    · intro hidle
      rw [show trip.planningRunning = false from hidle] at hrun
      cases hrun
    · intro other hother
      cases hother
      exact ⟨hcarries, coalesces.token ▸ hevent.current⟩
    · intro _ _ attempt hatt
      exact hbehind attempt (by simpa using hatt)
    · change (trip.planningPriority, trip.planningTrigger) ∈ noted.causes
      rw [hcauses]
      exact mem_append_left _ hcause
    · intro _ hfree
      cases hfree
  | @merged waiting replacement _ _ idle held coalesces turn =>
    have hnone : out = [] := hout idle
    subst hnone
    obtain ⟨hexact, -⟩ :=
      hevent.busy (.inr (by rw [show trip.pending = some waiting from held]; rfl))
    have hcarry := (hacct.waiting waiting held).1
    have hcarries : CarriesCauses noted replacement := by
      refine coalesces.carries hcauses ?_ ?_ hexact
      · intro cause hmem
        rw [mem_singleton.mp hmem]
        exact hcarry.cause
      · exact fun cause hmem => ⟨waiting.cause, mem_singleton_self _, hcarry.highest cause hmem⟩
    refine turn.accounted idle ⟨hevent.since, hevent.active, hevent.nonzero, ?_, ?_, ?_, ?_, ?_⟩
    · intro _ hfree
      cases hfree
    · intro other hother
      cases hother
      exact ⟨hcarries, coalesces.token ▸ hevent.current⟩
    · intro _ _ attempt hatt
      cases hatt
    · intro hrun
      rw [show trip.planningRunning = true from hrun] at idle
      cases idle
    · intro _ hfree
      cases hfree
  | fresh _ idle free dispatched =>
    have hnone : out = [] := hout idle
    subst hnone
    have hempty : record.causes = [] := hacct.idle idle free
    rw [hempty, nil_append] at hcauses
    refine dispatched.accounted idle free hevent.since hevent.active hevent.nonzero ?_
      hevent.current
    refine ⟨?_, ?_, hevent.seeded⟩
    · intro cause hmem
      rw [hcauses, mem_singleton] at hmem
      rw [hmem]
      exact Nat.le_refl _
    · rw [hcauses]
      exact mem_singleton_self _

theorem Accounts.not_ahead (h : Accounts out trip record)
    (hout : trip.planningRunning = false → out = []) :
    ∀ attempt ∈ out, attempt.seed.workToken.plannerStateVersion.toNat ≤
      trip.runtime.versions.snapshot.plannerStateVersion.toNat := by
  intro attempt hatt
  cases hheld : trip.pending with
  | some waiting => exact Nat.le_of_lt (h.superseded waiting hheld attempt hatt)
  | none =>
    have hrun : trip.planningRunning := by
      by_contra hidle
      rw [hout (by simpa using hidle)] at hatt
      cases hatt
    have hcur := (h.current hrun hheld).2 attempt hatt
    simp only [TripRuntimeVersions.canCommitPlanningWork, Bool.and_eq_true, beq_iff_eq] at hcur
    rw [hcur.1.2]

theorem Accounts.noted {trip : ShardTrip} {record : ReplanRecord} (h : Accounts out trip record)
    (hnoted : Noted trip.runtime admitted) :
    Accounts out { trip with runtime := admitted } record := by
  refine ⟨h.since.noted hnoted, hnoted.active.trans h.active, ?_, h.idle, ?_, ?_, h.running, ?_⟩
  · exact hnoted.epoch ▸ h.nonzero
  · intro pending hpend
    refine ⟨(h.waiting pending hpend).1, ?_⟩
    rw [hnoted.canCommit]
    exact (h.waiting pending hpend).2
  · intro pending hpend attempt hatt
    rw [hnoted.version]
    exact h.superseded pending hpend attempt hatt
  · intro hrun hfree
    refine ⟨(h.current hrun hfree).1, fun attempt hatt => ?_⟩
    rw [hnoted.canCommit]
    exact (h.current hrun hfree).2 attempt hatt

theorem AdmitTurn.seededEvent {request : RuntimeEventRequest}
    (h : AdmitTurn trip request.admission.event.payload admitted result (some seed))
    (hacct : Accounts out trip record) (hout : trip.planningRunning = false → out = []) :
    SeededEvent out trip record (request.pending trip seed) admitted
      (record.note (request.acknowledged trip admitted result (some seed))) := by
  have hseeded := h.seedOf
  have hcauses : (record.note (request.acknowledged trip admitted result (some seed))).causes =
      record.causes ++ [(request.pending trip seed).cause] := by
    simp [note, acknowledged, PendingPlanning.cause, RuntimeEventRequest.pending, hseeded.trigger]
  cases h with
  | refreshed kept unchanged refresh idle free =>
    have hnewest : (record.note (request.acknowledged trip admitted result (some seed))).newest =
        record.newest := by
      simp [note, acknowledged, unchanged]
    have hnz : admitted.versions.snapshot.runtimeEpoch ≠ 0 := kept.epoch ▸ hacct.nonzero
    have hsince := hacct.since.noted kept
    refine ⟨hcauses, hnewest ▸ hsince, kept.active.trans hacct.active, hnz, ?_,
      hseeded.current hnz, ?_⟩
    · rw [hnewest]
      refine ⟨?_, ?_, ?_, ?_, ?_, fun hother => ?_⟩
      · rw [RuntimeEventRequest.pending, hseeded.state, hsince.input]
      · rw [RuntimeEventRequest.pending, hseeded.versions, hsince.epoch]
      · rw [RuntimeEventRequest.pending, hseeded.versions, hsince.revision]
      · rw [RuntimeEventRequest.pending, hseeded.versions, hsince.version]
      · rw [RuntimeEventRequest.pending, hseeded.versions, hsince.generation]
      · rw [RuntimeEventRequest.pending, hseeded.trigger, refresh] at hother
        cases hother
    · rw [idle, free]
      simp
  | advanced moved _ changed =>
    have hnewest : (record.note (request.acknowledged trip admitted result (some seed))).newest =
        admitted := by
      simp [note, acknowledged, changed]
    have hnz : admitted.versions.snapshot.runtimeEpoch ≠ 0 := moved.epoch ▸ hacct.nonzero
    have hexact : (request.pending trip seed).seed.state = admitted.state ∧
        (request.pending trip seed).seed.sourceVersions = admitted.versions.snapshot :=
      ⟨hseeded.state, hseeded.versions⟩
    have hsince : SinceInput (record.note
        (request.acknowledged trip admitted result (some seed))).newest admitted := by
      rw [hnewest]
      exact .refl
    refine ⟨hcauses, hsince, moved.active.2, hnz, ?_, hseeded.current hnz,
      fun _ => ⟨hnewest.symm ▸ hexact, fun attempt hatt => ?_⟩⟩
    · rw [hnewest]
      exact ⟨by rw [hexact.1], by rw [hexact.2], by rw [hexact.2], by rw [hexact.2],
        by rw [hexact.2], fun _ => hexact⟩
    · rw [moved.version]
      exact Nat.lt_succ_of_le (hacct.not_ahead hout attempt hatt)

theorem EventTurn.accounted (h : EventTurn trip view bytes request work)
    (hacct : Accounts out trip record) (hout : trip.planningRunning = false → out = [])
    (hvalid : request.planning.isValid) : AccountedWork record out work := by
  cases h with
  | closed =>
    refine ⟨⟨fun _ _ heffect => (by cases heffect), trivial⟩, ?_⟩
    rw [toList_none, append_nil]
    exact hacct
  | @noted admitted result _ _ admission =>
    refine ⟨⟨fun _ _ heffect => (by cases heffect), trivial⟩, ?_⟩
    rw [toList_none, append_nil]
    cases admission with
    | quiet kept unchanged =>
      have hnote : record.note (request.acknowledged trip admitted result none) = record := by
        simp [note, acknowledged, unchanged]
      rw [foldl_cons, hnote]
      exact hacct.noted kept
    | avoided moved changed idle free =>
      have hnote : record.note (request.acknowledged trip admitted result none) =
          ⟨record.causes, admitted⟩ := by
        simp [note, acknowledged, changed]
      rw [foldl_cons, hnote]
      refine ⟨.refl, moved.active.2, moved.epoch ▸ hacct.nonzero, hacct.idle, ?_, ?_, ?_, ?_⟩
      · intro pending hpend
        rw [show trip.pending = some pending from hpend] at free
        cases free
      · intro pending hpend
        rw [show trip.pending = some pending from hpend] at free
        cases free
      · intro hrun
        rw [show trip.planningRunning = true from hrun] at idle
        cases idle
      · intro hrun
        rw [show trip.planningRunning = true from hrun] at idle
        cases idle
  | planned _ _ admission plan =>
    have hevent := admission.seededEvent hacct hout
    exact (plan.accounted hacct hout hevent hvalid).after rfl

theorem FinishTurn.accounted (h : FinishTurn trip view pending work)
    (hacct : Accounts [pending] trip record) (hrun : trip.planningRunning) :
    AccountedWork record [] work := by
  cases h with
  | stale late turn =>
    have hheld : trip.pending ≠ none := by
      intro hfree
      rw [(hacct.current hrun hfree).2 pending List.mem_cons_self] at late
      cases late
    refine turn.accounted rfl ⟨hacct.since, hacct.active, hacct.nonzero,
      fun _ hfree => absurd hfree hheld, hacct.waiting, ?_, ?_, ?_⟩
    · intro _ _ attempt hatt
      cases hatt
    all_goals
      intro hidle
      cases hidle
  | @delivered _ _ _ current commit turn =>
    have hfree : trip.pending = none := by
      by_contra hheld
      obtain ⟨waiting, hwait⟩ := ne_none_iff_exists'.mp hheld
      have hbehind := hacct.superseded waiting hwait pending List.mem_cons_self
      rw [not_current_of_superseded hbehind] at current
      cases current
    have hvers := commit.versions
    have hwaits : ∀ {P : PendingPlanning → Prop} other, trip.pending = some other → P other := by
      intro P other hother
      rw [hfree] at hother
      cases hother
    refine AccountedWork.after (turn.accounted rfl ?_) rfl
    refine ⟨hacct.since.committed commit, hvers ▸ hacct.active,
      hvers ▸ hacct.nonzero, fun _ _ => rfl, hwaits, hwaits, ?_, ?_⟩
    all_goals
      intro hidle
      cases hidle

theorem Accounts.mono (h : Accounts out trip record) (hfewer : ∀ attempt ∈ fewer, attempt ∈ out) :
    Accounts fewer trip record where
  since := h.since
  active := h.active
  nonzero := h.nonzero
  idle := h.idle
  waiting := h.waiting
  superseded := fun pending hpend attempt hatt =>
    h.superseded pending hpend attempt (hfewer attempt hatt)
  running := h.running
  current := fun hrun hfree => ⟨(h.current hrun hfree).1, fun attempt hatt =>
    (h.current hrun hfree).2 attempt (hfewer attempt hatt)⟩

/-- An event as `event_from_proto` admits it: the planning context is valid. -/
def ShardTask.isPlannable : ShardTask → Bool
  | .applyEvent request => request.planning.isValid
  | _ => false

def ShardStep.isEventWork : ShardStep → Bool
  | .submit task => task.isPlannable
  | _ => true

structure Accounted (shard : TripShard) (record : ReplanRecord) : Prop where
  trip : ∃ trip, shard.trip = some trip ∧ Accounts shard.outstanding trip record
  single : SingleAttempt shard
  queue : ∀ task ∈ shard.queue, task.isPlannable

theorem queue_runTask : (shard.runTask capacity task).1.queue = shard.queue := by
  obtain ⟨-, -, trip, -, -, -⟩ := shard
  cases task <;> cases trip <;> rfl

theorem queue_next (hmem : task ∈ (shard.next action).queue) :
    task ∈ shard.queue ∨ action = .submit task := by
  cases action with
  | submit =>
    simp only [TripShard.next, TripShard.step] at hmem
    split at hmem
    next =>
      rcases mem_append.mp hmem with hold | hnew
      · exact .inl hold
      · rw [mem_singleton.mp hnew]
        exact .inr rfl
    next => exact .inl hmem
  | runTask =>
    simp only [TripShard.next, TripShard.step] at hmem
    split at hmem
    next => exact .inl hmem
    next taken rest hpopped =>
      rw [queue_runTask, (popLane_eq_some hpopped).2.2] at hmem
      exact .inl (mem_of_mem_eraseP hmem)
  | post =>
    simp only [TripShard.next, TripShard.step] at hmem
    split at hmem <;> exact .inl hmem
  | runCompletion =>
    obtain ⟨bytes, accepting, trip, queue, inFlight, completions⟩ := shard
    cases completions <;> cases trip <;> exact .inl hmem
  | stopAccepting => exact .inl hmem

theorem Accounted.insertsNone (h : Accounted shard record) :
    shard.insertsOverAttempt action = false := by
  unfold TripShard.insertsOverAttempt
  split
  next =>
    split
    next request streamBinding rest hpopped =>
      have hevent := h.queue _ (popLane_eq_some hpopped).1
      cases hevent
    next => rfl
  next => rfl

theorem Accounted.turn (h : Accounted shard record) (hturn : StepTurn shard action after effects) :
    Carried record effects ∧ ∃ trip, after.trip = some trip ∧
      Accounts after.outstanding trip (effects.foldl note record) := by
  obtain ⟨trip, htrip, hacct⟩ := h.trip
  have hsingle := h.single.single
  have hflag := h.single.flagged trip htrip
  cases hturn with
  | quiet same outstanding _ _ answers =>
    have hanswers : Carried record effects ∧ effects.foldl note record = record :=
      carried_answers answers
    obtain ⟨hcarry, hkept⟩ := hanswers
    rw [hkept]
    exact ⟨hcarry, trip, same.trans htrip, hacct.mono fun _ => outstanding.mem_iff.mp⟩
  | bootstrapped _ popped =>
    have hevent := h.queue _ (popLane_eq_some popped).1
    cases hevent
  | @applied _ _ _ _ _ work _ popped hheld turn =>
    rw [htrip] at hheld
    cases hheld
    have hout : trip.planningRunning = false → shard.outstanding = [] := by
      intro hidle
      rw [hidle] at hflag
      simp only [Bool.false_eq_true, false_iff] at hflag
      exact length_eq_zero_iff.mp (by omega)
    have hwork := turn.accounted hacct hout (h.queue _ (popLane_eq_some popped).1)
    refine ⟨hwork.carried, work.trip, rfl, hwork.accounts.mono fun attempt hatt => ?_⟩
    simp only [TripShard.outstanding, mem_append] at hatt ⊢
    tauto
  | @controlled task _ _ _ _ popped control =>
    have hevent := h.queue _ (popLane_eq_some popped).1
    cases task with
    | applyEvent request => exact absurd rfl (control request)
    | _ => cases hevent
  | dropped _ missing =>
    rw [htrip] at missing
    cases missing
  | @finished completion rest _ _ work _ posted hheld turn =>
    rw [htrip] at hheld
    cases hheld
    -- The completion is of the only attempt that was out.
    have hlen := outstanding_posted posted
    have hothers : shard.inFlight ++ rest.map Completion.pending = [] :=
      length_eq_zero_iff.mp (by omega)
    obtain ⟨hinFlight, hrest⟩ := append_eq_nil_iff.mp hothers
    have hout : shard.outstanding = [completion.pending] := by
      rw [TripShard.outstanding, posted, map_cons, hinFlight, hrest, nil_append]
    rw [hout] at hacct
    have hwork := turn.accounted hacct (hflag.mpr (by omega))
    refine ⟨hwork.carried, work.trip, rfl, ?_⟩
    rw [TripShard.outstanding, hinFlight, hrest, List.append_nil]
    exact hwork.accounts

theorem Accounted.step {record : ReplanRecord} (h : Accounted shard record)
    (hwork : action.isEventWork) :
    Carried record (shard.step action).2 ∧
      Accounted (shard.next action) ((shard.step action).2.foldl note record) := by
  have hturn := step_turn shard action
  obtain ⟨hcarry, htrip⟩ := h.turn hturn
  refine ⟨hcarry, htrip, h.single.turn hturn h.insertsNone, fun task hmem => ?_⟩
  rcases queue_next hmem with hold | rfl
  · exact h.queue task hold
  · exact hwork

def TripShard.effects (shard : TripShard) : List ShardStep → List ShardEffect
  | [] => []
  | action :: rest => (shard.step action).2 ++ (shard.next action).effects rest

theorem Accounted.effects (h : Accounted shard record)
    (hwork : ∀ action ∈ history, action.isEventWork) : Carried record (shard.effects history) := by
  induction history generalizing shard record with
  | nil => trivial
  | cons _ _ ih =>
    obtain ⟨hfirst, hrest⟩ := forall_mem_cons.mp hwork
    obtain ⟨hcarry, hnext⟩ := h.step hfirst
    exact carried_append_iff.mpr ⟨hcarry, ih hnext hrest⟩

def TripShard.activated (maxAdvisoryPayloadBytes : Nat) (trip : ShardTrip) : TripShard :=
  { TripShard.initial maxAdvisoryPayloadBytes with trip := some trip }

theorem accounted_activated (maxAdvisoryPayloadBytes : Nat)
    (hactd : (bootstrapTrip true none request streamBinding).1 = some trip) :
    Accounted (.activated maxAdvisoryPayloadBytes trip) ⟨[], trip.runtime⟩ := by
  have hturn := bootstrapTrip_turn true none request streamBinding
  generalize bootstrapTrip true none request streamBinding = outcome at *
  obtain ⟨left, result⟩ := outcome
  dsimp only at hactd hturn
  subst hactd
  cases hturn with
  | inserted bootstrapped idle free =>
    have hwaits : ∀ {P : PendingPlanning → Prop} other, trip.pending = some other → P other := by
      intro P other hother
      rw [free] at hother
      cases hother
    have hstops : ∀ {P : Prop}, trip.planningRunning → P := by
      intro P hrun
      rw [idle] at hrun
      cases hrun
    refine ⟨⟨trip, rfl, .refl, bootstrapped.active, bootstrapped.epoch ▸ bootstrapped.nonzero,
      fun _ _ => rfl, hwaits, hwaits, hstops, hstops⟩, ⟨Nat.zero_le 1, ?_⟩,
        by simp [TripShard.activated, TripShard.initial]⟩
    rintro held hheld
    cases hheld
    rw [idle]
    exact ⟨fun hrun => (by cases hrun), fun hone => (by cases hone)⟩

/-- After an activation, every dispatch is as urgent as each cause since the last
delivery, is one of them, and plans for the newest input. -/
theorem dispatches_carry_causes (maxAdvisoryPayloadBytes : Nat) (request : RuntimeBootstrapRequest)
    (streamBinding : Option UInt64) (trip : ShardTrip)
    (hactivated : (bootstrapTrip true none request streamBinding).1 = some trip)
    (history : List ShardStep) (hwork : ∀ action ∈ history, action.isEventWork)
    (earlier later : List ShardEffect) (pending : PendingPlanning) (started : Bool)
    (heffects : (TripShard.activated maxAdvisoryPayloadBytes trip).effects history =
      earlier ++ .dispatching pending started :: later) :
    CarriesCauses (earlier.foldl ReplanRecord.note ⟨[], trip.runtime⟩) pending := by
  have hcarry := (accounted_activated maxAdvisoryPayloadBytes hactivated).effects hwork
  rw [heffects, carried_append_iff] at hcarry
  exact hcarry.2.1 pending started rfl

def visitedArrival : ShardTrip :=
  { visitedTrip false none with
    runtime := ⟨visitedState 0, ⟨true, ⟨1, 1, 0, 0, 1, 1, 0⟩⟩⟩, planningPriority := .normal
    planningTrigger := .unset }

def deviationPayload : TripEventPayload := .routeDeviationDetected ⟨some 1, some 1⟩ 500

def deviationTask : ShardTask :=
  .applyEvent ⟨⟨1, 0, 1, 0, none, ⟨⟨9⟩, 120, none, deviationPayload⟩⟩, planningAt 120⟩

def deviationThenLocation : List ShardStep :=
  runAtOnce deviationTask ++ runAtOnce (locationTask 2) ++
    [.post 0 (.failed .cancelled), .runCompletion ⟨true, true⟩]

/-- The replacement: the input of the location, the cause of the deviation. -/
def deviationReplan : PendingPlanning where
  seed := ⟨{ visitedState 0 with
      currentObservation := ⟨some ⟨some 1, some 1⟩, some 150, none, none⟩ },
    deviationPayload, ⟨1, 1, 2, 2, 1, 1, 2⟩, ⟨1, 2, 2⟩⟩
  context := planningAt 150
  priority := .high
  latestInputIsOrdinaryObservation := true

theorem dispatches_carry_causes_deviation :
    let effects := (TripShard.activated 0 visitedArrival).effects deviationThenLocation
    let record := (effects.take 3).foldl note ⟨[], visitedArrival.runtime⟩
    record.causes = [(.high, deviationPayload), (.normal, .locationUpdated ⟨some 1, some 1⟩)] ∧
      CarriesCauses record deviationReplan := by
  refine ⟨by decide, ?_⟩
  exact dispatches_carry_causes 0 ⟨visitedState 0, ⟨4⟩, 1, 1, 1, 0⟩ none visitedArrival (by decide)
    deviationThenLocation (by decide) _ [] deviationReplan true (by decide)

def refreshAgain (observationSequence : UInt64) : ShardTask :=
  .applyEvent ⟨⟨1, 0, observationSequence, 0, none, ⟨⟨6⟩, 160, none, refreshPayload⟩⟩,
    planningAt 160⟩

def refreshOverProposal : List ShardStep :=
  runAtOnce (locationTask 1) ++ runAtOnce (refreshAgain 2) ++
    [.post 0 (.searched visitedReport), .runCompletion ⟨true, true⟩] ++ runAtOnce (refreshAgain 3)

def dispatches (effects : List ShardEffect) : List PendingPlanning := effects.filterMap fun
    | .dispatching pending _ => some pending
    | _ => none

theorem refresh_plans_with_proposal :
    let effects := (TripShard.activated 0 visitedArrival).effects refreshOverProposal
    let newest := (effects.foldl note ⟨[], visitedArrival.runtime⟩).newest
    newest.versions.snapshot.plannerStateVersion = 1 ∧
      (dispatches effects).getLast?.any (fun pending =>
        decide (pending.seed.state ≠ newest.state) &&
          decide (pending.seed.sourceVersions ≠ newest.versions.snapshot)) := by
  decide

end LiveRoute.Runtime
