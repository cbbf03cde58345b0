import LiveRoute.Runtime.SingleAttempt

/-! Replacements that wait for queued telemetry. A deferred replacement is only
looked at again when one of the queued observations ends in a replan. -/
namespace LiveRoute.Runtime
open Domain Planner

variable {trip : ShardTrip} {view : ShardView} {shard : TripShard}

def NoOrphan (shard : TripShard) : Prop :=
  shard.accepting → ∀ trip, shard.trip = some trip → trip.planningRunning = false →
    trip.pending.isSome → shard.normalQueued

def ShardTrip.replans (trip : ShardTrip) (maxAdvisoryPayloadBytes : Nat)
    (request : RuntimeEventRequest) : Bool :=
  !trip.deactivationPending && (trip.admitRequest maxAdvisoryPayloadBytes request).2.2.isSome &&
    request.planning.isValid

/-- The last queued observation of a trip ends without a replan while a
replacement waits for it. -/
def TripShard.orphansReplan (shard : TripShard) : ShardStep → Bool
  | .runTask lane _ =>
    match popLane lane shard.queue, shard.trip with
    | some (.applyEvent request, rest), some trip =>
      shard.accepting && decide (lane = .normal) &&
        !(rest.any fun task => decide (task.lane = .normal)) && !trip.planningRunning &&
        trip.pending.isSome && !trip.replans shard.maxAdvisoryPayloadBytes request
    | _, _ => false
  | _ => false

def Waits (view : ShardView) (work : TripWork) : Prop :=
  work.trip.planningRunning = false → work.trip.pending.isSome → view.accepting →
    view.normalQueued

theorem Dispatched.waits (h : Dispatched trip pending work) (hfree : trip.pending = none) :
    Waits view work := by
  cases h with
  | started =>
    intro hidle
    cases hidle
  | refused =>
    intro _ hpend
    simp [hfree] at hpend

theorem PendingTurn.waits (h : PendingTurn trip view work) : Waits view work := by
  cases h with
  | kept deferred =>
    intro _ hpend hacc
    obtain ⟨waiting, hwait⟩ := Option.isSome_iff_exists.mp hpend
    exact (deferred waiting hwait hacc).2
  | sent _ dispatched => exact dispatched.waits rfl

theorem FinishTurn.waits (h : FinishTurn trip view pending work) : Waits view work := by
  cases h with
  | stale _ turn => exact turn.waits
  | delivered _ _ turn => exact turn.waits

theorem EventTurn.waits (h : EventTurn trip view bytes request work)
    (hrepl : trip.replans bytes request) : Waits view work := by
  simp only [ShardTrip.replans, Bool.and_eq_true, Bool.not_eq_true'] at hrepl
  obtain ⟨⟨hopened, hseed⟩, hvalid⟩ := hrepl
  cases h with
  | closed deactivating =>
    rw [hopened] at deactivating
    cases deactivating
  | noted _ outcome =>
    rw [outcome] at hseed
    cases hseed
  | planned _ _ _ plan =>
    cases plan with
    | refused invalid =>
      rw [show (request.pending trip _).context.isValid = true from hvalid] at invalid
      cases invalid
    | queued _ running =>
      intro hidle
      rw [show trip.planningRunning = true from running] at hidle
      cases hidle
    | merged _ _ _ _ turn => exact turn.waits
    | fresh _ _ free dispatched => exact dispatched.waits free

theorem EventTurn.leaves
    (h : EventTurn trip view bytes request work) (hrepl : trip.replans bytes request = false) :
    work.trip.planningRunning = trip.planningRunning ∧ work.trip.pending = trip.pending := by
  cases h with
  | closed => exact ⟨rfl, rfl⟩
  | noted => exact ⟨rfl, rfl⟩
  | planned opened outcome _ plan =>
    have hbad : request.planning.isValid = false := by
      simpa [ShardTrip.replans, opened, outcome] using hrepl
    cases plan with
    | refused => exact ⟨rfl, rfl⟩
    | queued valid =>
      rw [show request.planning.isValid = true from valid] at hbad
      cases hbad
    | merged valid =>
      rw [show request.planning.isValid = true from valid] at hbad
      cases hbad
    | fresh valid =>
      rw [show request.planning.isValid = true from valid] at hbad
      cases hbad

theorem NoOrphan.bootstrap {rest : List ShardTask} (h : NoOrphan shard)
    (hturn : BootstrapTurn request shard.trip left result)
    (hqueued : (rest.any fun task => decide (task.lane = .normal)) = shard.normalQueued) :
    NoOrphan { shard with queue := rest, trip := left } := by
  intro hacc after hafter hidle hpend
  rw [TripShard.normalQueued, hqueued]
  have hwaits := h hacc
  generalize shard.trip = before at *
  cases hturn with
  | refused => exact hwaits after hafter hidle hpend
  | @rebound trip =>
    cases hafter
    exact hwaits trip rfl hidle hpend
  | inserted _ _ free =>
    cases hafter
    simp [free] at hpend
  | replaced _ _ free =>
    cases hafter
    simp [free] at hpend

theorem NoOrphan.turn (h : NoOrphan shard) (hturn : StepTurn shard action after effects)
    (hsafe : shard.orphansReplan action = false) : NoOrphan after := by
  cases hturn with
  | quiet trip _ accepting normal =>
    intro hacc held hheld hidle hpend
    apply normal (by rw [hheld]; rfl)
    exact h (accepting hacc) held (trip ▸ hheld) hidle hpend
  | @bootstrapped lane capacity request streamBinding _ _ popped =>
    have hlane : lane = .critical := (popLane_eq_some popped).2.1.symm
    refine h.bootstrap (bootstrapTrip_turn capacity.tripPlace shard.trip request streamBinding) ?_
    exact normalQueued_popLane popped (by simp [hlane])
  | @applied lane _ request rest trip _ label popped held turn =>
    subst label
    simp only [TripShard.orphansReplan, popped, held] at hsafe
    intro hacc left hleft hidle hpend
    cases hleft
    change shard.accepting at hacc
    cases hrepl : trip.replans shard.maxAdvisoryPayloadBytes request with
    | true => exact turn.waits hrepl hidle hpend hacc
    | false =>
      obtain ⟨hrun, hkept⟩ := turn.leaves hrepl
      rw [hrun] at hidle
      rw [hkept] at hpend
      change (rest.any fun task => decide (task.lane = .normal))
      by_cases hlane : lane = .normal
      · simpa [hacc, hlane, hidle, hpend, hrepl] using hsafe
      · rw [normalQueued_popLane popped hlane]
        exact h hacc trip held hidle hpend
  | controlled popped _ held turn =>
    intro hacc left hleft hidle hpend
    cases turn with
    | erased => cases hleft
    | kept _ running pending =>
      cases hleft
      change (List.any _ fun task => decide (ShardTask.lane task = .normal))
      rw [normalQueued_popLane popped (by simp)]
      rcases pending with hsame | hnone
      · exact h hacc _ held (running ▸ hidle) (hsame ▸ hpend)
      · simp [hnone] at hpend
  | dropped _ missing =>
    intro _ left hleft
    rw [missing] at hleft
    cases hleft
  | finished _ _ _ turn =>
    intro hacc left hleft hidle hpend
    cases hleft
    exact turn.waits hidle hpend hacc

theorem not_noOrphan_of_orphans (horphans : shard.orphansReplan action) :
    ¬ NoOrphan (shard.next action) := by
  unfold TripShard.orphansReplan at horphans
  split at horphans
  next lane capacity =>
    split at horphans
    next request rest trip hpopped hheld =>
      simp only [Bool.and_eq_true, Bool.not_eq_true', decide_eq_true_eq] at horphans
      obtain ⟨⟨⟨⟨⟨hacc, -⟩, hempty⟩, hidle⟩, hpend⟩, hrepl⟩ := horphans
      obtain ⟨work, hturn, hnext⟩ := next_event hpopped hheld capacity
      obtain ⟨hrun, hkept⟩ := hturn.leaves hrepl
      rw [hnext]
      intro h
      have hqueued := h hacc work.trip rfl (hrun.trans hidle) (hkept ▸ hpend)
      rw [show (rest.any fun task => decide (task.lane = .normal)) = true from hqueued] at hempty
      cases hempty
    next => cases horphans
  next => cases horphans

/-- In every interleaving a replacement waits only for a running attempt or for
a queued observation, and so not in an idle trip, exactly as long as the last
queued observation never ends without a replan while a replacement waits. -/
theorem no_orphaned_replan_iff (maxAdvisoryPayloadBytes : Nat) (history : List ShardStep) :
    (∀ done, done <+: history →
      let shard := (TripShard.initial maxAdvisoryPayloadBytes).run done
      NoOrphan shard ∧ (shard.accepting → shard.queue = [] → shard.completions = [] →
        ∀ trip, shard.trip = some trip → trip.planningRunning = false → trip.pending = none)) ↔
      Runs.Along TripShard.next (fun shard action => shard.orphansReplan action = false)
        (TripShard.initial maxAdvisoryPayloadBytes) history := by
  have hidle : ∀ shard : TripShard, NoOrphan shard ∧ (shard.accepting →
      shard.queue = [] → shard.completions = [] → ∀ trip, shard.trip = some trip →
        trip.planningRunning = false → trip.pending = none) ↔ NoOrphan shard := by
    intro shard
    refine ⟨And.left, fun h => ⟨h, fun hacc hempty _ trip hheld hidle => ?_⟩⟩
    by_contra hpend
    have hqueued := h hacc trip hheld hidle (Option.isSome_iff_ne_none.mpr hpend)
    simp [TripShard.normalQueued, hempty] at hqueued
  have hstep : ∀ shard action, True → NoOrphan shard →
      (NoOrphan (TripShard.next shard action) ↔ shard.orphansReplan action = false) := by
    intro shard action _ h
    constructor
    · intro hnext
      by_contra horphans
      exact not_noOrphan_of_orphans (by simpa using horphans) hnext
    · exact h.turn (step_turn shard action)
  have hinitial : NoOrphan (TripShard.initial maxAdvisoryPayloadBytes) :=
    fun _ trip hheld => by cases hheld
  simp only [hidle]
  exact Runs.safe_iff_along (fun _ _ _ _ => trivial) hstep trivial hinitial history

def locationTask (observationSequence : UInt64) : ShardTask :=
  .applyEvent ⟨⟨1, 0, observationSequence, 0, none, ⟨⟨8⟩, 150, none,
    .locationUpdated ⟨some 1, some 1⟩⟩⟩, planningAt 150⟩

def staleTelemetry : List ShardStep :=
  runAtOnce (activation 0 1) ++ runAtOnce refreshTask ++ runAtOnce (locationTask 2) ++
    [.submit (locationTask 2), .post 0 (.failed .cancelled), .runCompletion ⟨true, true⟩,
      .runTask .normal ample]

theorem stale_telemetry_orphans_replan :
    let shard := (TripShard.initial 0).run staleTelemetry
    shard.accepting ∧ shard.queue = [] ∧ shard.completions = [] ∧ shard.inFlight = [] ∧
      shard.trip.map ShardTrip.planningRunning = some false ∧
      shard.trip.map (fun trip => trip.pending.isSome) = some true := by
  decide

end LiveRoute.Runtime
