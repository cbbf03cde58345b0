import LiveRoute.Runtime.ShardWork

/-! What one step of the shard can do, in the terms of the trip's work. -/
namespace LiveRoute.Runtime
open Domain Planner List
open List.Perm (refl)

variable {lane : EventPriority} {rest : List ShardTask} {task : ShardTask} {shard : TripShard}

def TripShard.normalQueued (shard : TripShard) : Bool :=
  shard.queue.any fun task => decide (task.lane = .normal)

def ShardEffect.isAnswer : ShardEffect → Bool
  | .bootstrapped _ | .unavailable _ | .answered _ => true
  | .acknowledged .. | .dispatching .. | .delivered _ => false

inductive ControlTurn (trip : ShardTrip) : Option ShardTrip → Prop
  | erased : ControlTurn trip none
  | kept {after : ShardTrip} (noted : Noted trip.runtime after.runtime)
      (running : after.planningRunning = trip.planningRunning)
      (pending : after.pending = trip.pending ∨ after.pending = none) :
      ControlTurn trip (some after)

inductive StepTurn (shard : TripShard) (action : ShardStep) : TripShard → List ShardEffect → Prop
  | quiet {after : TripShard} {effects : List ShardEffect} (trip : after.trip = shard.trip)
      (outstanding : after.outstanding.Perm shard.outstanding)
      (accepting : after.accepting → shard.accepting)
      (normal : after.trip.isSome → shard.normalQueued → after.normalQueued)
      (answers : ∀ effect ∈ effects, effect.isAnswer) : StepTurn shard action after effects
  | bootstrapped {lane : EventPriority} {capacity : SharedCapacity}
      {request : RuntimeBootstrapRequest} {streamBinding : Option UInt64} {rest : List ShardTask}
      (label : action = .runTask lane capacity)
      (popped : popLane lane shard.queue = some (.bootstrap request streamBinding, rest)) :
      StepTurn shard action
        { shard with
          queue := rest
          trip := (bootstrapTrip capacity.tripPlace shard.trip request streamBinding).1 }
        [.bootstrapped (bootstrapTrip capacity.tripPlace shard.trip request streamBinding).2]
  | applied {lane : EventPriority} {capacity : SharedCapacity} {request : RuntimeEventRequest}
      {rest : List ShardTask} {trip : ShardTrip} {work : TripWork}
      (label : action = .runTask lane capacity)
      (popped : popLane lane shard.queue = some (.applyEvent request, rest))
      (held : shard.trip = some trip)
      (turn : EventTurn trip (TripShard.view { shard with queue := rest } capacity.dispatch)
        shard.maxAdvisoryPayloadBytes request work) :
      StepTurn shard action
        { shard with
          queue := rest, trip := some work.trip
          inFlight := shard.inFlight ++ work.started.toList } work.effects
  | controlled {task : ShardTask} {rest : List ShardTask} {trip : ShardTrip}
      {after : Option ShardTrip} {effects : List ShardEffect}
      (popped : popLane .critical shard.queue = some (task, rest))
      (control : ∀ request, task ≠ .applyEvent request) (held : shard.trip = some trip)
      (turn : ControlTurn trip after) (answers : ∀ effect ∈ effects, effect.isAnswer) :
      StepTurn shard action { shard with queue := rest, trip := after } effects
  | dropped {completion : Completion} {rest : List Completion}
      (posted : shard.completions = completion :: rest) (missing : shard.trip = none) :
      StepTurn shard action { shard with completions := rest } []
  | finished {completion : Completion} {rest : List Completion} {capacity : DispatchCapacity}
      {trip : ShardTrip} {work : TripWork} (label : action = .runCompletion capacity)
      (posted : shard.completions = completion :: rest) (held : shard.trip = some trip)
      (turn : FinishTurn trip (shard.view capacity) completion.pending work) :
      StepTurn shard action
        { shard with
          completions := rest, trip := some work.trip
          inFlight := shard.inFlight ++ work.started.toList } work.effects

theorem popLane_eq_some (h : popLane lane queue = some (task, rest)) :
    task ∈ queue ∧ task.lane = lane ∧
      rest = queue.eraseP fun task => decide (task.lane = lane) := by
  obtain ⟨found, hfound, hpair⟩ := Option.map_eq_some_iff.mp h
  cases hpair
  exact ⟨mem_of_find?_eq_some hfound, by simpa using find?_some hfound, rfl⟩

theorem normalQueued_popLane (h : popLane lane queue = some (task, rest)) (hlane : lane ≠ .normal) :
    (rest.any fun task => decide (task.lane = .normal)) =
      queue.any fun task => decide (task.lane = .normal) := by
  obtain ⟨-, -, rfl⟩ := popLane_eq_some h
  rw [Bool.eq_iff_iff, any_eq_true, any_eq_true]
  have hother : ∀ task : ShardTask, decide (task.lane = .normal) → ¬ decide (task.lane = lane) := by
    simp only [decide_eq_true_eq]
    intro task hnormal hsame
    exact hlane (hsame.symm.trans hnormal)
  constructor
  · rintro ⟨task, hmem, hnormal⟩
    exact ⟨task, mem_of_mem_eraseP hmem, hnormal⟩
  · rintro ⟨task, hmem, hnormal⟩
    refine ⟨task, ?_, hnormal⟩
    apply (mem_eraseP_of_neg ?_).mpr hmem
    exact hother task hnormal

theorem deactivate_turn :
    ControlTurn trip (trip.deactivate runtimeEpoch finalSnapshotRequired).1 := by
  fun_cases ShardTrip.deactivate trip runtimeEpoch finalSnapshotRequired
  case case1 | case2 => exact .kept (.refl _) rfl (.inl rfl)
  case case3 => exact .kept (.refl _) rfl (.inr rfl)
  case case4 => exact .erased

theorem abortDeactivation_turn :
    ControlTurn trip (some (trip.abortDeactivation runtimeEpoch).1) := by
  unfold ShardTrip.abortDeactivation
  split
  next => exact .kept (.refl _) rfl (.inl rfl)
  next => split <;> exact .kept (.refl _) rfl (.inl rfl)

theorem unbind_turn : ControlTurn trip (some (trip.unbind runtimeEpoch streamBinding)) := by
  unfold ShardTrip.unbind
  split
  next => exact .kept (.refl _) rfl (.inr rfl)
  next => exact .kept (.refl _) rfl (.inl rfl)

theorem confirmFinalized_noted :
    ControlTurn trip (some (trip.confirmFinalized runtimeEpoch finalized).1) := by
  refine .kept ?_ rfl (.inl rfl)
  have hkept :
      trip.runtime.versions.supersedes (.confirmFinalized runtimeEpoch finalized) = false :=
    rfl
  refine Noted.of_turn trip.runtime.state hkept ?_
  simp only [TripRuntimeVersions.call, TripRuntimeVersions.answer,
    TripRuntimeVersions.confirmFinalized]
  split
  next =>
    split
    next => rfl
    next => split <;> rfl
  next => rfl

structure Bootstrapped (request : RuntimeBootstrapRequest) (runtime : TripRuntime) : Prop where
  state : runtime.state = request.state
  valid : request.state.isValid
  unproposed : request.state.activeProposal = none
  active : runtime.versions.active
  epoch : runtime.versions.snapshot.runtimeEpoch = request.runtimeEpoch
  nonzero : request.runtimeEpoch ≠ 0

inductive BootstrapTurn (request : RuntimeBootstrapRequest) :
    Option ShardTrip → Option ShardTrip → RuntimeBootstrapResult → Prop
  | refused {trip : Option ShardTrip} {result : RuntimeBootstrapResult}
      (status : result.status ≠ .accepted) : BootstrapTurn request trip trip result
  | rebound {trip : ShardTrip} {result : RuntimeBootstrapResult} (streamBinding : Option UInt64)
      (status : result.status ≠ .accepted) :
      BootstrapTurn request (some trip) (some { trip with streamBinding := streamBinding }) result
  | inserted {after : ShardTrip} {result : RuntimeBootstrapResult}
      (bootstrapped : Bootstrapped request after.runtime) (idle : after.planningRunning = false)
      (free : after.pending = none) (status : result.status = .accepted) :
      BootstrapTurn request none (some after) result
  | replaced {trip after : ShardTrip} {result : RuntimeBootstrapResult}
      (bootstrapped : Bootstrapped request after.runtime)
      (running : after.planningRunning = trip.planningRunning) (free : after.pending = none)
      (status : result.status = .accepted) : BootstrapTurn request (some trip) (some after) result

theorem bootstrapTrip_turn (placeFree : Bool) (trip : Option ShardTrip)
    (request : RuntimeBootstrapRequest) (streamBinding : Option UInt64) :
    BootstrapTurn request trip (bootstrapTrip placeFree trip request streamBinding).1
      (bootstrapTrip placeFree trip request streamBinding).2 := by
  unfold bootstrapTrip
  split
  next => exact .refused (by simp [refusedBootstrap])
  next hstate =>
    simp only [Bool.or_eq_true, Bool.not_eq_true', not_or, Bool.not_eq_false, Bool.not_eq_true,
      Option.isSome_eq_false_iff, Option.isNone_iff_eq_none] at hstate
    split
    next => exact .refused (by simp [refusedBootstrap])
    next =>
      split
      next =>
        split
        next => exact .refused (by simp [refusedBootstrap])
        next =>
          split
          next versions hvers =>
            obtain ⟨hactive, hepoch, hnz⟩ := TripRuntimeVersions.bootstrap_accepted hvers
            exact .inserted ⟨rfl, hstate.1, hstate.2, hactive, hepoch, hnz⟩ rfl rfl rfl
          next => exact .refused (by simp [refusedBootstrap])
      next =>
        split
        next versions hvers =>
          obtain ⟨hactive, hepoch, hnz⟩ := TripRuntimeVersions.bootstrap_accepted hvers
          exact .replaced ⟨rfl, hstate.1, hstate.2, hactive, hepoch, hnz⟩ rfl rfl rfl
        next => exact .rebound _ (by simp [bootstrapAnswer])
        next status hacc _ _ =>
          refine .refused ?_
          cases status <;> simp_all [bootstrapAnswer, mapBootstrapStatus]

theorem BootstrapTurn.accepted (h : BootstrapTurn request trip left result)
    (hstatus : result.status = .accepted) :
    ∃ after, left = some after ∧ Bootstrapped request after.runtime := by
  cases h with
  | refused status => exact absurd hstatus status
  | rebound _ status => exact absurd hstatus status
  | inserted bootstrapped => exact ⟨_, rfl, bootstrapped⟩
  | replaced bootstrapped => exact ⟨_, rfl, bootstrapped⟩

theorem next_bootstrap
    (popped : popLane lane shard.queue = some (.bootstrap request streamBinding, rest)) :
    shard.next (.runTask lane capacity) = { shard with
      queue := rest
      trip := (bootstrapTrip capacity.tripPlace shard.trip request streamBinding).1 } := by
  simp only [TripShard.next, TripShard.step, popped, TripShard.runTask]

theorem next_event (popped : popLane lane shard.queue = some (.applyEvent request, rest))
    (held : shard.trip = some trip) (capacity : SharedCapacity) :
    ∃ work, EventTurn trip (TripShard.view { shard with queue := rest } capacity.dispatch)
        shard.maxAdvisoryPayloadBytes request work ∧
      shard.next (.runTask lane capacity) = { shard with
        queue := rest, trip := some work.trip
        inFlight := shard.inFlight ++ work.started.toList } := by
  refine ⟨_, applyEvent_cases, ?_⟩
  simp only [TripShard.next, TripShard.step, popped, TripShard.runTask, held, TripShard.settleWork]

theorem StepTurn.answered (popped : popLane lane shard.queue = some (task, rest))
    (hlane : shard.trip.isSome → lane ≠ .normal)
    (answers : ∀ effect ∈ effects, effect.isAnswer) :
    StepTurn shard action { shard with queue := rest } effects := by
  refine .quiet rfl (refl _) id (fun hheld hnormal => ?_) answers
  rw [TripShard.normalQueued, normalQueued_popLane popped (hlane hheld)]
  exact hnormal

theorem answered_isAnswer (result : RuntimeControlResult) :
    ∀ effect ∈ [ShardEffect.answered result], effect.isAnswer := by
  simp [ShardEffect.isAnswer]

theorem silent_isAnswer : ∀ effect ∈ ([] : List ShardEffect), effect.isAnswer := by simp

theorem runTask_turn (popped : popLane lane shard.queue = some (task, rest)) :
    StepTurn shard (.runTask lane capacity)
      (TripShard.runTask { shard with queue := rest } capacity task).1
      (TripShard.runTask { shard with queue := rest } capacity task).2 := by
  obtain ⟨bytes, accepting, trip, queue, inFlight, completions⟩ := shard
  have hlane := (popLane_eq_some popped).2.1
  cases task with
  | bootstrap => exact .bootstrapped rfl popped
  | applyEvent =>
    cases trip with
    | none => exact .answered popped (by simp) (List.forall_mem_singleton.mpr rfl)
    | some => exact .applied rfl popped rfl applyEvent_cases
  | unbind =>
    subst hlane
    cases trip with
    | none => exact .answered popped (by simp) silent_isAnswer
    | some => exact .controlled popped (by simp) rfl unbind_turn silent_isAnswer
  | confirmFinalized =>
    subst hlane
    cases trip with
    | none => exact .answered popped (by simp) (answered_isAnswer _)
    | some =>
      exact .controlled popped (by simp) rfl confirmFinalized_noted (answered_isAnswer _)
  | snapshot =>
    subst hlane
    cases trip with
    | none => exact .answered popped (by simp) (answered_isAnswer _)
    | some => exact .answered popped (fun _ => by simp [ShardTask.lane]) (answered_isAnswer _)
  | deactivate =>
    subst hlane
    cases trip with
    | none => exact .answered popped (by simp) (answered_isAnswer _)
    | some => exact .controlled popped (by simp) rfl deactivate_turn (answered_isAnswer _)
  | abortDeactivation =>
    subst hlane
    cases trip with
    | none => exact .answered popped (by simp) (answered_isAnswer _)
    | some =>
      exact .controlled popped (by simp) rfl abortDeactivation_turn (answered_isAnswer _)

/-- One inversion for all steps. -/
theorem step_turn (shard : TripShard) (action : ShardStep) :
    StepTurn shard action (shard.next action) (shard.step action).2 := by
  unfold TripShard.next
  cases action with
  | submit =>
    simp only [TripShard.step]
    split
    next =>
      refine .quiet rfl (refl _) id (fun _ hnormal => ?_) (by simp)
      rw [TripShard.normalQueued, any_append, Bool.or_eq_true]
      exact .inl hnormal
    next => exact .quiet rfl (refl _) id (fun _ => id) (by simp)
  | runTask =>
    simp only [TripShard.step]
    split
    next => exact .quiet rfl (refl _) id (fun _ => id) (by simp)
    next popped => exact runTask_turn popped
  | post =>
    simp only [TripShard.step]
    split
    next => exact .quiet rfl (refl _) id (fun _ => id) (by simp)
    next pending hpend =>
      refine .quiet rfl ?_ id (fun _ => id) (by simp)
      obtain ⟨hbound, rfl⟩ := List.getElem?_eq_some_iff.mp hpend
      have hmoved := getElem_cons_eraseIdx_perm hbound
      simp only [TripShard.outstanding, map_append, map_cons, map_nil]
      rw [← append_assoc]
      refine perm_append_comm.trans ?_
      exact hmoved.append_right (shard.completions.map Completion.pending)
  | runCompletion =>
    simp only [TripShard.step]
    split
    next => exact .quiet rfl (refl _) id (fun _ => id) (by simp)
    next completion rest hposted =>
      obtain ⟨bytes, accepting, trip, queue, inFlight, completions⟩ := shard
      cases trip with
      | none => exact .dropped hposted rfl
      | some => exact .finished rfl hposted rfl (finish_cases completion)
  | stopAccepting =>
    exact .quiet rfl (refl _) (by simp [TripShard.step]) (fun _ => id) (by simp [TripShard.step])

end LiveRoute.Runtime
