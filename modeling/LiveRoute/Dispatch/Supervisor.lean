import LiveRoute.Dispatch.Simulation
import LiveRoute.Persistence.Leases
import LiveRoute.Runtime.TripMapFacts

/-! Tenures of trips. The supervisor of a backend, the lease rows, the execution
state of saved trips and the trip map of one planner process each record that a
trip is running; the steps below are the places where one of them changes. -/
namespace LiveRoute.Dispatch
open Domain LiveRoute.Runtime Persistence

/-- How far a call of `Activate` has come. -/
inductive ActivationPhase where
  | registered
  | leased (runtimeEpoch : Nat)
  | bootstrapped (runtimeEpoch : Nat)
  | failed
deriving DecidableEq

/-- `wait` is the identity of the `activationWait` that the call registered. -/
structure ActivationCall where
  tripId : TripId
  wait : Nat
  phase : ActivationPhase
deriving DecidableEq

/-- A call of `Deactivate`, with the epoch it still has to release. -/
structure DeactivationCall where
  tripId : TripId
  runtimeEpoch : Option Nat
  released : Bool
deriving DecidableEq

structure Supervisor where
  holderId : HolderId
  maxActiveTrips : Nat
  closed : Bool
  active : List TripId
  (activating state : AList fun _ : TripId => Nat)
  nextWait : Nat

/-- Supervisor, rows and planner. `bootstrapped` and `ended` record the history
of each trip: whether the planner ever accepted a bootstrap of it, and whether a
deactivation completed that no accepted bootstrap followed. -/
structure Deployment where
  supervisor : Supervisor
  activations : List ActivationCall
  deactivations : List DeactivationCall
  leases : TripId → LeaseRows
  execution : TripId → ExecutionState
  planner : TripMap
  (bootstrapped ended : TripId → Bool)

def Supervisor.start (holderId : HolderId) (maxActiveTrips : Nat) : Supervisor :=
  ⟨holderId, maxActiveTrips, false, [], ∅, ∅, 0⟩

def Deployment.initial (supervisor : Supervisor) (leases : TripId → LeaseRows)
    (execution : TripId → ExecutionState) (maxActiveTrips : Nat) : Deployment :=
  ⟨supervisor, [], [], leases, execution, .empty maxActiveTrips, fun _ => false, fun _ => false⟩

/-- What the backend sends for a running trip besides a bootstrap, and planning
that finishes inside the planner. -/
inductive Traffic where
  | applyEvent (tripId : TripId) (request : EventAdmissionRequest)
      (currentTime : UnixTimeMilliseconds) (maxAdvisoryPayloadBytes : Nat)
  | confirmFinalized (tripId : TripId) (runtimeEpoch finalizedMutationSequence : UInt64)
  | requestSnapshot (tripId : TripId)
  | finishPlanning (tripId : TripId) (token : PlanningWorkToken) (stored : StoredPlanProposal)
deriving DecidableEq

def serve (planner : TripMap) : Traffic → TripMap
  | .applyEvent tripId request currentTime bytes =>
    (planner.tryApplyEvent tripId request currentTime bytes).1
  | .confirmFinalized tripId runtimeEpoch sequence =>
    (planner.tryConfirmFinalized tripId runtimeEpoch sequence).1
  | .requestSnapshot _ => planner
  | .finishPlanning tripId token stored => planner.finishPlanning tripId token stored

/-- The first locked section of `Activate`. -/
def Deployment.activate (world : Deployment) (tripId : TripId) : Deployment :=
  let supervisor := world.supervisor
  if supervisor.closed || supervisor.active.contains tripId ||
      decide (supervisor.maxActiveTrips ≤ supervisor.active.length) then world
  else
    { world with
      supervisor := { supervisor with
        active := tripId :: supervisor.active
        activating := supervisor.activating.insert tripId supervisor.nextWait
        nextWait := supervisor.nextWait + 1 }
      activations := ⟨tripId, supervisor.nextWait, .registered⟩ :: world.activations }

def Deployment.call? (world : Deployment) (wait : Nat) : Option ActivationCall :=
  world.activations.find? fun call => decide (call.wait = wait)

def Deployment.setPhase (world : Deployment) (wait : Nat) (phase : ActivationPhase) : Deployment :=
  { world with activations := world.activations.map fun call =>
      if call.wait = wait then { call with phase := phase } else call }

def Deployment.setLease (world : Deployment) (tripId : TripId) (rows : LeaseRows) : Deployment :=
  { world with leases := Function.update world.leases tripId rows }

def Deployment.acquire (world : Deployment) (wait : Nat) (duration : Int)
    (readAt writtenAt : DatabaseTime) : Deployment :=
  match world.call? wait with
  | some ⟨tripId, _, .registered⟩ =>
    match Persistence.acquire (world.leases tripId) world.supervisor.holderId duration readAt
        writtenAt with
    | .ok (rows, lease) => (world.setLease tripId rows).setPhase wait (.leased lease.runtimeEpoch)
    | .error _ => world.setPhase wait .failed
  | _ => world

/-- The request of `Bootstrapper.Bootstrap`: any recovery payload for the trip,
under the epoch of the lease. -/
def bootstrapRequest (payload : RuntimeBootstrapRequest) (tripId : TripId) (lease : LeaseRow) :
    RuntimeBootstrapRequest :=
  { payload with
    state := { payload.state with tripId := tripId }, runtimeEpoch := .ofNat lease.runtimeEpoch }

def acknowledges (request : RuntimeBootstrapRequest) (result : RuntimeBootstrapResult) : Bool :=
  (decide (result.status = .accepted) || decide (result.status = .duplicate)) &&
    result.versions.runtimeEpoch == request.runtimeEpoch &&
    decide (result.currentPlanId = some request.state.currentPlan.planId) &&
    result.versions.acceptedMutationSequence == request.finalizedMutationSequence &&
    result.versions.finalizedMutationSequence == request.finalizedMutationSequence &&
    result.versions.tripRevision == request.tripRevision

/-- The planner handles a bootstrap; the history follows its answer. -/
def Deployment.sendBootstrap (world : Deployment) (request : RuntimeBootstrapRequest) :
    Deployment :=
  let served := world.planner.tryBootstrap request
  if served.2.status = .accepted then
    { world with
      planner := served.1
      bootstrapped := Function.update world.bootstrapped request.state.tripId true
      ended := Function.update world.ended request.state.tripId false }
  else { world with planner := served.1 }

/-- `answered` is false when the response is lost, `resolved` when the rows do
not converge afterwards. -/
def Deployment.bootstrap (world : Deployment) (wait : Nat) (now : DatabaseTime)
    (payload : RuntimeBootstrapRequest) (answered resolved : Bool) : Deployment :=
  match world.call? wait with
  | some ⟨tripId, _, .leased runtimeEpoch⟩ =>
    match current (world.leases tripId) world.supervisor.holderId now with
    | .error _ => world.setPhase wait .failed
    | .ok lease =>
      let request := bootstrapRequest payload tripId lease
      let result := (world.planner.tryBootstrap request).2
      (world.sendBootstrap request).setPhase wait
        (if answered && acknowledges request result && resolved then .bootstrapped runtimeEpoch
          else .failed)
  | _ => world

def Deployment.dropCall (world : Deployment) (wait : Nat) : Deployment :=
  { world with activations := world.activations.filter fun call => !decide (call.wait = wait) }

def Supervisor.abandon (supervisor : Supervisor) (tripId : TripId) : Supervisor :=
  { supervisor with
    active := supervisor.active.erase tripId, activating := supervisor.activating.erase tripId }

/-- The last locked section of `Activate`. -/
def Supervisor.settle (supervisor : Supervisor) (call : ActivationCall) : Supervisor :=
  if supervisor.activating.lookup call.tripId ≠ some call.wait then supervisor
  else
    match call.phase with
    | .failed => supervisor.abandon call.tripId
    | .bootstrapped runtimeEpoch =>
      if supervisor.closed then supervisor.abandon call.tripId
      else
        { supervisor with
          state := supervisor.state.insert call.tripId runtimeEpoch
          activating := supervisor.activating.erase call.tripId }
    | .registered | .leased _ => supervisor

def ActivationPhase.isFinal : ActivationPhase → Bool
  | .failed | .bootstrapped _ => true
  | .registered | .leased _ => false

def Deployment.finishActivation (world : Deployment) (wait : Nat) : Deployment :=
  match world.call? wait with
  | some call =>
    if call.phase.isFinal then
      { world.dropCall wait with supervisor := world.supervisor.settle call }
    else world
  | none => world

/-- `deactivate`: the supervisor forgets the trip. -/
def Supervisor.forget (supervisor : Supervisor) (tripId : TripId) : Supervisor :=
  if supervisor.active.contains tripId then
    { supervisor with
      active := supervisor.active.erase tripId, state := supervisor.state.erase tripId }
  else supervisor

def Deployment.renew (world : Deployment) (tripId : TripId) (duration : Int)
    (now : DatabaseTime) : Deployment :=
  match world.supervisor.state.lookup tripId with
  | none => world
  | some runtimeEpoch =>
    match Persistence.renew (world.leases tripId) world.supervisor.holderId runtimeEpoch duration
        now with
    | .ok (rows, _) => world.setLease tripId rows
    | .error _ => { world with supervisor := world.supervisor.forget tripId }

/-- What `Deactivate` has to release, as it reads the maps. -/
def Deployment.epochToRelease (world : Deployment) (tripId : TripId) (now : DatabaseTime) :
    Option Nat :=
  match world.supervisor.state.lookup tripId with
  | some runtimeEpoch => some runtimeEpoch
  | none =>
    if (world.supervisor.activating.lookup tripId).isSome then
      (current (world.leases tripId) world.supervisor.holderId now).toOption.map
        LeaseRow.runtimeEpoch
    else none

def Deployment.deactivate (world : Deployment) (tripId : TripId) (now : DatabaseTime) :
    Deployment :=
  { world with
    deactivations := ⟨tripId, world.epochToRelease tripId now, false⟩ :: world.deactivations }

/-- The release of a deactivation; a lost lease does not stop the call. -/
def Deployment.releaseLease (world : Deployment) (call : DeactivationCall) : Deployment :=
  match call.runtimeEpoch with
  | none => world
  | some runtimeEpoch =>
    if call ∈ world.deactivations then
      let others := world.deactivations.erase call
      match Persistence.release (world.leases call.tripId) world.supervisor.holderId
          runtimeEpoch with
      | .ok rows =>
        { world.setLease call.tripId rows with
          deactivations := ⟨call.tripId, none, true⟩ :: others }
      | .error .leaseLost =>
        { world with deactivations := ⟨call.tripId, none, call.released⟩ :: others }
      | .error _ => { world with deactivations := others }
    else world

def Deployment.finishDeactivation (world : Deployment) (call : DeactivationCall) : Deployment :=
  if call ∈ world.deactivations ∧ call.runtimeEpoch = none then
    { world with
      supervisor := world.supervisor.forget call.tripId
      deactivations := world.deactivations.erase call
      ended := if call.released then Function.update world.ended call.tripId true
        else world.ended }
  else world

/-- `Close` goes through the active trips; an entry of another trip would stay. -/
def Supervisor.close (supervisor : Supervisor) : Supervisor :=
  { supervisor with
    closed := true, active := [], activating := ∅
    state := supervisor.active.foldl (fun state tripId => state.erase tripId) supervisor.state }

def Deployment.setExecution (world : Deployment) (tripId : TripId) (state : ExecutionState) :
    Deployment :=
  { world with execution := Function.update world.execution tripId state }

def Deployment.activateSaved (world : Deployment) (tripId : TripId) : Deployment :=
  if world.execution tripId = .inactive then world.setExecution tripId .activating else world

/-- An activating trip still has its operation pending, and the index of pending
operations refuses a second one. -/
def Deployment.deactivateSaved (world : Deployment) (tripId : TripId) : Deployment :=
  if world.execution tripId = .active then world.setExecution tripId .deactivating else world

def Deployment.completeActivation (world : Deployment) (tripId : TripId) (runtimeEpoch : Nat)
    (now : DatabaseTime) : Deployment :=
  match current (world.leases tripId) world.supervisor.holderId now with
  | .ok lease =>
    if lease.runtimeEpoch = runtimeEpoch ∧ world.execution tripId = .activating then
      world.setExecution tripId .active
    else world
  | .error _ => world

def Deployment.completeDeactivation (world : Deployment) (tripId : TripId) : Deployment :=
  if (world.leases tripId).lease.isNone ∧ world.execution tripId = .deactivating then
    { world.setExecution tripId .inactive with ended := Function.update world.ended tripId true }
  else world

inductive TenureStep where
  | activate (tripId : TripId)
  | acquire (wait : Nat) (duration : Int) (readAt writtenAt : DatabaseTime)
  | bootstrap (wait : Nat) (now : DatabaseTime) (payload : RuntimeBootstrapRequest)
      (answered resolved : Bool)
  | cancel (wait : Nat)
  | finishActivation (wait : Nat)
  | renew (tripId : TripId) (duration : Int) (now : DatabaseTime)
  | deactivate (tripId : TripId) (now : DatabaseTime)
  | releaseLease (call : DeactivationCall)
  | finishDeactivation (call : DeactivationCall)
  | close
  | restart (holderId : HolderId) (maxActiveTrips : Nat)
  | activateSaved (tripId : TripId)
  | deactivateSaved (tripId : TripId)
  | completeActivation (tripId : TripId) (runtimeEpoch : Nat) (now : DatabaseTime)
  | completeDeactivation (tripId : TripId)
  | leaseOf (tripId : TripId) (rows : LeaseRows)
  | traffic (request : Traffic)

/-- One step of the deployment. `leaseOf` is whatever another backend or the
clock of the database does to a lease row, and `restart` a new backend process. -/
def Deployment.step (world : Deployment) : TenureStep → Deployment
  | .activate tripId => world.activate tripId
  | .acquire wait duration readAt writtenAt => world.acquire wait duration readAt writtenAt
  | .bootstrap wait now payload answered resolved =>
    world.bootstrap wait now payload answered resolved
  | .cancel wait => world.setPhase wait .failed
  | .finishActivation wait => world.finishActivation wait
  | .renew tripId duration now => world.renew tripId duration now
  | .deactivate tripId now => world.deactivate tripId now
  | .releaseLease call => world.releaseLease call
  | .finishDeactivation call => world.finishDeactivation call
  | .close => { world with supervisor := world.supervisor.close }
  | .restart holderId maxActiveTrips =>
    { world with
      supervisor := .start holderId maxActiveTrips, activations := [], deactivations := [] }
  | .activateSaved tripId => world.activateSaved tripId
  | .deactivateSaved tripId => world.deactivateSaved tripId
  | .completeActivation tripId runtimeEpoch now => world.completeActivation tripId runtimeEpoch now
  | .completeDeactivation tripId => world.completeDeactivation tripId
  | .leaseOf tripId rows => world.setLease tripId rows
  | .traffic request => { world with planner := serve world.planner request }

def Deployment.run (world : Deployment) (steps : List TenureStep) : Deployment :=
  steps.foldl Deployment.step world

theorem Supervisor.close_lookup (supervisor : Supervisor) (tripId : TripId) :
    supervisor.close.state.lookup tripId =
      if tripId ∈ supervisor.active then none else supervisor.state.lookup tripId := by
  unfold Supervisor.close
  dsimp only
  generalize supervisor.state = state
  induction supervisor.active generalizing state with
  | nil => simp
  | cons other _ ih =>
    rw [List.foldl_cons, ih]
    by_cases hsame : tripId = other
    · subst hsame
      simp
    · simp [hsame, AList.lookup_erase_ne hsame]

structure Retains (world : Deployment) : Prop where
  sound : world.planner.Sound
  held : ∀ tripId, (world.planner.find tripId).isSome = world.bootstrapped tripId

theorem serve_touches (planner : TripMap) (request : Traffic) :
    planner.Touches (serve planner request) := by
  cases request with
  | applyEvent => exact planner.tryApplyEvent_touches
  | confirmFinalized => exact planner.tryConfirmFinalized_touches _
  | requestSnapshot => exact .inl rfl
  | finishPlanning => exact planner.finishPlanning_touches

/-- What a step does to the planner and to the history of its bootstraps. -/
inductive PlannerTurn (world : Deployment) : TripMap → (TripId → Bool) → Prop where
  | served {next : TripMap} (touches : world.planner.Touches next) :
      PlannerTurn world next world.bootstrapped
  | bootstrapped (request : RuntimeBootstrapRequest) {history : TripId → Bool}
      (accepts : ∀ tripId, history tripId =
        (decide ((world.planner.tryBootstrap request).2.status = .accepted ∧
          tripId = request.state.tripId) || world.bootstrapped tripId)) :
      PlannerTurn world (world.planner.tryBootstrap request).1 history

theorem PlannerTurn.sound (h : PlannerTurn world next history) (hsound : world.planner.Sound) :
    next.Sound := by
  cases h with
  | served touches => exact touches.sound hsound
  | bootstrapped request => exact (world.planner.tryBootstrap_cases request).sound hsound

theorem sendBootstrap_turn (world : Deployment) (request : RuntimeBootstrapRequest) :
    PlannerTurn world (world.sendBootstrap request).planner
      (world.sendBootstrap request).bootstrapped := by
  unfold Deployment.sendBootstrap
  dsimp only
  split
  next hacc =>
    refine .bootstrapped request fun tripId => ?_
    by_cases hsame : tripId = request.state.tripId
    · simp [hacc, hsame]
    · simp [hsame]
  next href => exact .bootstrapped request fun tripId => by simp [href]

theorem step_plannerTurn (world : Deployment) (step : TenureStep) :
    PlannerTurn world (world.step step).planner (world.step step).bootstrapped := by
  cases step with
  | bootstrap =>
    simp only [Deployment.step, Deployment.bootstrap]
    split
    · split
      · exact .served (.inl rfl)
      · exact sendBootstrap_turn world _
    · exact .served (.inl rfl)
  | traffic request => exact .served (serve_touches world.planner request)
  | cancel | deactivate | close | restart | leaseOf => exact .served (.inl rfl)
  | _ =>
    simp only [Deployment.step, Deployment.activate, Deployment.acquire,
      Deployment.finishActivation, Deployment.renew, Deployment.releaseLease,
      Deployment.finishDeactivation, Deployment.activateSaved, Deployment.deactivateSaved,
      Deployment.completeActivation, Deployment.completeDeactivation]
    -- no branch of the other steps reaches the planner
    repeat' split
    all_goals exact .served (.inl rfl)

theorem PlannerTurn.held (hturn : PlannerTurn world next history) (h : Retains world)
    (tripId : TripId) : (next.find tripId).isSome = history tripId := by
  cases hturn with
  | served touches => rw [touches.isSome, h.held]
  | bootstrapped request accepts =>
    rw [accepts, (world.planner.tryBootstrap_cases request).isSome, h.held]

theorem step_retains (h : Retains world) : Retains (world.step step) :=
  ⟨(step_plannerTurn world step).sound h.sound, (step_plannerTurn world step).held h⟩

theorem run_retains (h : Retains world) : Retains (world.run steps) := by
  induction steps generalizing world with
  | nil => exact h
  | cons _ _ ih => exact ih (step_retains h)

def Deployment.executing (world : Deployment) : List TripId :=
  world.planner.trips.keys.filter fun tripId => !world.ended tripId

/-- Every completed deactivation has reached the planner: the trip is gone, the
count is that of the executing trips, and the bootstrap of the next activation
is accepted unless those use up every place. -/
structure DeactivationReaches (world : Deployment) : Prop where
  gone : ∀ tripId, world.ended tripId → world.planner.find tripId = none
  counted : world.planner.activeTripCount = world.executing.length
  accepted : ∀ request : RuntimeBootstrapRequest, world.ended request.state.tripId →
    request.isRecovery → (world.planner.tryBootstrap request).2.status = .accepted ∨
    (world.planner.tryBootstrap request).2.status = .resourceExhausted ∧
    world.planner.maxActiveTrips ≤ world.executing.length

theorem Retains.executing_eq (h : Retains world)
    (hnever : ∀ tripId, world.ended tripId → world.bootstrapped tripId = false) :
    world.executing = world.planner.trips.keys := by
  apply List.filter_eq_self.mpr
  intro tripId hkey
  have hheld : (world.planner.find tripId).isSome :=
    AList.lookup_isSome.mpr (AList.mem_keys.mpr hkey)
  by_contra hended
  have hunheld := hnever tripId (by simpa using hended)
  rw [← h.held tripId, hheld] at hunheld
  cases hunheld

/-- Deactivations reach the planner exactly when none of the deactivated trips
was ever bootstrapped. A trip that was stays in the map, and the first lease of
its next tenure starts at an epoch the planner refuses. -/
theorem deactivation_reaches_iff (supervisor : Supervisor) (leases : TripId → LeaseRows)
    (execution : TripId → ExecutionState) (maxActiveTrips : Nat) (steps : List TenureStep) :
    let world := (Deployment.initial supervisor leases execution maxActiveTrips).run steps
    (DeactivationReaches world ↔
      ∀ tripId, world.ended tripId → world.bootstrapped tripId = false) ∧
    ∀ tripId, world.ended tripId → world.bootstrapped tripId →
      (world.leases tripId).lease = none → ∀ holderId duration readAt writtenAt rows lease payload,
      Persistence.acquire (world.leases tripId) holderId duration readAt writtenAt =
        .ok (rows, lease) →
      (world.planner.tryBootstrap
        (bootstrapRequest payload tripId lease)).2.status ≠ .accepted := by
  intro world
  have hretains : Retains world := run_retains ⟨TripMap.sound_empty _, fun _ => rfl⟩
  refine ⟨⟨?_, ?_⟩, ?_⟩
  · intro hreaches tripId hended
    rw [← hretains.held tripId, hreaches.gone tripId hended]
    rfl
  · intro hnever
    have hgone : ∀ tripId, world.ended tripId → world.planner.find tripId = none := by
      intro tripId hended
      have hunheld := hretains.held tripId
      rw [hnever tripId hended] at hunheld
      exact Option.isSome_eq_false_iff.mp hunheld |> Option.isNone_iff_eq_none.mp
    have hexec := hretains.executing_eq hnever
    refine ⟨hgone, ?_, ?_⟩
    · rw [hexec]
      exact hretains.sound.count
    · intro request hended hrecovery
      rw [TripMap.tryBootstrap_unheld hrecovery (hgone _ hended), hexec, ← hretains.sound.count]
      by_cases hfull : world.planner.maxActiveTrips ≤ world.planner.activeTripCount
      · rw [if_pos hfull]
        exact .inr ⟨rfl, hfull⟩
      · rw [if_neg hfull]
        exact .inl rfl
  · intro tripId _ hboot hnone holderId duration readAt writtenAt rows lease payload
      hgranted
    have hheld : (world.planner.find tripId).isSome := by
      rw [hretains.held tripId]
      exact hboot
    obtain ⟨trip, htrip⟩ := Option.isSome_iff_exists.mp hheld
    obtain ⟨-, hepoch, -⟩ := hretains.sound.running tripId trip htrip
    obtain ⟨-, ⟨-, hfirst, -⟩ | ⟨held, hlease, -⟩⟩ := acquire_cases hgranted
    · refine (TripMap.tryBootstrap_held hretains.sound htrip ?_).1
      change UInt64.ofNat lease.runtimeEpoch ≤ _
      rw [hfirst]
      exact Nat.one_le_iff_ne_zero.mpr fun hzero => hepoch (UInt64.toNat_inj.mp hzero)
    · rw [hnone] at hlease
      cases hlease

def quietDeployment : Deployment :=
  .initial (.start ⟨2⟩ 4) (fun _ => ⟨none, []⟩) (fun _ => .activating) 4

def executingDeployment : Deployment :=
  .initial (.start ⟨2⟩ 4) (fun _ => ⟨none, []⟩) (fun _ => .active) 4

def museumPayload (finalized : UInt64) : RuntimeBootstrapRequest :=
  ⟨museumState, ⟨8⟩, 0, 1, finalized, 0⟩

/-- The activation that a backend starts for an active trip fails before its
bootstrap. -/
def earlyDeactivation : List TenureStep :=
  [.activate ⟨9⟩, .cancel 0, .finishActivation 0, .deactivateSaved ⟨9⟩, .deactivate ⟨9⟩ 1,
    .finishDeactivation ⟨⟨9⟩, none, false⟩, .completeDeactivation ⟨9⟩]

theorem deactivation_reaches_early :
    (executingDeployment.run earlyDeactivation).ended ⟨9⟩ ∧
      DeactivationReaches (executingDeployment.run earlyDeactivation) := by
  refine ⟨by decide +kernel, ?_⟩
  refine (deactivation_reaches_iff _ _ _ 4 earlyDeactivation).1.mpr ?_
  intro tripId _
  rfl

def firstTenure : List TenureStep :=
  [.activate ⟨9⟩, .acquire 0 1 0 0, .bootstrap 0 0 (museumPayload 1) true true,
    .finishActivation 0, .completeActivation ⟨9⟩ 1 0, .deactivateSaved ⟨9⟩, .deactivate ⟨9⟩ 0,
    .releaseLease ⟨⟨9⟩, some 1, false⟩, .finishDeactivation ⟨⟨9⟩, none, true⟩,
    .completeDeactivation ⟨9⟩]

def secondActivation : List TenureStep :=
  [.activateSaved ⟨9⟩, .activate ⟨9⟩, .acquire 1 1 2000 2000]

/-- The planner still holds the deactivated trip, and refuses the bootstrap of
its next activation as INVALID_ARGUMENT. -/
theorem deactivation_leaves_trip : (quietDeployment.run firstTenure).execution ⟨9⟩ = .inactive ∧
      (quietDeployment.run firstTenure).ended ⟨9⟩ ∧
      ((quietDeployment.run firstTenure).leases ⟨9⟩).lease = none ∧
      ((quietDeployment.run firstTenure).planner.find ⟨9⟩).isSome ∧
      (quietDeployment.run firstTenure).planner.activeTripCount = 1 ∧
      (((quietDeployment.run (firstTenure ++ secondActivation)).leases ⟨9⟩).lease.map
        fun lease => ((quietDeployment.run (firstTenure ++ secondActivation)).planner.tryBootstrap
          (bootstrapRequest (museumPayload 2) ⟨9⟩ lease)).2.status) = some .invalidArgument := by
  decide +kernel

end LiveRoute.Dispatch
