import LiveRoute.Dispatch.Supervisor

/-! The goroutines around the maps of a supervisor. Each step is one section
under its lock, or a call of the lease store or the bootstrapper that returns,
so that a history is an interleaving of any number of callers. -/
namespace LiveRoute.Dispatch
open Domain LiveRoute.Runtime Persistence

/-- What `Activate` returns, and what the callers that wait for it receive. -/
inductive ActivationResult where
  | activated | failed | runtimeClosed
deriving DecidableEq

/-- A caller of `Activate` that found the trip activating. -/
structure Waiter where
  (caller wait : Nat)
deriving DecidableEq

structure RenewalLoop where
  tripId : TripId
  (wait runtimeEpoch : Nat)
deriving DecidableEq

/-- The maps of the supervisor with the goroutines that use them. A context is
named by the `activationWait` of its activation: `cancels` holds the contexts
that the cancel functions of `active` end, and `results` what the closed
channels deliver. -/
structure SupervisorProcess where
  supervisor : Supervisor
  cancels : TripId → Option Nat
  calls : List ActivationCall
  loops : List RenewalLoop
  cancelled : List Nat
  results : Nat → Option ActivationResult
  waiters : List Waiter
  released : List (Waiter × ActivationResult)
  returned : List (Nat × ActivationResult)

inductive SupervisorStep where
  | activate (caller : Nat) (tripId : TripId)
  | acquired (wait : Nat) (runtimeEpoch : Option Nat)
  | bootstrapped (wait : Nat) (succeeded : Bool)
  | finish (wait : Nat)
  | receive (waiter : Waiter)
  | giveUp (waiter : Waiter)
  | renew (wait : Nat) (rows : Option LeaseRows) (durationMilliseconds : Int) (now : DatabaseTime)
  | stopRenewing (wait : Nat)
  | deactivate (tripId : TripId)
  | close
  | parentDone (wait : Nat)

def Supervisor.register (supervisor : Supervisor) (tripId : TripId) : Supervisor :=
  { supervisor with
    active := tripId :: supervisor.active
    activating := supervisor.activating.insert tripId supervisor.nextWait
    nextWait := supervisor.nextWait + 1 }

namespace SupervisorProcess

def start (holderId : HolderId) (maxActiveTrips : Nat) : SupervisorProcess :=
  ⟨.start holderId maxActiveTrips, fun _ => none, [], [], [], fun _ => none, [], [], []⟩

/-- The first locked section of `Activate`. -/
def activate (process : SupervisorProcess) (caller : Nat) (tripId : TripId) : SupervisorProcess :=
  let supervisor := process.supervisor
  if supervisor.closed then process
  else if supervisor.active.contains tripId then
    match supervisor.activating.lookup tripId with
    | some wait => { process with waiters := ⟨caller, wait⟩ :: process.waiters }
    | none => process
  else if supervisor.maxActiveTrips ≤ supervisor.active.length then process
  else
    { process with
      supervisor := supervisor.register tripId
      cancels := Function.update process.cancels tripId (some supervisor.nextWait)
      calls := ⟨tripId, supervisor.nextWait, .registered⟩ :: process.calls }

def call? (process : SupervisorProcess) (wait : Nat) : Option ActivationCall :=
  process.calls.find? fun call => decide (call.wait = wait)

def setPhase (process : SupervisorProcess) (wait : Nat) (phase : ActivationPhase) :
    SupervisorProcess :=
  { process with calls := process.calls.map fun call =>
      if call.wait = wait then { call with phase := phase } else call }

/-- `Acquire` returns, late or with an error as it may. -/
def acquired (process : SupervisorProcess) (wait : Nat) (runtimeEpoch : Option Nat) :
    SupervisorProcess :=
  match process.call? wait with
  | some ⟨_, _, .registered⟩ => process.setPhase wait (runtimeEpoch.elim .failed .leased)
  | _ => process

def bootstrapped (process : SupervisorProcess) (wait : Nat) (succeeded : Bool) :
    SupervisorProcess :=
  match process.call? wait with
  | some ⟨_, _, .leased runtimeEpoch⟩ =>
    process.setPhase wait (if succeeded then .bootstrapped runtimeEpoch else .failed)
  | _ => process

/-- What the last locked section of `Activate` makes of the call: the epoch to
renew, or the reason to give up. -/
def outcome (process : SupervisorProcess) (call : ActivationCall) : Except ActivationResult Nat :=
  match call.phase with
  | .bootstrapped runtimeEpoch =>
    if process.supervisor.activating.lookup call.tripId ≠ some call.wait ∨
        process.supervisor.closed then .error .runtimeClosed
    else .ok runtimeEpoch
  | .failed | .registered | .leased _ => .error .failed

/-- The call returns. It closes its channel if it is still the one registered,
and starts the renewal loop or ends its context. -/
def settle (process : SupervisorProcess) (call : ActivationCall) : SupervisorProcess :=
  let registered := decide (process.supervisor.activating.lookup call.tripId = some call.wait)
  let close (process : SupervisorProcess) (result : ActivationResult) : SupervisorProcess :=
    { process with
      supervisor := process.supervisor.settle call
      calls := process.calls.filter fun other => !decide (other.wait = call.wait)
      results := if registered then Function.update process.results call.wait (some result)
        else process.results
      returned := (call.wait, result) :: process.returned }
  match process.outcome call with
  | .ok runtimeEpoch =>
    close { process with loops := ⟨call.tripId, call.wait, runtimeEpoch⟩ :: process.loops }
      .activated
  | .error result =>
    close { process with
      cancels := if registered then Function.update process.cancels call.tripId none
        else process.cancels
      cancelled := call.wait :: process.cancelled } result

def finish (process : SupervisorProcess) (wait : Nat) : SupervisorProcess :=
  match process.call? wait with
  | some call => if call.phase.isFinal then process.settle call else process
  | none => process

def receive (process : SupervisorProcess) (waiter : Waiter) : SupervisorProcess :=
  if waiter ∈ process.waiters then
    match process.results waiter.wait with
    | some result =>
      { process with
        waiters := process.waiters.erase waiter, released := (waiter, result) :: process.released }
    | none => process
  else process

/-- `deactivate`, which does not look whose activation it removes. -/
def forget (process : SupervisorProcess) (tripId : TripId) : SupervisorProcess :=
  if process.supervisor.active.contains tripId then
    { process with
      supervisor := process.supervisor.forget tripId
      cancels := Function.update process.cancels tripId none
      cancelled := (process.cancels tripId).toList ++ process.cancelled }
  else process

def dropLoop (process : SupervisorProcess) (wait : Nat) : SupervisorProcess :=
  { process with loops := process.loops.filter fun loop => !decide (loop.wait = wait) }

/-- `Renew` returns to the loop: from these rows, or with another error. -/
def renew (process : SupervisorProcess) (wait : Nat) (rows : Option LeaseRows)
    (durationMilliseconds : Int) (now : DatabaseTime) : SupervisorProcess :=
  match process.loops.find? fun loop => decide (loop.wait = wait) with
  | none => process
  | some loop =>
    match rows.bind fun rows => (Persistence.renew rows process.supervisor.holderId
        loop.runtimeEpoch durationMilliseconds now).toOption with
    | some (_, lease) =>
      { process with loops := process.loops.map fun other =>
          if other.wait = wait then { other with runtimeEpoch := lease.runtimeEpoch } else other }
    | none => (process.forget loop.tripId).dropLoop wait

def stopRenewing (process : SupervisorProcess) (wait : Nat) : SupervisorProcess :=
  if wait ∈ process.cancelled then process.dropLoop wait else process

def close (process : SupervisorProcess) : SupervisorProcess :=
  if process.supervisor.closed then process
  else
    { process with
      supervisor := process.supervisor.close, cancels := fun _ => none
      cancelled := process.supervisor.active.filterMap process.cancels ++ process.cancelled
      results := fun wait =>
        if process.supervisor.activating.entries.any fun entry => decide (entry.2 = wait) then
          some .runtimeClosed
        else process.results wait }

def step (process : SupervisorProcess) : SupervisorStep → SupervisorProcess
  | .activate caller tripId => process.activate caller tripId
  | .acquired wait runtimeEpoch => process.acquired wait runtimeEpoch
  | .bootstrapped wait succeeded => process.bootstrapped wait succeeded
  | .finish wait => process.finish wait
  | .receive waiter => process.receive waiter
  | .giveUp waiter => { process with waiters := process.waiters.erase waiter }
  | .renew wait rows durationMilliseconds now => process.renew wait rows durationMilliseconds now
  | .stopRenewing wait => process.stopRenewing wait
  | .deactivate tripId => process.forget tripId
  | .close => process.close
  | .parentDone wait =>
    if wait < process.supervisor.nextWait then
      { process with cancelled := wait :: process.cancelled }
    else process

def run (process : SupervisorProcess) (history : List SupervisorStep) : SupervisorProcess :=
  history.foldl step process

end SupervisorProcess

end LiveRoute.Dispatch
