import LiveRoute.Dispatch.Supervisor
import LiveRoute.Library.KeyedRows
import LiveRoute.Library.Runs
import LiveRoute.Library.Traces

/-! What the loops of a backend send to the planner. The dispatcher asks for the
current lease, telemetry for the entry of the supervisor; an answer of
INACTIVE_TRIP changes neither. -/
namespace LiveRoute.Dispatch
open Domain LiveRoute.Runtime Persistence Runs Traces

inductive Outgoing where
  | event (row : CommandRow)
  | telemetry (request : EventAdmissionRequest)
  | confirmation (finalizedMutationSequence : UInt64)
deriving DecidableEq

/-- How far an exchange comes: the stream may be down, and a response may be
lost. -/
inductive Delivery where
  | notSent | unanswered | answered
deriving DecidableEq

inductive StreamEntry where
  | sent (tripId : TripId) (message : Outgoing)
  | answeredInactive (tripId : TripId)
  /-- A bootstrap under the epoch of the current lease was acknowledged. -/
  | bootstrapAcknowledged (tripId : TripId)
  | plannerRestarted
deriving DecidableEq

structure Session where
  deployment : Deployment
  trace : List StreamEntry

def TenureStep.isSend : TenureStep → Bool
  | .traffic (.applyEvent ..) | .traffic (.confirmFinalized ..) => true
  | _ => false

def Deployment.supervise (world : Deployment) (step : TenureStep) : Deployment :=
  if step.isSend then world else world.step step

def Deployment.acknowledged? (world : Deployment) : TenureStep → Option TripId
  | .bootstrap wait now payload answered _ =>
    match world.call? wait with
    | some ⟨tripId, _, .leased _⟩ =>
      match current (world.leases tripId) world.supervisor.holderId now with
      | .error _ => none
      | .ok lease =>
        let request := bootstrapRequest payload tripId lease
        if answered && acknowledges request (world.planner.tryBootstrap request).2 then some tripId
        else none
    | _ => none
  | _ => none

/-- The epoch under which a loop sends its message, if it sends it. -/
def Deployment.epochFor (world : Deployment) (tripId : TripId) (now : DatabaseTime) :
    Outgoing → Option Nat
  | .event row =>
    if storedEventIsValid row then
      (current (world.leases tripId) world.supervisor.holderId now).toOption.map
        LeaseRow.runtimeEpoch
    else none
  | .telemetry _ => world.supervisor.state.lookup tripId
  | .confirmation _ =>
    (current (world.leases tripId) world.supervisor.holderId now).toOption.map LeaseRow.runtimeEpoch

def answer (planner : TripMap) (tripId : TripId) (runtimeEpoch : UInt64)
    (currentTime : UnixTimeMilliseconds) (maxAdvisoryPayloadBytes : Nat) : Outgoing → TripMap × Bool
  | .event row =>
    let served := planner.tryApplyEvent tripId (admissionRequest row runtimeEpoch) currentTime
      maxAdvisoryPayloadBytes
    (served.1, decide (served.2.status = .inactive))
  | .telemetry request =>
    let served := planner.tryApplyEvent tripId { request with runtimeEpoch := runtimeEpoch }
      currentTime maxAdvisoryPayloadBytes
    (served.1, decide (served.2.status = .inactive))
  | .confirmation finalizedMutationSequence =>
    let served := planner.tryConfirmFinalized tripId runtimeEpoch finalizedMutationSequence
    (served.1, decide (served.2.status = .inactive))

def Session.exchange (session : Session) (tripId : TripId) (message : Outgoing)
    (served : TripMap × Bool) : Delivery → Session
  | .notSent => session
  | .unanswered =>
    ⟨{ session.deployment with planner := served.1 }, session.trace ++ [.sent tripId message]⟩
  | .answered =>
    ⟨{ session.deployment with planner := served.1 },
      (session.trace ++ [.sent tripId message]) ++
        if served.2 then [.answeredInactive tripId] else []⟩

inductive SessionStep where
  | supervise (step : TenureStep)
  | restartPlanner (maxActiveTrips : Nat)
  | reconnect
  | send (tripId : TripId) (message : Outgoing) (now : DatabaseTime)
      (currentTime : UnixTimeMilliseconds) (maxAdvisoryPayloadBytes : Nat) (delivery : Delivery)

/-- A new stream starts with nothing sent on it; a new planner holds no trip. -/
def Session.step (session : Session) : SessionStep → Session
  | .supervise step =>
    ⟨session.deployment.supervise step, session.trace ++
      ((session.deployment.acknowledged? step).map StreamEntry.bootstrapAcknowledged).toList⟩
  | .restartPlanner maxActiveTrips =>
    ⟨{ session.deployment with planner := .empty maxActiveTrips },
      session.trace ++ [.plannerRestarted]⟩
  | .reconnect => session
  | .send tripId message now currentTime maxAdvisoryPayloadBytes delivery =>
    match session.deployment.epochFor tripId now message with
    | none => session
    | some runtimeEpoch =>
      session.exchange tripId message (answer session.deployment.planner tripId
        (.ofNat runtimeEpoch) currentTime maxAdvisoryPayloadBytes message) delivery

def StreamEntry.isInactiveAnswer (tripId : TripId) (entry : StreamEntry) : Bool :=
  decide (entry = .answeredInactive tripId)

/-- From here on the trip is unknown to the planner. -/
def StreamEntry.isUnknown (tripId : TripId) (entry : StreamEntry) : Bool :=
  entry.isInactiveAnswer tripId || decide (entry = .plannerRestarted)

def StreamEntry.isBootstrap (tripId : TripId) (entry : StreamEntry) : Bool :=
  decide (entry = .bootstrapAcknowledged tripId)

def StreamEntry.isSentFor (tripId : TripId) : StreamEntry → Bool
  | .sent other _ => decide (other = tripId)
  | _ => false

/-- After an entry that `opens` nothing is sent for the trip before a bootstrap
of it is acknowledged. -/
def RebootstrapsAfter (opens : TripId → StreamEntry → Bool) (trace : List StreamEntry) : Prop :=
  ∀ tripId, Guards (opens tripId) (StreamEntry.isBootstrap tripId) (StreamEntry.isSentFor tripId)
    trace

def ActivationPhase.isBootstrapped : ActivationPhase → Bool
  | .bootstrapped _ => true
  | .registered | .leased _ | .failed => false

/-- The supervisor serves the trip, or an activation of it has its bootstrap
acknowledged. -/
def Deployment.Admits (world : Deployment) (tripId : TripId) : Prop :=
  (world.supervisor.state.lookup tripId).isSome ∨
    ∃ wait call, world.call? wait = some call ∧ call.tripId = tripId ∧
      call.phase.isBootstrapped

/-- The planner process restarts only while the supervisor serves no trip and
no activation is past its bootstrap, and the loops come only to trips that the
supervisor serves. -/
def Session.restrained (session : Session) : SessionStep → Bool
  | .restartPlanner _ => session.deployment.supervisor.state.keys.isEmpty &&
      session.deployment.activations.all fun call => !call.phase.isBootstrapped
  | .send tripId .. => (session.deployment.supervisor.state.lookup tripId).isSome
  | _ => true

section Admission
variable {world : Deployment} {tripId : TripId}

theorem admits_setPhase (h : (world.setPhase wait phase).Admits tripId) :
    world.Admits tripId ∨ phase.isBootstrapped ∧ ∃ call, world.call? wait = some call ∧
      call.tripId = tripId := by
  obtain hstate | ⟨key, call, hcall, htrip, hphase⟩ := h
  · exact .inl (.inl hstate)
  have hkeyed : (world.setPhase wait phase).call? key = (world.call? key).map fun call =>
      if call.wait = wait then { call with phase := phase } else call :=
    KeyedRows.find?_map (fun call _ => by split <;> rfl) key
  rw [hkeyed, Option.map_eq_some_iff] at hcall
  obtain ⟨before, hbefore, rfl⟩ := hcall
  have hkey : before.wait = key := by simpa using List.find?_some hbefore
  split at htrip
  next hsame =>
    rw [if_pos hsame] at hphase
    exact .inr ⟨hphase, before, hsame ▸ hkey ▸ hbefore, htrip⟩
  next hother =>
    rw [if_neg hother] at hphase
    exact .inl (.inr ⟨key, before, hbefore, htrip, hphase⟩)

theorem settle_admits (hcall : world.call? wait = some call)
    (h : ((world.supervisor.settle call).state.lookup tripId).isSome) : world.Admits tripId := by
  unfold Supervisor.settle at h
  split at h
  · exact .inl h
  split at h
  · exact .inl h
  next runtimeEpoch hphase =>
    split at h
    · exact .inl h
    · by_cases hsame : tripId = call.tripId
      · exact .inr ⟨wait, call, hcall, hsame.symm, by rw [hphase]; rfl⟩
      · rw [AList.lookup_insert_ne hsame] at h
        exact .inl h
  all_goals exact .inl h

theorem forget_lookup (supervisor : Supervisor)
    (h : ((supervisor.forget other).state.lookup tripId).isSome) :
    (supervisor.state.lookup tripId).isSome := by
  unfold Supervisor.forget at h
  split at h
  · by_cases hsame : tripId = other
    · subst hsame
      simp at h
    · rwa [AList.lookup_erase_ne hsame] at h
  · exact h

theorem finishActivation_admits (h : (world.finishActivation wait).Admits tripId) :
    world.Admits tripId := by
  unfold Deployment.finishActivation at h
  split at h
  next call hcall =>
    split at h
    · obtain hstate | ⟨key, kept, hkept, hrest⟩ := h
      · exact settle_admits hcall hstate
      · have hmem := List.mem_filter.mp (List.mem_of_find?_eq_some hkept)
        have hkey : kept.wait = key := by simpa using List.find?_some hkept
        have hother : key ≠ wait := by simpa [hkey] using hmem.2
        refine .inr ⟨key, kept, hkept ▸ ?_, hrest⟩
        unfold Deployment.call? Deployment.dropCall
        rw [List.find?_filter]
        congr 1
        funext call
        by_cases hsame : call.wait = key <;> simp [hsame, hother]
    · exact h
  · exact h

theorem sendBootstrap_eq (world : Deployment) (request : RuntimeBootstrapRequest) :
    ∃ bootstrapped ended, world.sendBootstrap request = { world with
      planner := (world.planner.tryBootstrap request).1
      bootstrapped := bootstrapped, ended := ended } := by
  unfold Deployment.sendBootstrap
  dsimp only
  split <;> exact ⟨_, _, rfl⟩

theorem bootstrap_admits
    (h : (world.bootstrap wait now payload answered resolved).Admits tripId) :
    world.Admits tripId ∨
      world.acknowledged? (.bootstrap wait now payload answered resolved) = some tripId := by
  unfold Deployment.bootstrap at h
  split at h
  next other _ _ hcall =>
    split at h
    · exact (admits_setPhase h).imp_right (by rintro ⟨⟨⟩, -⟩)
    next lease hlease =>
      obtain ⟨_, _, hsent⟩ := sendBootstrap_eq world (bootstrapRequest payload other lease)
      dsimp only at h
      rw [hsent] at h
      obtain hbefore | ⟨hphase, call, hfound, rfl⟩ := admits_setPhase h
      · exact .inl hbefore
      · cases hcall.symm.trans hfound
        refine .inr ?_
        simp only [Deployment.acknowledged?, hcall, hlease]
        split at hphase
        next hacknowledged =>
          rw [Bool.and_eq_true] at hacknowledged
          exact if_pos hacknowledged.1
        · cases hphase
  · exact .inl h

/-- A trip is admitted by a bootstrap that the planner acknowledges, and by
nothing else. -/
theorem supervise_admits (h : (world.supervise step).Admits tripId) :
    world.Admits tripId ∨ world.acknowledged? step = some tripId := by
  unfold Deployment.supervise at h
  split at h
  · exact .inl h
  cases step with
  | bootstrap => exact bootstrap_admits h
  | cancel => exact (admits_setPhase h).imp_right (by rintro ⟨⟨⟩, -⟩)
  | finishActivation => exact .inl (finishActivation_admits h)
  | activate =>
    simp only [Deployment.step, Deployment.activate] at h
    split at h
    · exact .inl h
    · refine .inl (h.imp_right ?_)
      rintro ⟨key, call, hcall, htrip, hphase⟩
      simp only [Deployment.call?, List.find?_cons] at hcall
      split at hcall
      · cases hcall
        cases hphase
      · exact ⟨key, call, hcall, htrip, hphase⟩
  | acquire =>
    simp only [Deployment.step, Deployment.acquire] at h
    split at h
    · split at h <;> exact (admits_setPhase h).imp_right (by rintro ⟨⟨⟩, -⟩)
    · exact .inl h
  | renew =>
    simp only [Deployment.step, Deployment.renew] at h
    split at h
    · exact .inl h
    split at h
    · exact .inl h
    · exact .inl (h.imp_left (forget_lookup _))
  | finishDeactivation =>
    simp only [Deployment.step, Deployment.finishDeactivation] at h
    split at h
    · exact .inl (h.imp_left (forget_lookup _))
    · exact .inl h
  | close =>
    refine .inl (h.imp_left fun hstate => ?_)
    simp only [Deployment.step, Supervisor.close_lookup] at hstate
    split at hstate
    · cases hstate
    · exact hstate
  | restart => obtain h | ⟨_, _, h, _⟩ := h <;> cases h
  | _ =>
    simp only [Deployment.step, Deployment.deactivate, Deployment.releaseLease,
      Deployment.activateSaved, Deployment.deactivateSaved, Deployment.completeActivation,
      Deployment.completeDeactivation] at h
    -- the other steps reach neither the supervisor nor an activation
    repeat' split at h
    all_goals exact .inl h

theorem PlannerTurn.keeps (h : PlannerTurn world next history)
    (hheld : (world.planner.find tripId).isSome) : (next.find tripId).isSome := by
  cases h with
  | served touches => exact touches.isSome.trans hheld
  | bootstrapped request =>
    rw [(world.planner.tryBootstrap_cases request).isSome, hheld, Bool.or_true]

theorem supervise_plannerTurn (world : Deployment) (step : TenureStep) :
    PlannerTurn world (world.supervise step).planner (world.supervise step).bootstrapped := by
  unfold Deployment.supervise
  split
  · exact .served (.inl rfl)
  · exact step_plannerTurn world step

theorem acknowledged_held (h : world.acknowledged? step = some tripId) :
    ((world.supervise step).planner.find tripId).isSome := by
  cases step with
  | bootstrap wait now payload answered resolved =>
    simp only [Deployment.acknowledged?] at h
    split at h
    next other _ _ hcall =>
      split at h
      · cases h
      next lease hlease =>
        split at h <;> cases h
        next hacknowledged =>
          simp only [acknowledges, Bool.and_eq_true, Bool.or_eq_true, decide_eq_true_eq]
            at hacknowledged
          have hserved := (world.planner.tryBootstrap_cases
            (bootstrapRequest payload tripId lease)).held hacknowledged.2.1.1.1.1.1
          obtain ⟨_, _, hsent⟩ := sendBootstrap_eq world (bootstrapRequest payload tripId lease)
          change ((world.bootstrap wait now payload answered resolved).planner.find _).isSome
          simp only [Deployment.bootstrap, hcall, hlease, hsent]
          exact hserved
    · cases h
  | _ => cases h

end Admission

theorem answer_known {planner : TripMap} (hsound : planner.Sound)
    (hheld : (planner.find tripId).isSome) (message : Outgoing) :
    planner.Touches (answer planner tripId runtimeEpoch currentTime bytes message).1 ∧
      (answer planner tripId runtimeEpoch currentTime bytes message).2 = false := by
  cases message with
  | event | telemetry =>
    exact ⟨planner.tryApplyEvent_touches,
      decide_eq_false (hsound.tryApplyEvent_ne_inactive hheld)⟩
  | confirmation sequence =>
    exact ⟨planner.tryConfirmFinalized_touches sequence,
      decide_eq_false (hsound.tryConfirmFinalized_ne_inactive hheld sequence)⟩

def Session.start (holderId : HolderId) (maxTrips : Nat) (leases : TripId → LeaseRows)
    (execution : TripId → ExecutionState) (maxActiveTrips : Nat) : Session :=
  ⟨.initial (.start holderId maxTrips) leases execution maxActiveTrips, []⟩

/-- Every admitted trip is held by the planner, and since its bootstrap nothing
says that it is not. -/
structure Session.Sound (session : Session) : Prop where
  planner : session.deployment.planner.Sound
  known : ∀ tripId, session.deployment.Admits tripId →
    (session.deployment.planner.find tripId).isSome ∧
      isOpen (StreamEntry.isUnknown tripId) (StreamEntry.isBootstrap tripId) session.trace = false
  lawful : RebootstrapsAfter StreamEntry.isUnknown session.trace

namespace Session.Sound
variable {session : Session} (h : session.Sound)
include h

theorem supervise (step : TenureStep) : (session.step (.supervise step)).Sound := by
  have hturn := supervise_plannerTurn session.deployment step
  refine ⟨hturn.sound h.planner, fun tripId hadmits => ?_, fun tripId => ?_⟩
  · obtain hbefore | hnew := supervise_admits hadmits
    · obtain ⟨hheld, hclosed⟩ := h.known tripId hbefore
      refine ⟨hturn.keeps hheld, ?_⟩
      cases hack : session.deployment.acknowledged? step <;>
        simp [Session.step, hack, hclosed, StreamEntry.isUnknown, StreamEntry.isInactiveAnswer]
    · refine ⟨acknowledged_held hnew, ?_⟩
      simp [Session.step, hnew, StreamEntry.isUnknown, StreamEntry.isInactiveAnswer,
        StreamEntry.isBootstrap]
  · have hlaw := h.lawful tripId
    cases hack : session.deployment.acknowledged? step <;>
      simpa [Session.step, hack, guards_append_iff, StreamEntry.isSentFor] using hlaw

theorem sent (hserved : (session.deployment.supervisor.state.lookup tripId).isSome)
    (htouches : session.deployment.planner.Touches next) (message : Outgoing) :
    Session.Sound
      ⟨{ session.deployment with planner := next }, session.trace ++ [.sent tripId message]⟩ := by
  refine ⟨htouches.sound h.planner, fun other hadmits => ?_,
    fun other => guards_append_iff.mpr ⟨h.lawful other, fun hsent => ?_⟩⟩
  · obtain ⟨hheld, hclosed⟩ := h.known other hadmits
    refine ⟨htouches.isSome.trans hheld, ?_⟩
    simp [hclosed, StreamEntry.isUnknown, StreamEntry.isInactiveAnswer]
  · obtain rfl : tripId = other := by simpa [StreamEntry.isSentFor] using hsent
    exact (h.known tripId (.inl hserved)).2

theorem step {action : SessionStep} (hrestrained : session.restrained action) :
    (session.step action).Sound := by
  cases action with
  | supervise step => exact h.supervise step
  | reconnect => exact h
  | restartPlanner maxActiveTrips =>
    refine ⟨TripMap.sound_empty _, ?_,
      fun tripId => guards_append_iff.mpr ⟨h.lawful tripId, nofun⟩⟩
    simp only [Session.restrained, Bool.and_eq_true, List.isEmpty_iff,
      List.all_eq_true] at hrestrained
    rintro tripId (hstate | ⟨wait, call, hcall, -, hphase⟩)
    · have hkey : tripId ∈ session.deployment.supervisor.state.keys :=
        AList.mem_keys.mp (AList.lookup_isSome.mp hstate)
      rw [hrestrained.1] at hkey
      cases hkey
    · simpa [hphase] using hrestrained.2 call (List.mem_of_find?_eq_some hcall)
  | send tripId message now currentTime bytes delivery =>
    simp only [Session.step]
    split
    · exact h
    next runtimeEpoch _ =>
      obtain ⟨htouches, hknown⟩ := @answer_known tripId (.ofNat runtimeEpoch) currentTime bytes _
        h.planner (h.known tripId (.inl hrestrained)).1 message
      cases delivery with
      | notSent => exact h
      | unanswered => exact h.sent hrestrained htouches message
      | answered =>
        simp only [Session.exchange, hknown, Bool.false_eq_true, if_false, List.append_nil]
        exact h.sent hrestrained htouches message

end Session.Sound

def sendDelay : SessionStep := .send ⟨9⟩ (.event (delayCommand 600)) 0 1 0 .answered

def startTenure (wait : Nat) : List SessionStep :=
  [.supervise (.activate ⟨9⟩), .supervise (.acquire wait 1 0 0),
    .supervise (.bootstrap wait 0 (museumPayload 1) true true), .supervise (.finishActivation wait)]

/-- The planner restarts between two tenures of the trip. -/
def resumedTrip : List SessionStep := startTenure 0 ++ [sendDelay, .supervise (.deactivate ⟨9⟩ 0),
    .supervise (.releaseLease ⟨⟨9⟩, some 1, false⟩),
    .supervise (.finishDeactivation ⟨⟨9⟩, none, true⟩), .restartPlanner 4] ++
  startTenure 1 ++ [sendDelay]

/-- The planner restarts during a tenure. The first delivery is answered
INACTIVE_TRIP, and `Activate` returns at once for an active trip. -/
def forgottenTrip : List SessionStep :=
  startTenure 0 ++ [.restartPlanner 4, sendDelay, .supervise (.activate ⟨9⟩), sendDelay]

end LiveRoute.Dispatch
