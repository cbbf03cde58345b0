import LiveRoute.Runtime.AdmittedEvents

/-! What the work on one trip can do. Each function of the shard is inverted
once; the results about runs only use these cases. -/
namespace LiveRoute.Runtime
open Domain Planner List

abbrev PlanningCause := EventPriority × TripEventPayload

def PendingPlanning.cause (pending : PendingPlanning) : PlanningCause :=
  (pending.priority, pending.seed.trigger)

structure Coalesces (pending replacement : PendingPlanning) (retained : List PlanningCause) :
    Prop where
  state : replacement.seed.state = pending.seed.state
  versions : replacement.seed.sourceVersions = pending.seed.sourceVersions
  token : replacement.seed.workToken = pending.seed.workToken
  ordinary : replacement.latestInputIsOrdinaryObservation = pending.latestInputIsOrdinaryObservation
  cause : replacement.cause ∈ pending.cause :: retained
  highest : ∀ other ∈ pending.cause :: retained, replacement.priority.rank ≤ other.1.rank

theorem Coalesces.refl (pending : PendingPlanning) : Coalesces pending pending [] :=
  ⟨rfl, rfl, rfl, rfl, mem_cons_self, by simp [PendingPlanning.cause]⟩

theorem Coalesces.preserve (h : Coalesces pending replacement retained) (priority : EventPriority)
    (trigger : TripEventPayload) :
    Coalesces pending (preserveHigherPriorityTrigger replacement priority trigger)
      (retained ++ [(priority, trigger)]) := by
  unfold preserveHigherPriorityTrigger
  split
  next hkept =>
    have hle : replacement.priority.rank ≤ priority.rank := by simpa [hasHigherPriority] using hkept
    refine ⟨h.state, h.versions, h.token, h.ordinary, ?_, ?_⟩
    · rw [← cons_append]
      exact mem_append_left _ h.cause
    · intro other hother
      rw [← cons_append, mem_append, mem_singleton] at hother
      rcases hother with hother | rfl
      · exact h.highest other hother
      · exact hle
  next htaken =>
    have hlt : priority.rank < replacement.priority.rank := by
      simpa [hasHigherPriority] using htaken
    refine ⟨h.state, h.versions, h.token, h.ordinary, ?_, ?_⟩
    · rw [← cons_append]
      exact mem_append_right _ mem_cons_self
    · intro other hother
      rw [← cons_append, mem_append, mem_singleton] at hother
      rcases hother with hother | rfl
      · exact Nat.le_trans (Nat.le_of_lt hlt) (h.highest other hother)
      · exact Nat.le_refl _

/-- The ends of `dispatch_planning` on a trip without a running attempt. -/
inductive Dispatched (trip : ShardTrip) (pending : PendingPlanning) : TripWork → Prop
  | started : Dispatched trip pending ⟨{ trip with
          planningRunning := true, planningPriority := pending.priority
          planningTrigger := pending.seed.trigger }, some pending, [.dispatching pending true]⟩
  | refused (priority : EventPriority) (trigger : TripEventPayload) : Dispatched trip pending
      ⟨{ trip with planningPriority := priority, planningTrigger := trigger }, none,
        [.dispatching pending false, trip.deliverFailure .resourceExhausted pending false]⟩

theorem dispatchPlanning_cases (trip : ShardTrip) (hidle : trip.planningRunning = false) :
    Dispatched trip pending (trip.dispatchPlanning capacity pending) := by
  obtain ⟨active, binding, running, priority, trigger, waiting⟩ := trip
  cases hidle
  unfold ShardTrip.dispatchPlanning
  split
  next => exact .refused priority trigger
  next =>
    split
    next => exact .started
    next => exact .refused pending.priority pending.seed.trigger

/-- The ends of `dispatch_pending`. -/
inductive PendingTurn (trip : ShardTrip) (view : ShardView) : TripWork → Prop
  | kept (deferred : ∀ waiting ∈ trip.pending, view.accepting →
      waiting.latestInputIsOrdinaryObservation ∧ view.normalQueued) :
      PendingTurn trip view ⟨trip, none, []⟩
  | sent {waiting : PendingPlanning} {work : TripWork} (held : trip.pending = some waiting)
      (dispatched : Dispatched { trip with pending := none } waiting work) :
      PendingTurn trip view work

theorem dispatchPending_cases (trip : ShardTrip) (hidle : trip.planningRunning = false) :
    PendingTurn trip view (trip.dispatchPending view) := by
  unfold ShardTrip.dispatchPending
  split
  next hnone => exact .kept (by simp [hnone])
  next waiting hwait =>
    split
    next hstopped => exact .kept (by simp_all)
    next =>
      split
      next hdeferred =>
        simp only [Bool.and_eq_true] at hdeferred
        exact .kept (by simp [hwait, hdeferred])
      next =>
        refine .sent hwait ?_
        exact dispatchPlanning_cases { trip with pending := none } hidle

inductive Planned (trip : ShardTrip) (view : ShardView) (pending : PendingPlanning) :
    TripWork → Prop
  | refused (invalid : pending.context.isValid = false) : Planned trip view pending
      ⟨trip, none, [trip.deliverFailure .invalidArgument pending false]⟩
  | queued {replacement : PendingPlanning} (valid : pending.context.isValid)
      (running : trip.planningRunning)
      (coalesces : Coalesces pending replacement ((trip.planningPriority, trip.planningTrigger) ::
        trip.pending.toList.map PendingPlanning.cause)) :
      Planned trip view pending ⟨{ trip with pending := some replacement }, none, []⟩
  | merged {waiting replacement : PendingPlanning} {work : TripWork}
      (valid : pending.context.isValid) (idle : trip.planningRunning = false)
      (held : trip.pending = some waiting)
      (coalesces : Coalesces pending replacement [waiting.cause])
      (turn : PendingTurn { trip with pending := some replacement } view work) :
      Planned trip view pending work
  | fresh {work : TripWork} (valid : pending.context.isValid)
      (idle : trip.planningRunning = false) (free : trip.pending = none)
      (dispatched : Dispatched trip pending work) : Planned trip view pending work

theorem plan_cases : Planned trip view pending (trip.plan view pending) := by
  unfold ShardTrip.plan
  split
  next hbad => exact .refused (by simpa using hbad)
  next hvalid =>
    have hvalid : pending.context.isValid := by simpa using hvalid
    split
    next hrun =>
      have hfirst := (Coalesces.refl pending).preserve trip.planningPriority trip.planningTrigger
      refine .queued hvalid hrun ?_
      cases hheld : trip.pending with
      | none => exact hfirst
      | some waiting => exact hfirst.preserve waiting.priority waiting.seed.trigger
    next hidle =>
      have hidle : trip.planningRunning = false := by simpa using hidle
      split
      next waiting hheld =>
        have hcoal := (Coalesces.refl pending).preserve waiting.priority waiting.seed.trigger
        refine .merged hvalid hidle hheld hcoal ?_
        exact dispatchPending_cases { trip with pending := some _ } hidle
      next hfree => exact .fresh hvalid hidle hfree (dispatchPlanning_cases trip hidle)

def RuntimeEventRequest.pending (request : RuntimeEventRequest) (trip : ShardTrip)
    (seed : ImmutablePlanningSeed) : PendingPlanning :=
  ⟨seed, request.planning,
    priorityFor request.admission.event.payload trip.runtime.state.activities,
    isOrdinaryObservation request.admission.event.payload⟩

def RuntimeEventRequest.acknowledged (request : RuntimeEventRequest) (trip : ShardTrip)
    (admitted : TripRuntime) (result : EventCoordinatorResult)
    (seed : Option ImmutablePlanningSeed) : ShardEffect :=
  .acknowledged request.admission.event.payload
    (priorityFor request.admission.event.payload trip.runtime.state.activities) result seed admitted

inductive EventTurn (trip : ShardTrip) (view : ShardView) (bytes : Nat)
    (request : RuntimeEventRequest) : TripWork → Prop
  | closed (deactivating : trip.deactivationPending) (result : EventCoordinatorResult) :
      EventTurn trip view bytes request ⟨trip, none, [.unavailable result]⟩
  | noted {admitted : TripRuntime} {result : EventCoordinatorResult}
      (opened : trip.deactivationPending = false)
      (outcome : trip.admitRequest bytes request = (admitted, result, none))
      (admission : AdmitTurn trip request.admission.event.payload admitted result none) :
      EventTurn trip view bytes request
        ⟨{ trip with runtime := admitted }, none, [request.acknowledged trip admitted result none]⟩
  | planned {admitted : TripRuntime} {result : EventCoordinatorResult}
      {seed : ImmutablePlanningSeed} {work : TripWork}
      (opened : trip.deactivationPending = false)
      (outcome : trip.admitRequest bytes request = (admitted, result, some seed))
      (admission : AdmitTurn trip request.admission.event.payload admitted result (some seed))
      (plan : Planned { trip with runtime := admitted } view (request.pending trip seed) work) :
      EventTurn trip view bytes request
        (work.after (request.acknowledged trip admitted result (some seed)))

theorem applyEvent_cases :
    EventTurn trip view bytes request (trip.applyEvent view bytes request) := by
  have hadmit := admit_turn trip bytes request
  unfold ShardTrip.applyEvent
  split
  next hclosed => exact .closed hclosed _
  next hopened =>
    have hopened : trip.deactivationPending = false := by simpa using hopened
    generalize hout : trip.admitRequest bytes request = outcome at hadmit
    obtain ⟨admitted, result, seed⟩ := outcome
    cases seed with
    | none => exact .noted hopened hout hadmit
    | some =>
      exact .planned hopened hout hadmit plan_cases

inductive CommitTurn (runtime : TripRuntime) (pending : PendingPlanning) : TripRuntime → Prop
  | kept : CommitTurn runtime pending runtime
  | committed {report : SearchReport} {stored : StoredPlanProposal}
      (assembled : assembleStoredPlanProposal pending report = some stored)
      (base : stored.proposal.baseCurrentPlanId = runtime.state.currentPlan.planId)
      (valid : runtime.state.isValid)
      (fits : stored.isValidFor runtime.state.activities) :
      CommitTurn runtime pending
        { runtime with state := { runtime.state with activeProposal := some stored } }

theorem commitPlanningResult_cases
    (hassembled : assembleStoredPlanProposal pending report = some stored) :
    CommitTurn runtime pending (commitPlanningResult runtime token stored) := by
  unfold commitPlanningResult
  split
  next => exact .kept
  next hcur =>
    split
    next => exact .kept
    next hvalid =>
      simp only [Bool.or_eq_true, Bool.not_eq_true', not_or, Bool.not_eq_false,
        decide_eq_false_iff_not, not_not] at hcur hvalid
      exact .committed hassembled hcur.2 hvalid.1 hvalid.2

theorem commitSearch_cases (trip : ShardTrip) :
    ∃ committed status proposal, CommitTurn trip.runtime pending committed ∧
      trip.commitSearch pending report =
        ({ trip with runtime := committed }, status, proposal) := by
  unfold ShardTrip.commitSearch
  split
  next stored hassembled =>
    refine ⟨commitPlanningResult trip.runtime pending.seed.workToken stored, ?_⟩
    cases planningCommitStatus trip.runtime pending.seed.workToken stored <;>
      exact ⟨_, _, commitPlanningResult_cases hassembled, rfl⟩
  next => exact ⟨trip.runtime, _, _, .kept, rfl⟩

/-- The ends of `finish_planning` and `finish_failure`. -/
inductive FinishTurn (trip : ShardTrip) (view : ShardView) (pending : PendingPlanning) :
    TripWork → Prop
  | stale {work : TripWork}
      (late : trip.runtime.versions.canCommitPlanningWork pending.seed.workToken = false)
      (turn : PendingTurn { trip with planningRunning := false } view work) :
      FinishTurn trip view pending work
  | delivered {work : TripWork} {committed : TripRuntime} {delivery : RuntimePlanningDelivery}
      (current : trip.runtime.versions.canCommitPlanningWork pending.seed.workToken)
      (commit : CommitTurn trip.runtime pending committed)
      (turn : PendingTurn { trip with planningRunning := false, runtime := committed } view work) :
      FinishTurn trip view pending (work.after (.delivered delivery))

theorem finish_cases (completion : Completion) :
    FinishTurn trip view completion.pending (trip.finish view completion) := by
  unfold ShardTrip.finish
  dsimp only
  split
  next hlate =>
    refine .stale (by simpa using hlate) ?_
    exact dispatchPending_cases { trip with planningRunning := false } rfl
  next hcur =>
    have hcur : trip.runtime.versions.canCommitPlanningWork
      completion.pending.seed.workToken := by simpa using hcur
    split
    next report hreport =>
      obtain ⟨committed, status, proposal, hcommit, hsearch⟩ := commitSearch_cases
        { trip with planningRunning := false }
      rw [hsearch]
      refine .delivered hcur hcommit ?_
      exact dispatchPending_cases
        { trip with planningRunning := false, runtime := committed } rfl
    next status hstatus =>
      refine .delivered hcur .kept ?_
      exact dispatchPending_cases { trip with planningRunning := false } rfl

end LiveRoute.Runtime
