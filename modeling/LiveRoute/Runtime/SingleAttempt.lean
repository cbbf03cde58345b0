import LiveRoute.Domain.CompletedHistory
import LiveRoute.Library.Runs
import LiveRoute.Runtime.ShardTurns

/-! One planning attempt at a time. The flag of the trip is all that keeps a
second attempt away, so it has to agree with the attempts that are out. -/
namespace LiveRoute.Runtime
open Domain Planner
open List hiding after

variable {shard : TripShard} {trip : ShardTrip} {view : ShardView} {pending : PendingPlanning}
  {effect : ShardEffect} {action : ShardStep}

structure SingleAttempt (shard : TripShard) : Prop where
  single : shard.outstanding.length ≤ 1
  flagged : ∀ trip, shard.trip = some trip →
    (trip.planningRunning ↔ shard.outstanding.length = 1)

def ShardEffect.isDispatch : ShardEffect → Bool
  | .dispatching .. => true
  | _ => false

/-- The attempts that are out while a step runs; a completion is no longer. -/
def TripShard.awaited (shard : TripShard) : ShardStep → List PendingPlanning
  | .runCompletion _ => shard.inFlight ++ shard.completions.tail.map Completion.pending
  | _ => shard.outstanding

/-- The step does not call `dispatch_planning` over another attempt. -/
def TripShard.DispatchesAlone (shard : TripShard) (action : ShardStep) : Prop :=
  ∀ effect ∈ (shard.step action).2, effect.isDispatch → shard.awaited action = []

def TripShard.insertsOverAttempt (shard : TripShard) : ShardStep → Bool
  | .runTask lane capacity =>
    match popLane lane shard.queue with
    | some (.bootstrap request streamBinding, _) =>
      shard.trip.isNone && !shard.outstanding.isEmpty &&
        (bootstrapTrip capacity.tripPlace shard.trip request streamBinding).1.isSome
    | _ => false
  | _ => false

theorem outstanding_started (started : Option PendingPlanning) : (TripShard.outstanding { shard with
      trip := trip, queue := queue, inFlight := shard.inFlight ++ started.toList
      completions := completions }).length =
      (shard.inFlight ++ completions.map Completion.pending).length + started.toList.length := by
  simp only [TripShard.outstanding, length_append]
  omega

/-- Work on a trip whose flag is right: the flag of what it leaves tells whether
it started an attempt, and it starts none beside another. -/
structure FlagsStart (running : Bool) (work : TripWork) : Prop where
  flag : work.trip.planningRunning = (running || work.started.isSome)
  alone : running → work.started = none
  dispatches : ∀ effect ∈ work.effects, effect.isDispatch → running = false

theorem Dispatched.flagsStart (h : Dispatched trip pending work)
    (hidle : trip.planningRunning = false) : FlagsStart false work := by
  cases h with
  | started => exact ⟨rfl, by simp, by simp⟩
  | refused => exact ⟨hidle, by simp, by simp⟩

theorem PendingTurn.flagsStart (h : PendingTurn trip view work)
    (hidle : trip.planningRunning = false) : FlagsStart false work := by
  cases h with
  | kept => exact ⟨hidle, by simp, by simp⟩
  | sent _ dispatched => exact dispatched.flagsStart hidle

theorem FlagsStart.after (heffect : effect.isDispatch = false) (h : FlagsStart running work) :
    FlagsStart running (work.after effect) := by
  refine ⟨h.flag, h.alone, fun other hmem hdisp => ?_⟩
  rcases mem_cons.mp hmem with rfl | hmem
  · rw [heffect] at hdisp
    cases hdisp
  · exact h.dispatches other hmem hdisp

theorem Planned.flagsStart (h : Planned trip view pending work) :
    FlagsStart trip.planningRunning work := by
  cases h with
  | refused => exact ⟨by simp, by simp, by simp [ShardTrip.deliverFailure, ShardTrip.deliver,
      ShardEffect.isDispatch]⟩
  | queued => exact ⟨by simp, by simp, by simp⟩
  | merged _ idle _ _ turn =>
    rw [idle]
    exact turn.flagsStart idle
  | fresh _ idle _ dispatched =>
    rw [idle]
    exact dispatched.flagsStart idle

theorem EventTurn.flagsStart
    (h : EventTurn trip view bytes request work) : FlagsStart trip.planningRunning work := by
  cases h with
  | closed => exact ⟨by simp, by simp, by simp [ShardEffect.isDispatch]⟩
  | noted => exact
    ⟨by simp, by simp, by simp [RuntimeEventRequest.acknowledged, ShardEffect.isDispatch]⟩
  | planned _ _ _ plan => exact plan.flagsStart.after rfl

theorem FinishTurn.flagsStart (h : FinishTurn trip view pending work) : FlagsStart false work := by
  cases h with
  | stale _ turn => exact turn.flagsStart rfl
  | delivered _ _ turn => exact (turn.flagsStart rfl).after rfl

/-- The attempts that are out after some work, when `others` were out before. -/
theorem SingleAttempt.of_work (hwork : FlagsStart running work) (hothers : others ≤ 1)
    (hrun : running ↔ others = 1) (htrip : shard.trip = some work.trip)
    (hout : shard.outstanding.length = others + work.started.toList.length) :
    SingleAttempt shard := by
  have hflag := hwork.flag
  cases running with
  | true =>
    have hone : others = 1 := hrun.mp rfl
    rw [hwork.alone rfl, hone] at hout
    refine ⟨by simp [hout], fun trip hheld => ?_⟩
    rw [htrip] at hheld
    cases hheld
    simp [hflag, hout]
  | false =>
    have hzero : others = 0 := by
      have : ¬ others = 1 := fun hone => by simp [hone] at hrun
      omega
    rw [hzero] at hout
    cases hstart : work.started with
    | none =>
      refine ⟨by simp [hout], fun trip hheld => ?_⟩
      rw [htrip] at hheld
      cases hheld
      simp [hflag, hout]
    | some =>
      refine ⟨by simp [hout], fun trip hheld => ?_⟩
      rw [htrip] at hheld
      cases hheld
      simp [hflag, hout]

theorem outstanding_posted (hposted : shard.completions = completion :: rest) :
    shard.outstanding.length = (shard.inFlight ++ rest.map Completion.pending).length + 1 := by
  simp only [TripShard.outstanding, hposted, map_cons, length_append, length_cons]
  omega

theorem SingleAttempt.turn (h : SingleAttempt shard) (hturn : StepTurn shard action after effects)
    (hsafe : shard.insertsOverAttempt action = false) : SingleAttempt after := by
  cases hturn with
  | quiet trip outstanding =>
    refine ⟨outstanding.length_eq ▸ h.single, fun held hheld => ?_⟩
    rw [outstanding.length_eq]
    exact h.flagged held (trip ▸ hheld)
  | @bootstrapped _ capacity request streamBinding _ label popped =>
    subst label
    simp only [TripShard.insertsOverAttempt, popped] at hsafe
    have hturn := bootstrapTrip_turn capacity.tripPlace shard.trip request streamBinding
    refine ⟨h.single, fun trip hheld => ?_⟩
    change trip.planningRunning ↔ shard.outstanding.length = 1
    have hflag := h.flagged
    generalize bootstrapTrip capacity.tripPlace shard.trip request streamBinding = outcome at *
    obtain ⟨left, result⟩ := outcome
    generalize shard.trip = before at *
    cases hturn with
    | refused => exact hflag trip hheld
    | @rebound held =>
      cases hheld
      exact hflag held rfl
    | inserted _ idle =>
      cases hheld
      have hnone : shard.outstanding = [] := by simpa using hsafe
      simp [idle, hnone]
    | replaced _ running =>
      cases hheld
      rw [running]
      exact hflag _ rfl
  | applied _ _ held turn =>
    refine .of_work turn.flagsStart h.single (h.flagged _ held) rfl ?_
    exact outstanding_started _
  | controlled _ _ held turn =>
    refine ⟨h.single, fun trip hheld => ?_⟩
    cases turn with
    | erased => cases hheld
    | kept _ running =>
      cases hheld
      rw [running]
      exact h.flagged _ held
  | dropped posted missing =>
    have hsingle := h.single
    rw [outstanding_posted posted] at hsingle
    refine ⟨?_, fun trip hheld => ?_⟩
    · simp only [TripShard.outstanding]
      omega
    · rw [missing] at hheld
      cases hheld
  | finished _ posted _ turn =>
    have hsingle := h.single
    rw [outstanding_posted posted] at hsingle
    refine .of_work turn.flagsStart ?_ ?_ rfl (outstanding_started _)
    · omega
    · simp only [Bool.false_eq_true, false_iff]
      omega

theorem not_single_of_inserts (hins : shard.insertsOverAttempt action) :
    ¬ SingleAttempt (shard.next action) := by
  unfold TripShard.insertsOverAttempt at hins
  split at hins
  next lane capacity =>
    split at hins
    next request streamBinding rest hpopped =>
      simp only [Bool.and_eq_true, Bool.not_eq_true', isEmpty_eq_false_iff,
        Option.isNone_iff_eq_none] at hins
      obtain ⟨⟨hmiss, hout⟩, hsome⟩ := hins
      intro h
      rw [next_bootstrap hpopped] at h
      have hone : shard.outstanding.length = 1 := by
        have hsingle : shard.outstanding.length ≤ 1 := h.single
        have hpos := length_pos_iff.mpr hout
        omega
      have hturn := bootstrapTrip_turn capacity.tripPlace shard.trip request streamBinding
      have hflag := h.flagged
      generalize bootstrapTrip capacity.tripPlace shard.trip request streamBinding = outcome at *
      obtain ⟨left, result⟩ := outcome
      rw [hmiss] at hturn
      cases hturn with
      | refused => cases hsome
      | inserted _ idle =>
        have hrun := (hflag _ rfl).mpr hone
        rw [idle] at hrun
        cases hrun
    next => cases hins
  next => cases hins

theorem not_dispatch_of_answer (h : effect.isAnswer) : effect.isDispatch = false := by
  cases effect <;> simp_all [ShardEffect.isAnswer, ShardEffect.isDispatch]

theorem SingleAttempt.alone (h : SingleAttempt shard) (hturn : StepTurn shard action after effects)
    (hmem : effect ∈ effects) (hdisp : effect.isDispatch) : shard.awaited action = [] := by
  cases hturn with
  | quiet _ _ _ _ answers =>
    rw [not_dispatch_of_answer (answers effect hmem)] at hdisp
    cases hdisp
  | bootstrapped =>
    rw [mem_singleton.mp hmem] at hdisp
    cases hdisp
  | @applied _ _ _ _ trip _ label _ held turn =>
    have hidle := turn.flagsStart.dispatches effect hmem hdisp
    have hflag := h.flagged trip held
    have hsingle := h.single
    rw [hidle] at hflag
    simp only [Bool.false_eq_true, false_iff] at hflag
    rw [label]
    change shard.outstanding = []
    exact length_eq_zero_iff.mp (by omega)
  | controlled _ _ _ _ answers =>
    rw [not_dispatch_of_answer (answers effect hmem)] at hdisp
    cases hdisp
  | dropped => cases hmem
  | finished label posted =>
    have hsingle := h.single
    rw [outstanding_posted posted] at hsingle
    rw [label, TripShard.awaited, posted]
    exact length_eq_zero_iff.mp (by rw [tail_cons]; omega)

/-- Along every interleaving the flag tells whether an attempt is out, and none
is dispatched over another, exactly as long as no bootstrap inserts the trip
while an attempt for its identifier is out. -/
theorem single_attempt_iff (maxAdvisoryPayloadBytes : Nat) (history : List ShardStep) :
    (∀ done, done <+: history →
      SingleAttempt ((TripShard.initial maxAdvisoryPayloadBytes).run done) ∧
        ∀ action, ((TripShard.initial maxAdvisoryPayloadBytes).run done).DispatchesAlone action) ↔
      Runs.Along TripShard.next (fun shard action => shard.insertsOverAttempt action = false)
        (TripShard.initial maxAdvisoryPayloadBytes) history := by
  have halone : ∀ shard : TripShard, SingleAttempt shard ∧
      (∀ action, shard.DispatchesAlone action) ↔ SingleAttempt shard := by
    intro shard
    refine ⟨And.left, fun h => ⟨h, fun action effect hmem hdisp => ?_⟩⟩
    exact h.alone (step_turn shard action) hmem hdisp
  have hstep : ∀ shard action, True → SingleAttempt shard →
      (SingleAttempt (TripShard.next shard action) ↔ shard.insertsOverAttempt action = false) := by
    intro shard action _ h
    constructor
    · intro hnext
      by_contra hins
      exact not_single_of_inserts (by simpa using hins) hnext
    · exact h.turn (step_turn shard action)
  have hinitial : SingleAttempt (TripShard.initial maxAdvisoryPayloadBytes) :=
    ⟨Nat.zero_le 1, fun trip hheld => by cases hheld⟩
  simp only [halone]
  exact Runs.safe_iff_along (fun _ _ _ _ => trivial) hstep trivial hinitial history

def visitedState (delaySeconds : UInt32) : TripState :=
  { gardenState with
    activities := [{ gardenVisit .completed with activityDelaySeconds := delaySeconds }]
    completedPrefixCount := 1 }

def activation (delaySeconds : UInt32) (tripRevision : UInt64) : ShardTask :=
  .bootstrap ⟨visitedState delaySeconds, ⟨4⟩, 1, tripRevision, tripRevision, 0⟩ none

def planningAt (now : UnixTimeMilliseconds) : RuntimePlanningContext :=
  ⟨now, now, now + 1000, ⟨6⟩, now, 100, 8, 100⟩

def refreshTask : ShardTask := .applyEvent ⟨⟨1, 0, 1, 0, none, ⟨⟨6⟩, 100, none,
    .advisoryUpdate .recommendationRefresh "app" 0⟩⟩, planningAt 100⟩

def ample : SharedCapacity := ⟨true, ⟨true, true⟩⟩

def runAtOnce (task : ShardTask) : List ShardStep := [.submit task, .runTask task.lane ample]

def reactivation : List ShardStep :=
  runAtOnce (activation 0 1) ++ runAtOnce refreshTask ++ runAtOnce (.deactivate 1 false) ++
    runAtOnce (activation 600 2)

theorem reactivated_trip_plans_twice :
    let shard := (TripShard.initial 0).run reactivation
    (shard.trip.map ShardTrip.planningRunning = some false ∧ shard.outstanding.length = 1) ∧
      ∃ pending, .dispatching pending true ∈
          ((shard.next (.submit refreshTask)).step (.runTask .advisory ample)).2 ∧
        (shard.next (.submit refreshTask)).awaited (.runTask .advisory ample) ≠ [] := by
  refine ⟨by decide, ⟨⟨visitedState 600, .advisoryUpdate .recommendationRefresh "app" 0,
    ⟨1, 2, 0, 0, 2, 2, 1⟩, ⟨1, 0, 0⟩⟩, planningAt 100, .advisory, false⟩, by decide, by decide⟩

end LiveRoute.Runtime
