import LiveRoute.Dispatch.Resolution
import LiveRoute.Persistence.CommitFacts
import Mathlib.Logic.Relation

/-! Every history of one runtime-first command: attempts in any number, answers
that are handled late, repeatedly or never, and whatever else happens to the
trip in between. The coordinator keeps only a watermark, so an answer DUPLICATE
says that the command was decided and not how. -/
namespace LiveRoute.Dispatch
open Domain LiveRoute.Runtime Persistence

variable {row : CommandRow} {leaseEpoch plannerStateVersion : UInt64} {world before after : World}
  {trip finalized : CanonicalTrip} {bytes : Nat} {answer : Answer}

inductive Verdict where
  | applied | consumed
deriving DecidableEq

structure Answer where
  request : PlannerStreamRequest
  result : EventCoordinatorResult
deriving DecidableEq

structure World where
  runtime : TripRuntime
  trip : CanonicalTrip
  answers : List Answer
  verdict : Option Verdict
deriving DecidableEq

/-- An accepted event was applied; a watermark that moves for another status
was consumed. -/
def judge (before : TripRuntime) (verdict : Option Verdict)
    (admitted : TripRuntime × EventCoordinatorResult) : Option Verdict :=
  if admitted.2.status = .accepted then some .applied
  else if TripRuntime.watermark admitted.1 ≠ TripRuntime.watermark before then some .consumed
  else verdict

def World.attempt (world : World) (row : CommandRow) (leaseEpoch : UInt64) (requestId : RequestId)
    (currentTime : UnixTimeMilliseconds) (bytes : Nat) : World :=
  let admitted := deliver world.runtime row leaseEpoch currentTime bytes
  { runtime := admitted.1, trip := world.trip
    answers := ⟨dispatchRequest requestId world.trip.tripId row leaseEpoch, admitted.2⟩ ::
      world.answers
    verdict := judge world.runtime world.verdict admitted }

def World.handle (world : World) (row : CommandRow) (answer : Answer) : World :=
  { world with trip := (dispatch world.trip row answer.request
      (some (eventResponse answer.request answer.result))).1 }

def World.intent (world : World) (row : CommandRow) : Option IntentState :=
  world.trip.intentOf row.eventId

/-- Other work on the trip: observations, planning and confirmations at any
time, other durable commands once this one is resolved. -/
structure Elsewhere (row : CommandRow) (before after : World) : Prop where
  answers : after.answers = before.answers
  verdict : after.verdict = before.verdict
  stored : after.trip.command? row.eventId = before.trip.command? row.eventId
  watermark : TripRuntime.watermark before.runtime ≤ TripRuntime.watermark after.runtime
  undisturbed : before.intent row = some .pending →
    TripRuntime.watermark after.runtime = TripRuntime.watermark before.runtime

/-- One step of a history; `allowed` says which answers may be handled. -/
inductive Step (row : CommandRow) (leaseEpoch : UInt64) (bytes : Nat)
    (allowed : World → Answer → Prop) : World → World → Prop where
  | attempt (world : World) (requestId : RequestId) (currentTime : UnixTimeMilliseconds) :
    Step row leaseEpoch bytes allowed world
      (world.attempt row leaseEpoch requestId currentTime bytes)
  | handle (world : World) (answer : Answer) (hanswer : answer ∈ world.answers)
    (hallowed : allowed world answer) :
    Step row leaseEpoch bytes allowed world (world.handle row answer)
  | elsewhere (before after : World) (h : Elsewhere row before after) :
    Step row leaseEpoch bytes allowed before after

/-- The answer is final and its watermark, under the lease, covers the command. -/
def Decides (row : CommandRow) (leaseEpoch : UInt64) (answer : Answer) : Prop :=
  answer.result.status ≠ .inactive ∧ DecidedUnder row leaseEpoch answer.result

def World.CanStore (world : World) (row : CommandRow) (answer : Answer) : Prop :=
  world.trip.Awaits row ∧ OutcomeStorable world.trip row answer.result

/-- An answer that decides the pending command is not the DUPLICATE of one that
was consumed, and the trip can store what it says. -/
def Conclusive (row : CommandRow) (leaseEpoch : UInt64) (world : World) (answer : Answer) : Prop :=
  world.intent row = some .pending → Decides row leaseEpoch answer →
    ¬(answer.result.status = .duplicate ∧ world.verdict = some .consumed) ∧
      world.CanStore row answer

def Consistent (state : IntentState) (verdict : Option Verdict) : Prop :=
  (state = .applied ↔ verdict = some .applied) ∧
    ((state = .rejected ∨ state = .expired) ↔ verdict = some .consumed)

def World.Agrees (world : World) (row : CommandRow) : Prop :=
  ∀ state, world.intent row = some state → state ≠ .pending → Consistent state world.verdict

structure Recorded (row : CommandRow) (world : World) : Prop where
  stored : world.trip.command? row.eventId = some row
  pending : row.intentState = .pending
  event : storedEventIsValid row
  answers : world.answers = []
  verdict : world.verdict = none
  fresh : TripRuntime.watermark world.runtime < row.mutationSequence

/-- A finalization repeats an earlier one or resolves the pending command. -/
def ResolvesTo (trip finalized : CanonicalTrip) (eventId : EventId)
    (allowed : IntentState → Prop) : Prop :=
  Repeats trip finalized eventId ∨ ∃ state, allowed state ∧
    trip.intentOf eventId = some .pending ∧ finalized.intentOf eventId = some state

def IsTerminal (state : IntentState) : Prop := state = .rejected ∨ state = .expired

theorem finalizeAccepted_resolves
    (h : finalizeAccepted trip row plannerStateVersion = .ok finalized) :
    ResolvesTo trip finalized row.eventId (· = .applied) := by
  unfold finalizeAccepted at h
  split at h
  next decision _ =>
    split at h
    · exact (finalizeProposalAcceptance_ok (storeResult_eq_ok h)).imp_right
        fun ⟨_, _, _, _, _, _, hres⟩ => ⟨_, rfl, hres.intents⟩
    · exact (finalizeProposalRejection_ok (storeResult_eq_ok h)).imp_right
        fun ⟨_, _, _, hres⟩ => ⟨_, rfl, hres.intents⟩
  · split at h
    · cases h
    · exact (finalizeAcceptedMutation_ok (storeResult_eq_ok h)).imp_right
        fun ⟨_, _, _, _, hres⟩ => ⟨_, rfl, hres.intents⟩

theorem finalizeTerminal_row_resolves
    (h : storeResult (finalizeTerminal trip (terminalRequest row plannerStateVersion status)) =
      .ok finalized) : ResolvesTo trip finalized row.eventId IsTerminal := by
  refine (finalizeTerminal_ok (storeResult_eq_ok h)).imp_right fun ⟨_, hres⟩ =>
    ⟨_, ?_, hres.intents⟩
  unfold terminalIntentState
  split
  · exact .inr rfl
  · exact .inl rfl

theorem finalizeRefused_resolves
    (h : finalizeRefused trip row plannerStateVersion status staleReason = .ok finalized) :
    ResolvesTo trip finalized row.eventId IsTerminal := by
  unfold finalizeRefused at h
  split at h
  · split at h
    · exact (finalizeStaleProposalDecision_ok (storeResult_eq_ok h)).imp_right
        fun ⟨_, _, _, hres⟩ => ⟨_, .inl rfl, hres.intents⟩
    · exact finalizeTerminal_row_resolves h
  · exact finalizeTerminal_row_resolves h

/-- Accepted and duplicate answers finalize as applied, all others as terminal. -/
def FinalState (result : EventCoordinatorResult) (state : IntentState) : Prop :=
  if result.status = .accepted ∨ result.status = .duplicate then state = .applied
  else IsTerminal state

theorem FinalState.ne_pending (h : FinalState result state) : state ≠ .pending := by
  unfold FinalState at h
  split at h
  · simp [h]
  · rcases h with rfl | rfl <;> simp

theorem runtimeFinalize_resolves
    (h : runtimeFinalize trip row plannerStateVersion (eventAcknowledgement request result) =
      .ok finalized) : ResolvesTo trip finalized row.eventId (FinalState result) := by
  unfold runtimeFinalize at h
  unfold FinalState
  have hdisp : ((eventAcknowledgement request result).disposition = .accepted ∨
      (eventAcknowledgement request result).disposition = .duplicate) ↔
      (result.status = .accepted ∨ result.status = .duplicate) :=
    or_congr coordinatorDisposition_accepted_iff coordinatorDisposition_duplicate_iff
  simp only [hdisp] at h
  split at h
  next hacc => simpa only [hacc, if_true] using finalizeAccepted_resolves h
  next href =>
    split at h
    · cases h
    simpa only [href, if_false] using finalizeRefused_resolves h

theorem pause_intentOf : (pause trip row).1.intentOf eventId = trip.intentOf eventId := by
  unfold CanonicalTrip.intentOf pause
  rw [command?_map]
  · rw [Option.map_map]
    congr 1
    funext stored
    simp only [Function.comp_apply]
    split <;> rfl
  · intro stored; split <;> rfl
  · intro stored; split <;> rfl

structure Truthful (row : CommandRow) (leaseEpoch : UInt64) (verdict : Option Verdict)
    (answer : Answer) : Prop where
  request : ∃ requestId tripId, answer.request = dispatchRequest requestId tripId row leaseEpoch
  accepted : answer.result.status = .accepted → verdict = some .applied
  duplicate : answer.result.status = .duplicate → verdict ≠ none
  refused : ¬(answer.result.status = .accepted ∨ answer.result.status = .duplicate) →
    Decides row leaseEpoch answer → verdict = some .consumed ∧
      (answer.result.status = .commandExpired ∨ answer.result.status = .invalidArgument ∨
        answer.result.status = .stale .planProposal)

theorem Truthful.mono (h : Truthful row leaseEpoch none answer) :
    Truthful row leaseEpoch (some verdict) answer where
  request := h.request
  accepted hacc := by cases h.accepted hacc
  duplicate _ := nofun
  refused href hdec := by cases (h.refused href hdec).1

theorem Truthful.status (h : Truthful row leaseEpoch verdict answer)
    (hdec : Decides row leaseEpoch answer) :
    (answer.result.status = .accepted ∨ answer.result.status = .duplicate) ∨
      answer.result.status = .commandExpired ∨ answer.result.status = .invalidArgument ∨
        answer.result.status = .stale .planProposal :=
  Classical.or_iff_not_imp_left.mpr fun href => (h.refused href hdec).2

/-- The invariant of a history: the verdict is known exactly when the sequence
is used up, and every answer is truthful about it. -/
structure Tracked (row : CommandRow) (leaseEpoch : UInt64) (world : World) : Prop where
  decided : world.verdict ≠ none → row.mutationSequence ≤ TripRuntime.watermark world.runtime ∧
    envelopeMatches true (admissionRequest row leaseEpoch)
  undecided : world.intent row = some .pending → world.verdict = none →
    TripRuntime.watermark world.runtime < row.mutationSequence
  resolved : world.intent row ≠ some .pending → world.verdict ≠ none
  answers : ∀ answer ∈ world.answers, Truthful row leaseEpoch world.verdict answer

section
variable (h : Tracked row leaseEpoch world)
include h

theorem Tracked.verdict_eq_none
    (hfresh : TripRuntime.watermark world.runtime < row.mutationSequence) :
    world.verdict = none := by
  by_contra hverd
  have hdec := (h.decided hverd).1
  omega

theorem Tracked.verdict_ne_none
    (hpast : row.mutationSequence ≤ TripRuntime.watermark world.runtime) :
    world.verdict ≠ none := by
  intro hverd
  have hfresh := h.undecided (not_not.mp fun hdone => h.resolved hdone hverd) hverd
  omega

theorem Tracked.decide (hnone : world.verdict = none)
    (hmoved : TripRuntime.watermark admitted = row.mutationSequence)
    (henv : envelopeMatches true (admissionRequest row leaseEpoch))
    (hanswer : Truthful row leaseEpoch (some verdict) answer) :
    Tracked row leaseEpoch ⟨admitted, world.trip, answer :: world.answers, some verdict⟩ where
  decided _ := ⟨hmoved.ge, henv⟩
  undecided _ := nofun
  resolved _ := nofun
  answers := List.forall_mem_cons.mpr
    ⟨hanswer, fun other hother => (hnone ▸ h.answers other hother).mono⟩

end

theorem attempt_tracked (hkind : row.kind.isRuntimeFirst)
    (hevent : storedEventIsValid row) (htrk : Tracked row leaseEpoch world) :
    Tracked row leaseEpoch (world.attempt row leaseEpoch requestId currentTime bytes) ∧
      (world.verdict ≠ none →
        (world.attempt row leaseEpoch requestId currentTime bytes).verdict = world.verdict) := by
  have htreatment := treatment_of_deliver hkind hevent world.runtime leaseEpoch currentTime bytes
  have hseq := mutationSequence_toNat row leaseEpoch
  unfold World.attempt
  generalize deliver world.runtime row leaseEpoch currentTime bytes = delivered at htreatment
  obtain ⟨admitted, result⟩ := delivered
  dsimp only at htreatment ⊢
  cases htreatment with
  | applied hstatus hnext hmoved henv =>
    rw [hseq] at hnext hmoved
    have hnone := htrk.verdict_eq_none (by omega)
    have hjudge : judge world.runtime world.verdict (admitted, result) = some .applied := by
      simp [judge, hstatus]
    rw [hjudge]
    refine ⟨htrk.decide hnone hmoved henv ?_, fun h => absurd hnone h⟩
    exact ⟨⟨_, _, rfl⟩, fun _ => rfl, fun _ => nofun, fun href => absurd (.inl hstatus) href⟩
  | consumed hstatus hnext hmoved henv =>
    rw [hseq] at hnext hmoved
    have hnone := htrk.verdict_eq_none (by omega)
    have hother : result.status ≠ .accepted := by
      rcases hstatus with hstatus | hstatus | hstatus <;> simp [hstatus]
    have hjudge : judge world.runtime world.verdict (admitted, result) = some .consumed := by
      simp only [judge, hother, if_false]
      rw [if_pos (by omega)]
    rw [hjudge]
    refine ⟨htrk.decide hnone hmoved henv ?_, fun h => absurd hnone h⟩
    exact ⟨⟨_, _, rfl⟩, fun h => absurd h hother, fun _ => nofun, fun _ _ => ⟨rfl, hstatus⟩⟩
  | duplicate hstatus hkept hpast =>
    subst hkept
    rw [hseq] at hpast
    have hjudge : judge world.runtime world.verdict (world.runtime, result) = world.verdict := by
      simp [judge, hstatus]
    rw [hjudge]
    refine ⟨{ htrk with answers := List.forall_mem_cons.mpr ⟨?_, htrk.answers⟩ }, fun _ => rfl⟩
    exact ⟨⟨_, _, rfl⟩, fun h => by simp [hstatus] at h, fun _ => htrk.verdict_ne_none hpast,
      fun href => absurd (.inr hstatus) href⟩
  | refused hstatus hkept hvers huncovered =>
    subst hkept
    rw [hseq] at huncovered
    have hjudge : judge world.runtime world.verdict (world.runtime, result) = world.verdict := by
      simp [judge, hstatus.1]
    rw [hjudge]
    refine ⟨{ htrk with answers := List.forall_mem_cons.mpr ⟨?_, htrk.answers⟩ }, fun _ => rfl⟩
    refine ⟨⟨_, _, rfl⟩, fun h => absurd h hstatus.1, fun h => absurd h hstatus.2, ?_⟩
    -- A refusal that moves nothing never decides the command.
    rintro - ⟨hactive, hepoch, hpast⟩
    dsimp only at hactive hepoch hpast
    rw [hvers] at hepoch hpast
    rcases huncovered with hidle | ⟨hmalformed, -⟩ | hother | hlater
    · exact absurd hidle hactive
    · have henv := (htrk.decided (htrk.verdict_ne_none hpast)).2
      rw [hmalformed] at henv
      cases henv
    · exact absurd hepoch.symm hother
    · exact absurd hpast (Nat.not_le_of_lt hlater)

/-- Handling an answer keeps the intent, or resolves it by what the answer
says. -/
inductive Handled (row : CommandRow) (leaseEpoch : UInt64) (world : World) (answer : Answer) :
    Prop where
  | kept (h : (world.handle row answer).intent row = world.intent row)
  | resolved (state : IntentState) (hopen : world.intent row = some .pending)
    (hdecides : Decides row leaseEpoch answer)
    (hintent : (world.handle row answer).intent row = some state)
    (hstate : FinalState answer.result state)

section
variable (hkind : row.kind.isRuntimeFirst) (hevent : storedEventIsValid row)
include hkind hevent

theorem dispatch_decided (trip : CanonicalTrip) (h : Truthful row leaseEpoch verdict answer)
    (hdecides : Decides row leaseEpoch answer) :
    dispatch trip row answer.request (some (eventResponse answer.request answer.result)) =
      match runtimeFinalize trip row answer.result.versionSnapshot.plannerStateVersion
          (eventAcknowledgement answer.request answer.result) with
      | .error error => (trip, .failed error)
      | .ok finalized => (finalized, .resolved) := by
  obtain ⟨requestId, tripId, hrequest⟩ := h.request
  have hinternal : answer.result.status ≠ .internal := by
    rcases h.status hdecides with (hstatus | hstatus) | hstatus | hstatus | hstatus <;>
      simp [hstatus]
  refine (dispatch_eventResponse hkind hevent hdecides.1 hinternal).trans (if_pos ?_)
  rw [hrequest, covers_iff hevent]
  exact hdecides.2

theorem dispatch_undecided (h : Truthful row leaseEpoch verdict answer)
    (hundecided : ¬Decides row leaseEpoch answer) :
    (dispatch trip row answer.request
      (some (eventResponse answer.request answer.result))).1.intentOf row.eventId =
        trip.intentOf row.eventId := by
  obtain ⟨requestId, tripId, hrequest⟩ := h.request
  by_cases hidle : answer.result.status = .inactive
  · simp [dispatch, hevent, hkind, dispatchRuntimeFirst, eventResponse, eventAcknowledgement, hidle]
  by_cases hinternal : answer.result.status = .internal
  · simp [dispatch, hevent, hkind, dispatchRuntimeFirst, eventResponse, eventAcknowledgement,
      hinternal, coordinatorStatusCode, EventAcknowledged.hasAcceptedStatus, terminalStatus,
      pause_intentOf]
  rw [dispatch_eventResponse hkind hevent hidle hinternal, if_neg, pause_intentOf]
  rw [hrequest, covers_iff hevent]
  exact fun hdec => hundecided ⟨hidle, hdec⟩

theorem handled_of_truthful (world : World) (h : Truthful row leaseEpoch verdict answer) :
    Handled row leaseEpoch world answer := by
  by_cases hdecides : Decides row leaseEpoch answer
  · have htrip := congrArg Prod.fst (dispatch_decided hkind hevent world.trip h hdecides)
    split at htrip
    · exact .kept (congrArg (CanonicalTrip.intentOf · row.eventId) htrip)
    next finalized hfin =>
      have hintent := congrArg (CanonicalTrip.intentOf · row.eventId) htrip
      rcases runtimeFinalize_resolves hfin with ⟨rfl, -⟩ | ⟨state, hstate, hopen, hdone⟩
      · exact .kept hintent
      · exact .resolved state hopen hdecides (hintent.trans hdone) hstate
  · exact .kept (dispatch_undecided hkind hevent h hdecides)

/-- A deciding answer that can be stored resolves the awaited command. -/
theorem handle_resolves (h : Truthful row leaseEpoch verdict answer)
    (hdecides : Decides row leaseEpoch answer) (hstore : world.CanStore row answer) :
    ∃ state, (world.handle row answer).intent row = some state ∧
      FinalState answer.result state := by
  obtain ⟨hawaits, hstorable⟩ := hstore
  obtain ⟨finalized, hfin, -⟩ :=
    (runtimeFinalize_iff answer.request hawaits hevent (h.status hdecides)).mpr hstorable
  have htrip := congrArg Prod.fst (dispatch_decided hkind hevent world.trip h hdecides)
  rw [hfin] at htrip
  rcases runtimeFinalize_resolves hfin with ⟨-, stored, hstored, hdone⟩ | ⟨state, hstate, -, hdone⟩
  · rw [hawaits.stored, Option.some.injEq] at hstored
    exact absurd hawaits.pending (hstored ▸ hdone)
  · exact ⟨state, (congrArg (CanonicalTrip.intentOf · row.eventId) htrip).trans hdone, hstate⟩

section
variable (htrk : Tracked row leaseEpoch world) (hanswer : answer ∈ world.answers)
include htrk hanswer

theorem handle_tracked : Tracked row leaseEpoch (world.handle row answer) := by
  have htruthful := htrk.answers answer hanswer
  cases handled_of_truthful hkind hevent world htruthful with
  | kept hkept =>
    refine ⟨htrk.decided, ?_, ?_, htrk.answers⟩
    · rw [hkept]
      exact htrk.undecided
    · rw [hkept]
      exact htrk.resolved
  | resolved state _ hdecides hintent hstate =>
    have hverd : world.verdict ≠ none := by
      by_cases hacc : answer.result.status = .accepted ∨ answer.result.status = .duplicate
      · rcases hacc with hacc | hdup
        · simp [htruthful.accepted hacc]
        · exact htruthful.duplicate hdup
      · simp [(htruthful.refused hacc hdecides).1]
    refine ⟨htrk.decided, fun hopen => ?_, fun _ => hverd, htrk.answers⟩
    rw [hintent, Option.some.injEq] at hopen
    exact absurd hopen hstate.ne_pending

theorem handle_agrees (hagrees : world.Agrees row)
    (hconclusive : Conclusive row leaseEpoch world answer) :
    (world.handle row answer).Agrees row := by
  have htruthful := htrk.answers answer hanswer
  intro state hintent hdone
  change Consistent state world.verdict
  cases handled_of_truthful hkind hevent world htruthful with
  | kept hkept => exact hagrees state (hkept ▸ hintent) hdone
  | resolved found hopen hdecides hfound hstate =>
    obtain rfl := Option.some.inj (hfound.symm.trans hintent)
    by_cases hacc : answer.result.status = .accepted ∨ answer.result.status = .duplicate
    · rw [FinalState, if_pos hacc] at hstate
      have hverd : world.verdict = some .applied := by
        rcases hacc with hacc | hdup
        · exact htruthful.accepted hacc
        -- A duplicate of a consumed command is what the condition excludes.
        cases hworld : world.verdict with
        | none => exact absurd hworld (htruthful.duplicate hdup)
        | some verdict =>
          cases verdict with
          | applied => rfl
          | consumed => exact absurd ⟨hdup, hworld⟩ (hconclusive hopen hdecides).1
      simp [Consistent, hstate, hverd]
    · rw [FinalState, if_neg hacc] at hstate
      have hverd := (htruthful.refused hacc hdecides).1
      rcases hstate with rfl | rfl <;> simp [Consistent, hverd]

end

end

theorem Elsewhere.intent (h : Elsewhere row before after) :
    after.intent row = before.intent row := by
  unfold World.intent CanonicalTrip.intentOf
  rw [h.stored]

theorem elsewhere_tracked (htrk : Tracked row leaseEpoch before) (h : Elsewhere row before after) :
    Tracked row leaseEpoch after := by
  refine ⟨fun hverd => ?_, fun hpend hverd => ?_, fun hdone => ?_, ?_⟩
  · obtain ⟨hpast, henv⟩ := htrk.decided (h.verdict ▸ hverd)
    exact ⟨hpast.trans h.watermark, henv⟩
  · rw [h.intent] at hpend
    rw [h.undisturbed hpend]
    exact htrk.undecided hpend (h.verdict ▸ hverd)
  · rw [h.verdict]
    exact htrk.resolved (h.intent ▸ hdone)
  · rw [h.answers, h.verdict]
    exact htrk.answers

theorem Recorded.kind (h : Recorded row world) : row.kind.isRuntimeFirst :=
  command?_isRuntimeFirst h.stored

theorem Recorded.intent (h : Recorded row world) : world.intent row = some .pending := by
  simp [World.intent, CanonicalTrip.intentOf, h.stored, h.pending]

theorem Recorded.tracked (h : Recorded row world) : Tracked row leaseEpoch world where
  decided hverd := absurd h.verdict hverd
  undecided _ _ := h.fresh
  resolved hdone := absurd h.intent hdone
  answers := by simp [h.answers]

theorem step_tracked {allowed : World → Answer → Prop} (hkind : row.kind.isRuntimeFirst)
    (hevent : storedEventIsValid row) (htrk : Tracked row leaseEpoch before)
    (hstep : Step row leaseEpoch bytes allowed before after) : Tracked row leaseEpoch after := by
  cases hstep with
  | attempt => exact (attempt_tracked hkind hevent htrk).1
  | handle _ hanswer => exact handle_tracked hkind hevent htrk hanswer
  | elsewhere _ h => exact elsewhere_tracked htrk h

theorem step_agrees (hkind : row.kind.isRuntimeFirst) (hevent : storedEventIsValid row)
    (htrk : Tracked row leaseEpoch before) (hagrees : before.Agrees row)
    (hstep : Step row leaseEpoch bytes (Conclusive row leaseEpoch) before after) :
    after.Agrees row := by
  cases hstep with
  | attempt =>
    intro state hintent hdone
    have hdec := htrk.resolved fun hopen => hdone (Option.some.inj (hintent.symm.trans hopen))
    rw [(attempt_tracked hkind hevent htrk).2 hdec]
    exact hagrees state hintent hdone
  | handle _ hanswer hconclusive =>
    exact handle_agrees hkind hevent htrk hanswer hagrees hconclusive
  | elsewhere _ h =>
    intro state hintent hdone
    rw [h.verdict]
    exact hagrees state (h.intent ▸ hintent) hdone

theorem run_tracked {allowed : World → Answer → Prop} (hrec : Recorded row start)
    (hrun : Relation.ReflTransGen (Step row leaseEpoch bytes allowed) start world) :
    Tracked row leaseEpoch world := by
  induction hrun with
  | refl => exact hrec.tracked
  | tail _ hstep ih => exact step_tracked hrec.kind hrec.event ih hstep

theorem run_agrees (hrec : Recorded row start)
    (hrun : Relation.ReflTransGen (Step row leaseEpoch bytes (Conclusive row leaseEpoch)) start
      world) : world.Agrees row := by
  induction hrun with
  | refl => exact fun state hintent hdone => absurd (Option.some.inj
      (hintent.symm.trans hrec.intent)) hdone
  | tail hprior hstep ih =>
    exact step_agrees hrec.kind hrec.event (run_tracked hrec hprior) ih hstep

/-- In every history that handles conclusive answers only, the two sides agree
on the command once it is resolved, and each conclusive answer that decides it
resolves it so. A DUPLICATE of a consumed command, where the trip can store an
acceptance, is always finalized as applied. -/
theorem delivery_agreement (row : CommandRow) (leaseEpoch : UInt64) (bytes : Nat) (start : World)
    (hrecorded : Recorded row start) :
    (∀ world, Relation.ReflTransGen (Step row leaseEpoch bytes (Conclusive row leaseEpoch)) start
      world → world.Agrees row ∧ ∀ answer ∈ world.answers, world.intent row = some .pending →
        Decides row leaseEpoch answer → Conclusive row leaseEpoch world answer →
        ∃ state, (world.handle row answer).intent row = some state ∧ state ≠ .pending ∧
          Consistent state world.verdict) ∧
    (∀ world, Relation.ReflTransGen (Step row leaseEpoch bytes fun _ _ => True) start world →
      ∀ answer ∈ world.answers, Decides row leaseEpoch answer → world.CanStore row answer →
        answer.result.status = .duplicate → world.verdict = some .consumed →
        (world.handle row answer).intent row = some .applied ∧
          ¬(world.handle row answer).Agrees row) := by
  refine ⟨fun world hrun => ?_, fun world hrun answer hanswer hdecides hstore hdup hverd => ?_⟩
  · have htrk := run_tracked hrecorded hrun
    have hagrees := run_agrees hrecorded hrun
    refine ⟨hagrees, fun answer hanswer hopen hdecides hconclusive => ?_⟩
    obtain ⟨state, hintent, hstate⟩ := handle_resolves hrecorded.kind hrecorded.event
      (htrk.answers answer hanswer) hdecides (hconclusive hopen hdecides).2
    have hdone := hstate.ne_pending
    exact ⟨state, hintent, hdone, handle_agrees hrecorded.kind hrecorded.event htrk hanswer
      hagrees hconclusive state hintent hdone⟩
  · obtain ⟨state, hintent, hstate⟩ := handle_resolves hrecorded.kind hrecorded.event
      ((run_tracked hrecorded hrun).answers answer hanswer) hdecides hstore
    rw [FinalState, if_pos (.inr hdup)] at hstate
    subst hstate
    refine ⟨hintent, fun hagrees => ?_⟩
    have hcons := (hagrees .applied hintent (by simp)).1.mp rfl
    cases hverd.symm.trans hcons

def recordedWorld (row : CommandRow) : World := ⟨museumRuntime, museumTrip row, [], none⟩

def deliveredOnce (row : CommandRow) : World := (recordedWorld row).attempt row 1 ⟨1⟩ 1 0

/-- A delay of half an hour is applied, and its answer resolves it as applied. -/
theorem delivery_agreement_halfHour :
    Recorded (delayCommand 1800) (recordedWorld (delayCommand 1800)) ∧
      (deliveredOnce (delayCommand 1800)).verdict = some .applied ∧
      ∀ answer ∈ (deliveredOnce (delayCommand 1800)).answers,
        ((deliveredOnce (delayCommand 1800)).handle (delayCommand 1800) answer).intent
          (delayCommand 1800) = some .applied := by
  have hrecorded : Recorded (delayCommand 1800) (recordedWorld (delayCommand 1800)) :=
    ⟨by decide +kernel, rfl, by decide, rfl, rfl, by decide⟩
  have hverd : (deliveredOnce (delayCommand 1800)).verdict = some .applied := by decide +kernel
  refine ⟨hrecorded, hverd, fun answer hanswer => ?_⟩
  obtain rfl := List.mem_singleton.mp hanswer
  have hstore : OutcomeStorable (museumTrip (delayCommand 1800)) (delayCommand 1800)
      (deliverDelay 1800).2 := by
    refine ⟨by decide +kernel, by decide, nofun, fun mutation hmut => ?_⟩
    cases hmut
    decide +kernel
  obtain ⟨state, hintent, -, hcons⟩ := ((delivery_agreement (delayCommand 1800) 1 0 _ hrecorded).1
    (deliveredOnce (delayCommand 1800)) (.single (.attempt _ ⟨1⟩ 1))).2 _ hanswer
    (by decide +kernel) ⟨by decide +kernel, by decide +kernel, by decide +kernel⟩
    fun _ _ => ⟨by decide +kernel, museumTrip_awaits, hstore⟩
  exact hintent.trans (congrArg some (hcons.1.mpr hverd))

def expiredDelay : CommandRow :=
  { delayCommand 1800 with event := ⟨⟨5⟩, 1, some 1, .activityDelayed ⟨1⟩ 1800⟩ }

def expiredTwice : World := (deliveredOnce expiredDelay).attempt expiredDelay 1 ⟨2⟩ 1 0

def retryAnswer : Answer :=
  ⟨dispatchRequest ⟨2⟩ ⟨9⟩ expiredDelay 1,
    (deliver (deliveredOnce expiredDelay).runtime expiredDelay 1 1 0).2⟩

/-- The answer of the first delivery is lost, and the DUPLICATE of the retry
finalizes the expired command as applied. -/
theorem delivery_disagreement_expired : Recorded expiredDelay (recordedWorld expiredDelay) ∧
    ∃ world answer, Relation.ReflTransGen (Step expiredDelay 1 0 fun _ _ => True)
        (recordedWorld expiredDelay) world ∧ answer ∈ world.answers ∧
      answer.result.status = .duplicate ∧ world.verdict = some .consumed ∧
      (world.handle expiredDelay answer).intent expiredDelay = some .applied ∧
      (world.handle expiredDelay answer).trip.activities.map (·.activity.activityDelaySeconds) =
        [1800] ∧
      (world.handle expiredDelay answer).runtime.state = museumState ∧
      ¬(world.handle expiredDelay answer).Agrees expiredDelay := by
  have hintent : (expiredTwice.handle expiredDelay retryAnswer).intent expiredDelay =
      some .applied := by decide +kernel
  have hverd : expiredTwice.verdict = some .consumed := by decide +kernel
  refine ⟨⟨by decide +kernel, rfl, by decide, rfl, rfl, by decide⟩, expiredTwice, retryAnswer, ?_,
    by decide +kernel, by decide +kernel, hverd, hintent, by decide +kernel, by decide +kernel,
    ?_⟩
  · exact (Relation.ReflTransGen.single (.attempt _ ⟨1⟩ 1)).tail (.attempt _ ⟨2⟩ 1)
  · intro hagrees
    have hcons := (hagrees .applied hintent (by simp)).1.mp rfl
    exact absurd (hverd.symm.trans hcons) (by simp)

end LiveRoute.Dispatch
