import LiveRoute.Persistence.CanonicalCommandFacts
import LiveRoute.Persistence.CanonicalMirror
import LiveRoute.Persistence.FinalizationFacts
import LiveRoute.Persistence.ProposalRows

/-! What a transaction on current plans has done when it commits. A finalization
either repeats an earlier one, and then writes nothing, or it resolves the one
command that the trip awaits over rows that it has changed first. -/
namespace LiveRoute.Persistence
open Domain EarlyExit

def DeliveryState.isResolved : DeliveryState → Bool
  | .accepted | .terminalRejected => true
  | .pending | .pausedInternal => false

/-- The awaited command is resolved over the rows `mutated`, which still hold
the commands and the next sequence of `trip`. -/
structure ResolvesAwaited (trip mutated finalized : CanonicalTrip) (eventId : EventId)
    (row : CommandRow) (state : IntentState) (delivery : DeliveryState) (tripRevision : Nat) :
    Prop where
  awaits : trip.Awaits row
  event : row.eventId = eventId
  commands : mutated.commands = trip.commands
  sequence : mutated.nextMutationSequence = trip.nextMutationSequence
  revisionFits : tripRevision ≤ maxInt64
  resolution : (state ≠ .pending ∧ delivery.isResolved) ∧ ∃ outcome, finalized =
    (mutated.advance tripRevision row.mutationSequence).resolve row.eventId state delivery outcome

/-- The command was resolved before, and the transaction writes nothing. -/
structure Repeats (trip finalized : CanonicalTrip) (eventId : EventId) : Prop where
  kept : finalized = trip
  resolved : ∃ row, trip.command? eventId = some row ∧ row.intentState ≠ .pending

theorem resolvesAwaited_of_checks {trip mutated : CanonicalTrip} {delivery : DeliveryState}
    (hrow : trip.command? eventId = some row)
    (hpend : row.intentState = .pending) (hrev : trip.tripRevision = row.expectedTripRevision)
    (hnext : trip.isNext row.mutationSequence) (hcmds : mutated.commands = trip.commands)
    (hseq : mutated.nextMutationSequence = trip.nextMutationSequence)
    (hfits : tripRevision ≤ maxInt64) (hstate : state ≠ .pending)
    (hdel : delivery.isResolved) :
    ResolvesAwaited trip mutated ((mutated.advance tripRevision row.mutationSequence).resolve
      eventId state delivery outcome) eventId row state delivery tripRevision := by
  simp only [CanonicalTrip.isNext, Bool.and_eq_true, decide_eq_true_eq] at hnext
  obtain rfl := command?_eventId hrow
  exact ⟨⟨hrow, hpend, hrev, hnext.2⟩, rfl, hcmds, hseq, hfits, ⟨hstate, hdel⟩, outcome, rfl⟩

/-- What a finalization leaves of counters and commands: the rows keep their
sequences and kinds, and those of the event are resolved. -/
theorem ResolvesAwaited.rows
    (h : ResolvesAwaited trip mutated finalized eventId row state delivery tripRevision) :
    row ∈ trip.commands ∧ finalized.nextMutationSequence = trip.nextMutationSequence ∧
      finalized.finalizedMutationSequence = trip.finalizedMutationSequence + 1 ∧
      ∃ update : CommandRow → CommandRow, finalized.commands = trip.commands.map update ∧
        (∀ stored, (update stored).mutationSequence = stored.mutationSequence) ∧
        (∀ stored, (update stored).kind = stored.kind) ∧
        ∀ stored, (update stored).intentState ≠ .pending ∨
          stored.eventId ≠ row.eventId ∧ update stored = stored := by
  obtain ⟨hstate, outcome, rfl⟩ := h.resolution
  refine ⟨List.mem_of_find?_eq_some h.awaits.stored, h.sequence, h.awaits.next.symm,
    fun stored => if stored.eventId = row.eventId then
      { stored with intentState := state, deliveryState := delivery, outcome := some outcome }
      else stored, ?_, fun stored => ?_, fun stored => ?_, fun stored => ?_⟩
  · rw [← h.commands]
    rfl
  · dsimp only
    split <;> rfl
  · dsimp only
    split <;> rfl
  · dsimp only
    split
    · exact .inl hstate.1
    next hother => exact .inr ⟨hother, rfl⟩

def CanonicalTrip.intentOf (trip : CanonicalTrip) (eventId : EventId) : Option IntentState :=
  (trip.command? eventId).map CommandRow.intentState

theorem ResolvesAwaited.intents
    (h : ResolvesAwaited trip mutated finalized eventId row state delivery tripRevision) :
    trip.intentOf eventId = some .pending ∧ finalized.intentOf eventId = some state := by
  obtain ⟨-, outcome, rfl⟩ := h.resolution
  obtain rfl := h.event
  have hstored : (mutated.advance tripRevision row.mutationSequence).command? row.eventId =
      some row := by
    rw [← h.awaits.stored]
    unfold CanonicalTrip.command? CanonicalTrip.advance
    rw [h.commands]
  simp [CanonicalTrip.intentOf, h.awaits.stored, h.awaits.pending, command?_resolve hstored]

theorem finalizeAcceptedMutation_ok (h : finalizeAcceptedMutation trip request = .ok finalized) :
    Repeats trip finalized request.eventId ∨ ∃ row mutated, request.isValid ∧
      applyAcceptedMutation trip request.mutation = .ok mutated ∧
      ResolvesAwaited trip mutated.invalidateProposals finalized request.eventId row .applied
        .accepted (trip.tripRevision + 1) := by
  revert h
  fun_cases finalizeAcceptedMutation trip request
  case case4 row hrow _ _ hdone _ =>
    intro h
    cases h
    exact .inl ⟨rfl, row, hrow, hdone⟩
  case case8 hvalid row hrow _ hmatch hpend hrev hnext =>
    intro h
    obtain ⟨mutated, hmut, rfl⟩ := map_eq_ok.mp h
    simp only [Bool.not_eq_true, Bool.or_eq_false_iff, Bool.not_eq_false',
      decide_eq_true_eq] at hmatch
    rw [not_not] at hrev hpend
    obtain ⟨activities, delays, hrows⟩ := applyAcceptedMutation_rows hmut
    refine .inr ⟨row, mutated, by simpa using hvalid, hmut, ?_⟩
    rw [← hmatch.1.2, ← hrev]
    apply resolvesAwaited_of_checks hrow hpend hrev (by simpa using hnext)
    · rw [hrows]
      rfl
    · rw [hrows]
      rfl
    · have hbound : request.expectedTripRevision < maxInt64 := by
        simp only [FinalizeAcceptedMutationRequest.isValid, Bool.not_eq_true',
          Bool.not_eq_false, Bool.and_eq_true, decide_eq_true_eq] at hvalid
        exact hvalid.1.1.2
      omega
    · simp
    · rfl
  all_goals nofun

theorem finalizeTerminal_ok (h : finalizeTerminal trip request = .ok finalized) :
    Repeats trip finalized request.eventId ∨ ∃ row, ResolvesAwaited trip trip finalized
      request.eventId row (terminalIntentState request.status) .terminalRejected
      trip.tripRevision := by
  revert h
  fun_cases finalizeTerminal trip request
  case case5 row hrow _ _ _ _ hdone _ =>
    intro h
    cases h
    exact .inl ⟨rfl, row, hrow, hdone⟩
  case case9 row hrow _ _ _ _ hpend hrev hnext =>
    intro h
    cases h
    rw [not_not] at hrev hpend
    exact .inr ⟨row, resolvesAwaited_of_checks hrow hpend hrev
      (by simpa using hnext) rfl rfl (hrev ▸ row.revisionFits) terminalIntentState_ne_pending rfl⟩
  all_goals simp

/-- The decision on a proposal changes no row but that of the proposal, and a
stale decision of a proposal that is decided already not even that. -/
theorem finalizeProposalDecision_ok {request : FinalizeProposalDecisionRequest}
    (hroom : stale = false → request.expectedTripRevision ≠ maxInt64)
    (h : finalizeProposalDecision trip request stale = .ok finalized) :
    Repeats trip finalized request.eventId ∨ ∃ row proposals,
      (DecidesNamed trip.proposals proposals ∨ stale ∧ proposals = trip.proposals) ∧
      ResolvesAwaited trip { trip with proposals := proposals } finalized request.eventId row
        (decisionIntentState stale) (decisionDeliveryState stale)
        (if stale then trip.tripRevision else trip.tripRevision + 1) := by
  revert h
  fun_cases finalizeProposalDecision trip request stale
  case case5 row hrow _ _ _ _ _ _ _ hdone _ =>
    intro h
    cases h
    exact .inl ⟨rfl, row, hrow, hdone⟩
  case case10 row hrow proposal hprop _ outcome _ _ hmatch hpend hrev hnext hopen decided =>
    intro h
    cases h
    rw [not_not] at hpend
    simp only [not_or, not_not] at hrev
    have hexp : trip.tripRevision = request.expectedTripRevision := by
      simp only [decisionMatches, Bool.not_eq_true, Bool.or_eq_false_iff,
        Bool.not_eq_false', Bool.and_eq_true, decide_eq_true_eq] at hmatch
      exact hrev.1.trans hmatch.1.1.1.1.1.2
    have hafter : (decisionOutcome request stale).tripRevision =
        if stale then trip.tripRevision else trip.tripRevision + 1 := by
      rw [hexp]
      rfl
    have hstate : decisionIntentState stale ≠ .pending := by
      cases stale <;> simp [decisionIntentState]
    have hdel : (decisionDeliveryState stale).isResolved := by cases stale <;> rfl
    have hfits : (if stale then trip.tripRevision else trip.tripRevision + 1) ≤
        maxInt64 := by
      have hrow := row.revisionFits
      rw [← hrev.1] at hrow
      cases stale with
      | true => exact hrow
      | false =>
        have hbelow := hroom rfl
        simp only [Bool.false_eq_true, if_false]
        omega
    dsimp only [decided, outcome]
    rw [hafter]
    split
    next hwrites =>
      have hdec : proposal.state = .pending := by
        refine hwrites.elim (fun hrejects => ?_) id
        simp only [hrejects, true_and, not_or, not_not] at hopen
        exact hopen.1
      refine .inr ⟨row, _, .inl (decidesNamed_of_pending hprop hdec ?_),
        resolvesAwaited_of_checks hrow hpend hrev.1 (by simpa using hnext)
          rfl rfl hfits hstate hdel⟩
      intro found
      cases stale <;> exact ⟨rfl, rfl⟩
    next hkeeps =>
      have hstale : stale := by
        rw [← Bool.not_eq_false]
        exact fun hrejects => hkeeps (.inl hrejects)
      exact .inr ⟨row, trip.proposals, .inr ⟨hstale, rfl⟩,
        resolvesAwaited_of_checks hrow hpend hrev.1 (by simpa using hnext)
          rfl rfl hfits hstate hdel⟩
  all_goals simp

theorem finalizeProposalRejection_ok (h : finalizeProposalRejection trip request = .ok finalized) :
    Repeats trip finalized request.eventId ∨ ∃ row proposals,
      DecidesNamed trip.proposals proposals ∧
      ResolvesAwaited trip { trip with proposals := proposals } finalized request.eventId row
        .applied .accepted (trip.tripRevision + 1) := by
  unfold finalizeProposalRejection at h
  split at h
  · cases h
  rename_i hroom
  obtain hsame | ⟨row, proposals, hdec, hres⟩ := finalizeProposalDecision_ok (fun _ => hroom) h
  · exact .inl hsame
  · exact .inr ⟨row, proposals, by simpa using hdec, hres⟩

theorem finalizeStaleProposalDecision_ok
    (h : finalizeStaleProposalDecision trip request = .ok finalized) :
    Repeats trip finalized request.eventId ∨ ∃ row proposals,
      (DecidesNamed trip.proposals proposals ∨ proposals = trip.proposals) ∧
      ResolvesAwaited trip { trip with proposals := proposals } finalized request.eventId row
        .rejected .terminalRejected trip.tripRevision := by
  obtain hsame | ⟨row, proposals, hdec, hres⟩ := finalizeProposalDecision_ok (by simp) h
  · exact .inl hsame
  · exact .inr ⟨row, proposals, by simpa using hdec, hres⟩

theorem finalizeProposalAcceptance_ok
    (h : finalizeProposalAcceptance trip request = .ok finalized) :
    Repeats trip finalized request.eventId ∨ ∃ row proposal plan proposals,
      trip.PlannedPlanFits row proposal plan ∧
      DecidesNamed trip.proposals proposals ∧
      ResolvesAwaited trip { trip with
          proposals := proposals, plans := trip.plans ++ [plan], currentPlanId := plan.planId }
        finalized request.eventId row .applied .accepted (trip.tripRevision + 1) := by
  revert h
  fun_cases finalizeProposalAcceptance trip request
  case case8 row hrow _ _ _ _ _ _ _ _ _ hdone _ =>
    intro h
    cases h
    exact .inl ⟨rfl, row, hrow, hdone⟩
  case case11 hrange row hrow proposal hprop _ outcome hmatch plan hplan _ hvalid hmaximum hpend
      hcur _ =>
    intro h
    cases h
    rw [not_not] at hpend
    simp only [not_or, not_not, Bool.not_eq_false, Bool.not_eq_true,
      not_and] at hcur hmaximum hvalid
    obtain ⟨hrev, -, -, hopen, hnext, hunknown⟩ := hcur
    have hexp : trip.tripRevision = request.expectedTripRevision := by
      simp only [decisionMatches, Bool.not_eq_true, Bool.or_eq_false_iff,
        Bool.not_eq_false', Bool.and_eq_true, decide_eq_true_eq] at hmatch
      exact hrev.trans hmatch.1.1.1.1.2
    have hroom : request.expectedTripRevision ≠ maxInt64 := by
      simp only [Bool.or_eq_true, not_or, decide_eq_true_eq] at hrange
      exact hrange.2
    have hfits := row.revisionFits
    have hdec : DecidesNamed trip.proposals
        (trip.decideProposal request.identity.proposalId fun found =>
          { found with
            state := .accepted, decisionMessageId := some request.eventId
            resultingCurrentPlanId := some plan.planId }).proposals :=
      decidesNamed_of_pending hprop hopen fun _ => ⟨rfl, rfl⟩
    dsimp only [outcome]
    rw [← hexp]
    refine .inr ⟨row, proposal.stored.proposal, plan, _,
      ⟨hplan, by simpa using hvalid, hmaximum hpend, hunknown⟩,
      hdec,
      resolvesAwaited_of_checks hrow hpend hrev hnext rfl rfl (by omega) (by simp) rfl⟩
  all_goals simp

/-- The pending mirror of the event is resolved: synced by an acknowledgement
of its own result, paused by that of another. -/
structure MirrorResolves (trip : CanonicalTrip) (request : FinalizeCanonicalMirrorRequest)
    (row : CommandRow) (syncState : RuntimeSyncState) (delivery : DeliveryState) : Prop where
  valid : request.isValid
  stored : ∃ mirror, trip.mirror? request.eventId = some (row, mirror) ∧
    mirror.runtimeSyncState = .pending ∧
    ((canonicalMirrorIdentityMatches row mirror request ∧
        syncState = .synced ∧ delivery = .accepted) ∨
      (canonicalMirrorIdentityMatches row mirror request = false ∧
        syncState = .pausedInternal ∧ delivery = .pausedInternal))
  pending : row.deliveryState = .pending

theorem finalizeCanonicalMirror_trip : (finalizeCanonicalMirror trip request).1 = trip ∨
    ∃ row syncState delivery, MirrorResolves trip request row syncState delivery ∧
      (finalizeCanonicalMirror trip request).1 =
        trip.setMirror request.eventId syncState delivery := by
  have hpending : ∀ {state : RuntimeSyncState}, state ≠ .synced → state ≠ .pausedInternal →
      state = .pending := by
    intro state
    cases state <;> simp
  fun_cases finalizeCanonicalMirror trip request
  case case7 hvalid row mirror hmirror _ hsynced hpaused hpend hmatch =>
    rw [not_or] at hsynced hpaused
    exact .inr ⟨row, _, _, ⟨by simpa using hvalid, ⟨mirror, hmirror, hpending hsynced.1 hpaused.1,
      .inl ⟨hmatch, rfl, rfl⟩⟩, not_not.mp hpend⟩, rfl⟩
  case case8 hvalid row mirror hmirror _ hsynced hpaused hpend hdiffers =>
    rw [not_or] at hsynced hpaused
    exact .inr ⟨row, _, _, ⟨by simpa using hvalid, ⟨mirror, hmirror, hpending hsynced.1 hpaused.1,
      .inr ⟨Bool.eq_false_iff.mpr hdiffers, rfl, rfl⟩⟩, not_not.mp hpend⟩, rfl⟩
  all_goals exact .inl rfl

namespace CanonicalTransaction
variable {transaction : CanonicalTransaction} {trip committed : CanonicalTrip}
  {request : CanonicalEditRequest} {context : CommitContext} {row : CommandRow}

theorem insertRows_duplicate
    (h : transaction.insertRows trip request context sequenceFits revisionFits =
      .ok (committed, command)) : command.duplicate = false := by
  unfold insertRows at h
  dsimp only at h
  split at h
  · cases h
  split at h <;> cases h
  rfl

structure Passes (transaction : CanonicalTransaction) (trip : CanonicalTrip)
    (request : CanonicalEditRequest) : Prop where
  validated : transaction.validateRequest request = .ok ()
  owner : trip.ownerUserId = request.ownerUserId
  fresh : (trip.commands.find? fun row => decide (row.eventId = request.messageId)) = none
  revision : trip.tripRevision = request.expectedTripRevision.toNat
  room : trip.tripRevision < maxInt64 ∧ 0 < trip.nextMutationSequence ∧
    trip.nextMutationSequence < maxInt64
  settled : trip.commands.any CommandRow.isPendingRuntimeFirst = false
  capacity : trip.commands.countP CommandRow.isPendingMirror <
    request.maxPendingCanonicalMirror.toNat
  plan : ∃ activities,
    transaction.resulting (trip.activities.map ActivityRow.activity) = .ok activities ∧
      validateReplacementPlan request.planSegments activities = .ok ()

theorem run_of_passes (h : transaction.Passes trip request) :
    ∃ sequenceFits revisionFits, transaction.run trip request context =
      transaction.insertRows trip request context sequenceFits revisionFits := by
  obtain ⟨activities, hacts, hplan⟩ := h.plan
  refine ⟨⟨h.room.2.1, Nat.le_of_lt h.room.2.2⟩, Nat.le_of_lt h.room.1, ?_⟩
  unfold run recordNew
  simp only [h.validated, h.owner, h.fresh, ne_eq, not_true_eq_false, if_false]
  rw [if_neg (not_not.mpr h.revision), dif_pos h.room]
  simp only [h.settled, hacts, hplan, Bool.false_eq_true, if_false,
    if_neg (Nat.not_le.mpr h.capacity)]

theorem run_taken (h : transaction.Passes trip request)
    (htaken : planKeyTaken trip context (editMetadata trip request context)) :
    transaction.run trip request context = .error .storage := by
  obtain ⟨sequenceFits, revisionFits, hrun⟩ := run_of_passes h
  rw [hrun]
  unfold insertRows
  simp [htaken]

theorem run_duplicate (h : transaction.run trip request context = .ok (committed, ⟨row, true⟩)) :
    committed = trip ∧
      trip.commands.find? (fun stored => decide (stored.eventId = request.messageId)) = some row ∧
      row.payloadDigest = request.payloadDigest ∧ row.kind = transaction.kind := by
  revert h
  fun_cases run transaction trip request context
  case case3 hfound hsame =>
    intro h
    cases h
    exact ⟨rfl, hfound, hsame⟩
  case case5 =>
    fun_cases recordNew transaction trip request context
    case case6 =>
      intro h
      cases insertRows_duplicate h
    all_goals simp
  all_goals simp

theorem run_settled (h : transaction.run trip request context = .ok (committed, ⟨row, false⟩)) :
    trip.commands.any CommandRow.isPendingRuntimeFirst = false := by
  revert h
  fun_cases run transaction trip request context
  case case5 =>
    fun_cases recordNew transaction trip request context
    case case6 _ _ hsettled _ _ _ _ =>
      intro _
      simpa using hsettled
    all_goals simp
  all_goals simp

end CanonicalTransaction

theorem recordRuntimeFirst_message
    (h : recordRuntimeFirst trip request = .ok result) : request.eventId = request.messageId := by
  unfold recordRuntimeFirst at h
  split at h
  · cases h
  rename_i hvalid
  simp only [validateRecordRuntimeCommand, Bool.not_eq_true', Bool.not_eq_false,
    Bool.and_eq_true, decide_eq_true_eq] at hvalid
  exact hvalid.1.1.1

theorem recordRuntimeFirst_duplicate
    (h : recordRuntimeFirst trip request = .ok (recorded, ⟨row, true⟩)) : recorded = trip ∧
    trip.commands.find? (fun stored => decide (stored.eventId = request.messageId)) = some row ∧
    row.payloadDigest = request.payloadDigest := by
  revert h
  fun_cases recordRuntimeFirst trip request
  case case3 hfound hdig =>
    intro h
    cases h
    exact ⟨rfl, hfound, hdig⟩
  case case6 =>
    fun_cases insertCommand trip request
    all_goals simp
  all_goals simp

end LiveRoute.Persistence
