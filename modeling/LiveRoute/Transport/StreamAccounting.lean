import LiveRoute.Transport.StreamReservations

/-! Accounting of the stream's slots. No sequence of operations overfills the
queue, and a response that was reserved for can always be enqueued. -/
namespace LiveRoute.Transport
open Domain
open List hiding count

namespace StreamEndpoint

/-- The responses that are not written out yet, in the order of their writes. -/
def unsent (endpoint : StreamEndpoint) : List Response :=
  endpoint.current.toList ++ endpoint.queue

structure Keeps (before after : StreamEndpoint) : Prop where
  capacity : after.capacity = before.capacity
  reserved : after.reserved = before.reserved
  bounded : before.inUse ≤ before.capacity → after.inUse ≤ after.capacity
  idle : (before.writing = false → before.current = none) →
    after.writing = false → after.current = none

theorem Keeps.refl : Keeps endpoint endpoint := ⟨rfl, rfl, id, id⟩

theorem Keeps.trans (hfirst : Keeps first second)
    (hsecond : Keeps second third) : Keeps first third where
  capacity := hsecond.capacity.trans hfirst.capacity
  reserved := hsecond.reserved.trans hfirst.reserved
  bounded h := hsecond.bounded (hfirst.bounded h)
  idle h := hsecond.idle (hfirst.idle h)

variable (endpoint : StreamEndpoint)

theorem startWrite_cases : endpoint.startWrite = endpoint ∨ endpoint.writing = false ∧
    ∃ response rest, endpoint.queue = response :: rest ∧ endpoint.startWrite =
      { endpoint with current := some response, queue := rest, writing := true } := by
  unfold startWrite
  split
  next => exact .inl rfl
  next hidle =>
    simp only [Bool.or_eq_true, Bool.not_eq_true', not_or, Bool.not_eq_true] at hidle
    split
    next => exact .inl rfl
    next response rest hqueue => exact .inr ⟨hidle.2, response, rest, hqueue, rfl⟩

theorem startWrite_keeps : Keeps endpoint endpoint.startWrite := by
  rcases endpoint.startWrite_cases with hsame | ⟨hidle, response, rest, hqueue, hstarted⟩
  · rw [hsame]
    exact .refl
  · rw [hstarted]
    refine ⟨rfl, rfl, fun h => ?_, fun _ => nofun⟩
    simpa [inUse, hqueue, hidle] using h

theorem startWrite_unsent (h : endpoint.writing = false → endpoint.current = none) :
    endpoint.startWrite.unsent = endpoint.unsent := by
  rcases endpoint.startWrite_cases with hsame | ⟨hidle, response, rest, hqueue, hstarted⟩
  · rw [hsame]
  · rw [hstarted]
    simp [unsent, hqueue, h hidle]

theorem finish_keeps : Keeps endpoint (endpoint.finish status) := by
  unfold finish
  split
  next => exact .refl
  next => exact ⟨rfl, rfl, id, id⟩

theorem maybeFinish_keeps : Keeps endpoint endpoint.maybeFinish := by
  unfold maybeFinish
  split
  next => exact finish_keeps _
  next => exact .refl

theorem push_keeps (responses : List Response) : Keeps endpoint (endpoint.push responses).1 := by
  unfold push
  split
  next => exact .refl
  next hroom =>
    simp only [Bool.or_eq_true, decide_eq_true_eq, not_or, not_lt] at hroom
    have hlonger : Keeps endpoint { endpoint with queue := endpoint.queue ++ responses } := by
      refine ⟨rfl, rfl, fun _ => ?_, id⟩
      simp only [inUse, length_append] at hroom ⊢
      omega
    exact hlonger.trans (startWrite_keeps _)

theorem push_unsent (responses : List Response) (hatt : endpoint.attached)
    (hopen : endpoint.closing = false)
    (hroom : endpoint.inUse + responses.length ≤ endpoint.capacity)
    (hidle : endpoint.writing = false → endpoint.current = none) :
    (endpoint.push responses).2 ∧
      (endpoint.push responses).1.unsent = endpoint.unsent ++ responses := by
  rw [push, if_neg (by simp [hatt, hopen, hroom])]
  refine ⟨rfl, ?_⟩
  rw [startWrite_unsent]
  · simp [unsent]
  · exact hidle

theorem replaceQueuedResult_length {response : Response} {queue replaced : List Response}
    (h : replaceQueuedResult response queue = some replaced) :
    replaced.length = queue.length := by
  unfold replaceQueuedResult at h
  dsimp only at h
  split at h
  next => cases h
  next =>
    cases h
    simp

theorem publish_keeps : Keeps endpoint (endpoint.publish key).1 := by
  have hanswered : Keeps endpoint { endpoint with
      correlations := endpoint.correlations.filter fun entry => !decide (entry.1 = key) } :=
    ⟨rfl, rfl, id, id⟩
  fun_cases publish endpoint key
  case case1 => exact .refl
  case case4 queue hqueue =>
    refine ⟨rfl, rfl, fun h => ?_, id⟩
    simpa only [inUse, replaceQueuedResult_length hqueue] using h
  case case5 => exact hanswered.trans (push_keeps _ _)
  all_goals exact hanswered

theorem onWriteDone_keeps : Keeps endpoint (endpoint.onWriteDone ok) := by
  have hwrote : Keeps endpoint { endpoint with current := none, writing := false } := by
    refine ⟨rfl, rfl, fun h => ?_, fun _ _ => rfl⟩
    simp only [inUse, Bool.toNat_false] at h ⊢
    omega
  unfold onWriteDone
  split
  next => exact hwrote.trans (finish_keeps _)
  next => exact (hwrote.trans (startWrite_keeps _)).trans (maybeFinish_keeps _)

theorem finishWhenDrained_keeps : Keeps endpoint (endpoint.finishWhenDrained status) := by
  have hclose : Keeps endpoint { endpoint with closing := true, finishStatus := status } :=
    ⟨rfl, rfl, id, id⟩
  exact hclose.trans (maybeFinish_keeps _)

theorem detach_keeps : Keeps endpoint endpoint.detach := by
  refine ⟨rfl, rfl, fun h => ?_, fun _ _ => rfl⟩
  simp only [inUse, detach, length_nil] at h ⊢
  omega

theorem inUse_give_back (hcount : count ≤ endpoint.reserved) :
    { endpoint with reserved := endpoint.reserved - count }.inUse + count = endpoint.inUse := by
  simp only [inUse]
  omega

theorem enqueueAgainst_cases (admits : Bool) (responses : List Response)
    (reservation : ResponseReservation) :
    (endpoint.enqueueAgainst admits responses reservation = ((endpoint, reservation), false) ∧
      (reservation.consumed ∨ admits = false ∨ endpoint.reserved < reservation.count)) ∨
    (reservation.consumed = false ∧ admits ∧ reservation.count ≤ endpoint.reserved ∧
      endpoint.enqueueAgainst admits responses reservation =
        let pushed :=
          { endpoint with reserved := endpoint.reserved - reservation.count }.push responses
        ((pushed.1, { reservation with consumed := true }), pushed.2)) := by
  unfold enqueueAgainst
  split
  next href =>
    left
    simp only [Bool.or_eq_true, Bool.not_eq_true', decide_eq_true_eq] at href
    exact ⟨rfl, or_assoc.mp href⟩
  next hadm =>
    right
    simp only [Bool.or_eq_true, Bool.not_eq_true', decide_eq_true_eq, not_or, Bool.not_eq_true,
      Bool.not_eq_false, not_lt] at hadm
    exact ⟨hadm.1.1, hadm.1.2, hadm.2, rfl⟩

end StreamEndpoint

def ResponseReservation.held (reservation : ResponseReservation) : Nat :=
  if reservation.consumed then 0 else reservation.count

open ResponseReservation (held)

namespace ReservedStream

structure Accounted (capacity : Nat) (stream : ReservedStream) : Prop where
  distinct : (stream.reservations.map ResponseReservation.handle).Nodup
  fresh : ∀ reservation ∈ stream.reservations, reservation.handle < stream.nextHandle
  nonempty : ∀ reservation ∈ stream.reservations, reservation.count ≠ 0
  reserved : stream.endpoint.reserved = (stream.reservations.map ResponseReservation.held).sum
  sized : stream.endpoint.capacity = capacity
  bounded : stream.endpoint.inUse ≤ capacity
  idle : stream.endpoint.writing = false → stream.endpoint.current = none

variable {capacity : Nat} {stream : ReservedStream}

theorem initial_accounted : (initial capacity).Accounted capacity where
  distinct := nodup_nil
  fresh := by simp [initial]
  nonempty := by simp [initial]
  reserved := rfl
  sized := rfl
  bounded := Nat.zero_le _
  idle _ := rfl

theorem reservation?_eq_some {handle : Nat} (h : stream.reservation? handle = some reservation) :
    reservation ∈ stream.reservations ∧ reservation.handle = handle :=
  ⟨mem_of_find?_eq_some h, by simpa using find?_some h⟩

section
variable (h : stream.Accounted capacity)
include h

theorem Accounted.keeps {endpoint : StreamEndpoint}
    (hkeeps : stream.endpoint.Keeps endpoint) :
    { stream with endpoint := endpoint }.Accounted capacity where
  distinct := h.distinct
  fresh := h.fresh
  nonempty := h.nonempty
  reserved := hkeeps.reserved.trans h.reserved
  sized := hkeeps.capacity.trans h.sized
  bounded := by
    have hbd := hkeeps.bounded (h.sized ▸ h.bounded)
    rwa [hkeeps.capacity, h.sized] at hbd
  idle := hkeeps.idle h.idle

theorem Accounted.tryReserve : (stream.tryReserve count).Accounted capacity := by
  unfold ReservedStream.tryReserve
  split
  next hadmits =>
    simp only [StreamEndpoint.admitsReservation, Bool.and_eq_true, Bool.not_eq_true',
      beq_eq_false_iff_ne, decide_eq_false_iff_not, not_lt] at hadmits
    obtain ⟨⟨-, hcount⟩, hroom⟩ := hadmits
    exact {
      distinct := KeyedRows.nodup_append_new h.distinct fun other hother =>
        Nat.ne_of_lt (h.fresh other hother)
      fresh := by
        intro reservation hresv
        rcases mem_append.mp hresv with hold | hnew
        · exact Nat.lt_succ_of_lt (h.fresh reservation hold)
        · rw [mem_singleton.mp hnew]
          exact Nat.lt_succ_self _
      nonempty := by
        intro reservation hresv
        rcases mem_append.mp hresv with hold | hnew
        · exact h.nonempty reservation hold
        · rw [mem_singleton.mp hnew]
          exact hcount
      reserved := by simp [h.reserved, held]
      sized := h.sized
      bounded := by
        rw [h.sized] at hroom
        simp only [StreamEndpoint.inUse] at hroom ⊢
        omega
      idle := h.idle }
  next => exact h

theorem Accounted.settle {reservation : ResponseReservation}
    (hunused : reservation.consumed = false)
    {endpoint : StreamEndpoint} {reservations : List ResponseReservation}
    (hkeeps : { stream.endpoint with
      reserved := stream.endpoint.reserved - reservation.count }.Keeps endpoint)
    (hcount : reservation.count ≤ stream.endpoint.reserved)
    (hdist : (reservations.map ResponseReservation.handle).Nodup)
    (hfresh : ∀ other ∈ reservations, other.handle < stream.nextHandle ∧ other.count ≠ 0)
    (hheld : (reservations.map held).sum + reservation.held = (stream.reservations.map held).sum) :
    Accounted capacity ⟨endpoint, reservations, stream.nextHandle⟩ where
  distinct := hdist
  fresh other hother := (hfresh other hother).1
  nonempty other hother := (hfresh other hother).2
  reserved := by
    have hreserved := h.reserved
    have hkept := hkeeps.reserved
    rw [held, hunused] at hheld
    simp only [Bool.false_eq_true, if_false] at hheld hkept ⊢
    omega
  sized := hkeeps.capacity.trans h.sized
  bounded := by
    have hless := stream.endpoint.inUse_give_back hcount
    have hbd := h.bounded
    have hkept := hkeeps.bounded (by rw [← h.sized] at hbd; dsimp only; omega)
    rwa [hkeeps.capacity, h.sized] at hkept
  idle := hkeeps.idle h.idle

theorem Accounted.dropReservation (handle : Nat) :
    (stream.dropReservation handle).Accounted capacity := by
  unfold ReservedStream.dropReservation
  split
  next => exact h
  next reservation hfound =>
    have hlive := (reservation?_eq_some hfound).1
    have hsum := KeyedRows.sum_map_remove h.distinct hlive held
    have hsub : (stream.reservations.filter fun other =>
        !decide (other.handle = reservation.handle)).Sublist stream.reservations :=
      filter_sublist
    have hdist := h.distinct.sublist (hsub.map _)
    have hfresh := fun other hother =>
      And.intro (h.fresh other (hsub.subset hother)) (h.nonempty other (hsub.subset hother))
    have hcount := h.nonempty reservation hlive
    cases hused : reservation.consumed with
    | true =>
      have hnothing : reservation.held = 0 := by simp [held, hused]
      exact { h with
        distinct := hdist, fresh := fun other hother => (hfresh other hother).1
        nonempty := fun other hother => (hfresh other hother).2
        reserved := by
          rw [hnothing] at hsum
          exact h.reserved.trans hsum.symm }
    | false =>
      have hheld : reservation.held = reservation.count := by simp [held, hused]
      have hroom : reservation.count ≤ stream.endpoint.reserved := by
        rw [h.reserved]
        omega
      refine h.settle hused ?_ hroom hdist hfresh hsum
      rw [if_pos (by simp [hcount]), StreamEndpoint.release, if_pos hroom]
      exact StreamEndpoint.maybeFinish_keeps _

theorem Accounted.enqueueWith (handle : Nat)
    {admits : ResponseReservation → Bool} :
    (stream.enqueueWith handle fun endpoint reservation =>
      endpoint.enqueueAgainst (admits reservation) responses reservation).1.Accounted
        capacity := by
  unfold ReservedStream.enqueueWith
  split
  next => exact h
  next reservation hfound =>
    have hlive := (reservation?_eq_some hfound).1
    dsimp only
    rcases stream.endpoint.enqueueAgainst_cases (admits reservation) responses reservation with
      ⟨href, -⟩ | ⟨hunused, -, hroom, henqueued⟩
    · rw [href, KeyedRows.map_replace_self h.distinct hlive]
      exact h
    · rw [henqueued]
      have hsum := KeyedRows.sum_map_replace h.distinct hlive
        { reservation with consumed := true } held
      have hkeys : ∀ other : ResponseReservation,
          (if other.handle = reservation.handle then { reservation with consumed := true }
            else other).handle = other.handle := by
        intro other
        split
        next hsame => exact hsame.symm
        next => rfl
      refine h.settle hunused (StreamEndpoint.push_keeps _ _) hroom ?_ ?_ hsum
      · rw [KeyedRows.map_keys hkeys]
        exact h.distinct
      · refine forall_mem_map.mpr fun other hother => ?_
        split
        next => exact ⟨h.fresh reservation hlive, h.nonempty reservation hlive⟩
        next => exact ⟨h.fresh other hother, h.nonempty other hother⟩

theorem Accounted.step (operation : StreamOperation) :
    (stream.step operation).Accounted capacity := by
  cases operation with
  | tryReserve => exact h.tryReserve
  | enqueueReserved handle => exact h.enqueueWith handle
  | enqueuePairReserved handle => exact h.enqueueWith handle
  | dropReservation handle => exact h.dropReservation handle
  | enqueueImmediate => exact h.keeps (StreamEndpoint.push_keeps _ _)
  | recordCorrelation => exact h.keeps ⟨rfl, rfl, id, id⟩
  | publish => exact h.keeps (StreamEndpoint.publish_keeps _)
  | onWriteDone => exact h.keeps (StreamEndpoint.onWriteDone_keeps _)
  | finishWhenDrained => exact h.keeps (StreamEndpoint.finishWhenDrained_keeps _)
  | detach => exact h.keeps (StreamEndpoint.detach_keeps _)

theorem Accounted.run : (stream.run operations).Accounted capacity :=
  List.foldlRecOn operations ReservedStream.step h fun _ h operation _ => h.step operation

theorem Accounted.covers (hlive : reservation ∈ stream.reservations)
    (hunused : reservation.consumed = false) : reservation.count ≤ stream.endpoint.reserved := by
  have hsum := KeyedRows.sum_map_remove h.distinct hlive held
  rw [← h.reserved, held, hunused] at hsum
  simp only [Bool.false_eq_true, if_false] at hsum
  omega

theorem Accounted.enqueues (admits : ResponseReservation → Bool) (responses : List Response)
    (hlive : reservation ∈ stream.reservations) (hunused : reservation.consumed = false)
    (hatt : stream.endpoint.attached) (hopen : stream.endpoint.closing = false)
    (hfits : admits reservation → responses.length ≤ reservation.count) :
    let enqueued := stream.enqueueWith reservation.handle fun endpoint reservation =>
      endpoint.enqueueAgainst (admits reservation) responses reservation
    enqueued.2 = admits reservation ∧ (admits reservation →
      enqueued.1.endpoint.unsent = stream.endpoint.unsent ++ responses) := by
  have hfound : stream.reservation? reservation.handle = some reservation :=
    KeyedRows.find?_eq_some h.distinct hlive
  have hcov := h.covers hlive hunused
  unfold ReservedStream.enqueueWith
  rw [hfound]
  dsimp only
  rcases stream.endpoint.enqueueAgainst_cases (admits reservation) responses reservation with
    ⟨href, hused | hrejected | hshort⟩ | ⟨-, hadm, -, henqueued⟩
  · rw [hunused] at hused
    cases hused
  · rw [href, hrejected]
    exact ⟨rfl, nofun⟩
  · omega
  · have hroom := stream.endpoint.inUse_give_back hcov
    have hbd := h.bounded
    rw [← h.sized] at hbd
    have hfits := hfits hadm
    rw [henqueued, hadm]
    have hpushed := StreamEndpoint.push_unsent
      { stream.endpoint with reserved := stream.endpoint.reserved - reservation.count }
      responses hatt hopen (by dsimp only; omega) h.idle
    exact ⟨hpushed.1, fun _ => hpushed.2⟩

end

/-- Whatever happens on a stream, it never holds more than its capacity, what
is reserved is what live reservations hold, and on an open stream a live
reservation is good for its response, or for two where it reserved two: they
are written after all that waits. -/
theorem stream_slots_accounted (capacity : Nat) (operations : List StreamOperation) :
    let stream := (initial capacity).run operations
    stream.endpoint.queue.length + stream.endpoint.writing.toNat + stream.endpoint.reserved ≤
        capacity ∧
      stream.endpoint.reserved = (stream.reservations.map held).sum ∧
      (stream.endpoint.attached → stream.endpoint.closing = false →
        ∀ reservation ∈ stream.reservations, reservation.consumed = false →
          (∀ response, (stream.enqueueReserved reservation.handle response).2 ∧
            (stream.enqueueReserved reservation.handle response).1.endpoint.unsent =
              stream.endpoint.unsent ++ [response]) ∧
          ∀ first second, (stream.enqueuePairReserved reservation.handle first second).2 =
              decide (reservation.count = 2) ∧ (reservation.count = 2 →
            (stream.enqueuePairReserved reservation.handle first second).1.endpoint.unsent =
              stream.endpoint.unsent ++ [first, second])) := by
  intro stream
  have h : stream.Accounted capacity := initial_accounted.run
  refine ⟨h.bounded, h.reserved, fun hatt hopen reservation hlive hunused => ?_⟩
  have hcount := h.nonempty reservation hlive
  refine ⟨fun response => ?_, fun first second => ?_⟩
  · have hnonempty : (!(reservation.count == 0)) := by simp [hcount]
    obtain ⟨hdone, hunsent⟩ := h.enqueues (fun reservation => !(reservation.count == 0))
      [response] hlive hunused hatt hopen fun _ => Nat.pos_of_ne_zero hcount
    exact ⟨hdone.trans hnonempty, hunsent hnonempty⟩
  · obtain ⟨hdone, hunsent⟩ := h.enqueues (fun reservation => reservation.count == 2)
      [first, second] hlive hunused hatt hopen fun hpair => Nat.le_of_eq (beq_iff_eq.mp hpair).symm
    exact ⟨hdone.trans (Bool.beq_eq_decide_eq _ _), fun hpair => hunsent (beq_iff_eq.mpr hpair)⟩

/-- Two slots of two are reserved, and a pair goes through. -/
theorem stream_slots_accounted_pair :
    ((initial 2).run [.tryReserve 2]).reservations = [⟨0, 2, false⟩] ∧ ∀ first second,
        (((initial 2).run [.tryReserve 2]).enqueuePairReserved 0 first second).2 ∧
        (((initial 2).run [.tryReserve 2]).enqueuePairReserved 0 first second).1.endpoint.unsent =
          [first, second] := by
  refine ⟨by decide, fun first second => ?_⟩
  have hpair := ((stream_slots_accounted 2 [.tryReserve 2]).2.2 (by decide) (by decide)
    ⟨0, 2, false⟩ (by decide) rfl).2 first second
  exact ⟨hpair.1, hpair.2 rfl⟩

end ReservedStream

end LiveRoute.Transport
