import LiveRoute.Transport.StreamAccounting

/-! Closing of a stream. Every operation that can empty a closing stream looks
whether it is drained, except the enqueue against the last reservation. -/
namespace LiveRoute.Transport
open Domain

namespace StreamEndpoint

def Finishes (endpoint : StreamEndpoint) : Prop :=
  endpoint.attached → endpoint.isDrained → endpoint.finished.isSome

instance (endpoint : StreamEndpoint) : Decidable endpoint.Finishes :=
  inferInstanceAs (Decidable (_ → _))

variable {endpoint : StreamEndpoint}

theorem finishes_iff : endpoint.Finishes ↔
    (endpoint.attached && endpoint.finished.isNone && endpoint.isDrained) = false := by
  unfold Finishes
  cases endpoint.attached <;> cases endpoint.finished <;> cases endpoint.isDrained <;> simp

theorem finishes_of_open (h : endpoint.closing = false) : endpoint.Finishes := by
  intro _ hdrained
  simp [isDrained, h] at hdrained

theorem finish_finishes : (endpoint.finish status).Finishes := by
  intro hatt _
  unfold finish at hatt ⊢
  split at hatt
  next hkept =>
    rw [if_pos hkept]
    simpa [hatt] using hkept
  next hstart =>
    rw [if_neg hstart]
    rfl

theorem maybeFinish_finishes : endpoint.maybeFinish.Finishes := by
  unfold maybeFinish
  split
  next => exact finish_finishes
  next hbusy => exact fun _ hdrained => absurd hdrained hbusy

theorem startWrite_finishes (h : endpoint.Finishes) : endpoint.startWrite.Finishes := by
  unfold startWrite
  split
  next => exact h
  next =>
    split
    next => exact h
    next =>
      intro _ hdrained
      simp [isDrained] at hdrained

theorem push_finishes (h : endpoint.Finishes) : (endpoint.push responses).1.Finishes := by
  unfold push
  split
  next => exact h
  next hopen =>
    simp only [Bool.or_eq_true, not_or, Bool.not_eq_true] at hopen
    exact startWrite_finishes (finishes_of_open hopen.1.2)

theorem publish_finishes (h : endpoint.Finishes) : (endpoint.publish key).1.Finishes := by
  fun_cases publish endpoint key
  case case4 hopen _ _ _ =>
    simp only [Bool.or_eq_true, not_or, Bool.not_eq_true] at hopen
    exact finishes_of_open hopen.2
  case case5 hopen _ =>
    simp only [Bool.or_eq_true, not_or, Bool.not_eq_true] at hopen
    exact push_finishes (finishes_of_open hopen.2)
  all_goals exact h

theorem onWriteDone_finishes : (endpoint.onWriteDone ok).Finishes := by
  unfold onWriteDone
  split
  next => exact finish_finishes
  next => exact maybeFinish_finishes

def strands (endpoint : StreamEndpoint) (admits : Bool) (reservation : ResponseReservation) :
    Bool :=
  !reservation.consumed && admits && decide (reservation.count ≤ endpoint.reserved) &&
    endpoint.attached && endpoint.finished.isNone &&
    { endpoint with reserved := endpoint.reserved - reservation.count }.isDrained

theorem enqueueAgainst_finishes_iff (h : endpoint.Finishes) :
    (endpoint.enqueueAgainst admits responses reservation).1.1.Finishes ↔
      endpoint.strands admits reservation = false := by
  rcases endpoint.enqueueAgainst_cases admits responses reservation with
    ⟨href, hreason⟩ | ⟨hunused, hadm, hroom, henqueued⟩
  · rw [href]
    refine iff_of_true h ?_
    rcases hreason with hused | hrejected | hshort
    · simp [strands, hused]
    · simp [strands, hrejected]
    · simp [strands, Nat.not_le.mpr hshort]
  · rw [henqueued]
    by_cases hclose : endpoint.closing
    · -- a closing stream takes nothing, so that only the given-back slots count
      rw [push, if_pos (by simp [hclose]), finishes_iff]
      simp [strands, hunused, hadm, hroom]
    · rw [Bool.not_eq_true] at hclose
      refine iff_of_true (push_finishes ?_) ?_
      · exact finishes_of_open hclose
      · simp [strands, isDrained, hclose]

end StreamEndpoint

namespace ReservedStream

def strands (stream : ReservedStream) : StreamOperation → Bool
  | .enqueueReserved handle _ =>
    (stream.reservation? handle).any fun reservation =>
      stream.endpoint.strands (!(reservation.count == 0)) reservation
  | .enqueuePairReserved handle _ _ =>
    (stream.reservation? handle).any fun reservation =>
      stream.endpoint.strands (reservation.count == 2) reservation
  | _ => false

theorem enqueueWith_finishes_iff {stream : ReservedStream} (h : stream.endpoint.Finishes)
    (handle : Nat) {admits : ResponseReservation → Bool} :
    (stream.enqueueWith handle fun endpoint reservation =>
        endpoint.enqueueAgainst (admits reservation) responses reservation).1.endpoint.Finishes ↔
      ((stream.reservation? handle).any fun reservation =>
        stream.endpoint.strands (admits reservation) reservation) = false := by
  unfold enqueueWith
  cases stream.reservation? handle with
  | none => exact iff_of_true h rfl
  | some => exact StreamEndpoint.enqueueAgainst_finishes_iff h

theorem dropReservation_finishes {stream : ReservedStream} (h : stream.endpoint.Finishes)
    (handle : Nat) : (stream.dropReservation handle).endpoint.Finishes := by
  unfold dropReservation
  split
  next => exact h
  next =>
    split
    next => exact StreamEndpoint.maybeFinish_finishes
    next => exact h

theorem tryReserve_finishes {stream : ReservedStream} (h : stream.endpoint.Finishes) :
    (stream.tryReserve count).endpoint.Finishes := by
  unfold tryReserve
  split
  next hadmits =>
    simp only [StreamEndpoint.admitsReservation, Bool.and_eq_true, Bool.not_eq_true'] at hadmits
    exact StreamEndpoint.finishes_of_open hadmits.1.1.2
  next => exact h

theorem step_finishes_iff {stream : ReservedStream} (h : stream.endpoint.Finishes) :
    (stream.step operation).endpoint.Finishes ↔ stream.strands operation = false := by
  cases operation with
  | tryReserve => exact iff_of_true (tryReserve_finishes h) rfl
  | enqueueReserved handle => exact enqueueWith_finishes_iff h handle
  | enqueuePairReserved handle => exact enqueueWith_finishes_iff h handle
  | dropReservation handle => exact iff_of_true (dropReservation_finishes h handle) rfl
  | enqueueImmediate => exact iff_of_true (StreamEndpoint.push_finishes h) rfl
  | recordCorrelation => exact iff_of_true h rfl
  | publish => exact iff_of_true (StreamEndpoint.publish_finishes h) rfl
  | onWriteDone => exact iff_of_true StreamEndpoint.onWriteDone_finishes rfl
  | finishWhenDrained => exact iff_of_true StreamEndpoint.maybeFinish_finishes rfl
  | detach =>
    refine iff_of_true (fun hatt => ?_) rfl
    cases hatt

/-- A closing stream finishes once it is drained, as long as no response is
enqueued against the last slots of a closing stream that is otherwise drained. -/
theorem closing_stream_finishes_iff (capacity : Nat) (operations : List StreamOperation) :
    (∀ done, done <+: operations → ((initial capacity).run done).endpoint.Finishes) ↔
      Runs.Along step (fun stream operation => stream.strands operation = false)
        (initial capacity) operations := by
  have hstart : (initial capacity).endpoint.Finishes := StreamEndpoint.finishes_of_open rfl
  have hstep : ∀ (stream : ReservedStream) (operation : StreamOperation), True →
      stream.endpoint.Finishes →
      ((stream.step operation).endpoint.Finishes ↔ stream.strands operation = false) :=
    fun stream operation _ h => step_finishes_iff h
  exact Runs.safe_iff_along (fun _ _ _ _ => trivial) hstep trivial hstart operations

def eventAnswer : Response := ⟨⟨1⟩, some ⟨1⟩, .eventAcknowledged⟩

/-- The read side ends while an event is being applied. The answer is refused
and its reservation is used up, and from then on nothing finishes the stream. -/
theorem answered_after_close_strands :
    let stream := (initial 2).run
      [.tryReserve 1, .finishWhenDrained .ok, .enqueueReserved 0 eventAnswer, .dropReservation 0]
    stream.endpoint.attached ∧ stream.endpoint.closing ∧
      stream.endpoint.writing = false ∧ stream.endpoint.queue = [] ∧ stream.endpoint.reserved = 0 ∧
      stream.reservations = [] ∧ stream.endpoint.finished = none := by
  decide

end ReservedStream

end LiveRoute.Transport
