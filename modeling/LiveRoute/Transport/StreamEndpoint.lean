import LiveRoute.Domain.Activity

/-! The outbound side of one planner stream: a bounded queue of responses, one
write in flight, and slots reserved for responses that are still being made. -/
namespace LiveRoute.Transport
open Domain

structure RequestId where
  value : BitVec 128
deriving DecidableEq

inductive ResponsePayload where
  | streamReady | eventAcknowledged | replanResult | tripSnapshot | tripDeactivated | error | pong
  | finalizedMutationsAcknowledged | tripBootstrapped
deriving DecidableEq

/-- What the stream reads of a response; the payload's fields pass through. -/
structure Response where
  requestId : RequestId
  tripId : Option TripId
  payload : ResponsePayload
deriving DecidableEq

/-- The codes with which the service closes a stream. -/
inductive StatusCode where
  | ok | cancelled | failedPrecondition | resourceExhausted | unavailable
deriving DecidableEq

structure CorrelationKey where
  tripId : TripId
  (runtimeEpoch plannerStateVersion : UInt64)
deriving DecidableEq

structure ResponseReservation where
  (handle count : Nat)
  consumed : Bool
deriving DecidableEq

/-- `attached` is a reactor that is not null; `finished` is the status given to
`Finish`, once that was started. Sizes count objects in memory and callers
reserve one or two slots, so that no sum of them overflows. -/
structure StreamEndpoint where
  attached : Bool
  (capacity reserved : Nat)
  (writing closing : Bool)
  finished : Option StatusCode
  finishStatus : StatusCode
  queue : List Response
  current : Option Response
  correlations : List (CorrelationKey × RequestId)
deriving DecidableEq

namespace StreamEndpoint

def attach (capacity : Nat) : StreamEndpoint where
  attached := true
  capacity := capacity
  reserved := 0
  writing := false
  closing := false
  finished := none
  finishStatus := .ok
  queue := []
  current := none
  correlations := []

def inUse (endpoint : StreamEndpoint) : Nat :=
  endpoint.queue.length + endpoint.writing.toNat + endpoint.reserved

def detach (endpoint : StreamEndpoint) : StreamEndpoint :=
  { endpoint with attached := false, queue := [], current := none, correlations := [] }

def startWrite (endpoint : StreamEndpoint) : StreamEndpoint :=
  if !endpoint.attached || endpoint.writing then endpoint
  else
    match endpoint.queue with
    | [] => endpoint
    | response :: rest => { endpoint with current := some response, queue := rest, writing := true }

def finish (endpoint : StreamEndpoint) (status : StatusCode) : StreamEndpoint :=
  if !endpoint.attached || endpoint.finished.isSome then endpoint
  else { endpoint with finished := some status }

def isDrained (endpoint : StreamEndpoint) : Bool :=
  endpoint.closing && !endpoint.writing && endpoint.queue.isEmpty && endpoint.reserved == 0

def maybeFinish (endpoint : StreamEndpoint) : StreamEndpoint :=
  if endpoint.isDrained then endpoint.finish endpoint.finishStatus else endpoint

def admitsReservation (endpoint : StreamEndpoint) (count : Nat) : Bool :=
  endpoint.attached && !endpoint.closing && !(count == 0) &&
    !decide (endpoint.capacity < endpoint.inUse + count)

def release (endpoint : StreamEndpoint) (count : Nat) : StreamEndpoint :=
  (if count ≤ endpoint.reserved then { endpoint with reserved := endpoint.reserved - count }
    else endpoint).maybeFinish

def push (endpoint : StreamEndpoint) (responses : List Response) : StreamEndpoint × Bool :=
  if !endpoint.attached || endpoint.closing ||
      decide (endpoint.capacity < endpoint.inUse + responses.length) then
    (endpoint, false)
  else
    ({ endpoint with queue := endpoint.queue ++ responses }.startWrite, true)

/-- The common part of both enqueues against a reservation: the reservation is
used up before the stream is asked whether it still takes responses. -/
def enqueueAgainst (endpoint : StreamEndpoint) (admits : Bool) (responses : List Response)
    (reservation : ResponseReservation) : (StreamEndpoint × ResponseReservation) × Bool :=
  if reservation.consumed || !admits || decide (endpoint.reserved < reservation.count) then
    ((endpoint, reservation), false)
  else
    let pushed := { endpoint with reserved := endpoint.reserved - reservation.count }.push responses
    ((pushed.1, { reservation with consumed := true }), pushed.2)

def enqueueReserved (endpoint : StreamEndpoint) (response : Response)
    (reservation : ResponseReservation) : (StreamEndpoint × ResponseReservation) × Bool :=
  endpoint.enqueueAgainst (!(reservation.count == 0)) [response] reservation

def enqueuePairReserved (endpoint : StreamEndpoint) (first second : Response)
    (reservation : ResponseReservation) : (StreamEndpoint × ResponseReservation) × Bool :=
  endpoint.enqueueAgainst (reservation.count == 2) [first, second] reservation

def enqueueImmediate (endpoint : StreamEndpoint) (response : Response) : StreamEndpoint × Bool :=
  endpoint.push [response]

def replaceQueuedResult (response : Response) (queue : List Response) : Option (List Response) :=
  let isResult (queued : Response) : Bool :=
    decide (queued.payload = .replanResult) && decide (queued.tripId = response.tripId)
  match queue.reverse.findIdx? isResult with
  | none => none
  | some position => some (queue.reverse.set position response).reverse

def correlation? (endpoint : StreamEndpoint) (key : CorrelationKey) : Option RequestId :=
  (endpoint.correlations.find? fun entry => decide (entry.1 = key)).map Prod.snd

def recordCorrelation (endpoint : StreamEndpoint) (key : CorrelationKey) (requestId : RequestId) :
    StreamEndpoint :=
  { endpoint with
    correlations := (endpoint.correlations.filter fun entry =>
      !decide (entry.1.tripId = key.tripId)) ++ [(key, requestId)] }

/-- A finished attempt answers the request it is correlated with; on a full
stream it may only take the place of an older result of its trip. -/
def publish (endpoint : StreamEndpoint) (key : CorrelationKey) : StreamEndpoint × Bool :=
  match endpoint.correlation? key with
  | none => (endpoint, false)
  | some requestId =>
    let answered : StreamEndpoint := { endpoint with
      correlations := endpoint.correlations.filter fun entry => !decide (entry.1 = key) }
    let response : Response := ⟨requestId, some key.tripId, .replanResult⟩
    if !answered.attached || answered.closing then (answered, false)
    else if answered.capacity ≤ answered.inUse then
      match replaceQueuedResult response answered.queue with
      | none => (answered, false)
      | some queue => ({ answered with queue := queue }, true)
    else answered.push [response]

def onWriteDone (endpoint : StreamEndpoint) (ok : Bool) : StreamEndpoint :=
  let written : StreamEndpoint := { endpoint with current := none, writing := false }
  if !ok then written.finish .unavailable else written.startWrite.maybeFinish

def finishWhenDrained (endpoint : StreamEndpoint) (status : StatusCode) : StreamEndpoint :=
  { endpoint with closing := true, finishStatus := status }.maybeFinish

end StreamEndpoint

end LiveRoute.Transport
