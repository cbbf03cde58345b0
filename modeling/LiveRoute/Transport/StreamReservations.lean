import LiveRoute.Library.KeyedRows
import LiveRoute.Library.Runs
import LiveRoute.Transport.StreamEndpoint

/-! A stream endpoint with the reservations that callers hold on it. What is
reserved is what live reservations still hold, and the last of them to go must
leave a closing stream finished. -/
namespace LiveRoute.Transport
open Domain

structure ReservedStream where
  endpoint : StreamEndpoint
  reservations : List ResponseReservation
  nextHandle : Nat
deriving DecidableEq

namespace ReservedStream

def initial (capacity : Nat) : ReservedStream := ⟨.attach capacity, [], 0⟩

def reservation? (stream : ReservedStream) (handle : Nat) : Option ResponseReservation :=
  stream.reservations.find? fun reservation => decide (reservation.handle = handle)

def tryReserve (stream : ReservedStream) (count : Nat) : ReservedStream :=
  if stream.endpoint.admitsReservation count then
    { endpoint := { stream.endpoint with reserved := stream.endpoint.reserved + count }
      reservations := stream.reservations ++ [⟨stream.nextHandle, count, false⟩]
      nextHandle := stream.nextHandle + 1 }
  else stream

/-- An enqueue against a handle; a reservation that is gone enqueues nothing. -/
def enqueueWith (stream : ReservedStream) (handle : Nat)
    (enqueue : StreamEndpoint → ResponseReservation →
      (StreamEndpoint × ResponseReservation) × Bool) : ReservedStream × Bool :=
  match stream.reservation? handle with
  | none => (stream, false)
  | some reservation =>
    let enqueued := enqueue stream.endpoint reservation
    ({ stream with
        endpoint := enqueued.1.1
        reservations := stream.reservations.map fun other =>
          if other.handle = reservation.handle then enqueued.1.2 else other }, enqueued.2)

def enqueueReserved (stream : ReservedStream) (handle : Nat) (response : Response) :
    ReservedStream × Bool :=
  stream.enqueueWith handle fun endpoint => endpoint.enqueueReserved response

def enqueuePairReserved (stream : ReservedStream) (handle : Nat) (first second : Response) :
    ReservedStream × Bool :=
  stream.enqueueWith handle fun endpoint => endpoint.enqueuePairReserved first second

def dropReservation (stream : ReservedStream) (handle : Nat) : ReservedStream :=
  match stream.reservation? handle with
  | none => stream
  | some reservation =>
    { stream with
      endpoint :=
        if !reservation.consumed && !(reservation.count == 0) then
          stream.endpoint.release reservation.count
        else stream.endpoint
      reservations := stream.reservations.filter fun other =>
        !decide (other.handle = reservation.handle) }

end ReservedStream

inductive StreamOperation where
  | tryReserve (count : Nat)
  | enqueueReserved (handle : Nat) (response : Response)
  | enqueuePairReserved (handle : Nat) (first second : Response)
  | dropReservation (handle : Nat)
  | enqueueImmediate (response : Response)
  | recordCorrelation (key : CorrelationKey) (requestId : RequestId)
  | publish (key : CorrelationKey)
  | onWriteDone (ok : Bool)
  | finishWhenDrained (status : StatusCode)
  | detach
deriving DecidableEq

namespace ReservedStream

def step (stream : ReservedStream) : StreamOperation → ReservedStream
  | .tryReserve count => stream.tryReserve count
  | .enqueueReserved handle response => (stream.enqueueReserved handle response).1
  | .enqueuePairReserved handle first second => (stream.enqueuePairReserved handle first second).1
  | .dropReservation handle => stream.dropReservation handle
  | .enqueueImmediate response =>
    { stream with endpoint := (stream.endpoint.enqueueImmediate response).1 }
  | .recordCorrelation key requestId =>
    { stream with endpoint := stream.endpoint.recordCorrelation key requestId }
  | .publish key => { stream with endpoint := (stream.endpoint.publish key).1 }
  | .onWriteDone ok => { stream with endpoint := stream.endpoint.onWriteDone ok }
  | .finishWhenDrained status =>
    { stream with endpoint := stream.endpoint.finishWhenDrained status }
  | .detach => { stream with endpoint := stream.endpoint.detach }

def run (stream : ReservedStream) (operations : List StreamOperation) : ReservedStream :=
  operations.foldl step stream

end ReservedStream

end LiveRoute.Transport
