import LiveRoute.Execution.Outbox
import LiveRoute.Library.Runs

/-! The database as any number of workers drive it. Row locks put the
transactions in one order; a claim is selected among the due rows of all trips
and passes over the rows that another transaction has locked. -/
namespace LiveRoute.Execution
open Domain Persistence

/-- `issued` are the claims that workers were ever given. -/
structure OutboxWorld where
  now : DatabaseTime
  stores : List TripStore
  issued : List HeldClaim

@[ext]
structure DueRow where
  tripId : TripId
  row : OutboxRow
deriving DecidableEq

def dueRows (stores : List TripStore) (now : DatabaseTime) : List DueRow :=
  stores.flatMap fun store => (store.candidates now).map fun row => ⟨store.record.tripId, row⟩

/-- `ORDER BY next_attempt_at, trip_id, mutation_sequence`. -/
def isClaimedBefore (left right : DueRow) : Bool :=
  if left.row.columns.nextAttemptAt ≠ right.row.columns.nextAttemptAt then
    decide (left.row.columns.nextAttemptAt < right.row.columns.nextAttemptAt)
  else if left.tripId ≠ right.tripId then decide (left.tripId.value < right.tripId.value)
  else decide (left.row.command.mutationSequence < right.row.command.mutationSequence)

def DueRow.isLocked (due : DueRow) (locked : List (TripId × EventId)) : Bool :=
  locked.contains (due.tripId, due.row.command.eventId)

def selectRows (stores : List TripStore) (now : DatabaseTime) (batchSize : Nat)
    (locked : List (TripId × EventId)) : List DueRow :=
  ((Sequence.sortBy isClaimedBefore (dueRows stores now)).filter fun due =>
    !due.isLocked locked).take batchSize

def OutboxColumns.claimBy (columns : OutboxColumns) (claim : OutboxClaim) : OutboxColumns :=
  { columns with attemptCount := columns.attemptCount + 1, claim := some claim }

def TripStore.claimSelected (store : TripStore) (selected : List DueRow) (claim : OutboxClaim) :
    TripStore :=
  { store with outbox := fun eventId =>
      if selected.any fun due =>
          decide (due.tripId = store.record.tripId ∧ due.row.command.eventId = eventId) then
        (store.outbox eventId).map fun columns => columns.claimBy claim
      else store.outbox eventId }

def DueRow.claimed (due : DueRow) (claim : OutboxClaim) : ClaimedOutboxRow :=
  ⟨due.tripId, due.row.command, due.row.columns.attemptCount + 1, claim.expiresAt⟩

/-- The order in which `ClaimDue` hands the rows out. -/
def isReturnedBefore (left right : ClaimedOutboxRow) : Bool :=
  if left.tripId ≠ right.tripId then decide (left.tripId.value < right.tripId.value)
  else decide (left.command.mutationSequence < right.command.mutationSequence)

/-- `ClaimDue` of a batch. -/
def claimDue (stores : List TripStore) (now : DatabaseTime) (owner : ClaimOwner)
    (batchSize durationMilliseconds : Int) (locked : List (TripId × EventId)) :
    Except ClaimError (List TripStore × List ClaimedOutboxRow) :=
  if batchSize ≤ 0 ∨ durationMilliseconds ≤ 0 then .error .invalidRequest
  else
    let claim : OutboxClaim := ⟨owner, now + durationMilliseconds * 1000⟩
    let selected := selectRows stores now batchSize.toNat locked
    .ok (stores.map fun store => store.claimSelected selected claim,
      Sequence.sortBy isReturnedBefore (selected.map fun due => due.claimed claim))

inductive OutboxStep where
  | elapse (microseconds : Nat)
  | claim (owner : ClaimOwner) (batchSize durationMilliseconds : Int)
      (locked : List (TripId × EventId))
  | release (claim : HeldClaim) (delay : Int)
  | pause (claim : HeldClaim)
  /-- A worker stores the outcome of the row that it has claimed. -/
  | finalize (claim : HeldClaim) (transaction : TripTransaction)
  /-- Every other transaction on the trip. -/
  | commit (tripId : TripId) (transaction : TripTransaction)
  | confirm (tripId : TripId) (sequence : UInt64)
  | resolveBootstrap (tripId : TripId) (request : ResolveCanonicalBootstrapRequest)
  | persistSnapshot (blob : SnapshotBlob)
  | recover (tripId : TripId)

def OutboxWorld.store? (world : OutboxWorld) (tripId : TripId) : Option TripStore :=
  world.stores.find? fun store => decide (store.record.tripId = tripId)

def OutboxWorld.update (world : OutboxWorld) (tripId : TripId) (change : TripStore → TripStore) :
    OutboxWorld :=
  { world with stores := world.stores.map fun store =>
      if store.record.tripId = tripId then change store else store }

def attempt {ε : Type} (transaction : TripStore → Except ε TripStore) (store : TripStore) :
    TripStore :=
  match transaction store with
  | .error _ => store
  | .ok committed => committed

/-- A worker acts on the claims that it was given, and finalizes the event of
the row it has claimed. -/
def OutboxWorld.step (world : OutboxWorld) : OutboxStep → OutboxWorld
  | .elapse microseconds => { world with now := world.now + microseconds }
  | .claim owner batchSize durationMilliseconds locked =>
    match claimDue world.stores world.now owner batchSize durationMilliseconds locked with
    | .error _ => world
    | .ok (stores, rows) =>
      { world with stores := stores, issued := world.issued ++ rows.map fun row => ⟨owner, row⟩ }
  | .release claim delay =>
    if claim ∈ world.issued then
      world.update claim.row.tripId
        (attempt fun store => store.releaseForRetry world.now claim delay)
    else world
  | .pause claim =>
    if claim ∈ world.issued then
      world.update claim.row.tripId (attempt fun store => store.pauseInternal world.now claim)
    else world
  | .finalize claim transaction =>
    if claim ∈ world.issued ∧ transaction.finalizes = some claim.row.command.eventId then
      world.update claim.row.tripId fun store => store.commit world.now transaction
    else world
  | .commit tripId transaction =>
    if transaction.finalizes = none then
      world.update tripId fun store => store.commit world.now transaction
    else world
  | .confirm tripId sequence =>
    world.update tripId (attempt fun store => store.confirmFinalizedMutations world.now sequence)
  | .resolveBootstrap tripId request =>
    world.update tripId (attempt fun store => store.resolveCanonicalBootstrap world.now request)
  | .persistSnapshot blob =>
    world.update blob.tripId (attempt fun store => store.persistSnapshot world.now blob)
  | .recover tripId =>
    world.update tripId fun store => { store with snapshots := (loadForRecovery store.snapshots).1 }

def TripStore.ofRecord (record : TripRecord) : TripStore := ⟨record, fun _ => none, []⟩

structure OutboxWorld.Initial (world : OutboxWorld) : Prop where
  created : ∀ store ∈ world.stores, ∃ record, Created record ∧ store = .ofRecord record
  distinct : (world.stores.map fun store => store.record.tripId).Nodup
  issued : world.issued = []

end LiveRoute.Execution
