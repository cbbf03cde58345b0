import LiveRoute.Persistence.Leases

/-! Stored planner snapshots. A snapshot is kept under its epoch, planner
version and covered sequence; the two newest usable ones of a trip are
retained, and a recovery takes the newest whose payload still checks. -/
namespace LiveRoute.Persistence
open Domain

structure SnapshotId where
  value : BitVec 128
deriving DecidableEq

structure SnapshotDocument where
  state : TripState
  ownerUserId : UserId
  (tripRevision acceptedMutationSequence finalizedMutationSequence schemaVersion : UInt64)
deriving DecidableEq

def SnapshotDocument.isValid (document : SnapshotDocument) : Bool :=
  !document.state.defaultTimeZoneName.isEmpty && parsedPlanIsValid document.state.currentPlan &&
    !(document.tripRevision == 0) && document.schemaVersion == 1 &&
    document.acceptedMutationSequence == document.finalizedMutationSequence

/-- The bytes of a payload as the store reads them: their number, their
SHA-256 and the document they encode, if they encode one. -/
structure SnapshotPayload where
  size : Nat
  digest : PayloadDigest
  document : Option SnapshotDocument
deriving DecidableEq

def parseSnapshotPayload (payload : SnapshotPayload) : Option SnapshotDocument :=
  payload.document.filter SnapshotDocument.isValid

structure SnapshotBlob where
  id : SnapshotId
  tripId : TripId
  schemaVersion : UInt32
  (sourceRuntimeEpoch sourcePlannerStateVersion tripRevision : UInt64)
  coveredFinalizedMutationSequence : UInt64
  payload : SnapshotPayload
  checksum : PayloadDigest
deriving DecidableEq

def maxSnapshotPayloadBytes : Nat := 2 * 1024 * 1024

def SnapshotBlob.matches (blob : SnapshotBlob) (document : SnapshotDocument) : Bool :=
  decide (document.state.tripId = blob.tripId) && document.tripRevision == blob.tripRevision &&
    document.finalizedMutationSequence == blob.coveredFinalizedMutationSequence

def validateSnapshotBlob (blob : SnapshotBlob) : Bool :=
  blob.schemaVersion == 1 && !(blob.sourceRuntimeEpoch == 0) && decide
    (blob.sourceRuntimeEpoch.toNat ≤ maxInt64) && decide
    (blob.sourcePlannerStateVersion.toNat ≤ maxInt64) && !(blob.tripRevision == 0) && decide
    (blob.tripRevision.toNat ≤ maxInt64) && decide
    (blob.coveredFinalizedMutationSequence.toNat ≤ maxInt64) && decide (0 < blob.payload.size) &&
    decide (blob.payload.size ≤ maxSnapshotPayloadBytes) && decide
    (blob.payload.digest = blob.checksum) && (parseSnapshotPayload blob.payload).any blob.matches

inductive InvalidationReason where
  | payloadSizeInvalid | checksumMismatch | payloadInvalid | metadataMismatch
deriving DecidableEq

/-- A row of `planner_snapshots`. -/
structure SnapshotRow where
  blob : SnapshotBlob
  declaredPayloadSize : Nat
  createdAt : DatabaseTime
  invalidation : Option InvalidationReason
deriving DecidableEq

def storedSnapshotValidationReason (row : SnapshotRow) : Option InvalidationReason :=
  if row.blob.payload.size = 0 ∨ maxSnapshotPayloadBytes < row.blob.payload.size ∨
      row.declaredPayloadSize ≠ row.blob.payload.size then some .payloadSizeInvalid
  else if row.blob.payload.digest ≠ row.blob.checksum then some .checksumMismatch
  else
    match parseSnapshotPayload row.blob.payload with
    | none => some .payloadInvalid
    | some document => if row.blob.matches document then none else some .metadataMismatch

def snapshotIsOlder (candidate current : SnapshotBlob) : Bool :=
  if candidate.sourceRuntimeEpoch ≠ current.sourceRuntimeEpoch then
    decide (candidate.sourceRuntimeEpoch < current.sourceRuntimeEpoch)
  else if candidate.sourcePlannerStateVersion ≠ current.sourcePlannerStateVersion then
    decide (candidate.sourcePlannerStateVersion < current.sourcePlannerStateVersion)
  else if candidate.coveredFinalizedMutationSequence ≠ current.coveredFinalizedMutationSequence then
    decide (candidate.coveredFinalizedMutationSequence < current.coveredFinalizedMutationSequence)
  else decide (candidate.tripRevision < current.tripRevision)

def snapshotIsNewer (left right : SnapshotRow) : Bool :=
  if left.blob.sourceRuntimeEpoch ≠ right.blob.sourceRuntimeEpoch then
    decide (right.blob.sourceRuntimeEpoch < left.blob.sourceRuntimeEpoch)
  else if left.blob.sourcePlannerStateVersion ≠ right.blob.sourcePlannerStateVersion then
    decide (right.blob.sourcePlannerStateVersion < left.blob.sourcePlannerStateVersion)
  else if left.blob.coveredFinalizedMutationSequence ≠
      right.blob.coveredFinalizedMutationSequence then
    decide (right.blob.coveredFinalizedMutationSequence <
      left.blob.coveredFinalizedMutationSequence)
  else if left.blob.tripRevision ≠ right.blob.tripRevision then
    decide (right.blob.tripRevision < left.blob.tripRevision)
  else if left.createdAt ≠ right.createdAt then decide (right.createdAt < left.createdAt)
  else decide (right.blob.id.value < left.blob.id.value)

def SnapshotRow.isStored (row : SnapshotRow) : Bool :=
  row.invalidation.isNone && row.blob.schemaVersion == 1

def storedSnapshots (rows : List SnapshotRow) : List SnapshotRow :=
  Sequence.sortBy snapshotIsNewer (rows.filter SnapshotRow.isStored)

inductive SnapshotError where
  | invalid | stale | conflict | notReady | storage
deriving DecidableEq

def SnapshotBlob.sameSource (blob other : SnapshotBlob) : Bool :=
  blob.sourceRuntimeEpoch == other.sourceRuntimeEpoch &&
    blob.sourcePlannerStateVersion == other.sourcePlannerStateVersion &&
    blob.coveredFinalizedMutationSequence == other.coveredFinalizedMutationSequence

def invalidateSnapshots (rows : List SnapshotRow) : List SnapshotRow := rows.map fun row =>
    if row.isStored then { row with invalidation := storedSnapshotValidationReason row } else row

def retainNewest (rows : List SnapshotRow) : List SnapshotRow :=
  let retained := (storedSnapshots rows).take 2
  rows.filter fun row => !row.isStored || decide (row ∈ retained)

/-- `snapshotIsOlder`, or behind the newest one in revision or coverage. -/
def isBehind (blob newest : SnapshotBlob) : Bool :=
  snapshotIsOlder blob newest || decide (blob.tripRevision < newest.tripRevision) ||
    decide (blob.coveredFinalizedMutationSequence < newest.coveredFinalizedMutationSequence)

/-- `SnapshotStore.Persist` on the snapshots of a trip. `ready` is the count of
covered outbox rows that are not both resolved and confirmed, compared with 0;
the result says whether a row was inserted. -/
def persistSnapshot (rows : List SnapshotRow) (tripRevision finalizedMutationSequence : Nat)
    (ready : Bool) (blob : SnapshotBlob) (now : DatabaseTime) :
    Except SnapshotError (List SnapshotRow × Bool) :=
  if !validateSnapshotBlob blob then .error .invalid
  else
    match rows.find? fun row => row.blob.sameSource blob with
    | some existing => if existing.blob = blob then .ok (rows, false) else .error .conflict
    | none =>
      if tripRevision < blob.tripRevision.toNat ∨
          finalizedMutationSequence < blob.coveredFinalizedMutationSequence.toNat then
        .error .invalid
      else if !ready then .error .notReady
      else
        let checked := invalidateSnapshots rows
        if (storedSnapshots checked).head?.any fun newest => isBehind blob newest.blob then
          .error .stale
        else if rows.any fun row => decide (row.blob.id = blob.id) then .error .storage
        else
          .ok (retainNewest (checked ++ [⟨blob, blob.payload.size, now, none⟩]), true)

/-- `SnapshotStore.LoadForRecovery`, which invalidates the rows it passes over. -/
def loadForRecovery (rows : List SnapshotRow) : List SnapshotRow × Option SnapshotRow :=
  let candidates := storedSnapshots rows
  let passed := candidates.takeWhile fun row => (storedSnapshotValidationReason row).isSome
  (rows.map fun row =>
      if row ∈ passed then { row with invalidation := storedSnapshotValidationReason row }
      else row,
    candidates.find? fun row => (storedSnapshotValidationReason row).isNone)

end LiveRoute.Persistence
