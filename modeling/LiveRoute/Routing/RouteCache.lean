import LiveRoute.Domain.Activity
import LiveRoute.Library.Probing

/-! The route matrix cache: shards of an open-addressing table whose entries
are evicted by a second-chance hand. Times are nanoseconds; the counters of
the metrics are left out. -/
namespace LiveRoute.Routing
open Domain Probing

structure RouteMatrixCacheConfig where
  enabled : Bool
  policyVersion : String
  (shardCount maxEntries maxBytes coordinateScale : Nat)
  (timeBucket freshTtl staleIfErrorMaxAge : Int)
  evictionScanLimit : Nat

def RouteMatrixCacheConfig.isValid (config : RouteMatrixCacheConfig) : Bool :=
  config.policyVersion == "liveroute-route-cache-v1" && config.shardCount != 0 &&
    config.maxEntries != 0 && config.maxBytes != 0 && config.coordinateScale == 100000 &&
    config.timeBucket == 900 && config.freshTtl == 21600 && config.staleIfErrorMaxAge == 86400 &&
    config.evictionScanLimit == 64 && decide (config.shardCount ≤ config.maxEntries) &&
    config.maxEntries % config.shardCount == 0

structure RouteCacheKey where
  (originLatitudeE5 originLongitudeE5 destinationLatitudeE5 destinationLongitudeE5 : Int32)
  departureBucket : Int64
  travelMode : TravelMode
  providerNamespace : UInt32
deriving DecidableEq

def fnvPrime : UInt64 := 1099511628211

def appendBigEndian (width value : Nat) (hash : UInt64) : UInt64 :=
  (List.range width).foldl (fun hash index =>
    (hash ^^^ UInt64.ofNat (value / 256 ^ (width - 1 - index) % 256)) * fnvPrime) hash

def hashKey (key : RouteCacheKey) : UInt64 :=
  let hash := appendBigEndian 4 key.originLatitudeE5.toUInt32.toNat 14695981039346656037
  let hash := appendBigEndian 4 key.originLongitudeE5.toUInt32.toNat hash
  let hash := appendBigEndian 4 key.destinationLatitudeE5.toUInt32.toNat hash
  let hash := appendBigEndian 4 key.destinationLongitudeE5.toUInt32.toNat hash
  let hash := appendBigEndian 8 key.departureBucket.toUInt64.toNat hash
  let hash := (hash ^^^ if key.travelMode = .walking then 1 else 2) * fnvPrime
  appendBigEndian 4 key.providerNamespace.toNat hash

def doubleUntil (value : Nat) : Nat → Nat → Nat
  | 0, result => result
  | fuel + 1, result => if result < value then doubleUntil value fuel (result * 2) else result

/-- `value` doublings are more than the loop can need. -/
def nextPowerOfTwo (value : Nat) : Nat := if value < 2 then 2 else doubleUntil value value 1

structure Slot where
  key : RouteCacheKey
  estimate : RouteEstimate
  insertedAt : Int
  (occupied tombstone referenced : Bool)

/-- Of the slots only the first `size` are there. -/
structure Shard where
  size : Nat
  slots : Nat → Slot
  (hand entries : Nat)

def Slot.cell (slot : Slot) : Cell RouteCacheKey (RouteEstimate × Int) :=
  if slot.occupied then .held slot.key (slot.estimate, slot.insertedAt)
  else if slot.tombstone then .dead else .never

def Shard.cells (shard : Shard) (index : Nat) : Cell RouteCacheKey (RouteEstimate × Int) :=
  (shard.slots index).cell

def Shard.put (shard : Shard) (index : Nat) (slot : Slot) (entries : Nat) : Shard :=
  { shard with slots := Function.update shard.slots index slot, entries := entries }

section Operations
variable (config : RouteMatrixCacheConfig) (hash : RouteCacheKey → UInt64) (shard : Shard)

def Shard.path (key : RouteCacheKey) : List Nat := probePath shard.size (hash key).toNat

def Shard.findSlot (key : RouteCacheKey) : Option Nat := find shard.cells key (shard.path hash key)

def Shard.findInsertSlot (key : RouteCacheKey) : Option Nat :=
  findInsert shard.cells key none (shard.path hash key)

def nanoseconds (seconds : Int) : Int := seconds * 1000000000

def evictionScan (now : Int) (slots : Nat → Slot) (lastOccupied : Option Nat) :
    List Nat → (Nat → Slot) × Option Nat
  | [] => (slots, lastOccupied)
  | index :: rest =>
    let slot := slots index
    if !slot.occupied then evictionScan now slots lastOccupied rest
    else if nanoseconds config.staleIfErrorMaxAge < now - slot.insertedAt then (slots, some index)
    else if slot.referenced then
      evictionScan now (Function.update slots index { slot with referenced := false })
        (some index) rest
    else (slots, some index)

def Shard.scan (now : Int) : (Nat → Slot) × Option Nat := evictionScan config now shard.slots none
    ((List.range config.evictionScanLimit).map fun offset => (shard.hand + offset) % shard.size)

def Shard.chooseEvictionSlot (now : Int) : Shard × Nat :=
  match shard.scan config now with
  | (slots, none) => ({ shard with slots := slots }, 0)
  | (slots, some index) => ({ shard with slots := slots, hand := (index + 1) % shard.size }, index)

def Shard.evict (now : Int) : Shard × Option RouteCacheKey :=
  let (shard, index) := shard.chooseEvictionSlot config now
  let victim := shard.slots index
  if victim.occupied then
    (shard.put index { victim with occupied := false, tombstone := true, referenced := false }
      (shard.entries - 1), some victim.key)
  else (shard, none)

/-- An index beyond the slots would be written through; there is none. -/
def Shard.write (index : Option Nat) (slot : Slot) (replacing : Bool) : Shard :=
  match index with
  | none => shard
  | some index => shard.put index slot (if replacing then shard.entries else shard.entries + 1)

def RouteMatrixCacheConfig.maxEntriesPerShard : Nat := config.maxEntries / config.shardCount

def Shard.insert (key : RouteCacheKey) (estimate : RouteEstimate) (now : Int) :
    Shard × Option RouteCacheKey :=
  let slot : Slot := ⟨key, estimate, now, true, false, true⟩
  let index := shard.findInsertSlot hash key
  let replacing := index.any fun index => (shard.slots index).occupied
  if !replacing && (index.isNone || decide (config.maxEntriesPerShard ≤ shard.entries)) then
    let (shard, evicted) := shard.evict config now
    (shard.write (shard.findInsertSlot hash key) slot false, evicted)
  else (shard.write index slot replacing, none)

def Shard.lookup (key : RouteCacheKey) (now : Int) (stale : Bool) : Option RouteEstimate × Shard :=
  match shard.findSlot hash key with
  | none => (none, shard)
  | some index =>
    let slot := shard.slots index
    let age := if slot.insertedAt ≤ now then now - slot.insertedAt else 0
    let fresh := decide (age ≤ nanoseconds config.freshTtl)
    let staleEligible := decide (nanoseconds config.freshTtl < age) &&
      decide (age ≤ nanoseconds config.staleIfErrorMaxAge)
    if (stale && !staleEligible) || (!stale && !fresh) then (none, shard)
    else if stale then (some slot.estimate, shard)
    else (some slot.estimate, shard.put index { slot with referenced := true } shard.entries)

end Operations

structure RouteMatrixCache where
  config : RouteMatrixCacheConfig
  shards : Nat → Shard

def emptySlot : Slot := ⟨⟨0, 0, 0, 0, 0, .walking, 0⟩, ⟨0, 0, false⟩, 0, false, false, false⟩

def RouteMatrixCache.create (config : RouteMatrixCacheConfig) : RouteMatrixCache :=
  ⟨config, fun _ => ⟨nextPowerOfTwo (config.maxEntriesPerShard * 2), fun _ => emptySlot, 0, 0⟩⟩

inductive CacheStep where
  | insert (key : RouteCacheKey) (estimate : RouteEstimate) (now : Int)
  | lookup (key : RouteCacheKey) (now : Int) (stale : Bool)

namespace RouteMatrixCache
variable (hash : RouteCacheKey → UInt64) (cache : RouteMatrixCache)

def shardIndex (key : RouteCacheKey) : Nat := (hash key).toNat % cache.config.shardCount

def shardFor (key : RouteCacheKey) : Shard := cache.shards (cache.shardIndex hash key)

def withShard (key : RouteCacheKey) (shard : Shard) : RouteMatrixCache :=
  { cache with shards := Function.update cache.shards (cache.shardIndex hash key) shard }

def insert (key : RouteCacheKey) (estimate : RouteEstimate) (now : Int) :
    RouteMatrixCache × Option RouteCacheKey :=
  if !cache.config.enabled || !estimate.isValid then (cache, none)
  else
    let (shard, evicted) := (cache.shardFor hash key).insert cache.config hash key estimate now
    (cache.withShard hash key shard, evicted)

def lookup (key : RouteCacheKey) (now : Int) (stale : Bool) :
    Option RouteEstimate × RouteMatrixCache :=
  if !cache.config.enabled then (none, cache)
  else
    let (found, shard) := (cache.shardFor hash key).lookup cache.config hash key now stale
    (found, cache.withShard hash key shard)

def step : CacheStep → RouteMatrixCache
  | .insert key estimate now => (cache.insert hash key estimate now).1
  | .lookup key now stale => (cache.lookup hash key now stale).2

end RouteMatrixCache

end LiveRoute.Routing
