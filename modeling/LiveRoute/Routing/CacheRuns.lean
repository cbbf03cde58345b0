import LiveRoute.Routing.CacheFacts

/-! Runs of insertions and lookups over all shards: the cache answers as a map
from keys would, less the entries that it has evicted. -/
namespace LiveRoute.Routing
open Domain Probing

def answer (config : RouteMatrixCacheConfig) (now : Int) (stale : Bool)
    (entry : RouteEstimate × Int) :
    Option RouteEstimate :=
  let age := max 0 (now - entry.2)
  let found := if stale then
      nanoseconds config.freshTtl < age ∧ age ≤ nanoseconds config.staleIfErrorMaxAge
    else age ≤ nanoseconds config.freshTtl
  if found then some entry.1 else none

theorem Shard.Sound.lookup {hash : RouteCacheKey → UInt64} {shard : Shard} (h : shard.Sound hash)
    (hlookup : shard.lookup config hash key now stale = (found, after)) :
    found = (shard.content hash key).bind (answer config now stale) ∧ after.Sound hash ∧
      after.content hash = shard.content hash ∧ after.entries = shard.entries := by
  unfold Shard.lookup at hlookup
  cases hindex : shard.findSlot hash key with
  | none =>
    have hnone : shard.content hash key = none := by
      rw [Shard.content, Probing.get, ← Shard.findSlot, hindex]
      rfl
    rw [hindex] at hlookup
    cases hlookup
    exact ⟨by rw [hnone]; rfl, h, rfl, rfl⟩
  | some index =>
    obtain ⟨-, hholds⟩ := h.placed.find_eq_some_iff.mp hindex
    have hentry : shard.content hash key =
        some ((shard.slots index).estimate, (shard.slots index).insertedAt) := by
      have hoccupied : (shard.slots index).occupied := by
        obtain ⟨_, hcell⟩ := holds_iff.mp hholds
        have hfree := congrArg Cell.isFree hcell
        rw [Shard.cells, cell_isFree] at hfree
        exact Bool.not_inj hfree
      rw [Shard.content, Probing.get, ← Shard.findSlot, hindex]
      exact congrArg Cell.value? (cell_of_occupied hoccupied)
    have hage :
        (if (shard.slots index).insertedAt ≤ now then now - (shard.slots index).insertedAt else 0) =
        max 0 (now - (shard.slots index).insertedAt) := by
      split <;> omega
    have hmarked :
        (shard.put index { shard.slots index with referenced := true } shard.entries).cells =
        shard.cells := by
      rw [cells_put]
      exact Function.update_eq_self index shard.cells
    obtain ⟨hsound, hcontent⟩ := h.congr hmarked rfl rfl
    rw [hindex] at hlookup
    simp only [hage] at hlookup
    simp only [hentry, answer, Option.bind_some]
    generalize max 0 (now - (shard.slots index).insertedAt) = age at hlookup ⊢
    split at hlookup
    next hmiss =>
      cases hlookup
      refine ⟨(if_neg ?_).symm, h, rfl, rfl⟩
      cases stale <;> simp at hmiss ⊢ <;> omega
    next hhit =>
      split at hlookup
      next hstale =>
        cases hlookup
        exact ⟨(if_pos (by simpa [hstale] using hhit)).symm, h, rfl, rfl⟩
      next hstale =>
        cases hlookup
        exact ⟨(if_pos (by simpa [hstale] using hhit)).symm, hsound, hcontent, rfl⟩

namespace RouteMatrixCache
variable (hash : RouteCacheKey → UInt64) (cache : RouteMatrixCache)

def content (key : RouteCacheKey) : Option (RouteEstimate × Int) :=
  (cache.shardFor hash key).content hash key

structure Sound : Prop where
  shards : ∀ index, (cache.shards index).Sound hash
  home : ∀ index key, ((cache.shards index).content hash key).isSome →
    cache.shardIndex hash key = index

/-- The map after a step: an insertion replaces what was there under its key,
and the key that was evicted for it is gone. -/
def track (content : RouteCacheKey → Option (RouteEstimate × Int)) :
    CacheStep → RouteCacheKey → Option (RouteEstimate × Int)
  | .insert key estimate now => fun other =>
    if !cache.config.enabled || !estimate.isValid then content other
    else if other = key then some (estimate, now)
    else if (cache.insert hash key estimate now).2 = some other then none else content other
  | .lookup _ _ _ => content

variable {hash cache}

theorem shards_withShard : (cache.withShard hash key shard).shards index =
      if index = cache.shardIndex hash key then shard else cache.shards index :=
  Function.update_apply ..

theorem content_withShard : (cache.withShard hash key shard).content hash other =
      if cache.shardIndex hash other = cache.shardIndex hash key then shard.content hash other
      else cache.content hash other := by
  rw [content, shardFor, shards_withShard]
  exact apply_ite (Shard.content hash · other) _ _ _

theorem Sound.withShard (h : cache.Sound hash) {shard : Shard} (hshard : shard.Sound hash)
    (hhome : ∀ other, (shard.content hash other).isSome →
      cache.shardIndex hash other = cache.shardIndex hash key) :
    (cache.withShard hash key shard).Sound hash := by
  refine ⟨fun index => ?_, fun index other hsome => ?_⟩
  · rw [shards_withShard]
    split
    · exact hshard
    · exact h.shards index
  · rw [shards_withShard] at hsome
    split at hsome
    next hindex => exact hindex ▸ hhome other hsome
    · exact h.home index other hsome

theorem Sound.step (h : cache.Sound hash) : (cache.step hash action).Sound hash ∧
      (cache.step hash action).content hash = cache.track hash (cache.content hash) action := by
  cases action with
  | insert key estimate now =>
    rw [RouteMatrixCache.step, RouteMatrixCache.insert]
    split
    next hrefused => exact ⟨h, by funext other; simp [track, hrefused]⟩
    next haccepted =>
      obtain ⟨⟨after, evicted⟩, hinsert⟩ : ∃ found,
        (cache.shardFor hash key).insert cache.config hash key estimate now = found := ⟨_, rfl⟩
      obtain ⟨hsound, hcontent, -, -, hheld⟩ :=
        (h.shards _).insert cache.config key estimate now hinsert
      have hhome : ∀ other, (after.content hash other).isSome →
          cache.shardIndex hash other = cache.shardIndex hash key := by
        intro other hsome
        rw [hcontent] at hsome
        split at hsome
        next hkey => rw [hkey]
        split at hsome
        · cases hsome
        · exact h.home _ other hsome
      refine ⟨?_, funext fun other => ?_⟩
      · rw [hinsert]
        exact h.withShard hsound hhome
      · simp only [hinsert, content_withShard, track, RouteMatrixCache.insert, haccepted]
        split
        next hindex =>
          rw [hcontent, ← hindex]
          rfl
        next hindex =>
          -- a key of another shard is neither the inserted nor the evicted one
          have hother : other ≠ key := fun hkey => hindex (hkey ▸ rfl)
          have hkept : evicted ≠ some other :=
            fun hkey => hindex (h.home _ other (hheld other hkey))
          simp [hother, hkept]
  | lookup key now stale =>
    rw [RouteMatrixCache.step, RouteMatrixCache.lookup]
    split
    · exact ⟨h, rfl⟩
    obtain ⟨⟨found, after⟩, hlookup⟩ : ∃ found,
      (cache.shardFor hash key).lookup cache.config hash key now stale = found := ⟨_, rfl⟩
    obtain ⟨-, hsound, hcontent, -⟩ := (h.shards _).lookup hlookup
    refine ⟨?_, funext fun other => ?_⟩
    · rw [hlookup]
      exact h.withShard hsound fun other hsome => h.home _ other (hcontent ▸ hsome)
    · simp only [hlookup, content_withShard]
      split
      next hindex =>
        rw [hcontent, ← hindex]
        rfl
      · rfl

theorem create_sound (hash : RouteCacheKey → UInt64) (config : RouteMatrixCacheConfig) :
    (create config).Sound hash ∧ (create config).content hash = fun _ => none := by
  obtain ⟨exponent, hsize⟩ := nextPowerOfTwo_eq (config.maxEntriesPerShard * 2)
  have hnever : ∀ index, ((create config).shards index).cells = fun _ => .never := fun _ => rfl
  have hsound : ∀ index, ((create config).shards index).Sound hash := by
    refine fun index => ⟨⟨exponent, hsize⟩, ⟨fun key found => ?_, ?_, ?_⟩, ?_⟩
    · rw [create, hsize]
      exact mem_probePath
    · simp [hnever, Cell.holds]
    · simp [hnever, Cell.holds]
    · simp [create, Shard.occupiedCount, emptySlot]
  have hempty : ∀ index key, ((create config).shards index).content hash key = none := by
    intro index key
    rw [Option.eq_none_iff_forall_ne_some]
    intro value hvalue
    obtain ⟨found, -, hcell⟩ := (hsound index).placed.get_eq_some_iff.mp hvalue
    cases hcell
  exact ⟨⟨hsound, fun index key h => by simp [hempty] at h⟩, funext fun key => hempty _ key⟩

structure Tracks (config : RouteMatrixCacheConfig) (hash : RouteCacheKey → UInt64)
    (state : RouteMatrixCache × (RouteCacheKey → Option (RouteEstimate × Int))) : Prop where
  same : state.1.config = config
  sound : state.1.Sound hash
  content : state.1.content hash = state.2
  disabled : config.enabled = false → state.2 = fun _ => none

theorem config_step (cache : RouteMatrixCache) :
    (cache.step hash action).config = cache.config := by
  cases action with
  | insert =>
    rw [step, insert]
    split <;> rfl
  | lookup =>
    rw [step, lookup]
    split <;> rfl

/-- Whatever the hash, every entry is held once and can be reached, and a
lookup answers from the last insertion of its key that was not evicted since. -/
theorem cache_refines_map (config : RouteMatrixCacheConfig) (hash : RouteCacheKey → UInt64)
    (history : List CacheStep) :
    let final := history.foldl (fun state action =>
      (state.1.step hash action, state.1.track hash state.2 action)) (create config, fun _ => none)
    (∀ index, WellPlaced ((final.1.shards index).path hash) (final.1.shards index).size
      (final.1.shards index).cells) ∧
      ∀ key now stale, (final.1.lookup hash key now stale).1 =
        (final.2 key).bind (answer config now stale) := by
  intro final
  obtain ⟨hconfig, hsound, hcontent, hoff⟩ : Tracks config hash final := by
    refine List.foldlRecOn (motive := Tracks config hash) history _ ?_ ?_
    · exact ⟨rfl, (create_sound hash config).1, (create_sound hash config).2, fun _ => rfl⟩
    · rintro ⟨cache, content⟩ ⟨hconfig, hsound, hcontent, hoff⟩ action -
      obtain ⟨hnext, htrack⟩ := hsound.step
      refine ⟨(config_step cache).trans hconfig, hnext, hcontent ▸ htrack, fun hdisabled => ?_⟩
      have henabled : cache.config.enabled = false := hconfig ▸ hdisabled
      cases action with
      | insert =>
        funext other
        simpa [track, henabled] using congrFun (hoff hdisabled) other
      | lookup => exact hoff hdisabled
  refine ⟨fun index => (hsound.shards index).placed, fun key now stale => ?_⟩
  rw [lookup, hconfig]
  split
  next hdisabled => simp [hoff (by simpa using hdisabled)]
  · rw [← hcontent]
    exact ((hsound.shards _).lookup rfl).1

def insertsAtCapacity (hash : RouteCacheKey → UInt64) (cache : RouteMatrixCache) : CacheStep → Bool
  | .insert key estimate _ => cache.config.enabled && estimate.isValid &&
      (cache.content hash key).isNone &&
      decide (cache.config.maxEntriesPerShard ≤ (cache.shardFor hash key).entries)
  | .lookup _ _ _ => false

/-- Such an insertion for which the hand finds nothing to evict. -/
def evictsBlindly (hash : RouteCacheKey → UInt64) (cache : RouteMatrixCache) : CacheStep → Bool
  | .insert key estimate now => cache.insertsAtCapacity hash (.insert key estimate now) &&
      (cache.shardFor hash key).scansBlind cache.config now
  | .lookup _ _ _ => false

def evicted (hash : RouteCacheKey → UInt64) (cache : RouteMatrixCache) :
    CacheStep → Option RouteCacheKey
  | .insert key estimate now => (cache.insert hash key estimate now).2
  | .lookup _ _ _ => none

def Bounded (cache : RouteMatrixCache) : Prop :=
  ∀ index, (cache.shards index).entries = (cache.shards index).occupiedCount ∧
    (cache.shards index).entries ≤ cache.config.maxEntriesPerShard

/-- The step leaves every shard within its bound, and evicts one entry when it
inserts a new key at capacity. -/
def KeepsBound (hash : RouteCacheKey → UInt64) (cache : RouteMatrixCache) (action : CacheStep) :
    Prop :=
  (cache.step hash action).Bounded ∧
    (cache.insertsAtCapacity hash action → (cache.evicted hash action).isSome)

theorem Bounded.withShard (h : cache.Bounded) (key : RouteCacheKey) {shard : Shard}
    (hshard : shard.Sound hash)
    (hle : shard.entries ≤ cache.config.maxEntriesPerShard) :
    (cache.withShard hash key shard).Bounded := by
  intro index
  rw [shards_withShard]
  split
  · exact ⟨hshard.counted, hle⟩
  · exact h index

theorem Sound.keepsBound_iff (h : cache.Sound hash) (hbounded : cache.Bounded) :
    cache.KeepsBound hash action ↔ cache.evictsBlindly hash action = false := by
  cases action with
  | lookup key =>
    refine iff_of_true ⟨?_, nofun⟩ rfl
    rw [RouteMatrixCache.step, RouteMatrixCache.lookup]
    split
    · exact hbounded
    · obtain ⟨-, hsound, -, hentries⟩ := (h.shards _).lookup rfl
      exact hbounded.withShard key hsound (hentries.trans_le (hbounded _).2)
  | insert key estimate now =>
    by_cases haccepted : cache.config.enabled ∧ estimate.isValid
    · obtain ⟨⟨after, found⟩, hinsert⟩ : ∃ found,
        (cache.shardFor hash key).insert cache.config hash key estimate now = found := ⟨_, rfl⟩
      obtain ⟨hsound, -, hentries, hblind, -⟩ :=
        (h.shards _).insert cache.config key estimate now hinsert
      have hbefore := (hbounded (cache.shardIndex hash key)).2
      have hafter := hbounded.withShard key hsound
      have hstep :
          cache.insert hash key estimate now = (cache.withShard hash key after, found) := by
        simp [RouteMatrixCache.insert, haccepted, hinsert]
      simp only
        [KeepsBound, RouteMatrixCache.step, evicted, hstep, evictsBlindly, insertsAtCapacity,
        haccepted, Bool.true_and, content, shardFor]
      cases hnew : (cache.shards (cache.shardIndex hash key)).content hash key with
      | some =>
        rw [hnew] at hentries
        exact iff_of_true ⟨hafter (by simp at hentries; omega), by simp⟩ (by simp)
      | none =>
        rw [hnew] at hentries
        by_cases hcapacity :
          cache.config.maxEntriesPerShard ≤ (cache.shards (cache.shardIndex hash key)).entries
        · have hfound := hblind hnew hcapacity
          cases found with
          | none => simpa [hcapacity] using hfound
          | some =>
            refine iff_of_true ⟨hafter ?_, fun _ => rfl⟩ ?_
            · simp at hentries
              omega
            · simpa [hcapacity] using hfound
        · exact iff_of_true ⟨hafter (by simp at hentries; omega), by simp [hcapacity]⟩
            (by simp [hcapacity])
    · have hrefused : cache.insertsAtCapacity hash (.insert key estimate now) = false := by
        simp only [insertsAtCapacity]
        grind
      have hsame : cache.insert hash key estimate now = (cache, none) := by
        simp only [RouteMatrixCache.insert]
        grind
      simpa [KeepsBound, evictsBlindly, hrefused, RouteMatrixCache.step, hsame] using hbounded

/-- The bound holds throughout a run in which no insertion at capacity finds
an empty stretch under the hand and an empty first slot, and in no other. -/
theorem cache_bounded_iff (config : RouteMatrixCacheConfig) (hash : RouteCacheKey → UInt64)
    (history : List CacheStep) : Runs.Along (step hash) (KeepsBound hash) (create config) history ↔
    Runs.Along (step hash) (fun cache action => cache.evictsBlindly hash action = false)
    (create config) history := by
  have hstart : (create config).Sound hash ∧ (create config).Bounded := by
    have hsound := (create_sound hash config).1
    exact ⟨hsound, fun index => ⟨(hsound.shards index).counted, Nat.zero_le _⟩⟩
  have hiff : ∀ (cache : RouteMatrixCache) action, cache.Sound hash ∧ cache.Bounded →
      (cache.KeepsBound hash action ↔ cache.evictsBlindly hash action = false) :=
    fun cache action h => h.1.keepsBound_iff h.2
  constructor
  · intro h
    exact (Runs.along_iff_of_guard (fun cache action hinv hkeeps => ⟨hinv.1.step.1, hkeeps.1⟩)
      (fun cache action hinv _ => hiff cache action hinv) hstart h).mp h
  · intro h
    exact (Runs.along_iff_of_guard (fun cache action hinv hseen =>
        ⟨hinv.1.step.1, ((hiff cache action hinv).mpr hseen).1⟩)
      (fun cache action hinv _ => hiff cache action hinv) hstart h).mpr h

def smallConfig : RouteMatrixCacheConfig :=
  ⟨true, "liveroute-route-cache-v1", 1, 33, 67108864, 100000, 900, 21600, 86400, 64⟩

def upperBuckets : List Int64 :=
  [1, 2, 3, 4, 6, 13, 15, 16, 17, 18, 20, 22, 27, 29, 30, 31, 33, 35, 37, 38, 39, 40, 42, 49, 51,
    52, 53,
    54, 56, 63, 64, 69, 71, 72]

theorem upperBuckets_exceed_bound : smallConfig.isValid ∧
    (((upperBuckets.map fun bucket =>
      CacheStep.insert ⟨0, 0, 0, 0, bucket, .walking, 1⟩ ⟨60, 100, true⟩ 0).foldl
      (step hashKey) (create smallConfig)).shards 0).entries = 34 := by
  decide +kernel

end RouteMatrixCache

end LiveRoute.Routing
