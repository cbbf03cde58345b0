import LiveRoute.Library.Runs
import LiveRoute.Routing.RouteCache

/-! What the operations of a shard do to the entries that it holds. -/
namespace LiveRoute.Routing
open Domain Probing
open Function (update update_of_ne update_self comp_update)
open List hiding count

theorem doubleUntil_eq (value fuel exponent : Nat) :
    ∃ other, doubleUntil value fuel (2 ^ exponent) = 2 ^ other := by
  induction fuel generalizing exponent with
  | zero => exact ⟨exponent, rfl⟩
  | succ _ ih =>
    unfold doubleUntil
    split
    · rw [← Nat.pow_succ]
      exact ih (exponent + 1)
    · exact ⟨exponent, rfl⟩

theorem nextPowerOfTwo_eq (value : Nat) : ∃ exponent, nextPowerOfTwo value = 2 ^ exponent := by
  unfold nextPowerOfTwo
  split
  · exact ⟨1, rfl⟩
  · exact doubleUntil_eq value value 0

@[simp] theorem cell_isFree (slot : Slot) : slot.cell.isFree = !slot.occupied := by
  cases slot with
  | mk _ _ _ occupied tombstone => cases occupied <;> cases tombstone <;> rfl

theorem cell_of_occupied {slot : Slot} (h : slot.occupied) :
    slot.cell = .held slot.key (slot.estimate, slot.insertedAt) := by
  simp [Slot.cell, h]

theorem countP_update (holds : Nat → Bool) (value : Bool) (h : index < size) :
    (List.range size).countP (update holds index value) + (holds index).toNat =
      (List.range size).countP holds + value.toNat := by
  induction size with
  | zero => cases h
  | succ size ih =>
    simp only [range_succ, countP_append, countP_singleton]
    by_cases hlast : index = size
    · have hsame : (List.range size).countP (update holds index value) =
          (List.range size).countP holds := by
        refine countP_congr fun other hother => ?_
        rw [update_of_ne (by have := mem_range.mp hother; omega)]
      rw [hsame, hlast]
      cases holds size <;> cases value <;> simp
    · rw [update_of_ne (Ne.symm hlast)]
      omega

def Shard.occupiedCount (shard : Shard) : Nat :=
  (List.range shard.size).countP fun index => (shard.slots index).occupied

/-- What the shard holds for a key: an estimate and when it was inserted. -/
def Shard.content (hash : RouteCacheKey → UInt64) (shard : Shard) (key : RouteCacheKey) :
    Option (RouteEstimate × Int) :=
  get shard.cells key (shard.path hash key)

structure Shard.Sound (hash : RouteCacheKey → UInt64) (shard : Shard) : Prop where
  power : ∃ exponent, shard.size = 2 ^ exponent
  placed : WellPlaced (shard.path hash) shard.size shard.cells
  counted : shard.entries = shard.occupiedCount

section Shards
variable {config : RouteMatrixCacheConfig} {hash : RouteCacheKey → UInt64} {shard after : Shard}

theorem occupiedCount_eq :
    shard.occupiedCount =
      (List.range shard.size).countP fun index => !(shard.cells index).isFree := by
  simp [Shard.occupiedCount, Shard.cells]

theorem Shard.Sound.congr (h : shard.Sound hash) (hcells : after.cells = shard.cells)
    (hsize : after.size = shard.size) (hentries : after.entries = shard.entries) :
    after.Sound hash ∧ after.content hash = shard.content hash := by
  have hpath : after.path hash = shard.path hash := by
    funext key
    rw [Shard.path, Shard.path, hsize]
  refine ⟨⟨hsize ▸ h.power, ?_, ?_⟩, ?_⟩
  · rw [hpath, hsize, hcells]
    exact h.placed
  · rw [hentries, h.counted, occupiedCount_eq, occupiedCount_eq, hcells, hsize]
  · funext key
    rw [Shard.content, Shard.content, hcells, hpath]

theorem cells_put : (shard.put index slot entries).cells = update shard.cells index slot.cell :=
  comp_update Slot.cell shard.slots index slot

theorem Shard.Sound.put (h : shard.Sound hash)
    (hready : Ready (shard.path hash) shard.size shard.cells key index)
    (slot : Slot) (hcell : slot.cell ≠ .never) (hown : ∀ other, slot.cell.holds other → other = key)
    (hentries : count + (shard.slots index).occupied.toNat = shard.entries + slot.occupied.toNat) :
    (shard.put index slot count).Sound hash ∧
      ∀ other, (shard.put index slot count).content hash other =
      if other = key then slot.cell.value? else shard.content hash other := by
  obtain ⟨hplaced, hget⟩ := h.placed.write hready hcell hown
  refine ⟨⟨h.power, cells_put .. ▸ hplaced, ?_⟩, fun other => ?_⟩
  · have hcount :=
      countP_update (fun index => (shard.slots index).occupied) slot.occupied hready.inside
    have hsame : (fun other => (update shard.slots index slot other).occupied) =
        update (fun index => (shard.slots index).occupied) index slot.occupied :=
      comp_update Slot.occupied shard.slots index slot
    have hbefore := h.counted
    unfold Shard.occupiedCount at hbefore ⊢
    dsimp only [Shard.put]
    rw [hsame]
    omega
  · rw [Shard.content, cells_put]
    exact hget other

theorem evictionScan_spec (config : RouteMatrixCacheConfig) (now : Int) (slots : Nat → Slot)
    (last : Option Nat) (indices : List Nat) :
    (∀ index, ((evictionScan config now slots last indices).1 index).cell = (slots index).cell) ∧
      ∀ index ∈ (evictionScan config now slots last indices).2,
        last = some index ∨ index ∈ indices ∧ (slots index).occupied := by
  induction indices generalizing slots last with
  | nil => exact ⟨fun _ => rfl, fun index h => .inl h⟩
  | cons first _ ih =>
    unfold evictionScan
    dsimp only
    split
    · obtain ⟨hcells, hlast⟩ := ih slots last
      exact ⟨hcells, fun index h => (hlast index h).imp_right fun h => ⟨mem_cons_of_mem _ h.1, h.2⟩⟩
    next hoccupied =>
      have hfirst : (slots first).occupied := by simpa using hoccupied
      split
      · exact ⟨fun _ => rfl, by simp [hfirst]⟩
      split
      · have hclear : ∀ index, (update slots first
            { slots first with referenced := false } index).cell = (slots index).cell := by
          intro index
          by_cases hindex : index = first
          · rw [hindex, update_self]
            rfl
          · rw [update_of_ne hindex]
        obtain ⟨hcells, hlast⟩ := ih (update slots first
          { slots first with referenced := false }) (some first)
        refine ⟨fun index => (hcells index).trans (hclear index), fun index h => .inr ?_⟩
        rcases hlast index h with hsame | ⟨hmem, hindex⟩
        · cases hsame
          exact ⟨mem_cons_self, hfirst⟩
        · have hfree := congrArg Cell.isFree (hclear index)
          rw [cell_isFree, hindex] at hfree
          exact ⟨mem_cons_of_mem _ hmem, by simpa using hfree.symm⟩
      · exact ⟨fun _ => rfl, by simp [hfirst]⟩

theorem Shard.Sound.size_pos (h : shard.Sound hash) : 0 < shard.size := by
  obtain ⟨exponent, hsize⟩ := h.power
  exact hsize ▸ Nat.two_pow_pos exponent

theorem Shard.Sound.entries_eq_size_iff (h : shard.Sound hash) :
    shard.entries = shard.size ↔ ∀ index < shard.size, (shard.cells index).isFree = false := by
  have hcount := countP_eq_length (p := fun index => !(shard.cells index).isFree)
    (l := List.range shard.size)
  rw [h.counted, occupiedCount_eq]
  simpa using hcount

theorem Shard.Sound.occupied_eq (h : shard.Sound hash)
    (hready : Ready (shard.path hash) shard.size shard.cells key index) :
    (shard.slots index).occupied = (shard.content hash key).isSome := by
  cases hoccupied : (shard.slots index).occupied with
  | true =>
    have hcell : shard.cells index = _ := cell_of_occupied hoccupied
    have hkey := hready.own _ (holds_iff.mpr ⟨_, hcell⟩)
    rw [hkey] at hcell
    rw [Shard.content, h.placed.get_eq_some_iff.mpr ⟨index, hready.inside, hcell⟩]
    rfl
  | false =>
    cases hcontent : shard.content hash key with
    | none => rfl
    | some value =>
      obtain ⟨found, hfound, hcell⟩ := h.placed.get_eq_some_iff.mp hcontent
      rw [hready.alone found hfound (holds_iff.mpr ⟨value, hcell⟩)] at hcell
      have hfree := congrArg Cell.isFree hcell
      rw [Shard.cells, cell_isFree, hoccupied] at hfree
      cases hfree

/-- The scan of the hand meets no entry, and there is none in the first slot. -/
def Shard.scansBlind (config : RouteMatrixCacheConfig) (shard : Shard) (now : Int) : Bool :=
  (shard.scan config now).2.isNone && !(shard.slots 0).occupied

section
variable (h : shard.Sound hash)
include h

theorem Shard.Sound.chooseEvictionSlot :
    ∃ chosen index, shard.chooseEvictionSlot config now = (chosen, index) ∧
      chosen.cells = shard.cells ∧
      chosen.size = shard.size ∧ chosen.entries = shard.entries ∧ index < shard.size ∧
      ((chosen.slots index).occupied = false ↔ shard.scansBlind config now) := by
  have hspec := evictionScan_spec config now shard.slots none
    ((List.range config.evictionScanLimit).map fun offset => (shard.hand + offset) % shard.size)
  rw [← Shard.scan] at hspec
  obtain ⟨⟨slots, victim⟩, hscan⟩ : ∃ found, shard.scan config now = found := ⟨_, rfl⟩
  rw [hscan] at hspec
  have hoccupied : ∀ index, (slots index).occupied = (shard.slots index).occupied := by
    intro index
    have hfree := congrArg Cell.isFree (hspec.1 index)
    rw [cell_isFree, cell_isFree] at hfree
    exact Bool.not_inj hfree
  simp only [Shard.chooseEvictionSlot, Shard.scansBlind, hscan]
  cases victim with
  | none => exact ⟨_, 0, rfl, funext hspec.1, rfl, rfl, h.size_pos, by simp [hoccupied 0]⟩
  | some index =>
    obtain ⟨hmem, hindex⟩ := (hspec.2 index rfl).resolve_left (by simp)
    refine ⟨_, index, rfl, funext hspec.1, rfl, rfl, ?_, by simp [hoccupied index, hindex]⟩
    obtain ⟨-, -, rfl⟩ := mem_map.mp hmem
    exact Nat.mod_lt _ h.size_pos

theorem Shard.Sound.evict (now : Int) :
    (shard.evict config now).1.Sound hash ∧ (∀ key, (shard.evict config now).1.content hash key =
        if (shard.evict config now).2 = some key then none else shard.content hash key) ∧
      (shard.evict config now).1.entries + (shard.evict config now).2.isSome.toNat = shard.entries ∧
      (shard.evict config now).1.size = shard.size ∧
      ((shard.evict config now).2 = none ↔ shard.scansBlind config now) ∧
      ∀ key ∈ (shard.evict config now).2, (shard.content hash key).isSome := by
  obtain ⟨chosen, index, hchosen, hcells, hsize, hentries, hindex, hblind⟩ := h.chooseEvictionSlot
  obtain ⟨hsound, hcontent⟩ := h.congr hcells hsize hentries
  unfold Shard.evict
  rw [hchosen]
  dsimp only
  split
  next hoccupied =>
    have hready := hsound.placed.ready_of_holds (hsize ▸ hindex)
      (holds_iff.mpr ⟨_, cell_of_occupied hoccupied⟩)
    have hsome : 0 < chosen.entries := by
      rw [hsound.counted, Shard.occupiedCount, countP_pos_iff]
      exact ⟨index, mem_range.mpr hready.inside, hoccupied⟩
    have hless : chosen.entries - 1 + (chosen.slots index).occupied.toNat =
        chosen.entries + false.toNat := by
      rw [hoccupied]
      exact Nat.sub_add_cancel hsome
    obtain ⟨hput, hget⟩ := hsound.put hready
      { chosen.slots index with occupied := false, tombstone := true, referenced := false }
      (by simp [Slot.cell]) (by simp [Slot.cell, Cell.holds]) hless
    refine ⟨hput, fun key => ?_, ?_, hsize, ?_, ?_⟩
    · rw [hget, hcontent]
      simp [Slot.cell, Cell.value?, eq_comm]
    · exact (Nat.sub_add_cancel hsome).trans hentries
    · simpa [hoccupied] using hblind
    · rintro key ⟨rfl⟩
      rw [← hcontent, ← hsound.occupied_eq hready, hoccupied]
  next hoccupied =>
    refine ⟨hsound, ?_, ?_, hsize, ?_, by simp⟩
    · simp [hcontent]
    · simp [hentries]
    · simpa [hoccupied] using hblind

theorem Shard.Sound.write (hindex : shard.findInsertSlot hash key = some index)
    (estimate : RouteEstimate) (now : Int)
    (hreplacing : replacing = (shard.content hash key).isSome) :
    (shard.write (some index) ⟨key, estimate, now, true, false, true⟩ replacing).Sound hash ∧
      (∀ other, (shard.write (some index)
        ⟨key, estimate, now, true, false, true⟩ replacing).content hash other =
        if other = key then some (estimate, now) else shard.content hash other) ∧
      (shard.write (some index) ⟨key, estimate, now, true, false, true⟩ replacing).entries =
        shard.entries + (!replacing).toNat := by
  have hready := h.placed.ready hindex
  have hcount : (if replacing then shard.entries else shard.entries + 1) +
      (shard.slots index).occupied.toNat = shard.entries + true.toNat := by
    rw [h.occupied_eq hready, ← hreplacing]
    cases replacing <;> rfl
  obtain ⟨hput, hget⟩ := h.put hready ⟨key, estimate, now, true, false, true⟩ (by simp [Slot.cell])
    (by simp [Slot.cell, Cell.holds, eq_comm]) hcount
  refine ⟨hput, hget, ?_⟩
  cases replacing <;> rfl

theorem Shard.Sound.full (hindex : shard.findInsertSlot hash key = none) :
    shard.content hash key = none ∧ shard.entries = shard.size := by
  refine ⟨?_, h.entries_eq_size_iff.mpr fun index => h.placed.findInsert_eq_none hindex⟩
  rw [Shard.findInsertSlot, findInsert_eq, Option.or_eq_none_iff] at hindex
  rw [Shard.content, Probing.get, hindex.1]
  rfl

theorem Shard.Sound.entries_evict_lt (config : RouteMatrixCacheConfig) (now : Int) :
    (shard.evict config now).1.entries < (shard.evict config now).1.size := by
  obtain ⟨-, -, hentries, hsize, hblind, -⟩ := h.evict now
  by_cases hfull : shard.entries = shard.size
  · have hfirst := h.entries_eq_size_iff.mp hfull 0 h.size_pos
    cases hevicted : (shard.evict config now).2 with
    | none =>
      have hscan := hblind.mp hevicted
      simp only [Shard.cells, cell_isFree] at hfirst
      simp [Shard.scansBlind, hfirst] at hscan
    | some =>
      rw [hevicted] at hentries
      simp only [Option.isSome_some, Bool.toNat_true] at hentries
      omega
  · have hsize : shard.entries ≤ shard.size := h.counted ▸ countP_le_length.trans_eq length_range
    omega

theorem Shard.Sound.insert (config : RouteMatrixCacheConfig) (key : RouteCacheKey)
    (estimate : RouteEstimate) (now : Int)
    (hinsert : shard.insert config hash key estimate now = (after, evicted)) :
    after.Sound hash ∧ (∀ other, after.content hash other = if other = key then some (estimate, now)
        else if evicted = some other then none else shard.content hash other) ∧
      after.entries + evicted.isSome.toNat = shard.entries + (shard.content hash key).isNone.toNat ∧
      (shard.content hash key = none → config.maxEntriesPerShard ≤ shard.entries →
        (evicted = none ↔ shard.scansBlind config now)) ∧
      ∀ other ∈ evicted, (shard.content hash other).isSome := by
  have hreplacing :
      (shard.findInsertSlot hash key).any (fun index => (shard.slots index).occupied) =
      (shard.content hash key).isSome := by
    cases hindex : shard.findInsertSlot hash key with
    | none => simp [(h.full hindex).1]
    | some => exact h.occupied_eq (h.placed.ready hindex)
  unfold Shard.insert at hinsert
  dsimp only at hinsert
  rw [hreplacing] at hinsert
  split at hinsert
  next hfull =>
    have hnew : shard.content hash key = none := by simp_all
    obtain ⟨hsound, hcontent, hentries, -, hblind, hheld⟩ := h.evict now
    have hlt := h.entries_evict_lt config now
    cases hindex : (shard.evict config now).1.findInsertSlot hash key with
    | none => exact absurd (hsound.full hindex).2 hlt.ne
    | some =>
      have hnone : false = ((shard.evict config now).1.content hash key).isSome := by
        simp [hcontent, hnew]
      obtain ⟨hwritten, hget, hcount⟩ := hsound.write hindex estimate now hnone
      rw [hindex] at hinsert
      cases hinsert
      refine ⟨hwritten, fun other => ?_, ?_, fun _ _ => hblind, hheld⟩
      · rw [hget, hcontent]
      · rw [hcount, hnew]
        simp only [Bool.not_false, Bool.toNat_true, Option.isNone_none]
        omega
  next hroom =>
    cases hindex : shard.findInsertSlot hash key with
    | none => simp [hindex, (h.full hindex).1] at hroom
    | some =>
      obtain ⟨hwritten, hget, hcount⟩ := h.write hindex estimate now rfl
      rw [hindex] at hinsert
      cases hinsert
      refine ⟨hwritten, fun other => ?_, ?_, fun hnew hcapacity => ?_, by simp⟩
      · simp [hget]
      · simp [hcount]
      · simp [hnew, hcapacity] at hroom

end

end Shards

end LiveRoute.Routing
