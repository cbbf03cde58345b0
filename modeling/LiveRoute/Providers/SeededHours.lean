import LiveRoute.Library.Intervals
import LiveRoute.Providers.PosixFooter

/-! Opening hours of a seeded place, from local times of day to instants. A
local date is its number of days since 1970-01-01, an instant a whole number. -/
namespace LiveRoute.Providers
open Calendar EarlyExit Intervals Sequence List

structure TzifData where
  transitions : List Int
  transitionTypes : List Nat
  utcOffsets : List Int
  posixFooter : List Char
  ordered : transitions.Pairwise (· < ·)
  typed : transitionTypes.length = transitions.length ∧
    ∀ type ∈ transitionTypes, type < utcOffsets.length

def transitionUtc (year : Int) (rule : PosixRule) (wallOffset standardOffset : Int) :
    Except String Int :=
  let time := localSeconds year rule
  if rule.timeBasis ∈ ['u', 'g', 'z'] then .ok time
  else if rule.timeBasis = 's' then .ok (time - standardOffset)
  else if rule.timeBasis = 'w' then .ok (time - wallOffset)
  else .error "invalid POSIX transition basis"

def TzifData.offsetAtUtc (zone : TzifData) (unixSeconds : Int) : Except String Int :=
  if zone.utcOffsets.isEmpty then .error "TZif data has no offsets"
  else if zone.transitions.getLast?.all (unixSeconds ≤ ·) then
    match (zone.transitions.takeWhile (· ≤ unixSeconds)).length with
    | 0 => .ok (zone.utcOffsets.headD 0)
    | index + 1 => .ok (zone.utcOffsets.getD (zone.transitionTypes.getD index 0) 0)
  else do
    let footer ← parseFooter zone.posixFooter
    if !footer.hasDaylightTime then return footer.standardOffset
    let year := yearOf (unixSeconds / secondsPerDay)
    let start ← transitionUtc year footer.daylightStart footer.standardOffset footer.standardOffset
    let finish ← transitionUtc year footer.standardStart footer.daylightOffset footer.standardOffset
    let daylight := if start < finish then start ≤ unixSeconds ∧ unixSeconds < finish
      else start ≤ unixSeconds ∨ unixSeconds < finish
    return if daylight then footer.daylightOffset else footer.standardOffset

def sortUnique (values : List Int) : List Int :=
  uniqueAdjacent (· == ·) (sortBy (fun left right => decide (left < right)) values)

def TzifData.availableOffsets (zone : TzifData) : Except String (List Int) := do
  let footer ← parseFooter zone.posixFooter
  let daylight := if footer.hasDaylightTime then [footer.daylightOffset] else []
  return sortUnique (zone.utcOffsets ++ footer.standardOffset :: daylight)

def utcCandidates (zone : TzifData) (localTime : Int) (required : Option Int) :
    Except String (List Int) := do
  let offsets ← zone.availableOffsets
  let kept ← offsets.filterM fun offset =>
    if required.any (offset ≠ ·) then .ok false
    else (zone.offsetAtUtc (localTime - offset)).map (· == offset)
  return sortUnique (kept.map (localTime - ·))

structure SeededHoursInterval where
  (opensAtLocalSeconds closesAtLocalSeconds : UInt32)
  closesDayOffset : UInt8
  (opensUtcOffsetSeconds closesUtcOffsetSeconds : Option Int)

structure SeededHoursException where
  localDate : Int
  intervals : List SeededHoursInterval

structure SeededHoursPlace where
  (placeId timeZoneName sourceVersion : String)
  weekly : Fin 7 → List SeededHoursInterval
  exceptions : List SeededHoursException
  ordered : exceptions.Pairwise (·.localDate < ·.localDate)

def weekdayIndex (date : Int) : Fin 7 := Fin.ofNat 7 (Calendar.weekday date + 6).toNat

def intervalsFor (place : SeededHoursPlace) (date : Int) : List SeededHoursInterval :=
  match place.exceptions.find? (date ≤ ·.localDate) with
  | some found =>
    if found.localDate = date then found.intervals else place.weekly (weekdayIndex date)
  | none => place.weekly (weekdayIndex date)

def lastLocalDate : Int := 2932896

structure LocalDateRange where
  (startDateInclusive endDateExclusive : Int)
  inRange : 0 ≤ startDateInclusive ∧ endDateExclusive ≤ lastLocalDate
  bounded : 0 < endDateExclusive - startDateInclusive ∧ endDateExclusive - startDateInclusive ≤ 32
deriving DecidableEq

inductive HoursProviderError where
  | notFound | invalidSource | deadlineExceeded | cancelled | unavailable
deriving DecidableEq

inductive HoursFailure where
  | answered (error : HoursProviderError)
  | thrown (message : String)
deriving DecidableEq

structure HoursInfo where
  (placeId timeZoneName : String)
  coveredRange : LocalDateRange
  openWindows : List (HalfOpen Int)
  (sourceVersion tzdataRelease : String)
deriving DecidableEq

def windowsInOrder : Option Int → List (HalfOpen Int) → Bool
  | _, [] => true
  | previousClose, window :: rest => decide (window.lower < window.upper) &&
    !previousClose.any (window.lower ≤ ·) && windowsInOrder (some window.upper) rest

def HoursInfo.isValid (info : HoursInfo) : Bool :=
  !(info.placeId.isEmpty || info.timeZoneName.isEmpty || info.sourceVersion.isEmpty ||
    info.tzdataRelease.isEmpty) && windowsInOrder none info.openWindows

def addDays (date : Int) (days : Nat) : Except String Int :=
  if 0 ≤ date + days ∧ date + days ≤ lastLocalDate then .ok (date + days)
  else .error "seed interval exceeds V1 date range"

def instantMaximum : Int := 9223372036854775807

def candidatesOn (zone : TzifData) (date : Int) (seconds : UInt32) (required : Option Int) :
    Except String (List Int) :=
  utcCandidates zone (date * secondsPerDay + seconds.toNat) required

def openWindow (zone : TzifData) (day : Int) (interval : SeededHoursInterval) :
    Except HoursFailure (HalfOpen Int) := do
  let opens ← (candidatesOn zone day interval.opensAtLocalSeconds
    interval.opensUtcOffsetSeconds).mapError .thrown
  let closeDay ← (addDays day interval.closesDayOffset.toNat).mapError .thrown
  let closes ← (candidatesOn zone closeDay interval.closesAtLocalSeconds
    interval.closesUtcOffsetSeconds).mapError .thrown
  match opens, closes with
  | [opensAt], [closesAt] =>
    if closesAt ≤ opensAt ∨ instantMaximum / 1000 < opensAt ∨ instantMaximum / 1000 < closesAt then
      .error (.answered .invalidSource)
    else .ok ⟨opensAt * 1000, closesAt * 1000⟩
  | _, _ => .error (.answered .invalidSource)

structure SeededHoursProvider where
  tzdataRelease : String
  entries : List (SeededHoursPlace × TzifData)

/-- `poll n` is what the stop token and the deadline say when asked for the
`n`-th time. The next day always exists: a range ends with a date. -/
def SeededHoursProvider.getHours (provider : SeededHoursProvider) (placeId : String)
    (range : LocalDateRange) (poll : Nat → Option HoursProviderError) :
    Except HoursFailure HoursInfo := do
  let check (count : Nat) : Except HoursFailure Unit :=
    (poll count).elim (.ok ()) fun error => .error (.answered error)
  check 0
  match provider.entries.find? (·.1.placeId = placeId) with
  | none => .error (.answered .notFound)
  | some (place, zone) =>
    let days := (range.endDateExclusive - range.startDateInclusive).toNat
    let windows ← (List.range days).mapM fun index => do
      check (index + 1)
      (intervalsFor place (range.startDateInclusive + index)).mapM
        (openWindow zone (range.startDateInclusive + index))
    .ok ⟨place.placeId, place.timeZoneName, range, mergeAll windows.flatten, place.sourceVersion,
      provider.tzdataRelease⟩

/-- A clock of the zone shows the time of day on the date at the instant, under
the required offset if there is one. -/
def ShowsAt (zone : TzifData) (date : Int) (seconds : UInt32) (required : Option Int)
    (instant : Int) : Prop :=
  ∃ offset, zone.offsetAtUtc instant = .ok offset ∧ required.all (offset = ·) ∧
    instant + offset = date * secondsPerDay + seconds.toNat

/-- The instants, in milliseconds, from one at which the interval opens to one
at which it closes. -/
def UtcImage (zone : TzifData) (day : Int) (interval : SeededHoursInterval)
    (window : HalfOpen Int) : Prop :=
  ∃ opensAt closesAt,
    ShowsAt zone day interval.opensAtLocalSeconds interval.opensUtcOffsetSeconds opensAt ∧
    ShowsAt zone (day + interval.closesDayOffset.toNat) interval.closesAtLocalSeconds
      interval.closesUtcOffsetSeconds closesAt ∧
    window = ⟨opensAt * 1000, closesAt * 1000⟩

theorem mem_sortUnique (values : List Int) : value ∈ sortUnique values ↔ value ∈ values := by
  constructor
  · intro h
    exact (mem_sortBy ..).mp (uniqueAdjacent_subset _ _ _ h)
  · intro h
    obtain ⟨kept, hkept, hsame⟩ := uniqueAdjacent_represents (· == ·) _ _ ((mem_sortBy ..).mpr h)
    have heq : kept = value := hsame.elim id beq_iff_eq.mp
    exact heq ▸ hkept

/-- The candidates are tried with every offset that the zone can ever have. -/
theorem offsetAtUtc_available {zone : TzifData} (h : zone.offsetAtUtc instant = .ok offset)
    (havailable : zone.availableOffsets = .ok offsets) : offset ∈ offsets := by
  obtain ⟨footer, hfooter, havailable⟩ := bind_eq_ok.mp havailable
  cases havailable
  rw [mem_sortUnique, mem_append]
  unfold TzifData.offsetAtUtc at h
  obtain ⟨hsome, h⟩ := ite_error_eq_ok.mp h
  split at h
  next =>
    left
    split at h
    next =>
      cases h
      obtain ⟨first, rest, heq⟩ := exists_cons_of_ne_nil (by simpa using hsome)
      rw [heq]
      exact mem_cons_self
    next index hindex =>
      cases h
      have hshort := (takeWhile_sublist (decide <| · ≤ instant) (l := zone.transitions)).length_le
      have hlt : index < zone.transitionTypes.length := by
        rw [zone.typed.1]
        omega
      have htype := zone.typed.2 _ (getElem_mem hlt)
      rw [getD_eq_getElem?_getD, getD_eq_getElem?_getD, getElem?_eq_getElem hlt, Option.getD_some,
        getElem?_eq_getElem htype]
      exact getElem_mem htype
  next =>
    right
    obtain ⟨found, hfound, h⟩ := bind_eq_ok.mp h
    cases hfooter.symm.trans hfound
    split at h
    next =>
      cases h
      exact mem_cons_self
    next hdaylight =>
      obtain ⟨start, -, h⟩ := bind_eq_ok.mp h
      obtain ⟨finish, -, h⟩ := bind_eq_ok.mp h
      cases h
      rw [if_pos (by simpa using hdaylight), mem_cons, mem_singleton]
      exact (ite_eq_or_eq _ _ _).symm

theorem candidatesOn_mem (h : candidatesOn zone date seconds required = .ok candidates) :
    instant ∈ candidates ↔ ShowsAt zone date seconds required instant := by
  obtain ⟨offsets, havailable, h⟩ := bind_eq_ok.mp h
  obtain ⟨kept, hkept, h⟩ := bind_eq_ok.mp h
  cases h
  have hkeeps := filterM_ok hkept
  have hrequired (offset : Int) :
      required.any (offset ≠ ·) = false ↔ required.all (offset = ·) := by
    cases required <;> simp
  rw [mem_sortUnique, mem_map]
  constructor
  · rintro ⟨offset, hoffset, rfl⟩
    have hshown := ((hkeeps offset).mp hoffset).2
    split at hshown
    next => cases hshown
    next hallowed =>
      obtain ⟨found, hfound, hsame⟩ := map_eq_ok.mp hshown
      obtain rfl := beq_iff_eq.mp hsame
      exact ⟨found, hfound, (hrequired found).mp (by simpa using hallowed), by omega⟩
  · rintro ⟨offset, hoffset, hallowed, hlocal⟩
    have hinstant : date * secondsPerDay + seconds.toNat - offset = instant := by omega
    refine ⟨offset, (hkeeps offset).mpr ⟨offsetAtUtc_available hoffset havailable, ?_⟩, hinstant⟩
    rw [(hrequired offset).mpr hallowed, hinstant, hoffset]
    simp [Except.map]

theorem mapError_eq_ok {f : String → HoursFailure} {result : Except String α} :
    result.mapError f = .ok value ↔ result = .ok value := by
  cases result <;> simp [Except.mapError]

theorem openWindow_ok (h : openWindow zone day interval = .ok window) :
    window.lower < window.upper ∧ ∀ image, UtcImage zone day interval image ↔ image = window := by
  obtain ⟨opens, hopens, h⟩ := bind_eq_ok.mp h
  obtain ⟨closeDay, hcloseDay, h⟩ := bind_eq_ok.mp h
  obtain ⟨closes, hcloses, h⟩ := bind_eq_ok.mp h
  rw [mapError_eq_ok] at hopens hcloseDay hcloses
  split at h
  next opensAt closesAt =>
    obtain ⟨hvalid, h⟩ := ite_error_eq_ok.mp h
    cases h
    obtain rfl : day + interval.closesDayOffset.toNat = closeDay := by
      unfold addDays at hcloseDay
      split at hcloseDay <;> cases hcloseDay
      rfl
    refine ⟨by dsimp only; omega, fun image => ?_⟩
    simp [UtcImage, ← candidatesOn_mem hopens, ← candidatesOn_mem hcloses]
  next => cases h

theorem windowsInOrder_of_separated (h : Separated windows)
    (hprevious : ∀ close ∈ previousClose, ∀ window ∈ windows, close < window.lower) :
    windowsInOrder previousClose windows := by
  induction windows generalizing previousClose with
  | nil => rfl
  | cons window rest ih =>
    have hapart := pairwise_cons.mp h.apart
    have hrest : windowsInOrder (some window.upper) rest :=
      ih ⟨fun other hother => h.proper other (mem_cons_of_mem _ hother), hapart.2⟩
        (by simpa using hapart.1)
    have hopen : previousClose.any (window.lower ≤ ·) = false := by
      rw [Option.any_eq_false]
      intro close hclose
      simpa using hprevious close hclose window mem_cons_self
    simp [windowsInOrder, h.proper window mem_cons_self, hopen, hrest]

/-- Every interval of every day of the range was read, and nothing else. -/
theorem days_read {check : Nat → Except HoursFailure Unit} {range : LocalDateRange}
    (h : ((List.range (range.endDateExclusive - range.startDateInclusive).toNat).mapM
      fun index => do
        check index
        (intervalsFor place (range.startDateInclusive + index)).mapM
          (openWindow zone (range.startDateInclusive + index))) = .ok windows) :
    (∀ day, range.startDateInclusive ≤ day → day < range.endDateExclusive →
      ∀ interval ∈ intervalsFor place day, ∃ window, openWindow zone day interval = .ok window) ∧
    ∀ window, window ∈ windows.flatten ↔
      ∃ day, range.startDateInclusive ≤ day ∧ day < range.endDateExclusive ∧
        ∃ interval ∈ intervalsFor place day, openWindow zone day interval = .ok window := by
  obtain ⟨hdone, hread⟩ := mapM_ok h
  have hday (day : Int) (hstart : range.startDateInclusive ≤ day)
      (hend : day < range.endDateExclusive) :
      ∃ found ∈ windows, (intervalsFor place day).mapM (openWindow zone day) = .ok found := by
    obtain ⟨index, rfl⟩ := Int.le.dest hstart
    have hindex : index < (range.endDateExclusive - range.startDateInclusive).toNat := by omega
    rw [← mem_range] at hindex
    obtain ⟨found, hfound⟩ := hdone index hindex
    obtain ⟨-, -, hwindows⟩ := bind_eq_ok.mp hfound
    exact ⟨found, (hread found).mpr ⟨index, hindex, hfound⟩, hwindows⟩
  refine ⟨fun day hstart hend interval hinterval => ?_, fun window => ?_⟩
  · obtain ⟨found, -, hfound⟩ := hday day hstart hend
    exact (mapM_ok hfound).1 interval hinterval
  rw [mem_flatten]
  constructor
  · rintro ⟨found, hfound, hwindow⟩
    obtain ⟨index, hindex, hfound⟩ := (hread found).mp hfound
    obtain ⟨-, -, hfound⟩ := bind_eq_ok.mp hfound
    rw [mem_range] at hindex
    exact ⟨_, by omega, by omega, ((mapM_ok hfound).2 window).mp hwindow⟩
  · rintro ⟨day, hstart, hend, hinterval⟩
    obtain ⟨found, hfound, hwindows⟩ := hday day hstart hend
    exact ⟨found, hfound, ((mapM_ok hwindows).2 window).mpr hinterval⟩

def easternTime : TzifData :=
  ⟨[0], [0], [-18000], "EST5EDT,M3.2.0,M11.1.0".toList, by decide, by decide⟩

def earlyShift : SeededHoursInterval := ⟨3600, 18000, 0, none, none⟩

def cornerShop : SeededHoursProvider :=
  ⟨"2026a", [(⟨"corner-shop", "America/New_York", "v1",
    fun _ => [⟨14400, 3600, 1, none, none⟩, earlyShift], [], by simp⟩, easternTime)]⟩

end LiveRoute.Providers
