import LiveRoute.Planner.Alternatives
import Mathlib.Data.Int.Order.Basic
import Mathlib.Order.MinMax

/-! The hard constraints an offered interval meets, and the monotonicity that
makes an optimistic arrival a sound bound: reaching an activity earlier never
leaves it without an interval it would still have had later. -/
namespace LiveRoute.Planner
open CheckedInt Sequence Domain List

variable {input : BeamSearchInput} {planning : PlanningActivity} {window : TimeWindow}
  {alternative : CandidateAlternative}

structure HardFeasible (input : BeamSearchInput) (planning : PlanningActivity)
    (start finish : Int) : Prop where
  notFoundClosed : planning.activity.foundClosedAt = none
  nonempty : start < finish
  afterHorizonStart : input.planningHorizonStart.toInt ≤ start
  beforeHorizonEnd : finish ≤ input.planningHorizonEnd.toInt
  reservation : ∀ reservation, planning.activity.timing.reservationStart = some reservation →
    reservation.toInt ≤ start ∧
      start ≤ reservation.toInt + planning.activity.timing.reservationGraceSeconds.toNat * 1000
  deadline : ∀ deadline, planning.activity.timing.mandatoryDeadline = some deadline →
    finish ≤ deadline.toInt
  minDuration : planning.activity.timing.minDurationSeconds.toNat * 1000 ≤ finish - start
  maxDuration : finish - start ≤ planning.activity.timing.maxDurationSeconds.toNat * 1000
  window : ∃ window ∈ planning.activity.timing.openWindows,
    window.opensAt.toInt ≤ start ∧ finish ≤ window.closesAt.toInt

theorem isStartInReservationRange_iff : isStartInReservationRange timing start ↔
      ∀ reservation, timing.reservationStart = some reservation →
        InInt64 (reservation.toInt + timing.reservationGraceSeconds.toNat * 1000) ∧
          reservation.toInt ≤ start ∧
            start ≤ reservation.toInt + timing.reservationGraceSeconds.toNat * 1000 := by
  unfold isStartInReservationRange
  cases hresv : timing.reservationStart with
  | none => simp
  | some reservation =>
    simp only [checkedMilliseconds_eq, Option.bind_some, Option.some.injEq, forall_eq']
    cases hend : checkedAdd reservation.toInt (timing.reservationGraceSeconds.toNat * 1000) with
    | none =>
      simp only [Bool.false_eq_true, false_iff]
      rintro ⟨hrange, -⟩
      have hsome := (checkedAdd_eq_some (inInt64_toInt reservation)).mpr ⟨rfl, hrange⟩
      rw [hend] at hsome
      cases hsome
    | some =>
      obtain ⟨rfl, hrange⟩ := (checkedAdd_eq_some (inInt64_toInt reservation)).mp hend
      simp [hrange]

theorem durationWithinLimits_iff (hfinish : InInt64 finish) :
    durationWithinLimits timing start finish ↔
      InInt64 (finish - start) ∧ timing.minDurationSeconds.toNat * 1000 ≤ finish - start ∧
        finish - start ≤ timing.maxDurationSeconds.toNat * 1000 := by
  unfold durationWithinLimits
  cases hdur : checkedSubtract finish start with
  | none =>
    simp only [Bool.false_eq_true, false_iff]
    rintro ⟨hrange, -⟩
    have hsome := (checkedSubtract_eq_some hfinish).mpr ⟨rfl, hrange⟩
    rw [hdur] at hsome
    cases hsome
  | some =>
    obtain ⟨rfl, hrange⟩ := (checkedSubtract_eq_some hfinish).mp hdur
    simp [hrange]

/-- The local check, conjunct by conjunct. The interval lies in the horizon,
so no difference below can overflow once the check passes. -/
theorem isLocallyHardFeasible_iff : isLocallyHardFeasible input planning arrival start finish ↔
      planning.activity.foundClosedAt = none ∧ start < finish ∧ arrival ≤ start ∧
        input.planningHorizonStart.toInt ≤ start ∧
        finish ≤ input.planningHorizonEnd.toInt ∧
        isStartInReservationRange planning.activity.timing start ∧
        (∀ deadline, planning.activity.timing.mandatoryDeadline = some deadline →
          finish ≤ deadline.toInt) ∧
        durationWithinLimits planning.activity.timing start finish ∧
        ∃ window, containingWindow planning.activity.timing start = some window ∧
          finish ≤ window.closesAt.toInt := by
  unfold isLocallyHardFeasible
  simp only [Bool.and_eq_true, Option.isNone_iff_eq_none, decide_eq_true_iff,
    Option.all_eq_true, Option.any_eq_true, and_assoc]

theorem inInt64_of_horizon (hlow : input.planningHorizonStart.toInt ≤ time)
    (hhigh : time ≤ input.planningHorizonEnd.toInt) : InInt64 time := by
  have hstart := (inInt64_toInt input.planningHorizonStart).1
  have hend := (inInt64_toInt input.planningHorizonEnd).2
  exact ⟨le_trans hstart hlow, le_trans hhigh hend⟩

theorem hardFeasible_of_locally (h : isLocallyHardFeasible input planning arrival start finish) :
    arrival ≤ start ∧ HardFeasible input planning start finish := by
  obtain ⟨hclosed, hne, harr, hlow, hhigh, hresv, hdead, hdur,
    window, hwin, hwithin⟩ := (isLocallyHardFeasible_iff ..).mp h
  have hfinish : InInt64 finish := inInt64_of_horizon (by omega) hhigh
  obtain ⟨-, hmin, hmax⟩ := (durationWithinLimits_iff hfinish).mp hdur
  have hmem := find?_some hwin
  simp only [Bool.and_eq_true, decide_eq_true_iff] at hmem
  exact ⟨harr, {
    notFoundClosed := hclosed
    nonempty := hne
    afterHorizonStart := hlow
    beforeHorizonEnd := hhigh
    reservation := fun reservation hsome =>
      ((isStartInReservationRange_iff ..).mp hresv reservation hsome).2
    deadline := hdead
    minDuration := hmin
    maxDuration := hmax
    window := ⟨window, mem_of_find?_eq_some hwin, hmem.1, hwithin⟩ }⟩

theorem windowsNormalized_cons (h : windowsNormalized previous (window :: rest)) :
    window.opensAt.toInt < window.closesAt.toInt ∧
      (∀ close, previous = some close → close.toInt ≤ window.opensAt.toInt) ∧
        windowsNormalized (some window.closesAt) rest := by
  simp only [windowsNormalized, TimeWindow.isValid, Bool.and_eq_true, decide_eq_true_iff,
    Bool.not_eq_true', Option.any_eq_false, decide_eq_false_iff_not, not_lt] at h
  exact ⟨h.1.1, h.1.2, h.2⟩

theorem windowsNormalized_opens {windows : List TimeWindow}
    (h : windowsNormalized (some close) windows) :
    ∀ window ∈ windows, close.toInt ≤ window.opensAt.toInt := by
  induction windows generalizing close with
  | nil => intro window hwin; cases hwin
  | cons _ _ ih =>
    obtain ⟨hne, hafter, htail⟩ := windowsNormalized_cons h
    have hhead := hafter close rfl
    intro window hwin
    rcases mem_cons.mp hwin with rfl | hwin
    · exact hhead
    · have hlater := ih htail window hwin
      omega

/-- Normalized windows are disjoint, so the first window that contains a start
is the only one. -/
theorem find_window_eq (h : windowsNormalized previous windows) (hwin : window ∈ windows)
    (hopen : window.opensAt.toInt ≤ start) (hclose : start < window.closesAt.toInt) :
    (windows.find? fun candidate => decide (candidate.opensAt.toInt ≤ start) &&
      decide (start < candidate.closesAt.toInt)) = some window := by
  induction windows generalizing previous with
  | nil => cases hwin
  | cons _ _ ih =>
    obtain ⟨-, -, htail⟩ := windowsNormalized_cons h
    rcases mem_cons.mp hwin with rfl | hmem
    · simp [hopen, hclose]
    have hafter := windowsNormalized_opens htail window hmem
    rw [find?_cons_of_neg]
    · exact ih htail hmem
    · simp only [Bool.and_eq_true, decide_eq_true_iff, not_and, not_lt]
      omega

theorem containingWindow_eq {timing : ActivityTiming} (h : timing.isValid)
    (hwin : window ∈ timing.openWindows) (hopen : window.opensAt.toInt ≤ start)
    (hclose : start < window.closesAt.toInt) :
    containingWindow timing start = some window := by
  simp only [ActivityTiming.isValid, Bool.and_eq_true] at h
  exact find_window_eq h.2 hwin hopen hclose

/-- An interval of the same length that starts earlier in the same window, but
not before the horizon or the reservation, is feasible whenever the later one is. -/
theorem isLocallyHardFeasible_earlier (hvalid : planning.activity.timing.isValid)
    (hlater : isLocallyHardFeasible input planning laterArrival laterStart
      (laterStart + duration)) (hwin : window ∈ planning.activity.timing.openWindows)
    (hmem : laterStart < window.closesAt.toInt) (hopen : window.opensAt.toInt ≤ start)
    (hearlier : start ≤ laterStart) (harr : arrival ≤ start)
    (hhorizon : input.planningHorizonStart.toInt ≤ start)
    (hreserved : ∀ reservation, planning.activity.timing.reservationStart = some reservation →
      reservation.toInt ≤ start) :
    isLocallyHardFeasible input planning arrival start (start + duration) := by
  obtain ⟨hclosed, hne, -, -, hhigh, hresv, hdead, hdur,
    found, hfound, hwithin⟩ := (isLocallyHardFeasible_iff ..).mp hlater
  have hsame := containingWindow_eq hvalid hwin (le_trans hopen hearlier) hmem
  have hwindowEq : window = found := Option.some.inj (hsame.symm.trans hfound)
  subst hwindowEq
  have hfinish : InInt64 (start + duration) :=
    inInt64_of_horizon (by omega) (le_trans (by omega) hhigh)
  have hlaterFinish : InInt64 (laterStart + duration) := inInt64_of_horizon (by omega) hhigh
  refine (isLocallyHardFeasible_iff ..).mpr ⟨hclosed, by omega, harr, hhorizon, by omega,
    ?_, ?_, ?_, window, containingWindow_eq hvalid hwin hopen (by omega), by omega⟩
  · rw [isStartInReservationRange_iff] at hresv ⊢
    intro reservation hsome
    obtain ⟨hrange, -, hend⟩ := hresv reservation hsome
    exact ⟨hrange, hreserved reservation hsome, by omega⟩
  · intro deadline hsome
    have hlatest := hdead deadline hsome
    omega
  · rw [durationWithinLimits_iff hlaterFinish] at hdur
    rw [durationWithinLimits_iff hfinish]
    have hsame : start + duration - start = laterStart + duration - laterStart := by omega
    rw [hsame]
    exact hdur

theorem isLocallyHardFeasible_arrival
    (hlater : isLocallyHardFeasible input planning laterArrival start finish)
    (harr : arrival ≤ laterArrival) :
    isLocallyHardFeasible input planning arrival start finish := by
  rw [isLocallyHardFeasible_iff] at hlater ⊢
  exact ⟨hlater.1, hlater.2.1, le_trans harr hlater.2.2.1, hlater.2.2.2⟩

def KeepsCurrentInterval (planning : PlanningActivity) (start finish : Int) : Prop :=
  planning.currentPlanSegment.state = .scheduled ∧ ∃ currentStart currentEnd,
      planning.currentPlanSegment.scheduledStart = some currentStart ∧
      planning.currentPlanSegment.scheduledEnd = some currentEnd ∧
      start = currentStart.toInt ∧ finish = currentEnd.toInt

def KeepsBaselineDuration (planning : PlanningActivity) (start finish : Int) : Prop :=
  planning.currentPlanSegment.state = .scheduled → ∀ currentStart currentEnd,
      planning.currentPlanSegment.scheduledStart = some currentStart →
      planning.currentPlanSegment.scheduledEnd = some currentEnd →
      finish - start = currentEnd.toInt - currentStart.toInt

theorem KeepsCurrentInterval.duration (h : KeepsCurrentInterval planning start finish) :
    KeepsBaselineDuration planning start finish := by
  obtain ⟨-, currentStart, currentEnd, hstart, hend, rfl, rfl⟩ := h
  intro _ start' end' hstart' hend'
  cases hstart.symm.trans hstart'
  cases hend.symm.trans hend'
  rfl

theorem generatedDuration_baseline (h : generatedDuration planning = some duration) :
    KeepsBaselineDuration planning start (start + duration) := by
  intro hstate currentStart currentEnd hstart hend
  simp only [generatedDuration, hstate, hstart, hend] at h
  have hvalue := checkedSubtract_value h
  omega

structure OffersInterval (input : BeamSearchInput) (planning : PlanningActivity)
    (arrival : Int) (alternative : CandidateAlternative) : Prop where
  kind : alternative.kind = .scheduled
  ordinal : alternative.activityOrdinal = planning.originalTripOrdinal
  feasible : isLocallyHardFeasible input planning arrival alternative.start
    alternative.finish
  baseline : KeepsBaselineDuration planning alternative.start alternative.finish
  exact : mustUseCurrentInterval planning →
    KeepsCurrentInterval planning alternative.start alternative.finish

theorem mem_addGeneratedInterval :
    alternative ∈ addGeneratedInterval input planning arrival window start ↔
    hasPositiveLegalRoom input planning window start ∧ ∃ duration,
    generatedDuration planning = some duration ∧ checkedAdd start duration = some
    (start + duration) ∧ isLocallyHardFeasible input planning arrival start (start + duration) ∧
    alternative = ⟨.scheduled, planning.originalTripOrdinal, start, start + duration, false⟩ := by
  unfold addGeneratedInterval
  split
  next hroom =>
    cases hdur : generatedDuration planning with
    | none => simp
    | some duration =>
      simp only [Option.bind_some, Option.some.injEq, exists_eq_left']
      cases hfinish : checkedAdd start duration with
      | none => simp
      | some =>
        have hvalue := checkedAdd_value hfinish
        split <;> simp_all
  next hroom => simp [hroom]

theorem mem_addExactCurrentPlan : alternative ∈ addExactCurrentPlan input planning arrival ↔
      ∃ start finish, KeepsCurrentInterval planning start finish ∧
        isLocallyHardFeasible input planning arrival start finish ∧
        alternative = ⟨.scheduled, planning.originalTripOrdinal, start, finish, true⟩ := by
  unfold addExactCurrentPlan KeepsCurrentInterval
  constructor
  · intro h
    dsimp only at h
    split at h
    next start finish hstate hstart hfinish =>
      split at h
      next hfeas =>
        exact ⟨_, _, ⟨hstate, start, finish, hstart, hfinish, rfl, rfl⟩, hfeas, mem_singleton.mp h⟩
      next => cases h
    next => cases h
  · rintro ⟨_, _, ⟨hstate, start, finish, hstart, hfinish, rfl, rfl⟩, hfeas, rfl⟩
    simp [hstate, hstart, hfinish, hfeas]

theorem mem_currentStartInterval :
    alternative ∈ currentStartInterval input planning arrival window ↔
      ∃ current, planning.currentPlanSegment.scheduledStart = some current ∧
        isFixed planning = false ∧ hasCurrentInterval planning ∧
        current.toInt ≠ earliestStart planning.activity.timing arrival window ∧
        arrival ≤ current.toInt ∧ window.opensAt.toInt ≤ current.toInt ∧
        current.toInt < window.closesAt.toInt ∧
        alternative ∈ addGeneratedInterval input planning arrival window current.toInt := by
  unfold currentStartInterval
  cases hcur : planning.currentPlanSegment.scheduledStart with
  | none => simp
  | some =>
    simp only [Option.some.injEq, exists_eq_left']
    split
    next hguard =>
      simp only [Bool.and_eq_true, Bool.not_eq_true', beq_eq_false_iff_ne,
        decide_eq_true_iff] at hguard
      tauto
    next hguard =>
      simp only [Bool.and_eq_true, Bool.not_eq_true', beq_eq_false_iff_ne,
        decide_eq_true_iff] at hguard
      simp only [not_mem_nil, false_iff]
      rintro ⟨hfixed, hinterval, hne, harr, hopen, hclose, hmem⟩
      exact hguard ⟨⟨⟨⟨⟨⟨hfixed, hinterval⟩, hne⟩, harr⟩, hopen⟩, hclose⟩,
        (mem_addGeneratedInterval.mp hmem).1⟩

theorem mem_windowIntervals : alternative ∈ windowIntervals input planning arrival window ↔
      alternative ∈ addGeneratedInterval input planning arrival window
          (earliestStart planning.activity.timing arrival window) ∨
        alternative ∈ currentStartInterval input planning arrival window := by
  unfold windowIntervals
  simp only [mem_append]
  split
  next => rfl
  next hroom =>
    refine or_congr ⟨fun h => ?_, fun h => ?_⟩ Iff.rfl
    · cases h
    · exact absurd (mem_addGeneratedInterval.mp h).1 hroom

theorem offers_of_mem_addGeneratedInterval (hfree : mustUseCurrentInterval planning = false)
    (h : alternative ∈ addGeneratedInterval input planning arrival window start) :
    OffersInterval input planning arrival alternative := by
  obtain ⟨-, duration, hdur, -, hfeas, rfl⟩ := mem_addGeneratedInterval.mp h
  exact ⟨rfl, rfl, hfeas, generatedDuration_baseline hdur,
    fun hmust => by rw [hfree] at hmust; cases hmust⟩

theorem offers_of_mem_addExactCurrentPlan
    (h : alternative ∈ addExactCurrentPlan input planning arrival) :
    OffersInterval input planning arrival alternative := by
  obtain ⟨start, finish, hkeeps, hfeas, rfl⟩ := mem_addExactCurrentPlan.mp h
  exact ⟨rfl, rfl, hfeas, hkeeps.duration, fun _ => hkeeps⟩

theorem offers_of_mem_rawAlternatives (h : alternative ∈ rawAlternatives input planning arrival) :
    OffersInterval input planning arrival alternative := by
  unfold rawAlternatives at h
  split at h
  next => exact offers_of_mem_addExactCurrentPlan h
  next hmust =>
    have hfree : mustUseCurrentInterval planning = false := by simpa using hmust
    split at h
    next =>
      rcases mem_append.mp h with hwin | hexact
      · obtain ⟨window, -, hmem⟩ := mem_flatMap.mp hwin
        rcases mem_windowIntervals.mp hmem with hearliest | hcur
        · exact offers_of_mem_addGeneratedInterval hfree hearliest
        · obtain ⟨_, -, -, -, -, -, -, -, hgen⟩ := mem_currentStartInterval.mp hcur
          exact offers_of_mem_addGeneratedInterval hfree hgen
      · split at hexact
        next => exact offers_of_mem_addExactCurrentPlan hexact
        next => cases hexact
    next => cases h

theorem hasPositiveLegalRoom_iff (input : BeamSearchInput) (planning : PlanningActivity)
    (window : TimeWindow) (start : Int) : hasPositiveLegalRoom input planning window start ↔
    isStartInReservationRange planning.activity.timing start ∧
    input.planningHorizonStart.toInt ≤ start ∧ start < input.planningHorizonEnd.toInt ∧
    start < window.closesAt.toInt ∧ ∀ deadline,
    planning.activity.timing.mandatoryDeadline = some deadline → start < deadline.toInt := by
  unfold hasPositiveLegalRoom
  simp only [Bool.and_eq_true, decide_eq_true_iff]
  cases planning.activity.timing.mandatoryDeadline with
  | none => simp only [lt_min_iff]; simp; tauto
  | some => simp only [lt_min_iff, Option.some.injEq, forall_eq']; tauto

theorem earliestStart_mono (timing : ActivityTiming) (window : TimeWindow)
    (h : arrival ≤ laterArrival) :
    earliestStart timing arrival window ≤ earliestStart timing laterArrival window := by
  unfold earliestStart
  cases timing.reservationStart with
  | none => exact max_le_max h le_rfl
  | some => exact max_le_max (max_le_max h le_rfl) le_rfl

theorem le_earliestStart (timing : ActivityTiming) (window : TimeWindow) (arrival : Int) :
    arrival ≤ earliestStart timing arrival window ∧
      window.opensAt.toInt ≤ earliestStart timing arrival window ∧
        ∀ reservation, timing.reservationStart = some reservation →
          reservation.toInt ≤ earliestStart timing arrival window := by
  unfold earliestStart
  cases timing.reservationStart with
  | none => simp
  | some => simp

section Earlier

variable {arrival laterArrival : Int}

theorem addExactCurrentPlan_earlier (harr : arrival ≤ laterArrival)
    (h : addExactCurrentPlan input planning laterArrival ≠ []) :
    addExactCurrentPlan input planning arrival ≠ [] := by
  obtain ⟨alternative, hmem⟩ := exists_mem_of_ne_nil _ h
  obtain ⟨start, finish, hkeeps, hfeas, -⟩ := mem_addExactCurrentPlan.mp hmem
  exact ne_nil_of_mem (mem_addExactCurrentPlan.mpr
    ⟨start, finish, hkeeps, isLocallyHardFeasible_arrival hfeas harr, rfl⟩)

theorem addGeneratedInterval_arrival (harr : arrival ≤ laterArrival)
    (h : addGeneratedInterval input planning laterArrival window start ≠ []) :
    addGeneratedInterval input planning arrival window start ≠ [] := by
  obtain ⟨alternative, hmem⟩ := exists_mem_of_ne_nil _ h
  obtain ⟨hroom, duration, hdur, hadd, hfeas, -⟩ := mem_addGeneratedInterval.mp hmem
  exact ne_nil_of_mem (mem_addGeneratedInterval.mpr ⟨hroom, duration, hdur, hadd,
    isLocallyHardFeasible_arrival hfeas harr, rfl⟩)

section
variable (hvalid : planning.activity.timing.isValid) (harr : arrival ≤ laterArrival)
  (hhorizon : input.planningHorizonStart.toInt ≤ arrival)
include hvalid harr hhorizon

/-- Arriving earlier moves the earliest start of a window earlier, and the
interval generated there stays inside every bound the later one met. -/
theorem earliestInterval_earlier (hwin : window ∈ planning.activity.timing.openWindows)
    (h : addGeneratedInterval input planning laterArrival window
      (earliestStart planning.activity.timing laterArrival window) ≠ []) :
    addGeneratedInterval input planning arrival window
      (earliestStart planning.activity.timing arrival window) ≠ [] := by
  obtain ⟨alternative, hmem⟩ := exists_mem_of_ne_nil _ h
  obtain ⟨hroom, duration, hdur, -, hfeas, -⟩ := mem_addGeneratedInterval.mp hmem
  have hmono := earliestStart_mono planning.activity.timing window harr
  obtain ⟨hreach, hopen, hreserved⟩ := le_earliestStart planning.activity.timing window arrival
  obtain ⟨-, -, -, hclose, hdead⟩ := (hasPositiveLegalRoom_iff ..).mp hroom
  have hearlier := isLocallyHardFeasible_earlier hvalid hfeas hwin hclose hopen hmono
    hreach (le_trans hhorizon hreach) hreserved
  obtain ⟨-, hne, -, hlow, hhigh, hrange, -⟩ := (isLocallyHardFeasible_iff ..).mp hearlier
  have hstart := inInt64_of_horizon hlow (by omega)
  have hfinish := inInt64_of_horizon (le_trans hlow hne.le) hhigh
  refine ne_nil_of_mem (mem_addGeneratedInterval.mpr ⟨?_, duration, hdur,
    (checkedAdd_eq_some hstart).mpr ⟨rfl, hfinish⟩, hearlier, rfl⟩)
  refine (hasPositiveLegalRoom_iff ..).mpr ⟨hrange, hlow, by omega, by omega, ?_⟩
  intro deadline hsome
  have hlatest := hdead deadline hsome
  omega

theorem windowIntervals_earlier (hwin : window ∈ planning.activity.timing.openWindows)
    (h : windowIntervals input planning laterArrival window ≠ []) :
    windowIntervals input planning arrival window ≠ [] := by
  obtain ⟨alternative, hmem⟩ := exists_mem_of_ne_nil _ h
  rcases mem_windowIntervals.mp hmem with hearliest | hcur
  · obtain ⟨found, hfound⟩ := exists_mem_of_ne_nil _
      (earliestInterval_earlier hvalid harr hhorizon hwin (ne_nil_of_mem hearliest))
    exact ne_nil_of_mem (mem_windowIntervals.mpr (.inl hfound))
  · obtain ⟨current, hsome, hfixed, hinterval, -, hreach, hopen, hclose, hgen⟩ :=
      mem_currentStartInterval.mp hcur
    obtain ⟨found, hfound⟩ := exists_mem_of_ne_nil _
      (addGeneratedInterval_arrival harr (ne_nil_of_mem hgen))
    -- Arriving earlier can make the baseline start the earliest one.
    by_cases hsame : current.toInt = earliestStart planning.activity.timing arrival window
    · exact ne_nil_of_mem (mem_windowIntervals.mpr (.inl (hsame ▸ hfound)))
    · exact ne_nil_of_mem (mem_windowIntervals.mpr (.inr
        (mem_currentStartInterval.mpr ⟨current, hsome, hfixed, hinterval, hsame,
          le_trans harr hreach, hopen, hclose, hfound⟩)))

theorem rawAlternatives_earlier (h : rawAlternatives input planning laterArrival ≠ []) :
    rawAlternatives input planning arrival ≠ [] := by
  unfold rawAlternatives at h ⊢
  split at h
  next hmust => rw [if_pos hmust]; exact addExactCurrentPlan_earlier harr h
  next hmust =>
    rw [if_neg hmust]
    split at h
    next hopen =>
      rw [if_pos hopen]
      obtain ⟨alternative, hmem⟩ := exists_mem_of_ne_nil _ h
      rcases mem_append.mp hmem with hwin | hexact
      · obtain ⟨window, hwin, hmem⟩ := mem_flatMap.mp hwin
        obtain ⟨found, hfound⟩ := exists_mem_of_ne_nil _
          (windowIntervals_earlier hvalid harr hhorizon hwin (ne_nil_of_mem hmem))
        exact ne_nil_of_mem (mem_append_left _ (mem_flatMap.mpr ⟨window, hwin, hfound⟩))
      · split at hexact
        next hinterval =>
          obtain ⟨found, hfound⟩ := exists_mem_of_ne_nil _
            (addExactCurrentPlan_earlier harr (ne_nil_of_mem hexact))
          exact ne_nil_of_mem (mem_append_right _ (by rw [if_pos hinterval]; exact hfound))
        next => cases hexact
    next => exact absurd rfl h

end

end Earlier

theorem mem_generateImpl_cases
    (h : alternative ∈ generateCandidateAlternativesImpl input planning arrival validateInput) :
    alternative ∈ rawAlternatives input planning arrival ∨
      (isSkippable planning ∧ alternative = skipAlternative planning) := by
  unfold generateCandidateAlternativesImpl at h
  split at h
  · cases h
  rcases mem_append.mp h with hkept | hskip
  · have hsorted := uniqueAdjacent_subset _ _ _ hkept
    exact .inl ((mem_sortBy ..).mp hsorted)
  · split at hskip
    next hskippable => exact .inr ⟨hskippable, mem_singleton.mp hskip⟩
    next => cases hskip

section
variable (hinput : input.isValid) (hplan : planning.isValid)
include hinput hplan

theorem generateImpl_of_valid :
    generateCandidateAlternativesImpl input planning arrival validateInput =
      uniqueAdjacent sameAlternative
          (sortBy alternativeBefore (rawAlternatives input planning arrival)) ++
        (if isSkippable planning then [skipAlternative planning] else []) := by
  simp [generateCandidateAlternativesImpl, hinput, hplan]

theorem exists_generated_of_raw {validateInput : Bool}
    (h : alternative ∈ rawAlternatives input planning arrival) :
    ∃ kept ∈ generateCandidateAlternativesImpl input planning arrival validateInput,
      kept.kind = .scheduled := by
  obtain ⟨kept, hkept, -⟩ := uniqueAdjacent_represents sameAlternative _ alternative
    ((mem_sortBy alternativeBefore _ _).mpr h)
  rw [generateImpl_of_valid hinput hplan]
  refine ⟨kept, mem_append_left _ hkept, ?_⟩
  exact (offers_of_mem_rawAlternatives
    ((mem_sortBy ..).mp (uniqueAdjacent_subset _ _ _ hkept))).kind

theorem skipAlternative_mem_generateImpl (hskip : isSkippable planning) : skipAlternative planning ∈
      generateCandidateAlternativesImpl input planning arrival validateInput := by
  rw [generateImpl_of_valid hinput hplan, if_pos hskip]
  exact mem_append_right _ (mem_singleton.mpr rfl)

end

end LiveRoute.Planner
