import LiveRoute.Planner.Guarantees

/-! What a replan reports about the current plan: the slack before its next
activity, and whether one of its reservations is at risk. -/
namespace LiveRoute.Planner
open CheckedInt Domain

structure ReplanFacts where
  (lateDeparture reservationAtRisk : Bool)
  nextEventSlackMs : Option Int
deriving DecidableEq

namespace ReplanFacts

/-- Unlike the one of the search, this conversion does not read `reachable`. -/
def routeDurationMilliseconds (estimate : RouteEstimate) : Option Int :=
  let seconds := estimate.duration.toInt
  if decide (seconds < 0) || decide (maxInt64 / 1000 < seconds) then none
  else some (seconds * 1000)

def isScheduled (planning : PlanningActivity) : Bool :=
  decide (planning.currentPlanSegment.state = .scheduled)

def hasReservation (planning : PlanningActivity) : Bool :=
  planning.activity.timing.reservationStart.isSome

def hasScheduledReservationFrom (input : BeamSearchInput) (startIndex : Nat) : Bool :=
  (input.remainingActivities.drop startIndex).any fun planning =>
    isScheduled planning && hasReservation planning

def scheduledStart (planning : PlanningActivity) : Int :=
  (planning.currentPlanSegment.scheduledStart.getD 0).toInt

def scheduledEnd (planning : PlanningActivity) : Int :=
  (planning.currentPlanSegment.scheduledEnd.getD 0).toInt

def arrivalAfter (time : Int) (route : RouteEstimate) : Option Int :=
  (routeDurationMilliseconds route).bind (checkedAdd time)

def isReachedLate (timing : ActivityTiming) (arrival : Int) : Option Bool :=
  match timing.reservationStart with
  | none => some false
  | some reservation =>
    ((checkedMilliseconds timing.reservationGraceSeconds).bind (checkedAdd reservation.toInt)).map
      fun reservationLatest => decide (reservationLatest < arrival)

structure Replay where
  replayTime : Int
  priorMatrixIndex : Nat
  reservationAtRisk : Bool

/-- The loop over the remaining activities from `index` on. -/
def replayFrom (input : BeamSearchInput) : List PlanningActivity → Nat → Replay → Option Bool
  | [], _, replay => some replay.reservationAtRisk
  | planning :: rest, index, replay =>
    if !isScheduled planning then replayFrom input rest (index + 1) replay
    else
      let route := input.route replay.priorMatrixIndex (index + 1)
      -- The flag is assigned here, and what earlier legs have found is dropped.
      if !route.reachable then some (hasScheduledReservationFrom input index)
      else do
        let arrival ← arrivalAfter replay.replayTime route
        let late ← isReachedLate planning.activity.timing arrival
        let duration ← checkedSubtract (scheduledEnd planning) (scheduledStart planning)
        let actualEnd ← checkedAdd (max arrival (scheduledStart planning)) duration
        replayFrom input rest (index + 1) ⟨actualEnd, index + 1, replay.reservationAtRisk || late⟩

def nextEvent (input : BeamSearchInput) : Option (Bool × Option Int) :=
  match input.remainingActivities.findIdx? isScheduled with
  | none => some (false, none)
  | some index =>
    let route := input.route 0 (index + 1)
    if !route.reachable then some (true, none)
    else do
      let arrival ← arrivalAfter input.suffixStartTime route
      let planning ← input.remainingActivities[index]?
      let slack ← checkedSubtract (scheduledStart planning) arrival
      some (decide (slack < 0), some slack)

end ReplanFacts

open ReplanFacts

def deriveReplanFacts (input : BeamSearchInput) : Option ReplanFacts :=
  if !input.isValid then none
  else do
    let (lateDeparture, slack) ← nextEvent input
    let reservationAtRisk ← replayFrom input input.remainingActivities 0
      ⟨input.suffixStartTime, 0, false⟩
    some ⟨lateDeparture, reservationAtRisk, slack⟩

/-- The scheduled activities with the time at which each is reached, waiting
when early; `none` from the first leg on that cannot be travelled. -/
def legsFrom (input : BeamSearchInput) : List PlanningActivity → Nat → Int → Nat →
    List (PlanningActivity × Option Int)
  | [], _, _, _ => []
  | planning :: rest, index, time, origin =>
    if !isScheduled planning then legsFrom input rest (index + 1) time origin
    else
      let route := input.route origin (index + 1)
      if !route.reachable then
        ((planning :: rest).filter isScheduled).map fun unreached => (unreached, none)
      else
        let arrival := time + route.duration.toInt * 1000
        let finish := max arrival (scheduledStart planning) +
          (scheduledEnd planning - scheduledStart planning)
        (planning, some arrival) :: legsFrom input rest (index + 1) finish (index + 1)

def currentPlanLegs (input : BeamSearchInput) : List (PlanningActivity × Option Int) :=
  legsFrom input input.remainingActivities 0 input.suffixStartTime 0

def ReachedLate (leg : PlanningActivity × Option Int) : Prop :=
  ∃ arrival ∈ leg.2, ∃ reservation ∈ leg.1.activity.timing.reservationStart,
    reservation.toInt + leg.1.activity.timing.reservationGraceSeconds.toNat * 1000 < arrival

def CutOff (leg : PlanningActivity × Option Int) : Prop :=
  leg.2 = none ∧ hasReservation leg.1

def ReservationAtRisk (input : BeamSearchInput) : Prop :=
  ∃ leg ∈ currentPlanLegs input, ReachedLate leg ∨ CutOff leg

section Replay
variable {input : BeamSearchInput} {planning : PlanningActivity}

theorem arrivalAfter_eq
    (h : arrivalAfter time route = some arrival) :
    arrival = time + route.duration.toInt * 1000 := by
  obtain ⟨milliseconds, hroute, hsum⟩ := Option.bind_eq_some_iff.mp h
  unfold ReplanFacts.routeDurationMilliseconds at hroute
  dsimp only at hroute
  split at hroute
  next => cases hroute
  cases hroute
  exact checkedAdd_value hsum

theorem isReachedLate_iff (h : isReachedLate planning.activity.timing arrival = some late) :
    late ↔ ReachedLate (planning, some arrival) := by
  unfold isReachedLate at h
  split at h
  next hres =>
    cases h
    simp [ReachedLate, hres]
  next reservation hres =>
    obtain ⟨latest, hlatest, rfl⟩ := Option.map_eq_some_iff.mp h
    rw [checkedMilliseconds_eq] at hlatest
    simp [ReachedLate, hres, checkedAdd_value hlatest]

/-- A reservation behind an unreachable leg is reported; one that was reached
late only when every leg can be travelled. -/
theorem replayFrom_iff (hdrop : input.remainingActivities.drop index = rest)
    (h : replayFrom input rest index replay = some risk) :
    let legs := legsFrom input rest index replay.replayTime replay.priorMatrixIndex
    risk ↔ (∃ leg ∈ legs, CutOff leg) ∨ (∀ leg ∈ legs, leg.2 ≠ none) ∧
      (replay.reservationAtRisk ∨ ∃ leg ∈ legs, ReachedLate leg) := by
  induction rest generalizing index replay with
  | nil =>
    cases h
    simp [legsFrom]
  | cons planning rest ih =>
    have htail : input.remainingActivities.drop (index + 1) = rest := by
      rw [← List.drop_drop, hdrop, List.drop_one, List.tail_cons]
    unfold replayFrom at h
    unfold legsFrom
    split at h
    next hidle =>
      rw [if_pos hidle]
      exact ih htail h
    next hidle =>
      rw [if_neg hidle]
      dsimp only at h ⊢
      split at h
      next hcut =>
        -- The activity is scheduled and unreached, so not every leg is travelled.
        cases h
        have hscheduled : isScheduled planning := by simpa using hidle
        rw [if_pos hcut]
        simp [hasScheduledReservationFrom, hdrop, hscheduled, CutOff, and_assoc]
      next hcut =>
        simp only [Option.bind_eq_bind, Option.bind_eq_some_iff] at h
        obtain ⟨arrival, harr, late, hlate, duration, hdur, finish, hfin, hrest⟩ := h
        have hend := checkedAdd_value hfin
        rw [checkedSubtract_value hdur] at hend
        have hiff := ih htail hrest
        have hreached := isReachedLate_iff hlate
        rw [if_neg hcut, ← arrivalAfter_eq harr, ← hend]
        simp only [List.mem_cons, exists_eq_or_imp, forall_eq_or_imp, ← hreached]
        simpa [CutOff, or_assoc] using hiff

/-- The reported flag is exact unless a reservation was reached late before a
leg that cannot be travelled and behind which none is left. -/
theorem deriveReplanFacts_reservationAtRisk_iff (input : BeamSearchInput) (facts : ReplanFacts)
    (h : deriveReplanFacts input = some facts) :
    (facts.reservationAtRisk ↔ ReservationAtRisk input) ↔
      ((∃ leg ∈ currentPlanLegs input, ReachedLate leg) →
        (∃ leg ∈ currentPlanLegs input, leg.2 = none) →
          ∃ leg ∈ currentPlanLegs input, CutOff leg) := by
  unfold deriveReplanFacts at h
  split at h
  next => cases h
  simp only [Option.bind_eq_bind, Option.bind_eq_some_iff] at h
  obtain ⟨next, -, risk, hrisk, heq⟩ := h
  cases heq
  have hiff := replayFrom_iff List.drop_zero hrisk
  have hrisks : ReservationAtRisk input ↔ (∃ leg ∈ currentPlanLegs input, ReachedLate leg) ∨
      ∃ leg ∈ currentPlanLegs input, CutOff leg := by
    simp only [ReservationAtRisk, and_or_left, exists_or]
  change risk ↔ (∃ leg ∈ currentPlanLegs input, CutOff leg) ∨
    (∀ leg ∈ currentPlanLegs input, leg.2 ≠ none) ∧
      (false ∨ ∃ leg ∈ currentPlanLegs input, ReachedLate leg) at hiff
  grind

end Replay

def reservedVisit : PlanningActivity := { hourVisit with
  activity := { hourVisit.activity with
    timing := { hourVisit.activity.timing with reservationStart := some 0 } } }

theorem deriveReplanFacts_twoVisits : ReservationAtRisk (twoVisits reservedVisit walk) := by
  have htravelled : ∀ leg ∈ currentPlanLegs (twoVisits reservedVisit walk), leg.2 ≠ none := by
    decide +kernel
  refine ((deriveReplanFacts_reservationAtRisk_iff (twoVisits reservedVisit walk)
    ⟨false, true, some 3540000⟩ (by decide +kernel)).mpr ?_).mp rfl
  exact fun _ ⟨leg, hleg, hnone⟩ => absurd hnone (htravelled leg hleg)

/-- The reservation is missed by a minute; the leg behind it loses the fact. -/
theorem reservation_forgotten_behind_unreachable_leg :
    deriveReplanFacts (twoVisits reservedVisit .unreachable) = some ⟨false, false, some 3540000⟩ ∧
      ReservationAtRisk (twoVisits reservedVisit .unreachable) := by
  refine ⟨by decide +kernel, (reservedVisit, some 60000), by decide +kernel, .inl ?_⟩
  exact ⟨60000, rfl, 0, rfl, by decide⟩

end LiveRoute.Planner
