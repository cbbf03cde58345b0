import LiveRoute.Domain.Activity
import Mathlib.Data.List.Chain

/-! The Directions requests of a saved plan. The legs are grouped by the travel
mode of their destination and a group is cut into requests that share their end
points. Coordinates are only copied, so they are values of any type. -/
namespace LiveRoute.Frontend
open Domain (TravelMode)
open List

def maxDirectionsCoordinates : Nat := 25

inductive RouteProfile
  | driving | walking
deriving DecidableEq

structure SavedActivity (γ : Type) where
  inboundTravelMode : TravelMode
  coordinate : γ

structure SavedPlan (γ : Type) where
  (savedPlanId savedPlanRevision : String)
  activities : List (SavedActivity γ)

structure DirectionsRequest (γ : Type) where
  (planId planRevision : String)
  profile : RouteProfile
  coordinates : List γ

def profileForMode : TravelMode → RouteProfile
  | .walking => .walking
  | .driving => .driving

/-- The last activity from `groupEnd` on that is reached by `mode`. -/
def extendGroup (activities : List (SavedActivity γ)) (mode : TravelMode) (groupEnd : Nat) : Nat :=
  if h : groupEnd + 1 < activities.length then
    if activities[groupEnd + 1].inboundTravelMode = mode then
      extendGroup activities mode (groupEnd + 1)
    else groupEnd
  else groupEnd
termination_by activities.length - groupEnd

def chunkRequests (plan : SavedPlan γ) (profile : RouteProfile) (groupCoordinates : List γ)
    (chunkStart : Nat) : List (DirectionsRequest γ) :=
  if chunkStart < groupCoordinates.length - 1 then
    let chunkEnd := min (chunkStart + maxDirectionsCoordinates - 1) (groupCoordinates.length - 1)
    let request := ⟨plan.savedPlanId, plan.savedPlanRevision, profile,
      groupCoordinates.extract chunkStart (chunkEnd + 1)⟩
    if chunkEnd = groupCoordinates.length - 1 then [request]
    else request :: chunkRequests plan profile groupCoordinates chunkEnd
  else []
termination_by groupCoordinates.length - chunkStart
decreasing_by
  simp only [maxDirectionsCoordinates]
  omega

theorem le_extendGroup (activities : List (SavedActivity γ)) (mode : TravelMode) (groupEnd : Nat) :
    groupEnd ≤ extendGroup activities mode groupEnd := by
  fun_induction extendGroup activities mode groupEnd with
  | case1 _ _ _ ih => exact Nat.le_of_succ_le ih
  | case2 | case3 => exact Nat.le_refl _

def groupRequests (plan : SavedPlan γ) (groupStart destinationIndex : Nat) :
    List (DirectionsRequest γ) :=
  if h : destinationIndex < plan.activities.length then
    let mode := plan.activities[destinationIndex].inboundTravelMode
    let groupEnd := extendGroup plan.activities mode destinationIndex
    chunkRequests plan (profileForMode mode)
      ((plan.activities.extract groupStart (groupEnd + 1)).map SavedActivity.coordinate) 0 ++
      groupRequests plan groupEnd (groupEnd + 1)
  else []
termination_by plan.activities.length - destinationIndex
decreasing_by
  have hend := le_extendGroup plan.activities plan.activities[destinationIndex].inboundTravelMode
    destinationIndex
  omega

def buildDirectionsRequests (plan : SavedPlan γ) : List (DirectionsRequest γ) :=
  if plan.activities.length < 2 then [] else groupRequests plan 0 1

/-- The adjacent pairs of a list, in order. -/
def legs (stops : List α) : List (α × α) := stops.zip stops.tail

theorem legs_split (stops : List α) (n : Nat) :
    legs stops = legs (stops.take (n + 1)) ++ legs (stops.drop n) := by
  induction n generalizing stops with
  | zero => cases stops <;> simp [legs]
  | succ n ih =>
    match stops with
    | [] => rfl
    | [_] => simp [legs]
    | first :: second :: rest => simpa [legs] using ih (second :: rest)

theorem legs_map (f : α → β) (stops : List α) :
    legs (stops.map f) = (legs stops).map (Prod.map f f) := by
  rw [legs, legs, ← map_tail, zip_map]

/-- Each stop comes with the profile that leads to it. -/
def SavedPlan.walk (plan : SavedPlan γ) : List (RouteProfile × γ) :=
  plan.activities.map fun activity =>
    (profileForMode activity.inboundTravelMode, activity.coordinate)

structure Covers (walk : List (RouteProfile × γ)) (requests : List (DirectionsRequest γ)) :
    Prop where
  legs : (requests.flatMap fun request =>
    (legs request.coordinates).map fun leg => (request.profile, leg)) =
    (legs walk).map fun leg => (leg.2.1, leg.1.2, leg.2.2)
  lengths : ∀ request ∈ requests, 2 ≤ request.coordinates.length ∧
    request.coordinates.length ≤ maxDirectionsCoordinates
  chain : requests.IsChain fun earlier later =>
    earlier.coordinates.getLast? = later.coordinates.head?
  starts : ∀ request ∈ requests.head?, request.coordinates.head? = walk.head?.map Prod.snd

variable {walk : List (RouteProfile × γ)} {plan : SavedPlan γ}

theorem Covers.nil (h : walk.length ≤ 1) : Covers walk [] := by
  refine ⟨?_, by simp, .nil, by simp⟩
  match walk with
  | [] => rfl
  | [_] => rfl

theorem Covers.cons {request : DirectionsRequest γ} (h : Covers (walk.drop n) later)
    (hpos : 0 < n) (hmax : n < maxDirectionsCoordinates) (hn : n < walk.length)
    (hcoords : request.coordinates = (walk.take (n + 1)).map Prod.snd)
    (hmode : ∀ index < n, walk[index + 1]?.map Prod.fst = some request.profile) :
    Covers walk (request :: later) := by
  constructor
  case legs =>
    rw [flatMap_cons, h.legs, legs_split walk n, map_append, hcoords, legs_map, map_map]
    congr 1
    refine map_congr_left fun leg hleg => ?_
    obtain ⟨index, hindex⟩ := mem_iff_getElem?.mp (of_mem_zip hleg).2
    rw [getElem?_tail, getElem?_take] at hindex
    split at hindex
    next hless =>
      have hprofile := hmode index (by omega)
      rw [hindex, Option.map_some, Option.some.injEq] at hprofile
      rw [← hprofile]
      rfl
    next => cases hindex
  case lengths =>
    refine forall_mem_cons.mpr ⟨?_, h.lengths⟩
    rw [hcoords, length_map, length_take]
    omega
  case chain =>
    refine isChain_cons.mpr ⟨fun next hnext => ?_, h.chain⟩
    rw [h.starts next hnext, hcoords]
    simp [getLast?_take, head?_drop, hn]
  case starts =>
    rintro _ ⟨⟩
    rw [hcoords]
    simp [head?_take]

theorem chunkRequests_covers (hend : groupEnd < walk.length) (hstart : chunkStart ≤ groupEnd)
    (hgroup : group = (walk.take (groupEnd + 1)).map Prod.snd)
    (hmode : ∀ index < groupEnd, walk[index + 1]?.map Prod.fst = some profile)
    (hlater : Covers (walk.drop groupEnd) later) :
    Covers (walk.drop chunkStart) (chunkRequests plan profile group chunkStart ++ later) := by
  have hlength : group.length - 1 = groupEnd := by
    rw [hgroup, length_map, length_take]
    omega
  -- a piece of the group is a piece of the walk
  have hpiece : ∀ {start stop rest}, start < stop → stop ≤ groupEnd →
      stop - start < maxDirectionsCoordinates → Covers (walk.drop stop) rest →
      Covers (walk.drop start) (⟨plan.savedPlanId, plan.savedPlanRevision, profile,
        group.extract start (stop + 1)⟩ :: rest) := by
    intro start stop rest hless hstop hmax hrest
    rw [← Nat.add_sub_cancel' (Nat.le_of_lt hless), ← drop_drop] at hrest
    refine hrest.cons (by omega) hmax (by rw [length_drop]; omega) ?_ fun index hindex => ?_
    · dsimp only
      rw [hgroup, extract_eq_take_drop, ← map_drop, ← map_take, drop_take, take_take]
      congr 2
      omega
    · rw [getElem?_drop]
      exact hmode (start + index) (by omega)
  fun_induction chunkRequests plan profile group chunkStart with
  | case1 chunkStart hless chunkEnd request hlast =>
    have hstop : chunkEnd = groupEnd := hlast.trans hlength
    refine hpiece (by omega) (by omega) ?_ (hstop ▸ hlater)
    omega
  | case2 chunkStart hless chunkEnd request hlast ih =>
    refine hpiece ?_ ?_ ?_ (ih ?_)
    all_goals dsimp only [chunkEnd, maxDirectionsCoordinates]; omega
  | case3 chunkStart hless =>
    obtain rfl : chunkStart = groupEnd := by omega
    exact hlater

theorem extendGroup_spec {activities : List (SavedActivity γ)} (h : groupEnd < activities.length)
    (hmode : activities[groupEnd]?.map SavedActivity.inboundTravelMode = some mode) :
    extendGroup activities mode groupEnd < activities.length ∧
      ∀ index, groupEnd ≤ index → index ≤ extendGroup activities mode groupEnd →
        activities[index]?.map SavedActivity.inboundTravelMode = some mode := by
  fun_induction extendGroup activities mode groupEnd with
  | case1 groupEnd hnext hsame ih =>
    obtain ⟨hend, hgroup⟩ := ih hnext (by simp [hnext, hsame])
    refine ⟨hend, fun index hlow hhigh => ?_⟩
    rcases Nat.eq_or_lt_of_le hlow with rfl | hlow
    · exact hmode
    · exact hgroup index hlow hhigh
  | case2 | case3 => exact ⟨h, fun _ hlow hhigh => Nat.le_antisymm hlow hhigh ▸ hmode⟩

theorem groupRequests_covers (hnext : destinationIndex = groupStart + 1) :
    Covers (plan.walk.drop groupStart) (groupRequests plan groupStart destinationIndex) := by
  fun_induction groupRequests plan groupStart destinationIndex with
  | case1 groupStart destinationIndex h mode groupEnd ih =>
    subst hnext
    have hfirst : plan.activities[groupStart + 1]?.map SavedActivity.inboundTravelMode =
        some mode := by simp [h, mode]
    obtain ⟨hend, hmode⟩ := extendGroup_spec h hfirst
    have hle : groupStart + 1 ≤ groupEnd := le_extendGroup ..
    have hdrop : plan.walk.drop groupEnd =
        (plan.walk.drop groupStart).drop (groupEnd - groupStart) := by
      rw [drop_drop, Nat.add_sub_cancel' (Nat.le_of_succ_le hle)]
    refine chunkRequests_covers ?_ (Nat.zero_le _) ?_ (fun index hindex => ?_) (hdrop ▸ ih rfl)
    · simp only [SavedPlan.walk, length_drop, length_map]
      omega
    · simp only [SavedPlan.walk, extract_eq_take_drop, ← map_drop, ← map_take, map_map]
      rw [Nat.sub_add_comm (Nat.le_of_succ_le hle)]
      rfl
    · obtain ⟨stop, hstop, hsame⟩ := Option.map_eq_some_iff.mp
        (hmode (groupStart + (index + 1)) (by omega) (by omega))
      simp [SavedPlan.walk, hstop, hsame]
  | case2 groupStart destinationIndex h =>
    refine .nil ?_
    rw [SavedPlan.walk, length_drop, length_map]
    omega

/-- Read in order, the requests hold each leg of the plan once, under the
profile of its destination; each fits the limit and starts where the one before
it ended. -/
theorem requests_cover_legs (plan : SavedPlan γ) :
    ((buildDirectionsRequests plan).flatMap fun request =>
      (legs request.coordinates).map fun leg => (request.profile, leg)) =
      ((legs plan.activities).map fun leg => (profileForMode leg.2.inboundTravelMode,
        leg.1.coordinate, leg.2.coordinate)) ∧
    (∀ request ∈ buildDirectionsRequests plan, 2 ≤ request.coordinates.length ∧
      request.coordinates.length ≤ maxDirectionsCoordinates) ∧
    (buildDirectionsRequests plan).IsChain fun earlier later =>
      earlier.coordinates.getLast? = later.coordinates.head? := by
  have hcovers : Covers plan.walk (buildDirectionsRequests plan) := by
    unfold buildDirectionsRequests
    split
    next hshort =>
      refine .nil ?_
      rw [SavedPlan.walk, length_map]
      omega
    next => exact @groupRequests_covers γ _ _ 0 rfl
  refine ⟨?_, hcovers.lengths, hcovers.chain⟩
  rw [hcovers.legs, SavedPlan.walk, legs_map, map_map]
  rfl

end LiveRoute.Frontend
