import LiveRoute.Library.Runs
import Mathlib.Data.Finset.Card
import Mathlib.Data.Finset.Dedup

/-! The trip-to-session fanout index. Calls of several goroutines interleave:
a publication copies the subscribed sinks under the lock and then offers the
payload to one sink after the other while other calls change the index. -/
namespace LiveRoute.Gateway
open Runs

structure SubscriptionHub (τ σ : Type) where
  maxSubscriptions : Nat
  byTrip : τ → Option (Finset σ)
  bySink : σ → Option (Finset τ)

inductive SubscribeError | identityInvalid | capacity
  deriving DecidableEq

/-- A call of `PublishTrip` between two of its sinks: the sinks subscribed
when it started, those already offered the payload and the rest of its slice. -/
structure Publication (τ σ : Type) where
  tripId : τ
  subscribed : Finset σ
  (delivered waiting : List σ)

structure HubState (τ σ : Type) where
  hub : SubscriptionHub τ σ
  publications : List (Publication τ σ)

/-- The atomic parts of the calls. An argument that the call refuses before it
takes the lock is `none`; `order` is the order in which a map is ranged over. -/
inductive HubCall (τ σ : Type)
  | subscribe (tripId : Option τ) (sink : Option σ)
  | unsubscribe (tripId : Option τ) (sink : Option σ)
  | removeSink (sink : Option σ) (order : List τ)
  | publishTrip (tripId : Option τ) (order : List σ)
  | deliver (index : Nat) (failed : Bool)

variable {τ σ : Type} [DecidableEq τ] [DecidableEq σ]

/-- What a map keeps under a key whose set has lost an element. -/
def remainingEntry {α : Type} [DecidableEq α] (set : Finset α) : Option (Finset α) :=
  if set = ∅ then none else some set

@[simp] theorem remainingEntry_getD {α : Type} [DecidableEq α] (set : Finset α) :
    (remainingEntry set).getD ∅ = set := by
  unfold remainingEntry
  split <;> simp_all

theorem update_ne {κ α : Type} [DecidableEq κ] [DecidableEq α] {map : κ → Option (Finset α)}
    (h : ∀ key, map key ≠ some ∅) {changed : κ} {set : Finset α} (key : κ) :
    Function.update map changed (remainingEntry set) key ≠ some ∅ := by
  by_cases key = changed <;> simp_all [remainingEntry]

namespace SubscriptionHub
variable (hub : SubscriptionHub τ σ) (tripId : τ) (sink : σ)

def sinksOf : Finset σ := (hub.byTrip tripId).getD ∅

def tripsOf : Finset τ := (hub.bySink sink).getD ∅

/-- The hub once `Subscribe` has made sure that the trip has a set. -/
def listed : SubscriptionHub τ σ :=
  { hub with byTrip := Function.update hub.byTrip tripId (some (hub.sinksOf tripId)) }

def subscribe : Option τ → Option σ → SubscriptionHub τ σ × Option SubscribeError
  | some tripId, some sink =>
    if sink ∈ hub.sinksOf tripId then (hub.listed tripId, none)
    else if hub.maxSubscriptions ≤ (hub.tripsOf sink).card then (hub.listed tripId, some .capacity)
    else
      ({ hub with
        byTrip := Function.update hub.byTrip tripId (some (insert sink (hub.sinksOf tripId)))
        bySink := Function.update hub.bySink sink (some (insert tripId (hub.tripsOf sink))) }, none)
  | _, _ => (hub, some .identityInvalid)

def removeLocked : SubscriptionHub τ σ :=
  match hub.byTrip tripId with
  | none => hub
  | some trip =>
    { hub with
      byTrip := Function.update hub.byTrip tripId (remainingEntry (trip.erase sink))
      bySink := Function.update hub.bySink sink (remainingEntry ((hub.tripsOf sink).erase tripId)) }

def unsubscribe : Option τ → Option σ → SubscriptionHub τ σ
  | some tripId, some sink => hub.removeLocked tripId sink
  | _, _ => hub

def removeSink (order : List τ) : SubscriptionHub τ σ :=
  order.foldl (fun hub tripId => hub.removeLocked tripId sink) hub

/-- The two maps are inverse to each other, no sink keeps an empty set and
none has too many trips. -/
structure Indexed : Prop where
  inverse : ∀ tripId sink, sink ∈ hub.sinksOf tripId ↔ tripId ∈ hub.tripsOf sink
  occupied : ∀ sink, hub.bySink sink ≠ some ∅
  bounded : ∀ sink, (hub.tripsOf sink).card ≤ hub.maxSubscriptions

def Tidy : Prop := ∀ tripId, hub.byTrip tripId ≠ some ∅

variable {hub tripId sink}

theorem mem_sinksOf_removeLocked : other ∈ (hub.removeLocked tripId sink).sinksOf trip ↔
    other ∈ hub.sinksOf trip ∧ ¬(trip = tripId ∧ other = sink) := by
  unfold removeLocked
  split <;> by_cases trip = tripId <;> simp_all [sinksOf, and_comm]

theorem mem_tripsOf_removeLocked (h : hub.Indexed) :
    trip ∈ (hub.removeLocked tripId sink).tripsOf other ↔
      trip ∈ hub.tripsOf other ∧ ¬(trip = tripId ∧ other = sink) := by
  have hinv := h.inverse trip other
  unfold removeLocked
  split <;> by_cases trip = tripId <;> by_cases other = sink <;> simp_all [sinksOf, tripsOf]

theorem Indexed.removeLocked (h : hub.Indexed) : (hub.removeLocked tripId sink).Indexed := by
  have hmax : (hub.removeLocked tripId sink).maxSubscriptions = hub.maxSubscriptions := by
    unfold SubscriptionHub.removeLocked
    split <;> rfl
  refine ⟨fun trip other => ?_, fun other => ?_, fun other => ?_⟩
  · rw [mem_sinksOf_removeLocked, mem_tripsOf_removeLocked h, h.inverse]
  · unfold SubscriptionHub.removeLocked
    split
    · exact h.occupied other
    · exact update_ne h.occupied other
  · rw [hmax]
    refine le_trans (Finset.card_le_card fun trip htrip => ?_) (h.bounded other)
    exact ((mem_tripsOf_removeLocked h).mp htrip).1

theorem Tidy.removeLocked (h : hub.Tidy) : (hub.removeLocked tripId sink).Tidy := by
  unfold SubscriptionHub.removeLocked
  split
  · exact h
  · exact update_ne h

/-- The call that stores an empty set: the sink is at its bound and the trip
has no entry yet. -/
def strandsEntry : Option τ → Option σ → Bool
  | some tripId, some sink =>
    decide (hub.byTrip tripId = none ∧ hub.maxSubscriptions ≤ (hub.tripsOf sink).card)
  | _, _ => false

omit [DecidableEq σ] in
theorem listed_eq_iff : hub.listed tripId = hub ↔ hub.byTrip tripId ≠ none := by
  obtain ⟨-, byTrip, -⟩ := hub
  cases hentry : byTrip tripId <;> simp [listed, sinksOf, hentry, Function.update_eq_self_iff]

omit [DecidableEq σ] in
theorem Tidy.listed_iff (h : hub.Tidy) : (hub.listed tripId).Tidy ↔ hub.byTrip tripId ≠ none := by
  constructor
  · intro htidy hnone
    exact htidy tripId (by simp [listed, sinksOf, hnone])
  · intro hne
    rwa [listed_eq_iff.mpr hne]

omit [DecidableEq σ] in
theorem Indexed.listed (h : hub.Indexed) : (hub.listed tripId).Indexed := by
  refine ⟨fun trip other => Iff.trans ?_ (h.inverse trip other), h.occupied, h.bounded⟩
  by_cases htrip : trip = tripId
  · subst htrip
    simp [SubscriptionHub.listed, sinksOf]
  · simp [SubscriptionHub.listed, sinksOf, htrip]

theorem Indexed.insert (h : hub.Indexed) (hroom : (hub.tripsOf sink).card < hub.maxSubscriptions) :
    Indexed { hub with
      byTrip := Function.update hub.byTrip tripId (some (insert sink (hub.sinksOf tripId)))
      bySink := Function.update hub.bySink sink (some (insert tripId (hub.tripsOf sink))) } where
  inverse trip other := by
    have hinv := h.inverse trip other
    by_cases htrip : trip = tripId <;> by_cases hother : other = sink <;>
      simp_all [sinksOf, tripsOf]
  occupied other := by
    by_cases hother : other = sink
    · subst hother
      simp
    · simpa [hother] using h.occupied other
  bounded other := by
    by_cases hother : other = sink
    · subst hother
      have hcard := Finset.card_insert_le tripId (hub.tripsOf other)
      simp only [tripsOf, Function.update_self, Option.getD_some] at hcard hroom ⊢
      omega
    · simpa [tripsOf, hother] using h.bounded other

/-- One call of `Subscribe`: it keeps the maps inverse, and it strands an empty
entry exactly when it fails and yet changes the hub. -/
theorem Indexed.subscribe_spec (h : hub.Indexed) (tripId : Option τ) (sink : Option σ) :
    (hub.subscribe tripId sink).1.Indexed ∧
    (hub.Tidy → ((hub.subscribe tripId sink).1.Tidy ↔ hub.strandsEntry tripId sink = false)) ∧
    (((hub.subscribe tripId sink).2 ≠ none → (hub.subscribe tripId sink).1 = hub) ↔
      hub.strandsEntry tripId sink = false) := by
  match tripId, sink with
  | none, _ | some _, none => simp [subscribe, strandsEntry, h]
  | some tripId, some sink =>
    simp only [subscribe, strandsEntry, decide_eq_false_iff_not]
    split
    next hmem =>
      have hne : hub.byTrip tripId ≠ none := by
        intro hnone
        simp [sinksOf, hnone] at hmem
      simp [listed_eq_iff.mpr hne, h, hne]
    next =>
      split
      next hfull =>
        refine ⟨h.listed, fun htidy => ?_, ?_⟩
        · simp [htidy.listed_iff, hfull]
        · simp [listed_eq_iff, hfull]
      next hroom =>
        refine ⟨h.insert (not_le.mp hroom), fun htidy => ?_, by simp [hroom]⟩
        simp only [hroom, and_false, not_false_eq_true, iff_true]
        intro trip
        by_cases htrip : trip = tripId
        · subst htrip
          simp
        · simpa [htrip] using htidy trip

end SubscriptionHub

namespace HubState
variable (state : HubState τ σ)

def start (maxSubscriptions : Nat) : HubState τ σ :=
  ⟨⟨maxSubscriptions, fun _ => none, fun _ => none⟩, []⟩

def step : HubCall τ σ → HubState τ σ
  | .subscribe tripId sink => { state with hub := (state.hub.subscribe tripId sink).1 }
  | .unsubscribe tripId sink => { state with hub := state.hub.unsubscribe tripId sink }
  | .removeSink (some sink) order =>
    if order.Nodup ∧ order.toFinset = state.hub.tripsOf sink then
      { state with hub := state.hub.removeSink sink order }
    else state
  | .publishTrip (some tripId) order =>
    let sinks := state.hub.sinksOf tripId
    if order.Nodup ∧ order.toFinset = sinks then
      { state with publications := state.publications ++ [⟨tripId, sinks, [], order⟩] }
    else state
  | .deliver index failed =>
    match state.publications[index]? with
    | some ⟨tripId, subscribed, delivered, sink :: waiting⟩ =>
      { hub := if failed then state.hub.unsubscribe (some tripId) (some sink) else state.hub
        publications := state.publications.set index
          ⟨tripId, subscribed, delivered ++ [sink], waiting⟩ }
    | _ => state
  | .removeSink none _ | .publishTrip none _ => state

/-- Every sink subscribed at its start is offered the payload once, and no other. -/
def DeliversExactly (publication : Publication τ σ) : Prop :=
  (publication.delivered ++ publication.waiting).Nodup ∧
    (publication.delivered ++ publication.waiting).toFinset = publication.subscribed

/-- What holds whatever the calls are. -/
structure Sound : Prop where
  indexed : state.hub.Indexed
  published : ∀ publication ∈ state.publications, DeliversExactly publication

/-- A failed `Subscribe` changes nothing, and offering the payload to a sink
removes that sink's subscription to the trip if it fails and no other. -/
def CallExact : HubCall τ σ → Prop
  | .subscribe tripId sink => (state.hub.subscribe tripId sink).2 ≠ none →
      state.step (.subscribe tripId sink) = state
  | .deliver index failed => ∀ publication sink waiting,
      state.publications[index]? = some publication → publication.waiting = sink :: waiting →
      ∀ tripId other, other ∈ (state.step (.deliver index failed)).hub.sinksOf tripId ↔
        other ∈ state.hub.sinksOf tripId ∧
          ¬(failed ∧ tripId = publication.tripId ∧ other = sink)
  | _ => True

def strandsEntry : HubCall τ σ → Bool
  | .subscribe tripId sink => state.hub.strandsEntry tripId sink
  | _ => false

variable {state}

/-- A property that every removal keeps survives every call, if `Subscribe`
keeps it. -/
theorem step_hub {property : SubscriptionHub τ σ → Prop}
    (hremove : ∀ hub tripId sink, property hub → property (hub.removeLocked tripId sink))
    (h : property state.hub) (call : HubCall τ σ)
    (hsubscribe : ∀ tripId sink, call = .subscribe tripId sink →
      property (state.hub.subscribe tripId sink).1) :
    property (state.step call).hub := by
  have hunsubscribe : ∀ tripId sink, property (state.hub.unsubscribe tripId sink) := by
    intro tripId sink
    fun_cases SubscriptionHub.unsubscribe state.hub tripId sink
    · exact hremove _ _ _ h
    · exact h
  fun_cases HubState.step state call
  case case1 => exact hsubscribe _ _ rfl
  case case2 => exact hunsubscribe _ _
  case case3 sink order _ =>
    exact List.foldlRecOn order _ h fun hub hhub tripId _ => hremove hub tripId sink hhub
  case case7 index failed _ _ _ _ _ _ =>
    cases failed
    · exact h
    · exact hunsubscribe (some _) (some _)
  all_goals exact h

theorem Sound.step (h : state.Sound) (call : HubCall τ σ) : (state.step call).Sound := by
  refine ⟨step_hub (fun _ _ _ h => h.removeLocked) h.indexed call
    fun tripId sink _ => (h.indexed.subscribe_spec tripId sink).1, ?_⟩
  fun_cases HubState.step state call
  case case5 horder =>
    intro publication hmem
    rcases List.mem_append.mp hmem with hmem | hmem
    · exact h.published publication hmem
    · rw [List.mem_singleton.mp hmem]
      exact horder
  case case7 hfound =>
    intro publication hmem
    rcases List.mem_or_eq_of_mem_set hmem with hmem | rfl
    · exact h.published publication hmem
    · simpa [DeliversExactly] using h.published _ (List.mem_of_getElem? hfound)
  all_goals exact h.published

theorem step_tidy_iff (h : state.Sound) (htidy : state.hub.Tidy) (call : HubCall τ σ) :
    (state.step call).hub.Tidy ↔ state.strandsEntry call = false := by
  cases call with
  | subscribe tripId sink => exact (h.indexed.subscribe_spec tripId sink).2.1 htidy
  | _ => exact iff_of_true (step_hub (fun _ _ _ h => h.removeLocked) htidy _ nofun) rfl

theorem callExact_iff (h : state.Sound) (call : HubCall τ σ) :
    state.CallExact call ↔ state.strandsEntry call = false := by
  cases call with
  | subscribe tripId sink =>
    refine Iff.trans ?_ (h.indexed.subscribe_spec tripId sink).2.2
    refine imp_congr_right fun _ => ⟨fun heq => congrArg HubState.hub heq, fun heq => ?_⟩
    simp [HubState.step, heq]
  | deliver _ failed =>
    refine iff_of_true (fun publication sink waiting hfound hwaiting tripId other => ?_) rfl
    obtain ⟨_, _, _, _⟩ := publication
    subst hwaiting
    cases failed
    · simp [HubState.step, hfound]
    · simpa [HubState.step, hfound, SubscriptionHub.unsubscribe] using
        SubscriptionHub.mem_sinksOf_removeLocked
  | _ => exact iff_of_true trivial rfl

omit [DecidableEq τ] in
theorem start_sound (maxSubscriptions : Nat) : (start maxSubscriptions : HubState τ σ).Sound :=
  ⟨⟨by simp [start, SubscriptionHub.sinksOf, SubscriptionHub.tripsOf], nofun,
    fun _ => Nat.zero_le _⟩, nofun⟩

/-- The index is exact throughout a run, and so is every call of it, exactly
when no `Subscribe` is refused for capacity on a trip without an entry: that
refusal leaves the trip with an empty set. -/
theorem subscriptions_exact_iff (maxSubscriptions : Nat) (history : List (HubCall τ σ)) :
    ((∀ done, done <+: history → (done.foldl step (start maxSubscriptions)).Sound ∧
        (done.foldl step (start maxSubscriptions)).hub.Tidy) ∧
      Along step CallExact (start maxSubscriptions) history) ↔
    Along step (fun state call => state.strandsEntry call = false) (start maxSubscriptions)
      history := by
  have hsound := start_sound (τ := τ) (σ := σ) maxSubscriptions
  have hruns : ∀ done : List (HubCall τ σ), (done.foldl step (start maxSubscriptions)).Sound :=
    fun done => List.foldlRecOn done _ hsound fun _ h call _ => h.step call
  have htidy := safe_iff_along (fun state call (h : Sound state) _ => h.step call)
    (fun _ call h htidy => step_tidy_iff h htidy call) hsound nofun history
  have hcalls := along_iff (fun state call (h : Sound state) => h.step call)
    (fun _ call h => callExact_iff h call) hsound history
  simp [hruns, htidy, hcalls]

/-- A sink at its bound of one trip is refused a second one, and that trip is
then listed with no sink. -/
theorem refused_subscribe_strands_entry :
    let state := [HubCall.subscribe (some 1) (some 7), .subscribe (some 2) (some 7)].foldl step
      (start 1 : HubState Nat Nat)
    state.hub.byTrip 2 = some ∅ ∧ ¬ state.hub.Tidy := by
  have hentry : ([HubCall.subscribe (some 1) (some 7), .subscribe (some 2) (some 7)].foldl step
      (start 1 : HubState Nat Nat)).hub.byTrip 2 = some ∅ := by decide
  exact ⟨hentry, fun htidy => htidy 2 hentry⟩

end HubState
end LiveRoute.Gateway
