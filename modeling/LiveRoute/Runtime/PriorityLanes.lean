import LiveRoute.Library.Runs
import LiveRoute.Runtime.PlanningWork

/-! The bounded priority lanes of a shard. A lane hands its values out in the
order in which it took them, and the counter of preferred pops bounds how many
critical and high values pass a normal one that waits. -/
namespace LiveRoute.Runtime
open Runs List

structure PriorityLaneCapacities where
  (critical high normal advisory : Nat)

def PriorityLaneCapacities.isValid (capacities : PriorityLaneCapacities) : Bool :=
  decide (capacities.critical ≠ 0) && decide (capacities.high ≠ 0) &&
    decide (capacities.normal ≠ 0) && decide (capacities.advisory ≠ 0)

def PriorityLaneCapacities.capacityFor (capacities : PriorityLaneCapacities) : EventPriority → Nat
  | .critical => capacities.critical
  | .high => capacities.high
  | .normal => capacities.normal
  | .advisory => capacities.advisory

/-- The arguments that the constructor does not refuse. -/
structure LaneConfiguration where
  capacities : PriorityLaneCapacities
  maxPreferredPopsBeforeNormal : Nat
  valid : capacities.isValid ∧ maxPreferredPopsBeforeNormal ≠ 0

structure BoundedPriorityLanes (α : Type) where
  config : LaneConfiguration
  lanes : EventPriority → List α
  preferredPops : Nat

inductive LaneOperation (α : Type) where
  /-- No priority stands for a value outside the enumeration. -/
  | tryPush (priority : Option EventPriority) (value : α)
  | tryPop

inductive LaneEvent (α : Type) where
  | refused
  | accepted (priority : EventPriority) (value : α)
  | popped (priority : EventPriority) (value : α)
  | empty

namespace BoundedPriorityLanes
variable {α : Type} {lanes : BoundedPriorityLanes α}

def new (config : LaneConfiguration) : BoundedPriorityLanes α := ⟨config, fun _ => [], 0⟩

def tryPush (lanes : BoundedPriorityLanes α) (priority : Option EventPriority) (value : α) :
    BoundedPriorityLanes α × LaneEvent α :=
  match priority with
  | none => (lanes, .refused)
  | some priority =>
    if (lanes.lanes priority).length = lanes.config.capacities.capacityFor priority then
      (lanes, .refused)
    else
      ({ lanes with
          lanes := Function.update lanes.lanes priority (lanes.lanes priority ++ [value]) },
        .accepted priority value)

def pop (lanes : BoundedPriorityLanes α) (priority : EventPriority) :
    BoundedPriorityLanes α × LaneEvent α :=
  match lanes.lanes priority with
  | [] => (lanes, .empty)
  | value :: rest =>
    ({ lanes with
        lanes := Function.update lanes.lanes priority rest
        preferredPops :=
          if priority = .critical ∨ priority = .high then
            if lanes.preferredPops < lanes.config.maxPreferredPopsBeforeNormal then
              lanes.preferredPops + 1
            else lanes.preferredPops
          else 0 },
      .popped priority value)

/-- The lane that `tryPop` turns to. -/
def nextLane (lanes : BoundedPriorityLanes α) : Option EventPriority :=
  if (lanes.lanes .normal).length ≠ 0 ∧
      lanes.config.maxPreferredPopsBeforeNormal ≤ lanes.preferredPops then
    some .normal
  else
    [EventPriority.critical, .high, .normal, .advisory].find? fun priority =>
      !(lanes.lanes priority).isEmpty

def tryPop (lanes : BoundedPriorityLanes α) : BoundedPriorityLanes α × LaneEvent α :=
  match lanes.nextLane with
  | some priority => lanes.pop priority
  | none => (lanes, .empty)

def step (lanes : BoundedPriorityLanes α) : LaneOperation α → BoundedPriorityLanes α × LaneEvent α
  | .tryPush priority value => lanes.tryPush priority value
  | .tryPop => lanes.tryPop

def run (lanes : BoundedPriorityLanes α) :
    List (LaneOperation α) → BoundedPriorityLanes α × List (LaneEvent α)
  | [] => (lanes, [])
  | operation :: rest =>
    let (next, event) := lanes.step operation
    let (final, events) := next.run rest
    (final, event :: events)

def acceptedBy (priority : EventPriority) : LaneEvent α → Option α
  | .accepted lane value => if lane = priority then some value else none
  | _ => none

def poppedFrom (priority : EventPriority) : LaneEvent α → Option α
  | .popped lane value => if lane = priority then some value else none
  | _ => none

theorem nextLane_eq_none_iff : lanes.nextLane = none ↔ ∀ priority, lanes.lanes priority = [] := by
  unfold nextLane
  split
  next hwaits =>
    simp only [reduceCtorEq, false_iff]
    exact fun hnone => hwaits.1 (by simp [hnone])
  next =>
    simp only [find?_eq_none, mem_cons, not_mem_nil, or_false, Bool.not_eq_true,
      Bool.not_eq_false', List.isEmpty_iff]
    constructor
    · intro h priority
      cases priority <;> simp [h]
    · exact fun h priority _ => h priority

/-- The lane that is served has a value. A lane before the normal one is served
only below the bound while a normal value waits, the advisory lane not at all. -/
theorem nextLane_eq_some (h : lanes.nextLane = some priority) :
    lanes.lanes priority ≠ [] ∧ (lanes.lanes .normal ≠ [] → priority ≠ .advisory ∧
      (priority ≠ .normal → lanes.preferredPops < lanes.config.maxPreferredPopsBeforeNormal)) := by
  unfold nextLane at h
  split at h
  next hwaits =>
    cases h
    exact ⟨by simpa using hwaits.1, fun _ => by simp⟩
  next hbelow =>
    have hserved : lanes.lanes priority ≠ [] := by simpa using find?_some h
    refine ⟨hserved, fun hwaits => ⟨?_, fun _ => ?_⟩⟩
    · rintro rfl
      have hnormal : (lanes.lanes .normal).isEmpty = false := by simpa using hwaits
      cases hcritical : (lanes.lanes .critical).isEmpty <;>
        cases hhigh : (lanes.lanes .high).isEmpty <;>
        simp [List.find?, hcritical, hhigh, hnormal] at h
    · have hcount : (lanes.lanes .normal).length ≠ 0 := by simpa using hwaits
      omega

theorem tryPop_empty_iff : lanes.tryPop.2 = .empty ↔ ∀ priority, lanes.lanes priority = [] := by
  rw [← nextLane_eq_none_iff]
  unfold tryPop
  split
  next priority hnext =>
    obtain ⟨value, rest, hlane⟩ := exists_cons_of_ne_nil (nextLane_eq_some hnext).1
    simp [pop, hlane, hnext]
  next hnone => simp [hnone]

def acceptedValues (priority : EventPriority) (events : List (LaneEvent α)) : List α :=
  events.flatMap fun event => (acceptedBy priority event).toList

def poppedValues (priority : EventPriority) (events : List (LaneEvent α)) : List α :=
  events.flatMap fun event => (poppedFrom priority event).toList

def preferredCount (events : List (LaneEvent α)) : Nat :=
  (poppedValues .critical events).length + (poppedValues .high events).length

/-- A normal value waits whenever an operation starts. -/
def NormalWaits (lanes : BoundedPriorityLanes α) (operations : List (LaneOperation α)) : Prop :=
  Along (fun lanes operation => (lanes.step operation).1) (fun lanes _ => lanes.lanes .normal ≠ [])
    lanes operations

/-- What calls make of the lanes. While a normal value waits the counter pays
for each value that passes it. -/
structure Serves (lanes next : BoundedPriorityLanes α) (events : List (LaneEvent α))
    (waits : Prop) : Prop where
  config : next.config = lanes.config
  queued : ∀ priority, lanes.lanes priority ++ acceptedValues priority events =
    poppedValues priority events ++ next.lanes priority
  bounded : ∀ priority,
    (lanes.lanes priority).length ≤ lanes.config.capacities.capacityFor priority →
      (next.lanes priority).length ≤ next.config.capacities.capacityFor priority
  overtakes : waits → poppedValues .advisory events = [] ∧ (poppedValues .normal events = [] →
      preferredCount events + lanes.preferredPops ≤
          max lanes.preferredPops lanes.config.maxPreferredPopsBeforeNormal ∧
        next.preferredPops = lanes.preferredPops + preferredCount events)

theorem Serves.append {next : BoundedPriorityLanes α} (hfirst : Serves lanes next events waits)
    (hlater : Serves next final later waitsLater) :
    Serves lanes final (events ++ later) (waits ∧ waitsLater) where
  config := hlater.config.trans hfirst.config
  queued priority := by
    have hlane := hfirst.queued priority
    have hrest := hlater.queued priority
    simp only [acceptedValues, poppedValues, flatMap_append, append_assoc] at hlane hrest ⊢
    rw [← hrest, ← append_assoc, hlane, append_assoc]
  bounded priority hbound := hlater.bounded priority (hfirst.bounded priority hbound)
  overtakes := by
    rintro ⟨hwaits, hwaitsLater⟩
    obtain ⟨hadvisory, hcount⟩ := hfirst.overtakes hwaits
    obtain ⟨hadvisoryLater, hcountLater⟩ := hlater.overtakes hwaitsLater
    simp only [preferredCount, poppedValues, flatMap_append, append_eq_nil_iff, length_append] at *
    refine ⟨⟨hadvisory, hadvisoryLater⟩, fun hnormal => ?_⟩
    obtain ⟨hfirst', hpops⟩ := hcount hnormal.1
    obtain ⟨hlater', hpopsLater⟩ := hcountLater hnormal.2
    rw [hfirst.config] at hlater'
    omega

theorem serves_step (lanes : BoundedPriorityLanes α) (operation : LaneOperation α) : Serves lanes
    (lanes.step operation).1 [(lanes.step operation).2] (lanes.lanes .normal ≠ []) := by
  have hidle : ∀ event : LaneEvent α, event = .refused ∨ event = .empty →
      Serves lanes lanes [event] (lanes.lanes .normal ≠ []) := by
    rintro event (rfl | rfl) <;> constructor <;>
      simp [acceptedValues, poppedValues, preferredCount, acceptedBy, poppedFrom]
  cases operation with
  | tryPush =>
    simp only [step, tryPush]
    split
    · exact hidle _ (.inl rfl)
    rename_i lane
    split
    · exact hidle _ (.inl rfl)
    constructor
    case config => rfl
    case queued =>
      intro other
      by_cases hlane : other = lane
      · simp [acceptedValues, poppedValues, acceptedBy, poppedFrom, hlane]
      · simp [acceptedValues, poppedValues, acceptedBy, poppedFrom, hlane, Ne.symm hlane]
    case bounded =>
      intro other hbound
      by_cases hlane : other = lane
      · subst hlane
        simp only [Function.update_self, length_append, length_singleton]
        omega
      · simpa [hlane] using hbound
    case overtakes => simp [poppedValues, preferredCount, poppedFrom]
  | tryPop =>
    simp only [step, tryPop]
    split
    next lane hnext =>
      obtain ⟨hserved, hturn⟩ := nextLane_eq_some hnext
      obtain ⟨value, rest, hlane⟩ := exists_cons_of_ne_nil hserved
      simp only [pop, hlane]
      constructor
      case config => rfl
      case queued =>
        intro other
        by_cases hsame : other = lane
        · simp [acceptedValues, poppedValues, acceptedBy, poppedFrom, hsame, hlane]
        · simp [acceptedValues, poppedValues, acceptedBy, poppedFrom, hsame, Ne.symm hsame]
      case bounded =>
        intro other hbound
        by_cases hsame : other = lane
        · subst hsame
          rw [hlane, length_cons] at hbound
          simp only [Function.update_self]
          omega
        · simpa [hsame] using hbound
      case overtakes =>
        intro hwaits
        obtain ⟨hother, hbelow⟩ := hturn hwaits
        cases lane with
        | advisory => exact absurd rfl hother
        | normal => simp [poppedValues, poppedFrom]
        | critical | high =>
          have hroom := hbelow (by simp)
          simp [poppedValues, preferredCount, poppedFrom, hroom]
          omega
    · exact hidle _ (.inr rfl)

theorem serves_run (lanes : BoundedPriorityLanes α) (operations : List (LaneOperation α)) :
    Serves lanes (lanes.run operations).1 (lanes.run operations).2
      (lanes.NormalWaits operations) := by
  induction operations generalizing lanes with
  | nil => constructor <;> simp [run, acceptedValues, poppedValues, preferredCount]
  | cons operation _ ih => exact (lanes.serves_step operation).append (ih _)

end BoundedPriorityLanes

end LiveRoute.Runtime
