import Mathlib.Data.List.Basic
import Mathlib.Logic.Function.Basic

/-! Completion reservations of the sharded executor. A reservation is a
move-only object that holds a place in the completion queue of its shard; the
objects alive are numbered in the order they were created, and one that was
moved from or destroyed holds nothing. -/
namespace LiveRoute.Runtime
open List

structure CompletionState (α : Type) where
  tasks : List α
  reserved : Nat

structure CompletionReservation (ι : Type) where
  state : Option ι
  active : Bool

structure ShardedExecutor (ι α : Type) where
  completion : ι → CompletionState α
  reservations : List (CompletionReservation ι)

/-- The atomic parts of the threads' work. An empty task is `none`. -/
inductive ExecutorStep (ι α : Type)
  | tryReserveCompletion (shard : ι)
  | submitCompletion (index : Nat) (task : Option α)
  | moveConstruct (source : Nat)
  | moveAssign (target source : Nat)
  | destroy (index : Nat)
  | drain (shard : ι)

variable {ι α : Type} [DecidableEq ι]

def CompletionReservation.empty : CompletionReservation ι := ⟨none, false⟩

def CompletionReservation.holds (reservation : CompletionReservation ι) (shard : ι) : Bool :=
  reservation.active && decide (reservation.state = some shard)

def CompletionReservation.places (reservation : CompletionReservation ι) (shard : ι) : Nat :=
  if reservation.holds shard then 1 else 0

namespace ShardedExecutor
variable (executor : ShardedExecutor ι α)

def start : ShardedExecutor ι α := ⟨fun _ => ⟨[], 0⟩, []⟩

def setState (shard : ι) (state : CompletionState α) : ShardedExecutor ι α :=
  { executor with completion := Function.update executor.completion shard state }

def release (reservation : CompletionReservation ι) : ShardedExecutor ι α :=
  match reservation with
  | ⟨some shard, true⟩ =>
    let state := executor.completion shard
    executor.setState shard { state with reserved := state.reserved - 1 }
  | _ => executor

-- the completion capacity that the executor was constructed with
variable (capacity : Nat)

def tryReserveCompletion (shard : ι) : Option (ShardedExecutor ι α × CompletionReservation ι) :=
  let state := executor.completion shard
  if capacity ≤ state.tasks.length + state.reserved then none
  else
    some (executor.setState shard { state with reserved := state.reserved + 1 }, ⟨some shard, true⟩)

/-- The reservation is a parameter by value: it is destroyed on return. -/
def submitCompletion (reservation : CompletionReservation ι) (task : Option α) :
    ShardedExecutor ι α × Bool :=
  match reservation, task with
  | ⟨some shard, true⟩, some task =>
    let state := executor.completion shard
    if state.reserved = 0 ∨ capacity ≤ state.tasks.length then
      (executor.release reservation, false)
    else
      (executor.setState shard
        { state with reserved := state.reserved - 1, tasks := state.tasks ++ [task] }, true)
  | _, _ => (executor.release reservation, false)

/-- Moving from an object leaves it with a null state and inactive. -/
def take (index : Nat) : CompletionReservation ι × ShardedExecutor ι α :=
  (executor.reservations.getD index .empty,
    { executor with reservations := executor.reservations.set index .empty })

def create (reservation : CompletionReservation ι) : ShardedExecutor ι α :=
  { executor with reservations := executor.reservations ++ [reservation] }

def step : ExecutorStep ι α → ShardedExecutor ι α
  | .tryReserveCompletion shard =>
    match executor.tryReserveCompletion capacity shard with
    | none => executor
    | some (reserved, reservation) => reserved.create reservation
  | .submitCompletion index task =>
    let (reservation, executor) := executor.take index
    (executor.submitCompletion capacity reservation task).1
  | .moveConstruct source =>
    let (reservation, executor) := executor.take source
    executor.create reservation
  | .moveAssign target source =>
    if target = source ∨ executor.reservations.length ≤ target then executor
    else
      let (old, executor) := executor.take target
      let (reservation, executor) := (executor.release old).take source
      { executor with reservations := executor.reservations.set target reservation }
  | .destroy index =>
    let (reservation, executor) := executor.take index
    executor.release reservation
  | .drain shard =>
    let state := executor.completion shard
    executor.setState shard { state with tasks := state.tasks.tail }

/-- The task that the worker of a shard takes from its queue in a step. -/
def reported (shard : ι) : ExecutorStep ι α → List α
  | .drain other => if other = shard then (executor.completion shard).tasks.head?.toList else []
  | _ => []

/-- The task that a step submits with a live reservation of the shard. -/
def submitted (shard : ι) : ExecutorStep ι α → List α
  | .submitCompletion index task =>
    if (executor.reservations.getD index .empty).holds shard then task.toList else []
  | _ => []

def along (output : ShardedExecutor ι α → ExecutorStep ι α → List α)
    (executor : ShardedExecutor ι α) :
    List (ExecutorStep ι α) → List α
  | [] => []
  | action :: rest => output executor action ++ along output (executor.step capacity action) rest

def liveCount (shard : ι) : Nat := executor.reservations.countP fun held => held.holds shard

/-- Every place that is counted as reserved belongs to one live reservation:
an object of the program or the one `inHand`, which is being moved. -/
def Accounted (inHand : CompletionReservation ι) : Prop :=
  ∀ shard, (executor.completion shard).reserved = executor.liveCount shard + inHand.places shard ∧
    (executor.completion shard).tasks.length + (executor.completion shard).reserved ≤ capacity

variable {executor capacity} {held : CompletionReservation ι}

@[simp] theorem places_empty (shard : ι) : CompletionReservation.empty.places shard = 0 := rfl

theorem countP_set {items : List (CompletionReservation ι)} (held : CompletionReservation ι)
    (shard : ι) (hindex : index < items.length) :
    (items.set index held).countP (fun held => held.holds shard) +
        (items.getD index .empty).places shard =
      items.countP (fun held => held.holds shard) + held.places shard := by
  induction items generalizing index with
  | nil => simp at hindex
  | cons _ _ ih =>
    cases index with
    | zero =>
      simp only [set_cons_zero, getD_cons_zero, countP_cons, CompletionReservation.places]
      omega
    | succ =>
      have hrest := ih (Nat.lt_of_succ_lt_succ hindex)
      simp only [set_cons_succ, getD_cons_succ, countP_cons]
      omega

theorem Accounted.take (h : executor.Accounted capacity .empty) (index : Nat) :
    (executor.take index).2.Accounted capacity (executor.take index).1 := by
  intro shard
  refine ⟨(h shard).1.trans ?_, (h shard).2⟩
  by_cases hindex : index < executor.reservations.length
  · exact (countP_set _ _ hindex).symm
  · rw [Nat.not_lt] at hindex
    simp [ShardedExecutor.take, liveCount, set_eq_of_length_le hindex, hindex]

theorem Accounted.create (h : executor.Accounted capacity held) :
    (executor.create held).Accounted capacity .empty := by
  intro shard
  refine ⟨(h shard).1.trans ?_, (h shard).2⟩
  rw [places_empty]
  simp [ShardedExecutor.create, liveCount, CompletionReservation.places, countP_append]

theorem Accounted.place (h : executor.Accounted capacity held)
    (htarget : target < executor.reservations.length)
    (hfree : executor.reservations.getD target .empty = .empty) :
    { executor with
      reservations := executor.reservations.set target held }.Accounted capacity .empty := by
  intro shard
  refine ⟨(h shard).1.trans ?_, (h shard).2⟩
  have hset := countP_set held shard htarget
  rw [hfree] at hset
  exact hset.symm

theorem places_ne {shard : ι} (h : other ≠ shard) :
    CompletionReservation.places ⟨some shard, active⟩ other = 0 := by
  simp [CompletionReservation.places, CompletionReservation.holds, h.symm]

theorem places_self : CompletionReservation.places ⟨some (shard : ι), true⟩ shard = 1 := by
  simp [CompletionReservation.places, CompletionReservation.holds]

/-- A change of one shard keeps the account if its counter follows the
reservation in hand. -/
theorem Accounted.setState {next : CompletionReservation ι}
    (h : executor.Accounted capacity held)
    (hothers : ∀ other, other ≠ shard → next.places other = held.places other)
    (hreserved : state.reserved + held.places shard =
      (executor.completion shard).reserved + next.places shard)
    (hroom : state.tasks.length + state.reserved ≤ capacity) :
    (executor.setState shard state).Accounted capacity next := by
  intro other
  have hother := h other
  by_cases hsame : other = shard
  · subst hsame
    simp only [ShardedExecutor.setState, liveCount, Function.update_self] at hother ⊢
    omega
  · simp only
      [ShardedExecutor.setState, liveCount, Function.update_of_ne hsame, hothers other hsame]
    exact hother

theorem release_reservations : (executor.release held).reservations = executor.reservations := by
  unfold release
  split <;> rfl

theorem setState_tasks (shard other : ι) (state : CompletionState α) :
    ((executor.setState other state).completion shard).tasks =
      if shard = other then state.tasks else (executor.completion shard).tasks := by
  simp only [setState, Function.update_apply]
  split <;> rfl

theorem setState_keeps_tasks {other : ι} {state : CompletionState α}
    (h : state.tasks = (executor.completion other).tasks) (shard : ι) :
    ((executor.setState other state).completion shard).tasks =
      (executor.completion shard).tasks := by
  rw [setState_tasks]
  split
  next hsame => rw [hsame, h]
  next => rfl

theorem release_tasks (shard : ι) :
    ((executor.release held).completion shard).tasks = (executor.completion shard).tasks := by
  fun_cases ShardedExecutor.release executor held
  case case1 => exact setState_keeps_tasks (by rfl) shard
  case case2 => rfl

theorem Accounted.release (h : executor.Accounted capacity held) :
    (executor.release held).Accounted capacity .empty := by
  fun_cases ShardedExecutor.release executor held
  case case1 shard state =>
    have hshard := h shard
    rw [places_self] at hshard
    refine h.setState (fun other hother => (places_ne hother).symm) ?_ ?_
    · rw [places_self, places_empty]
      dsimp only [state]
      omega
    · dsimp only [state]
      omega
  case case2 hidle =>
    intro shard
    have hshard := h shard
    have hplaces : held.places shard = 0 := by
      obtain ⟨_ | state, _ | _⟩ := held <;>
        simp_all [CompletionReservation.places, CompletionReservation.holds]
    rwa [hplaces] at hshard

/-- A live reservation has its place: the queue of its shard takes the task. -/
theorem submit_enqueues (h : executor.Accounted capacity ⟨some shard, true⟩) (task : α) :
    executor.submitCompletion capacity ⟨some shard, true⟩ (some task) =
      (executor.setState shard { executor.completion shard with
        reserved := (executor.completion shard).reserved - 1
        tasks := (executor.completion shard).tasks ++ [task] }, true) := by
  have hshard := h shard
  rw [places_self] at hshard
  rw [submitCompletion, if_neg]
  omega

theorem Accounted.submit (h : executor.Accounted capacity held) (task : Option α) :
    (executor.submitCompletion capacity held task).1.Accounted capacity .empty := by
  fun_cases ShardedExecutor.submitCompletion executor capacity held task
  case case2 shard task state hroom =>
    have hshard := h shard
    rw [places_self] at hshard
    refine h.setState (fun other hother => (places_ne hother).symm) ?_ ?_
    · rw [places_self, places_empty]
      dsimp only [state]
      omega
    · simp only [state, length_append, length_singleton]
      omega
  all_goals exact h.release

theorem Accounted.step (h : executor.Accounted capacity .empty) (action : ExecutorStep ι α) :
    (executor.step capacity action).Accounted capacity .empty := by
  cases action with
  | tryReserveCompletion shard =>
    rw [ShardedExecutor.step]
    fun_cases ShardedExecutor.tryReserveCompletion executor capacity shard
    · exact h
    next state hroom =>
      refine (h.setState (fun other hother => places_ne hother) ?_ ?_).create
      · rw [places_self, places_empty]
      · dsimp only [state] at hroom ⊢
        omega
  | submitCompletion index task => exact (h.take index).submit task
  | moveConstruct source => exact (h.take source).create
  | moveAssign target source =>
    rw [ShardedExecutor.step]
    split
    · exact h
    next hmoves =>
      rw [not_or, Nat.not_le] at hmoves
      refine ((h.take target).release.take source).place ?_ ?_
      · simpa [ShardedExecutor.take, release_reservations] using hmoves.2
      · simp [ShardedExecutor.take, release_reservations, getElem?_set, hmoves.2, Ne.symm hmoves.1]
  | destroy index => exact (h.take index).release
  | drain shard =>
    have hshard := h shard
    refine h.setState (fun _ _ => rfl) rfl ?_
    simp only [length_tail]
    omega

theorem Accounted.submit_tasks (h : executor.Accounted capacity held) (shard : ι)
    (task : Option α) :
    ((executor.submitCompletion capacity held task).1.completion shard).tasks =
      (executor.completion shard).tasks ++ if held.holds shard then task.toList else [] := by
  fun_cases ShardedExecutor.submitCompletion executor capacity held task
  case case1 other task state hfull =>
    have hother := h other
    rw [places_self] at hother
    dsimp only [state] at hfull
    omega
  case case2 other task state hroom =>
    rw [setState_tasks]
    by_cases hsame : shard = other
    · simp [hsame, CompletionReservation.holds, state]
    · simp [hsame, Ne.symm hsame, CompletionReservation.holds]
  case case3 hidle =>
    rw [release_tasks]
    obtain ⟨_ | state, _ | _⟩ := held <;> cases task <;> simp_all [CompletionReservation.holds]

/-- A worker takes tasks from the front, and only a live reservation adds one. -/
theorem Accounted.queue_step (h : executor.Accounted capacity .empty) (shard : ι)
    (action : ExecutorStep ι α) :
    executor.reported shard action ++ ((executor.step capacity action).completion shard).tasks =
      (executor.completion shard).tasks ++ executor.submitted shard action := by
  cases action with
  | tryReserveCompletion other =>
    rw [ShardedExecutor.step]
    fun_cases ShardedExecutor.tryReserveCompletion executor capacity other
    · simp [reported, submitted]
    · simp only [reported, submitted, ShardedExecutor.create, nil_append, append_nil]
      exact setState_keeps_tasks (by rfl) shard
  | submitCompletion index task => exact (h.take index).submit_tasks shard task
  | moveConstruct => exact (append_nil _).symm
  | moveAssign =>
    rw [ShardedExecutor.step]
    split
    · simp [reported, submitted]
    · exact (release_tasks shard).trans (append_nil _).symm
  | destroy => exact (release_tasks shard).trans (append_nil _).symm
  | drain other =>
    simp only [reported, submitted, ShardedExecutor.step, append_nil]
    rw [setState_tasks]
    by_cases hsame : shard = other
    · subst hsame
      cases (executor.completion shard).tasks <;> simp
    · simp [hsame, Ne.symm hsame]

theorem Accounted.queue_run (h : executor.Accounted capacity .empty) (shard : ι)
    (history : List (ExecutorStep ι α)) :
    executor.along capacity (fun executor => executor.reported shard) history ++
        ((history.foldl (fun executor => executor.step capacity) executor).completion shard).tasks =
      (executor.completion shard).tasks ++
        executor.along capacity (fun executor => executor.submitted shard) history := by
  induction history generalizing executor with
  | nil => simp [along]
  | cons action _ ih =>
    rw [along, along, foldl_cons, append_assoc, ih (h.step action), ← append_assoc, h.queue_step,
      append_assoc]

/-- Capacity is neither lost nor given twice in any interleaving. A place is
granted while there is room, the reservation stays live when it is moved and is
good for one completion, and the worker of the shard takes what was submitted
with live reservations, in order and once. -/
theorem completions_accounted (capacity : Nat) (history : List (ExecutorStep ι α)) (shard : ι) :
    let executor := history.foldl (fun executor => executor.step capacity) start
    let state := executor.completion shard
    state.tasks.length + state.reserved ≤ capacity ∧ state.reserved = executor.liveCount shard ∧
    (state.tasks.length + state.reserved < capacity →
      (executor.step capacity (.tryReserveCompletion shard)).reservations =
        executor.reservations ++ [⟨some shard, true⟩]) ∧
    (∀ index, executor.reservations[index]? = some ⟨some shard, true⟩ →
      (executor.step capacity (.moveConstruct index)).reservations =
        executor.reservations.set index .empty ++ [⟨some shard, true⟩] ∧
      (∀ target < executor.reservations.length, target ≠ index →
        (executor.step capacity (.moveAssign target index)).reservations =
          ((executor.reservations.set target .empty).set index .empty).set target
            ⟨some shard, true⟩) ∧
      ∀ task, ((executor.take index).2.submitCompletion capacity (executor.take index).1
          (some task)).2 ∧
        ((executor.step capacity (.submitCompletion index (some task))).completion shard).tasks =
          state.tasks ++ [task]) ∧
    start.along capacity (fun executor => executor.reported shard) history ++ state.tasks =
      start.along capacity (fun executor => executor.submitted shard) history := by
  intro executor state
  have hstart : (start : ShardedExecutor ι α).Accounted capacity .empty :=
    fun _ => ⟨rfl, Nat.zero_le _⟩
  have h : executor.Accounted capacity .empty :=
    List.foldlRecOn (motive := fun executor => Accounted executor capacity .empty) history _ hstart
      fun _ h action _ => h.step action
  refine ⟨(h shard).2, (h shard).1, fun hroom => ?_, fun index hlive => ⟨?_, ?_, fun task => ?_⟩,
    hstart.queue_run shard history⟩
  · simp only [ShardedExecutor.step, tryReserveCompletion]
    rw [if_neg (Nat.not_le_of_lt hroom)]
    rfl
  · simp [ShardedExecutor.step, ShardedExecutor.take, ShardedExecutor.create, hlive]
  · intro target htarget hother
    rw [ShardedExecutor.step, if_neg (by simp [hother, htarget])]
    simp [ShardedExecutor.take, release_reservations, hother, hlive]
  · have htaken : (executor.take index).1 = ⟨some shard, true⟩ := by
      simp [ShardedExecutor.take, hlive]
    have hhand := h.take index
    rw [htaken] at hhand
    rw [ShardedExecutor.step]
    dsimp only
    rw [htaken, submit_enqueues hhand]
    simp [setState, ShardedExecutor.take, state]

/-- A reserved place is moved, used and taken by the worker. -/
theorem moved_completion_reported :
    (start : ShardedExecutor Unit Nat).along 1 (fun executor => executor.reported ())
      [.tryReserveCompletion (), .moveConstruct 0, .submitCompletion 1 (some 7), .drain ()] =
        [7] := by
  have h := (completions_accounted 1 [.tryReserveCompletion (), .moveConstruct 0,
    .submitCompletion 1 (some 7), .drain ()] ()).2.2.2.2
  exact (append_nil _).symm.trans h

end ShardedExecutor
end LiveRoute.Runtime
