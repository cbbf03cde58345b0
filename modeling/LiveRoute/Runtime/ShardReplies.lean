import LiveRoute.Runtime.TripShard

/-! The answers of a shard. The turn that takes a request answers it, and no other
turn answers anything. -/
namespace LiveRoute.Runtime
open List

/-- Unbinding a stream is not answered. -/
def ShardTask.expectsReply : ShardTask → Bool
  | .unbind .. => false
  | _ => true

def ShardEffect.isReply : ShardEffect → Bool
  | .dispatching .. | .delivered _ => false
  | _ => true

def replyCount (effects : List ShardEffect) : Nat := effects.countP ShardEffect.isReply

namespace TripShard

def replies : TripShard → List ShardStep → Nat
  | _, [] => 0
  | shard, action :: rest => replyCount (shard.step action).2 + replies (shard.next action) rest

/-- The requests that a history queues and that expect an answer. -/
def admitted : TripShard → List ShardStep → Nat
  | _, [] => 0
  | shard, action :: rest =>
    (match action with
      | .submit task => if shard.accepting && task.expectsReply then 1 else 0
      | _ => 0) + admitted (shard.next action) rest

def waiting (shard : TripShard) : Nat := shard.queue.countP ShardTask.expectsReply

end TripShard

variable (trip : ShardTrip) (shard : TripShard)

theorem replyCount_dispatchPlanning :
    replyCount (trip.dispatchPlanning capacity pending).effects = 0 := by
  fun_cases ShardTrip.dispatchPlanning trip capacity pending <;> rfl

theorem replyCount_dispatchPending : replyCount (trip.dispatchPending view).effects = 0 := by
  fun_cases ShardTrip.dispatchPending trip view
  case case4 => exact replyCount_dispatchPlanning _
  all_goals rfl

theorem replyCount_finish : replyCount (trip.finish view completion).effects = 0 := by
  fun_cases ShardTrip.finish trip view completion
  all_goals exact replyCount_dispatchPending _

theorem replyCount_plan : replyCount (trip.plan view pending).effects = 0 := by
  fun_cases ShardTrip.plan trip view pending
  case case3 => exact replyCount_dispatchPending _
  case case4 => exact replyCount_dispatchPlanning _
  all_goals rfl

theorem replyCount_applyEvent : replyCount (trip.applyEvent view bytes request).effects = 1 := by
  unfold ShardTrip.applyEvent
  split
  · rfl
  dsimp only
  split
  · rfl
  · exact (countP_cons_of_pos rfl).trans (congrArg Nat.succ (replyCount_plan _))

theorem runTask_replies : replyCount (shard.runTask capacity task).2 =
      (if task.expectsReply then 1 else 0) ∧
    (shard.runTask capacity task).1.queue = shard.queue := by
  obtain ⟨bytes, accepting, trip, queue, inFlight, completions⟩ := shard
  cases trip with
  | none => cases task <;> exact ⟨rfl, rfl⟩
  | some trip =>
    cases task with
    | applyEvent => exact ⟨replyCount_applyEvent trip, rfl⟩
    | _ => exact ⟨rfl, rfl⟩

theorem popLane_count (h : popLane lane queue = some (task, rest)) :
    queue.countP ShardTask.expectsReply =
      (if task.expectsReply then 1 else 0) + rest.countP ShardTask.expectsReply := by
  obtain ⟨found, hfound, hrest⟩ := Option.map_eq_some_iff.mp h
  cases hrest
  obtain ⟨hlane, before, after, rfl, hothers⟩ := find?_eq_some_iff_append.mp hfound
  rw [eraseP_append_right _ (by simpa using hothers), eraseP_cons, hlane]
  simp only [cond_true, countP_append, countP_cons]
  omega

namespace TripShard

theorem step_replies (action : ShardStep) :
    replyCount (shard.step action).2 + (shard.next action).waiting =
      shard.waiting + shard.admitted [action] := by
  unfold next
  fun_cases TripShard.step shard action with
  | case1 task haccepting => simp [waiting, admitted, haccepting, countP_append, replyCount]
  | case2 task hrefused => simp [admitted, hrefused, replyCount]
  | case4 lane capacity task rest hpopped =>
    obtain ⟨hreplies, hqueue⟩ := runTask_replies { shard with queue := rest }
    rw [waiting, waiting, hreplies, hqueue, popLane_count hpopped]
    rfl
  | case8 =>
    unfold runCompletion
    split
    · exact Nat.zero_add _
    · exact (congrArg (· + _) (replyCount_finish _)).trans (Nat.zero_add _)
  | _ => exact Nat.zero_add _

/-- Over every run the answers given and the requests still queued are those that
were queued before or admitted since. -/
theorem requests_answered_once (history : List ShardStep) : shard.replies history +
    (shard.run history).waiting = shard.waiting + shard.admitted history := by
  induction history generalizing shard with
  | nil => exact Nat.zero_add _
  | cons action rest ih =>
    have hfirst := step_replies shard action
    have hrest := ih (shard.next action)
    simp only [replies, admitted, run, foldl_cons] at hfirst hrest ⊢
    omega

end TripShard
end LiveRoute.Runtime
