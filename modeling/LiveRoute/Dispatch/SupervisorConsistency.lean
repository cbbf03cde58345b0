import LiveRoute.Dispatch.SupervisorProcess
import LiveRoute.Library.KeyedRows
import LiveRoute.Library.Runs

/-! The maps of a supervisor agree while no trip is deactivated during its
activation, no trip is activated while a renewal loop of it still runs, and the
contexts of the callers last. `deactivate` and the loops name a trip and not an
activation, so nothing else keeps two activations of one trip apart. -/
namespace LiveRoute.Dispatch
open Domain LiveRoute.Runtime Persistence List
open Function (update update_of_ne update_self)

structure SupervisorProcess.Consistent (process : SupervisorProcess) : Prop where
  stateActive : ∀ tripId, (process.supervisor.state.lookup tripId).isSome →
    tripId ∈ process.supervisor.active
  capacity : process.supervisor.active.Nodup ∧
    process.supervisor.active.length ≤ process.supervisor.maxActiveTrips
  renewed : ∀ tripId ∈ process.supervisor.active,
    process.supervisor.activating.lookup tripId = none → ∃ loop,
      (process.loops.filter fun loop => decide (loop.tripId = tripId)) = [loop] ∧
      process.cancels tripId = some loop.wait ∧
      process.supervisor.state.lookup tripId = some loop.runtimeEpoch
  fenced : ∀ wait rows durationMilliseconds now tripId later, process.cancels tripId = some later →
    later ≠ wait → (process.renew wait rows durationMilliseconds now).cancels tripId = some later
  waiting : ∀ waiter ∈ process.waiters, (process.results waiter.wait).isSome ∨
    ∃ call ∈ process.calls, call.wait = waiter.wait ∧
      process.supervisor.activating.lookup call.tripId = some waiter.wait
  received : ∀ waiter result, (waiter, result) ∈ process.released →
    process.results waiter.wait = some result
  returned : ∀ wait result, (wait, result) ∈ process.returned → process.results wait = some result ∨
      process.results wait = some .runtimeClosed ∧ process.supervisor.closed

/-- No activation is cut short and none overlaps an earlier one of its trip. -/
def SupervisorProcess.keepsApart (process : SupervisorProcess) : SupervisorStep → Bool
  | .activate _ tripId => process.supervisor.active.contains tripId ||
      process.loops.all fun loop => !decide (loop.tripId = tripId)
  | .deactivate tripId => (process.supervisor.activating.lookup tripId).isNone
  | .parentDone wait => process.supervisor.active.all fun tripId =>
      !decide (process.cancels tripId = some wait)
  | _ => true

inductive Tenure (process : SupervisorProcess) (tripId : TripId) : Prop where
  | idle (inactive : tripId ∉ process.supervisor.active) (unowned : process.cancels tripId = none)
      (unregistered : process.supervisor.activating.lookup tripId = none)
      (stateless : process.supervisor.state.lookup tripId = none)
  | activating (wait : Nat) (active : tripId ∈ process.supervisor.active)
      (owned : process.cancels tripId = some wait)
      (registered : process.supervisor.activating.lookup tripId = some wait)
      (stateless : process.supervisor.state.lookup tripId = none)
      (unrenewed : ∀ loop ∈ process.loops, loop.tripId ≠ tripId)
  | running (wait runtimeEpoch : Nat) (active : tripId ∈ process.supervisor.active)
      (owned : process.cancels tripId = some wait)
      (unregistered : process.supervisor.activating.lookup tripId = none)
      (admitted : process.supervisor.state.lookup tripId = some runtimeEpoch)
      (renewing : ⟨tripId, wait, runtimeEpoch⟩ ∈ process.loops)

structure ProcessLedger (process : SupervisorProcess) : Prop where
  nodup : process.supervisor.active.Nodup
  room : process.supervisor.active.length ≤ process.supervisor.maxActiveTrips
  tenure : ∀ tripId, Tenure process tripId
  single : (process.loops.map RenewalLoop.tripId).Nodup
  owned : ∀ tripId wait, process.cancels tripId = some wait → wait ∉ process.cancelled ∧
    wait < process.supervisor.nextWait ∧ ∀ other, process.cancels other = some wait → other = tripId
  loopsKnown : ∀ loop ∈ process.loops, loop.wait < process.supervisor.nextWait
  endedKnown : ∀ wait ∈ process.cancelled, wait < process.supervisor.nextWait
  resultsKnown : ∀ wait, (process.results wait).isSome → wait < process.supervisor.nextWait
  callsKnown : ∀ call ∈ process.calls, call.wait < process.supervisor.nextWait
  keyed : (process.calls.map ActivationCall.wait ++ process.loops.map RenewalLoop.wait).Nodup
  ongoing : ∀ call ∈ process.calls,
    process.supervisor.activating.lookup call.tripId = some call.wait ∨
      process.results call.wait = some .runtimeClosed ∧ process.supervisor.closed
  called : ∀ tripId wait, process.supervisor.activating.lookup tripId = some wait →
    process.results wait = none ∧ ∃ call ∈ process.calls, call.wait = wait ∧ call.tripId = tripId
  waiting : ∀ waiter ∈ process.waiters, (process.results waiter.wait).isSome ∨
    ∃ tripId, process.supervisor.activating.lookup tripId = some waiter.wait
  received : ∀ waiter result, (waiter, result) ∈ process.released →
    process.results waiter.wait = some result
  returned : ∀ wait result, (wait, result) ∈ process.returned → process.results wait = some result ∨
      process.results wait = some .runtimeClosed ∧ process.supervisor.closed

theorem update_none_eq_some [DecidableEq α] {f : α → Option β} :
    update f key none other = some value ↔ other ≠ key ∧ f other = some value := by
  by_cases hother : other = key
  · simp [hother]
  · simp [hother]

section Views
variable {process next : SupervisorProcess} {tripId : TripId}

theorem ProcessLedger.loop_owner (h : ProcessLedger process)
    (hloop : loop ∈ process.loops) (howned : process.cancels loop.tripId = some wait) :
    wait = loop.wait ∧ process.supervisor.activating.lookup loop.tripId = none ∧
      process.supervisor.state.lookup loop.tripId = some loop.runtimeEpoch := by
  cases h.tenure loop.tripId with
  | idle _ unowned => simp [unowned] at howned
  | activating _ _ _ _ _ unrenewed => exact absurd rfl (unrenewed loop hloop)
  | running found runtimeEpoch _ owned unregistered admitted renewing =>
    have hsame := inj_on_of_nodup_map h.single renewing hloop rfl
    have hwait : found = loop.wait := congrArg RenewalLoop.wait hsame
    have hepoch : runtimeEpoch = loop.runtimeEpoch := congrArg RenewalLoop.runtimeEpoch hsame
    rw [owned, Option.some.injEq] at howned
    exact ⟨howned.symm.trans hwait, unregistered, hepoch ▸ admitted⟩

theorem Tenure.frame (h : Tenure process tripId)
    (hactive : tripId ∈ next.supervisor.active ↔ tripId ∈ process.supervisor.active)
    (hcancels : next.cancels tripId = process.cancels tripId)
    (hact : next.supervisor.activating.lookup tripId = process.supervisor.activating.lookup tripId)
    (hstate : next.supervisor.state.lookup tripId = process.supervisor.state.lookup tripId)
    (hloops : ∀ loop : RenewalLoop, loop.tripId = tripId →
      (loop ∈ next.loops ↔ loop ∈ process.loops)) : Tenure next tripId := by
  cases h with
  | idle inactive unowned unregistered stateless =>
    exact .idle (hactive.not.mpr inactive) (hcancels.trans unowned)
      (hact.trans unregistered) (hstate.trans stateless)
  | activating wait active owned registered stateless unrenewed =>
    refine .activating wait (hactive.mpr active) (hcancels.trans owned)
      (hact.trans registered) (hstate.trans stateless) fun loop hloop hsame => ?_
    exact unrenewed loop ((hloops loop hsame).mp hloop) hsame
  | running wait runtimeEpoch active owned unregistered admitted renewing =>
    exact .running wait runtimeEpoch (hactive.mpr active) (hcancels.trans owned)
      (hact.trans unregistered) (hstate.trans admitted) ((hloops _ rfl).mpr renewing)

theorem Tenure.same (h : Tenure process tripId) (hsupervisor : next.supervisor = process.supervisor)
    (hcancels : next.cancels = process.cancels) (hloops : next.loops = process.loops) :
    Tenure next tripId :=
  h.frame (by rw [hsupervisor]) (by rw [hcancels]) (by rw [hsupervisor]) (by rw [hsupervisor])
    fun loop _ => by rw [hloops]

theorem ProcessLedger.consistent
    (h : ProcessLedger process) : SupervisorProcess.Consistent process := by
  constructor
  case stateActive =>
    intro tripId hstate
    cases h.tenure tripId with
    | idle _ _ _ stateless => simp [stateless] at hstate
    | activating _ active => exact active
    | running _ _ active => exact active
  case capacity => exact ⟨h.nodup, h.room⟩
  case renewed =>
    intro tripId hactive hfin
    cases h.tenure tripId with
    | idle inactive => exact absurd hactive inactive
    | activating _ _ _ registered => simp [registered] at hfin
    | running _ _ _ owned _ admitted renewing =>
      exact ⟨_, KeyedRows.filter_eq_singleton h.single renewing, owned, admitted⟩
  case fenced =>
    intro wait rows durationMilliseconds now tripId later howned hother
    unfold SupervisorProcess.renew
    split
    · exact howned
    rename_i loop hloop
    have hwait : loop.wait = wait := by simpa using find?_some hloop
    split
    · exact howned
    unfold SupervisorProcess.dropLoop SupervisorProcess.forget
    split
    · dsimp only
      rw [update_of_ne, howned]
      rintro rfl
      exact hother ((h.loop_owner (mem_of_find?_eq_some hloop) howned).1.trans hwait)
    · exact howned
  case waiting =>
    intro waiter hwaiter
    refine (h.waiting waiter hwaiter).imp_right ?_
    rintro ⟨tripId, hreg⟩
    obtain ⟨-, call, hcall, hwait, rfl⟩ := h.called tripId _ hreg
    exact ⟨call, hcall, hwait, hreg⟩
  case received => exact h.received
  case returned => exact h.returned

theorem Tenure.owner (h : Tenure process tripId)
    (hreg : process.supervisor.activating.lookup tripId = some wait) :
    tripId ∈ process.supervisor.active ∧ process.cancels tripId = some wait ∧
      process.supervisor.state.lookup tripId = none ∧
      ∀ loop ∈ process.loops, loop.tripId ≠ tripId := by
  cases h with
  | idle _ _ unregistered => simp [unregistered] at hreg
  | running _ _ _ _ unregistered => simp [unregistered] at hreg
  | activating _ active owned registered stateless unrenewed =>
    rw [registered, Option.some.injEq] at hreg
    subst hreg
    exact ⟨active, owned, stateless, unrenewed⟩

theorem Tenure.active_of_owned (h : Tenure process tripId)
    (howned : process.cancels tripId = some wait) : tripId ∈ process.supervisor.active := by
  cases h with
  | idle _ unowned => simp [unowned] at howned
  | activating _ active => exact active
  | running _ _ active => exact active

theorem Tenure.of_inactive (h : Tenure process tripId)
    (hidle : tripId ∉ process.supervisor.active) :
    process.cancels tripId = none ∧ process.supervisor.activating.lookup tripId = none ∧
      process.supervisor.state.lookup tripId = none := by
  cases h with
  | idle _ unowned unregistered stateless => exact ⟨unowned, unregistered, stateless⟩
  | activating _ active => exact absurd active hidle
  | running _ _ active => exact absurd active hidle

theorem ProcessLedger.eq_of_wait (h : ProcessLedger process) (hloop : loop ∈ process.loops)
    (hother : other ∈ process.loops) (hwait : loop.wait = other.wait) : loop = other :=
  inj_on_of_nodup_map (nodup_append.mp h.keyed).2.1 hloop hother hwait

end Views

section Steps
variable {process : SupervisorProcess} {tripId : TripId}

variable (h : ProcessLedger process)
include h

theorem ProcessLedger.register (hidle : tripId ∉ process.supervisor.active)
    (hroom : process.supervisor.active.length < process.supervisor.maxActiveTrips)
    (hunrenewed : ∀ loop ∈ process.loops, loop.tripId ≠ tripId) :
    ProcessLedger { process with
      supervisor := process.supervisor.register tripId
      cancels := update process.cancels tripId (some process.supervisor.nextWait)
      calls := ⟨tripId, process.supervisor.nextWait, .registered⟩ :: process.calls } := by
  obtain ⟨-, hunregistered, hstateless⟩ := (h.tenure tripId).of_inactive hidle
  have hnew : ∀ {other wait}, other ≠ tripId →
      ((process.supervisor.register tripId).activating.lookup other = some wait ↔
        process.supervisor.activating.lookup other = some wait) := by
    intro other wait hother
    rw [Supervisor.register, AList.lookup_insert_ne hother]
  constructor
  case nodup => exact nodup_cons.mpr ⟨hidle, h.nodup⟩
  case room => exact hroom
  case tenure =>
    intro other
    by_cases hother : other = tripId
    · subst hother
      exact .activating process.supervisor.nextWait mem_cons_self (update_self ..)
        (AList.lookup_insert _) hstateless hunrenewed
    · refine (h.tenure other).frame ?_ (update_of_ne hother ..)
        (AList.lookup_insert_ne hother) rfl fun _ _ => Iff.rfl
      exact mem_cons.trans (or_iff_right hother)
  case single => exact h.single
  case owned =>
    dsimp only
    intro other wait howned
    by_cases hother : other = tripId
    · subst hother
      rw [update_self, Option.some.injEq] at howned
      subst howned
      refine ⟨fun hended => Nat.lt_irrefl _ (h.endedKnown _ hended), Nat.lt_succ_self _, ?_⟩
      intro third hthird
      by_contra hne
      rw [update_of_ne hne] at hthird
      exact Nat.lt_irrefl _ (h.owned third _ hthird).2.1
    · rw [update_of_ne hother] at howned
      obtain ⟨hlive, hknown, hunique⟩ := h.owned other wait howned
      refine ⟨hlive, Nat.lt_succ_of_lt hknown, fun third hthird => ?_⟩
      by_cases hthis : third = tripId
      · subst hthis
        rw [update_self, Option.some.injEq] at hthird
        exact absurd hknown (by omega)
      · rw [update_of_ne hthis] at hthird
        exact hunique third hthird
  case loopsKnown => exact fun loop hloop => Nat.lt_succ_of_lt (h.loopsKnown loop hloop)
  case endedKnown => exact fun wait hended => Nat.lt_succ_of_lt (h.endedKnown wait hended)
  case resultsKnown => exact fun wait hres => Nat.lt_succ_of_lt (h.resultsKnown wait hres)
  case callsKnown =>
    intro call hcall
    rcases mem_cons.mp hcall with rfl | hcall
    · exact Nat.lt_succ_self _
    · exact Nat.lt_succ_of_lt (h.callsKnown call hcall)
  case keyed =>
    refine nodup_cons.mpr ⟨fun hmem => ?_, h.keyed⟩
    rcases mem_append.mp hmem with hmem | hmem
    · obtain ⟨call, hcall, hwait⟩ := mem_map.mp hmem
      exact Nat.lt_irrefl _ (hwait ▸ h.callsKnown call hcall)
    · obtain ⟨loop, hloop, hwait⟩ := mem_map.mp hmem
      exact Nat.lt_irrefl _ (hwait ▸ h.loopsKnown loop hloop)
  case ongoing =>
    intro call hcall
    rcases mem_cons.mp hcall with rfl | hcall
    · exact .inl (AList.lookup_insert _)
    · refine (h.ongoing call hcall).imp_left fun hreg => (hnew ?_).mpr hreg
      rintro rfl
      simp [hunregistered] at hreg
  case called =>
    intro other wait hreg
    by_cases hother : other = tripId
    · subst hother
      obtain rfl : process.supervisor.nextWait = wait := by simpa [Supervisor.register] using hreg
      refine ⟨?_, _, mem_cons_self, rfl, rfl⟩
      rw [← Option.not_isSome_iff_eq_none]
      exact fun hres => Nat.lt_irrefl _ (h.resultsKnown _ hres)
    · obtain ⟨hres, call, hcall, hcalled⟩ := h.called other wait ((hnew hother).mp hreg)
      exact ⟨hres, call, mem_cons_of_mem _ hcall, hcalled⟩
  case waiting =>
    intro waiter hwaiter
    refine (h.waiting waiter hwaiter).imp_right ?_
    rintro ⟨other, hreg⟩
    refine ⟨other, (hnew ?_).mpr hreg⟩
    rintro rfl
    simp [hunregistered] at hreg
  case received => exact h.received
  case returned => exact h.returned

theorem ProcessLedger.activate (hapart : process.keepsApart (.activate caller tripId)) :
    ProcessLedger (process.activate caller tripId) := by
  unfold SupervisorProcess.activate
  dsimp only
  split
  · exact h
  split
  · split
    next wait hreg =>
      refine { h with tenure := fun tripId => (h.tenure tripId).same rfl rfl rfl,
                      waiting := fun waiter hwaiter => ?_ }
      rcases mem_cons.mp hwaiter with rfl | hwaiter
      · exact .inr ⟨tripId, hreg⟩
      · exact h.waiting waiter hwaiter
    · exact h
  next hidle =>
    split
    · exact h
    simp only [SupervisorProcess.keepsApart, hidle, Bool.false_or, all_eq_true,
      Bool.not_eq_true', decide_eq_false_iff_not] at hapart
    exact h.register (by simpa using hidle) (by omega) hapart

theorem ProcessLedger.setPhase : ProcessLedger (process.setPhase wait phase) := by
  have hwaits : (process.setPhase wait phase).calls.map ActivationCall.wait =
      process.calls.map ActivationCall.wait :=
    KeyedRows.map_keys (fun call => by split <;> rfl)
  have hcalls : ∀ call ∈ (process.setPhase wait phase).calls,
      ∃ before ∈ process.calls, before.wait = call.wait ∧ before.tripId = call.tripId := by
    refine forall_mem_map.mpr fun before hbefore => ⟨before, hbefore, ?_⟩
    split <;> exact ⟨rfl, rfl⟩
  refine { h with
    tenure := fun tripId => (h.tenure tripId).same rfl rfl rfl
    callsKnown := fun call hcall => ?_
    keyed := hwaits ▸ h.keyed, ongoing := fun call hcall => ?_
    called := fun tripId found hreg => ?_ }
  · obtain ⟨before, hbefore, hwait, -⟩ := hcalls call hcall
    exact hwait ▸ h.callsKnown before hbefore
  · obtain ⟨before, hbefore, hwait, htrip⟩ := hcalls call hcall
    rw [← hwait, ← htrip]
    exact h.ongoing before hbefore
  · obtain ⟨hres, call, hcall, hwait, htrip⟩ := h.called tripId found hreg
    refine ⟨hres, _, mem_map_of_mem hcall, ?_⟩
    split <;> exact ⟨hwait, htrip⟩

/-- The context that a trip loses is no other trip's. -/
theorem ProcessLedger.disowned (howned : update process.cancels tripId none other = some wait) :
    wait ∉ (process.cancels tripId).toList ++ process.cancelled ∧
    wait < process.supervisor.nextWait ∧ ∀ third,
    update process.cancels tripId none third = some wait → third = other := by
  obtain ⟨hother, howned⟩ := update_none_eq_some.mp howned
  obtain ⟨hlive, hknown, hunique⟩ := h.owned other wait howned
  refine ⟨fun hended => ?_, hknown,
    fun third hthird => hunique third (update_none_eq_some.mp hthird).2⟩
  rcases mem_append.mp hended with hended | hended
  · exact hother (hunique tripId (Option.mem_toList.mp hended)).symm
  · exact hlive hended

theorem ProcessLedger.forget (hfin : process.supervisor.activating.lookup tripId = none) :
    ProcessLedger (process.forget tripId) := by
  unfold SupervisorProcess.forget
  split
  next hactive =>
    have hforget : process.supervisor.forget tripId = { process.supervisor with
        active := process.supervisor.active.erase tripId
        state := process.supervisor.state.erase tripId } := if_pos hactive
    rw [hforget]
    refine { h with
      nodup := h.nodup.erase tripId, room := Nat.le_trans length_erase_le h.room
      tenure := fun other => ?_
      owned := fun _ _ => h.disowned
      endedKnown := fun wait hended => ?_ }
    · by_cases hother : other = tripId
      · subst hother
        exact .idle (List.Nodup.not_mem_erase h.nodup) (update_self ..) hfin (AList.lookup_erase ..)
      · exact (h.tenure other).frame (mem_erase_of_ne hother) (update_of_ne hother ..)
          rfl (AList.lookup_erase_ne hother) fun _ _ => Iff.rfl
    · rcases mem_append.mp hended with hended | hended
      · exact (h.owned tripId wait (Option.mem_toList.mp hended)).2.1
      · exact h.endedKnown wait hended
  · exact h

theorem ProcessLedger.dropLoop (hended : ∀ tripId, process.cancels tripId ≠ some wait) :
    ProcessLedger (process.dropLoop wait) := by
  have hsublist : (process.dropLoop wait).loops.Sublist process.loops := filter_sublist
  refine { h with
    tenure := fun tripId => ?_
    single := h.single.sublist (hsublist.map _)
    loopsKnown := fun loop hloop => h.loopsKnown loop (hsublist.mem hloop)
    keyed := h.keyed.sublist ((List.Sublist.refl _).append (hsublist.map _)) }
  cases h.tenure tripId with
  | idle inactive unowned unregistered stateless =>
    exact .idle inactive unowned unregistered stateless
  | activating found active owned registered stateless unrenewed =>
    exact .activating found active owned registered stateless
      fun loop hloop => unrenewed loop (hsublist.mem hloop)
  | running found runtimeEpoch active owned unregistered admitted renewing =>
    refine .running found runtimeEpoch active owned unregistered admitted ?_
    refine mem_filter.mpr ⟨renewing, ?_⟩
    have hother : found ≠ wait := fun hsame => hended tripId (hsame ▸ owned)
    simpa using hother

theorem ProcessLedger.stopRenewing : ProcessLedger (process.stopRenewing wait) := by
  unfold SupervisorProcess.stopRenewing
  split
  next hended => exact h.dropLoop fun tripId howned => (h.owned tripId wait howned).1 hended
  · exact h

omit h in
theorem renewed_epoch {rows : Option LeaseRows} {next : LeaseRows}
    (h : (rows.bind fun rows => (Persistence.renew rows holderId runtimeEpoch durationMilliseconds
      now).toOption) = some (next, lease)) : lease.runtimeEpoch = runtimeEpoch := by
  obtain ⟨found, -, hrenewed⟩ := Option.bind_eq_some_iff.mp h
  cases hres : Persistence.renew found holderId runtimeEpoch durationMilliseconds now with
  | error =>
    rw [hres] at hrenewed
    cases hrenewed
  | ok =>
    rw [hres] at hrenewed
    cases hrenewed
    obtain ⟨held, -, -, hkept, hnamed, -⟩ := renew_cases hres
    exact hkept.trans hnamed

theorem ProcessLedger.owner_of_loop (hloop : loop ∈ process.loops)
    (howned : process.cancels tripId = some loop.wait) : tripId = loop.tripId := by
  cases h.tenure tripId with
  | idle _ unowned => simp [unowned] at howned
  | activating wait _ owned registered =>
    rw [owned, Option.some.injEq] at howned
    obtain ⟨-, call, hcall, hwait, -⟩ := h.called tripId wait registered
    have hdisjoint := (nodup_append.mp h.keyed).2.2 call.wait (mem_map_of_mem hcall)
      loop.wait (mem_map_of_mem hloop)
    exact absurd (hwait.trans howned) hdisjoint
  | running _ _ _ owned _ _ renewing =>
    rw [owned, Option.some.injEq] at howned
    rw [← h.eq_of_wait renewing hloop howned]

theorem ProcessLedger.renew : ProcessLedger (process.renew wait rows durationMilliseconds now) := by
  unfold SupervisorProcess.renew
  split
  · exact h
  rename_i loop hfound
  have hloop := mem_of_find?_eq_some hfound
  obtain rfl : loop.wait = wait := by simpa using find?_some hfound
  split
  next lease hrenewed =>
    have hsame : ∀ other ∈ process.loops, (if other.wait = loop.wait then
        { other with runtimeEpoch := lease.runtimeEpoch } else other) = other := by
      intro other hother
      split
      next hwait => rw [h.eq_of_wait hother hloop hwait, renewed_epoch hrenewed]
      · rfl
    rw [map_congr_left hsame, map_id']
    exact h
  next hfailed =>
    have hfin : process.supervisor.activating.lookup loop.tripId = none := by
      cases h.tenure loop.tripId with
      | idle _ _ unregistered => exact unregistered
      | activating _ _ _ _ _ unrenewed => exact absurd rfl (unrenewed loop hloop)
      | running _ _ _ _ unregistered => exact unregistered
    refine (h.forget hfin).dropLoop fun other howned => ?_
    unfold SupervisorProcess.forget at howned
    split at howned
    · obtain ⟨hother, howned⟩ := update_none_eq_some.mp howned
      exact hother (h.owner_of_loop hloop howned)
    next hidle =>
      have hactive := (h.tenure other).active_of_owned howned
      rw [h.owner_of_loop hloop howned] at hactive
      simp [hactive] at hidle

theorem ProcessLedger.eq_of_call_wait (hcall : call ∈ process.calls)
    (hother : other ∈ process.calls) (hwait : call.wait = other.wait) : call = other :=
  inj_on_of_nodup_map (nodup_append.mp h.keyed).1 hcall hother hwait

theorem ProcessLedger.owner_of_call (hcall : call ∈ process.calls)
    (howned : process.cancels tripId = some call.wait) :
    tripId = call.tripId ∧ process.supervisor.activating.lookup tripId = some call.wait := by
  cases h.tenure tripId with
  | idle _ unowned => simp [unowned] at howned
  | activating wait _ owned registered =>
    rw [owned, Option.some.injEq] at howned
    obtain ⟨-, other, hother, hwait, htrip⟩ := h.called tripId wait registered
    obtain rfl := h.eq_of_call_wait hother hcall (hwait.trans howned)
    exact ⟨htrip.symm, howned ▸ registered⟩
  | running wait _ _ owned _ _ renewing =>
    rw [owned, Option.some.injEq] at howned
    exact absurd howned.symm ((nodup_append.mp h.keyed).2.2 call.wait
      (mem_map_of_mem hcall) wait (mem_map.mpr ⟨_, renewing, rfl⟩))

variable {call : ActivationCall}

def SupervisorProcess.otherCalls (process : SupervisorProcess) (call : ActivationCall) :
    List ActivationCall :=
  process.calls.filter fun other => !decide (other.wait = call.wait)

/-- A call that finds another one registered, or none, only ends its own context. -/
def SupervisorProcess.retired (process : SupervisorProcess) (call : ActivationCall)
    (result : ActivationResult) : SupervisorProcess :=
  { process with
    calls := process.otherCalls call, cancelled := call.wait :: process.cancelled
    returned := (call.wait, result) :: process.returned }

def SupervisorProcess.abandoned (process : SupervisorProcess) (call : ActivationCall)
    (result : ActivationResult) : SupervisorProcess :=
  { process.retired call result with
    supervisor := process.supervisor.abandon call.tripId
    cancels := update process.cancels call.tripId none
    results := update process.results call.wait (some result) }

def SupervisorProcess.admitted (process : SupervisorProcess) (call : ActivationCall)
    (runtimeEpoch : Nat) : SupervisorProcess :=
  { process.retired call .activated with
    supervisor := { process.supervisor with
      state := process.supervisor.state.insert call.tripId runtimeEpoch
      activating := process.supervisor.activating.erase call.tripId }
    cancelled := process.cancelled
    loops := ⟨call.tripId, call.wait, runtimeEpoch⟩ :: process.loops
    results := update process.results call.wait (some .activated) }

omit h in
theorem mem_otherCalls : other ∈ process.otherCalls call ↔
    other ∈ process.calls ∧ other.wait ≠ call.wait := by
  simp [SupervisorProcess.otherCalls, mem_filter]

open SupervisorProcess (outcome otherCalls retired abandoned admitted)

omit h in
theorem settle_unregistered
    (hrepl : process.supervisor.activating.lookup call.tripId ≠ some call.wait) :
    ∃ result, process.settle call = process.retired call result := by
  have hsame : process.supervisor.settle call = process.supervisor := if_pos hrepl
  have hout : ∃ result, process.outcome call = .error result := by
    unfold outcome
    split
    · exact ⟨_, if_pos (.inl hrepl)⟩
    all_goals exact ⟨_, rfl⟩
  obtain ⟨result, hout⟩ := hout
  refine ⟨result, ?_⟩
  simp [SupervisorProcess.settle, retired, otherCalls, hout, hsame, hrepl]

omit h in
/-- A registered call closes its channel. It starts the loop of its epoch, or
takes the trip out of the maps and ends its context. -/
theorem settle_registered (hfinal : call.phase.isFinal)
    (hreg : process.supervisor.activating.lookup call.tripId = some call.wait) :
    (∃ result, process.settle call = process.abandoned call result) ∨
      ∃ runtimeEpoch, process.settle call = process.admitted call runtimeEpoch := by
  cases hphase : call.phase with
  | registered => simp [hphase, ActivationPhase.isFinal] at hfinal
  | leased => simp [hphase, ActivationPhase.isFinal] at hfinal
  | failed =>
    refine .inl ⟨.failed, ?_⟩
    simp [SupervisorProcess.settle, outcome, Supervisor.settle, abandoned, retired, otherCalls,
      hphase, hreg]
  | bootstrapped runtimeEpoch =>
    cases hclosed : process.supervisor.closed with
    | true =>
      refine .inl ⟨.runtimeClosed, ?_⟩
      simp [SupervisorProcess.settle, outcome, Supervisor.settle, abandoned, retired, otherCalls,
        hphase, hreg, hclosed]
    | false =>
      refine .inr ⟨runtimeEpoch, ?_⟩
      simp [SupervisorProcess.settle, outcome, Supervisor.settle, admitted, retired, otherCalls,
        hphase, hreg, hclosed]

theorem ProcessLedger.retire (hcall : call ∈ process.calls)
    (hrepl : process.supervisor.activating.lookup call.tripId ≠ some call.wait) :
    ProcessLedger (process.retired call result) := by
  have hunowned : ∀ tripId, process.cancels tripId ≠ some call.wait := by
    intro tripId howned
    obtain ⟨rfl, hreg⟩ := h.owner_of_call hcall howned
    exact hrepl hreg
  refine { h with
    tenure := fun tripId => (h.tenure tripId).same rfl rfl rfl
    owned := fun tripId wait howned => ?_
    endedKnown := forall_mem_cons.mpr ⟨h.callsKnown call hcall, h.endedKnown⟩
    callsKnown := fun other hother => h.callsKnown other (mem_otherCalls.mp hother).1
    keyed := h.keyed.sublist ((filter_sublist.map _).append (List.Sublist.refl _))
    ongoing := fun other hother => h.ongoing other (mem_otherCalls.mp hother).1
    called := fun tripId wait hreg => ?_
    returned := fun wait found hret => ?_ }
  · refine ⟨fun hended => ?_, (h.owned tripId wait howned).2⟩
    rcases mem_cons.mp hended with rfl | hended
    · exact hunowned tripId howned
    · exact (h.owned tripId wait howned).1 hended
  · obtain ⟨hres, other, hother, rfl, rfl⟩ := h.called tripId wait hreg
    refine ⟨hres, other, mem_otherCalls.mpr ⟨hother, fun hwait => ?_⟩, rfl, rfl⟩
    obtain rfl := h.eq_of_call_wait hother hcall hwait
    exact hrepl hreg
  · rcases mem_cons.mp hret with hthis | hret
    · obtain ⟨rfl, rfl⟩ := Prod.mk.inj hthis
      exact .inr ((h.ongoing call hcall).resolve_left hrepl)
    · exact h.returned wait found hret

/-- A registered call that closes its channel keeps what the ledger says of the
channels; what it does to the active trips and the loops is left open. -/
theorem ProcessLedger.closeChannel {next : SupervisorProcess} (hcall : call ∈ process.calls)
    (hreg : process.supervisor.activating.lookup call.tripId = some call.wait)
    {cancels : TripId → Option Nat}
    (hnext : next = { process.retired call result with
      supervisor := supervisor, cancels := cancels, loops := loops, cancelled := cancelled
      results := update process.results call.wait (some result) })
    (hact : supervisor.activating = process.supervisor.activating.erase call.tripId)
    (hclosed : supervisor.closed = process.supervisor.closed)
    (hknown : supervisor.nextWait = process.supervisor.nextWait) (nodup : supervisor.active.Nodup)
    (room : supervisor.active.length ≤ supervisor.maxActiveTrips)
    (tenure : ∀ tripId, Tenure next tripId) (single : (loops.map RenewalLoop.tripId).Nodup)
    (owned : ∀ tripId wait, cancels tripId = some wait →
      wait ∉ cancelled ∧ wait < process.supervisor.nextWait ∧
        ∀ other, cancels other = some wait → other = tripId)
    (loopsKnown : ∀ loop ∈ loops, loop.wait < process.supervisor.nextWait)
    (endedKnown : ∀ wait ∈ cancelled, wait < process.supervisor.nextWait)
    (keyed : ((process.otherCalls call).map ActivationCall.wait ++
      loops.map RenewalLoop.wait).Nodup) : ProcessLedger next := by
  have hopen := (h.called call.tripId call.wait hreg).1
  have hkept : ∀ {wait found}, process.results wait = some found →
      update process.results call.wait (some result) wait = some found := by
    intro wait found hfound
    rw [update_of_ne, hfound]
    rintro rfl
    simp [hopen] at hfound
  have herased : ∀ {tripId wait}, supervisor.activating.lookup tripId = some wait ↔
      tripId ≠ call.tripId ∧ process.supervisor.activating.lookup tripId = some wait := by
    intro tripId wait
    rw [hact]
    by_cases htrip : tripId = call.tripId
    · subst htrip
      simp
    · simp [htrip]
  subst hnext
  constructor
  case nodup => exact nodup
  case room => exact room
  case tenure => exact tenure
  case single => exact single
  case owned => exact hknown.symm ▸ owned
  case loopsKnown => exact hknown.symm ▸ loopsKnown
  case endedKnown => exact hknown.symm ▸ endedKnown
  case resultsKnown =>
    intro wait hres
    dsimp only at hres ⊢
    rw [hknown]
    by_cases hwait : wait = call.wait
    · exact hwait ▸ h.callsKnown call hcall
    · rw [update_of_ne hwait] at hres
      exact h.resultsKnown wait hres
  case callsKnown =>
    intro other hother
    exact hknown.symm ▸ h.callsKnown other (mem_otherCalls.mp hother).1
  case keyed => exact keyed
  case ongoing =>
    intro other hother
    obtain ⟨hother, hwait⟩ := mem_otherCalls.mp hother
    rcases h.ongoing other hother with hongoing | ⟨hended, hshut⟩
    · refine .inl (herased.mpr ⟨fun htrip => hwait ?_, hongoing⟩)
      rw [htrip, hreg, Option.some.injEq] at hongoing
      exact hongoing.symm
    · exact .inr ⟨hkept hended, hclosed.trans hshut⟩
  case called =>
    intro tripId wait hfound
    obtain ⟨htrip, hfound⟩ := herased.mp hfound
    obtain ⟨hres, other, hother, rfl, rfl⟩ := h.called tripId wait hfound
    have hwait : other.wait ≠ call.wait := by
      intro hwait
      exact htrip (congrArg ActivationCall.tripId (h.eq_of_call_wait hother hcall hwait))
    exact ⟨(update_of_ne hwait ..).trans hres, other, mem_otherCalls.mpr ⟨hother, hwait⟩, rfl, rfl⟩
  case waiting =>
    intro waiter hwaiter
    rcases h.waiting waiter hwaiter with hres | ⟨tripId, hfound⟩
    · obtain ⟨found, hfound⟩ := Option.isSome_iff_exists.mp hres
      exact .inl (Option.isSome_iff_exists.mpr ⟨found, hkept hfound⟩)
    · by_cases htrip : tripId = call.tripId
      · subst htrip
        rw [hreg, Option.some.injEq] at hfound
        exact .inl (by simp [hfound])
      · exact .inr ⟨tripId, herased.mpr ⟨htrip, hfound⟩⟩
  case received => exact fun waiter found hrel => hkept (h.received waiter found hrel)
  case returned =>
    intro wait found hret
    rcases mem_cons.mp hret with hthis | hret
    · obtain ⟨rfl, rfl⟩ := Prod.mk.inj hthis
      exact .inl (update_self ..)
    · exact (h.returned wait found hret).imp hkept fun hended =>
        ⟨hkept hended.1, hclosed.trans hended.2⟩

theorem ProcessLedger.abandon (hcall : call ∈ process.calls)
    (hreg : process.supervisor.activating.lookup call.tripId = some call.wait) :
    ProcessLedger (process.abandoned call result) := by
  obtain ⟨-, howner, hstateless, -⟩ := (h.tenure call.tripId).owner hreg
  refine h.closeChannel hcall hreg rfl rfl rfl rfl (h.nodup.erase _)
    (Nat.le_trans length_erase_le h.room) ?tenure h.single ?owned h.loopsKnown
    (forall_mem_cons.mpr ⟨h.callsKnown call hcall, h.endedKnown⟩)
    (h.keyed.sublist ((filter_sublist.map _).append (List.Sublist.refl _)))
  case tenure =>
    intro tripId
    by_cases htrip : tripId = call.tripId
    · subst htrip
      exact .idle (List.Nodup.not_mem_erase h.nodup) (update_self ..)
        (AList.lookup_erase ..) hstateless
    · exact (h.tenure tripId).frame (mem_erase_of_ne htrip) (update_of_ne htrip ..)
        (AList.lookup_erase_ne htrip) rfl fun _ _ => Iff.rfl
  case owned =>
    intro tripId wait howned
    have hdis := h.disowned howned
    rwa [howner] at hdis

theorem ProcessLedger.admitCall (hcall : call ∈ process.calls)
    (hreg : process.supervisor.activating.lookup call.tripId = some call.wait) :
    ProcessLedger (process.admitted call runtimeEpoch) := by
  obtain ⟨hactive, howner, -, hunrenewed⟩ := (h.tenure call.tripId).owner hreg
  refine h.closeChannel hcall hreg rfl rfl rfl rfl h.nodup h.room ?tenure ?single h.owned
    (forall_mem_cons.mpr ⟨h.callsKnown call hcall, h.loopsKnown⟩) h.endedKnown ?keyed
  case tenure =>
    intro tripId
    by_cases htrip : tripId = call.tripId
    · subst htrip
      exact .running call.wait runtimeEpoch hactive howner (AList.lookup_erase ..)
        (AList.lookup_insert _) mem_cons_self
    · refine (h.tenure tripId).frame Iff.rfl rfl (AList.lookup_erase_ne htrip)
        (AList.lookup_insert_ne htrip) fun loop hloop => ?_
      refine mem_cons.trans (or_iff_right ?_)
      rintro rfl
      exact htrip hloop.symm
  case single =>
    refine nodup_cons.mpr ⟨fun hmem => ?_, h.single⟩
    obtain ⟨loop, hloop, htrip⟩ := mem_map.mp hmem
    exact hunrenewed loop hloop htrip
  case keyed =>
    -- the wait moves from the calls to the loops
    obtain ⟨hcalls, hloops, hdisjoint⟩ := nodup_append.mp h.keyed
    refine nodup_append.mpr ⟨hcalls.sublist (filter_sublist.map _), ?_, ?_⟩
    · refine nodup_cons.mpr ⟨fun hmem => ?_, hloops⟩
      exact hdisjoint call.wait (mem_map_of_mem hcall) call.wait hmem rfl
    · intro wait hwait other hother
      obtain ⟨found, hfound, rfl⟩ := mem_map.mp hwait
      obtain ⟨hfound, hne⟩ := mem_otherCalls.mp hfound
      rcases mem_cons.mp hother with rfl | hother
      · exact hne
      · exact hdisjoint found.wait (mem_map_of_mem hfound) other hother

theorem ProcessLedger.finish : ProcessLedger (process.finish wait) := by
  unfold SupervisorProcess.finish
  split
  next call hfound =>
    have hcall : call ∈ process.calls := mem_of_find?_eq_some hfound
    split
    next hfinal =>
      by_cases hreg : process.supervisor.activating.lookup call.tripId = some call.wait
      · rcases settle_registered hfinal hreg with ⟨result, hsettled⟩ | ⟨runtimeEpoch, hsettled⟩
        · exact hsettled ▸ h.abandon hcall hreg
        · exact hsettled ▸ h.admitCall hcall hreg
      · obtain ⟨result, hsettled⟩ := settle_unregistered hreg
        exact hsettled ▸ h.retire hcall hreg
    · exact h
  · exact h

theorem ProcessLedger.receive : ProcessLedger (process.receive waiter) := by
  unfold SupervisorProcess.receive
  split
  · split
    next result hres =>
      refine { h with
        tenure := fun tripId => (h.tenure tripId).same rfl rfl rfl
        waiting := fun other hother => h.waiting other (mem_of_mem_erase hother)
        received := fun other found hrel => ?_ }
      rcases mem_cons.mp hrel with hthis | hrel
      · obtain ⟨rfl, rfl⟩ := Prod.mk.inj hthis
        exact hres
      · exact h.received other found hrel
    · exact h
  · exact h

theorem ProcessLedger.close : ProcessLedger process.close := by
  unfold SupervisorProcess.close
  split
  · exact h
  -- every channel that is still open gets the closed result
  have hreg : ∀ wait, (process.supervisor.activating.entries.any fun entry =>
      decide (entry.2 = wait)) ↔
        ∃ tripId, process.supervisor.activating.lookup tripId = some wait := by
    simp [any_eq_true, ← AList.mem_lookup_iff]
  have hkept : ∀ {wait found}, process.results wait = some found →
      (if process.supervisor.activating.entries.any fun entry => decide (entry.2 = wait) then
        some ActivationResult.runtimeClosed else process.results wait) = some found := by
    intro wait found hfound
    rw [if_neg, hfound]
    rw [hreg]
    rintro ⟨tripId, hlookup⟩
    simp [(h.called tripId wait hlookup).1] at hfound
  have hended : ∀ {wait tripId}, process.supervisor.activating.lookup tripId = some wait →
      (if process.supervisor.activating.entries.any fun entry => decide (entry.2 = wait) then
        some ActivationResult.runtimeClosed else process.results wait) = some .runtimeClosed := by
    intro wait tripId hlookup
    exact if_pos ((hreg wait).mpr ⟨tripId, hlookup⟩)
  constructor
  case nodup => exact nodup_nil
  case room => exact Nat.zero_le _
  case tenure =>
    intro tripId
    refine .idle not_mem_nil rfl rfl ((process.supervisor.close_lookup tripId).trans ?_)
    split
    · rfl
    next hidle => exact ((h.tenure tripId).of_inactive hidle).2.2
  case single => exact h.single
  case owned =>
    intro tripId wait howned
    cases howned
  case loopsKnown => exact h.loopsKnown
  case endedKnown =>
    intro wait hwait
    rcases mem_append.mp hwait with hwait | hwait
    · obtain ⟨tripId, -, howned⟩ := mem_filterMap.mp hwait
      exact (h.owned tripId wait howned).2.1
    · exact h.endedKnown wait hwait
  case resultsKnown =>
    intro wait hres
    dsimp only at hres
    split at hres
    next hany =>
      obtain ⟨tripId, hlookup⟩ := (hreg wait).mp hany
      obtain ⟨-, call, hcall, rfl, -⟩ := h.called tripId wait hlookup
      exact h.callsKnown call hcall
    · exact h.resultsKnown wait hres
  case callsKnown => exact h.callsKnown
  case keyed => exact h.keyed
  case ongoing =>
    intro call hcall
    exact .inr ⟨(h.ongoing call hcall).elim hended fun found => hkept found.1, rfl⟩
  case called =>
    intro tripId wait hlookup
    cases hlookup
  case waiting =>
    intro waiter hwaiter
    refine .inl (Option.isSome_iff_exists.mpr ?_)
    rcases h.waiting waiter hwaiter with hres | ⟨tripId, hlookup⟩
    · obtain ⟨found, hfound⟩ := Option.isSome_iff_exists.mp hres
      exact ⟨found, hkept hfound⟩
    · exact ⟨_, hended hlookup⟩
  case received => exact fun waiter found hrel => hkept (h.received waiter found hrel)
  case returned =>
    intro wait found hret
    exact (h.returned wait found hret).imp hkept fun hshut => ⟨hkept hshut.1, rfl⟩

theorem ProcessLedger.parentDone (hapart : process.keepsApart (.parentDone wait))
    (hknown : wait < process.supervisor.nextWait) :
    ProcessLedger { process with cancelled := wait :: process.cancelled } := by
  refine { h with
    tenure := fun tripId => (h.tenure tripId).same rfl rfl rfl
    owned := fun tripId found howned => ⟨fun hended => ?_, (h.owned tripId found howned).2⟩
    endedKnown := forall_mem_cons.mpr ⟨hknown, h.endedKnown⟩ }
  rcases mem_cons.mp hended with rfl | hended
  · simp only [SupervisorProcess.keepsApart, all_eq_true, Bool.not_eq_true',
      decide_eq_false_iff_not] at hapart
    exact hapart tripId ((h.tenure tripId).active_of_owned howned) howned
  · exact (h.owned tripId found howned).1 hended

theorem ProcessLedger.step {action : SupervisorStep}
    (hapart : process.keepsApart action) : ProcessLedger (process.step action) := by
  cases action with
  | activate => exact h.activate hapart
  | acquired =>
    rw [SupervisorProcess.step, SupervisorProcess.acquired]
    split
    · exact h.setPhase
    · exact h
  | bootstrapped =>
    rw [SupervisorProcess.step, SupervisorProcess.bootstrapped]
    split
    · exact h.setPhase
    · exact h
  | finish => exact h.finish
  | receive => exact h.receive
  | giveUp =>
    exact { h with
      tenure := fun tripId => (h.tenure tripId).same rfl rfl rfl
      waiting := fun other hother => h.waiting other (mem_of_mem_erase hother) }
  | renew => exact h.renew
  | stopRenewing => exact h.stopRenewing
  | deactivate => exact h.forget (Option.isNone_iff_eq_none.mp hapart)
  | close => exact h.close
  | parentDone =>
    rw [SupervisorProcess.step]
    split
    next hknown => exact h.parentDone hapart hknown
    · exact h

omit h in
theorem ProcessLedger.start : ProcessLedger (.start holderId maxActiveTrips) := by
  constructor
  case nodup => exact nodup_nil
  case room => exact Nat.zero_le _
  case tenure => exact fun tripId => .idle not_mem_nil rfl rfl rfl
  case single => exact nodup_nil
  case keyed => exact nodup_nil
  all_goals simp [SupervisorProcess.start, Supervisor.start]

end Steps

/-- The supervisor is consistent after every history of calls, failures and
renewals in which activations of one trip stay apart. -/
theorem supervisor_consistent (holderId : HolderId) (maxActiveTrips : Nat)
    {history : List SupervisorStep}
    (hapart : Runs.Along SupervisorProcess.step
      (fun process action => process.keepsApart action)
      (.start holderId maxActiveTrips) history) :
    SupervisorProcess.Consistent
      ((SupervisorProcess.start holderId maxActiveTrips).run history) := by
  have hledger : ProcessLedger ((SupervisorProcess.start holderId maxActiveTrips).run history) :=
    Runs.foldl_of_along (fun _ _ h hapart => h.step hapart) ProcessLedger.start hapart
  exact hledger.consistent

def activation (caller : Nat) (tripId : TripId) (wait runtimeEpoch : Nat) : List SupervisorStep :=
  [.activate caller tripId, .acquired wait (some runtimeEpoch), .bootstrapped wait true,
    .finish wait]

/-- A trip is activated while a second caller waits, renewed, deactivated, and
activated again when its first loop has stopped; then its lease is lost. -/
def activatedTwice : List SupervisorStep :=
  [.activate 0 ⟨1⟩, .activate 1 ⟨1⟩, .acquired 0 (some 1), .bootstrapped 0 true, .finish 0,
    .receive ⟨1, 0⟩, .renew 0 (some ⟨some (firstLease ⟨1⟩ 60000 0), []⟩) 60000 1000,
    .deactivate ⟨1⟩, .stopRenewing 0] ++ activation 2 ⟨1⟩ 1 2 ++ [.renew 1 none 60000 2000]

theorem activatedTwice_consistent :
    SupervisorProcess.Consistent ((SupervisorProcess.start ⟨1⟩ 1).run activatedTwice) ∧
      ((SupervisorProcess.start ⟨1⟩ 1).run activatedTwice).released = [(⟨1, 0⟩, .activated)] :=
  ⟨supervisor_consistent ⟨1⟩ 1 (by decide +kernel), by decide +kernel⟩

/-- A trip that is deactivated while it activates is left with a state and
without an activation, and a caller that waits for an activation that another
one replaced is never released. A loop that outlives its activation removes the
next one when its renewal fails. -/
theorem overlapping_activations_inconsistent :
    (¬ SupervisorProcess.Consistent ((SupervisorProcess.start ⟨1⟩ 1).run
      [.activate 0 ⟨1⟩, .acquired 0 (some 1), .deactivate ⟨1⟩, .bootstrapped 0 true, .finish 0])) ∧
    (¬ SupervisorProcess.Consistent ((SupervisorProcess.start ⟨1⟩ 1).run
      [.activate 0 ⟨1⟩, .activate 1 ⟨1⟩, .deactivate ⟨1⟩, .activate 2 ⟨1⟩])) ∧
    ¬ SupervisorProcess.Consistent ((SupervisorProcess.start ⟨1⟩ 1).run
      (activation 0 ⟨1⟩ 0 1 ++ .deactivate ⟨1⟩ :: activation 1 ⟨1⟩ 1 2)) := by
  refine ⟨fun h => ?_, fun h => ?_, fun h => ?_⟩
  · exact absurd (h.stateActive ⟨1⟩ (by decide +kernel)) (by decide +kernel)
  · exact absurd (h.waiting ⟨1, 0⟩ (by decide +kernel)) (by decide +kernel)
  · exact absurd (h.fenced 0 none 60000 0 ⟨1⟩ 1 (by decide +kernel) (by decide)) (by decide +kernel)

end LiveRoute.Dispatch
