import PacketRadio.Proofs.Driver.Reachable
import PacketRadio.Proofs.Driver.Teardown

/-!
# How a driver takes its leave

Taking a driver down is seen by its milestones: the calls to the host, and the adapters that are
destroyed. Slot by slot, every list that an adapter had still to send goes back as failed, and then
the adapter is gone; the registration is undone at the end. A driver that is unloaded does the same
with the registration undone first, and leaves the same arena and the same record behind.
-/

namespace PacketRadio

open Pool

/-! ## Milestones -/

/-- What matters of the end of a driver. -/
inductive Milestone
  | called (call : HostCall)
  | destroyed (adapter : Handle)
  deriving DecidableEq

/-- The milestone that an event is, if it is one. -/
def Event.milestone? : Event → Option Milestone
  | .call c => some (.called c)
  | .notice (.adapterDestroyed h _) => some (.destroyed h)
  | _ => none

/-- The milestones among events. -/
def milestones (events : List Event) : List Milestone := events.filterMap Event.milestone?

@[simp] theorem milestones_nil : milestones [] = [] := rfl

@[simp] theorem milestones_append (events more : List Event) :
    milestones (events ++ more) = milestones events ++ milestones more :=
  List.filterMap_append

@[simp] theorem milestones_call (call : HostCall) (events : List Event) :
    milestones (.call call :: events) = .called call :: milestones events := rfl

@[simp] theorem milestones_pool (notices : List Pool.Notice) :
    milestones (notices.map .pool) = [] := by
  induction notices with
  | nil => rfl
  | cons notice notices ih => exact ih

namespace Adapter

/-- The milestones of an adapter that is taken down: what it had still to send goes back, and then it
is destroyed. -/
def farewell (a : Adapter) : List Milestone :=
  (a.sends.held.map fun list => .called (.sendComplete a.handle list .failure)) ++
    [.destroyed a.handle]

theorem settlePause_milestones (a : Adapter) : milestones a.settlePause.events = [] := by
  by_cases drained : a.Drained
  · rw [settlePause_of_drained drained]
    rfl
  · rw [settlePause_of_undrained drained]
    rfl

/-- A flush destroys nothing: its milestones are its calls. -/
theorem flush_milestones (rounds : Nat) (a : Adapter) :
    milestones (flush rounds a).events = (hostCalls (flush rounds a).events).map .called := by
  induction rounds generalizing a with
  | zero => rfl
  | succ rounds ih =>
    cases gone : a.sends.pop? with
    | none =>
      rw [flush, takeSend_of_empty gone]
      rfl
    | some first =>
      obtain ⟨list, sends⟩ := first
      rw [flush, takeSend_of_held gone]
      simp [settlePause_milestones, (settlePause_onlyMoves _).calls, ih]

theorem destroy_milestones (a : Adapter) : milestones a.destroy = [.destroyed a.handle] := by
  unfold destroy
  split <;> rfl

theorem flushSends_handle (a : Adapter) : a.flushSends.state.handle = a.handle :=
  (a.flush_evolves maxInFlight).identity.handle

end Adapter

/-! ## Slot by slot -/

namespace SlotTable

/-- The adapters in the slots `is`, in this order. -/
def adaptersIn (t : SlotTable) (is : List (Fin maxAdapters)) : List Adapter :=
  is.filterMap fun i => (t.slot i).adapter?

/-- The adapters of a driver, in the order of their slots. -/
def adapters (t : SlotTable) : List Adapter := t.adaptersIn (List.finRange maxAdapters)

/-- There is one adapter in each slot in use. -/
theorem length_adapters (t : SlotTable) : t.adapters.length = t.inUseCount := by
  rw [adapters, adaptersIn, inUseCount, toList_slots, List.length_filterMap_eq_countP,
    List.countP_map]
  congr 1
  funext i
  simp [Slot.adapter?, Slot.inUse]

theorem adapter?_of_mem {t : SlotTable} {a : Adapter} (member : a ∈ t.adapters) :
    ∃ h, t.adapter? h = some a := by
  obtain ⟨i, -, here⟩ := List.mem_filterMap.1 member
  obtain ⟨owned, holds, value⟩ := Option.map_eq_some_iff.1 here
  exact ⟨t.handleAt i, adapter?_eq_some.2 ⟨i, owned, holds, value, rfl⟩⟩

theorem adaptersIn_vacate {t : SlotTable} {i : Fin maxAdapters} {is : List (Fin maxAdapters)}
    (apart : i ∉ is) : (t.vacate i).adaptersIn is = t.adaptersIn is := by
  refine List.filterMap_congr fun j member => ?_
  have other : j ≠ i := fun same => apart (same ▸ member)
  rw [slot_vacate, if_neg other]

end SlotTable

namespace Context

theorem clearing_milestones (context : UInt32) (owned : Owned Adapter) (arena : Arena) :
    milestones (.notice (.forceDestroying context owned.value.handle owned.value.lifecycle) ::
        owned.value.flushSends.events ++
          (Adapter.discard (some ⟨owned.block, owned.value.flushSends.state⟩) arena).events) =
      owned.value.farewell := by
  have flushed := Adapter.flush_milestones maxInFlight owned.value
  change milestones owned.value.flushSends.events = _ at flushed
  change milestones (owned.value.flushSends.events ++ _) = _
  rw [milestones_append, flushed, Adapter.discard_some]
  change (hostCalls owned.value.flushSends.events).map Milestone.called ++ _ = _
  rw [owned.value.flushSends_spec.1]
  simp [Adapter.farewell, Adapter.destroy_milestones, Adapter.flushSends_handle]

/-- **Clearing slots takes leave of their adapters**, one after the other. -/
theorem clearSlots_milestones (context : UInt32) {rest : List Record}
    {is : List (Fin maxAdapters)} (distinct : is.Nodup) {t : SlotTable} {arena : Arena}
    (lodging : Lodging t rest arena) :
    milestones (clearSlots context is t arena).events =
      (t.adaptersIn is).flatMap Adapter.farewell := by
  induction is generalizing t arena with
  | nil => rfl
  | cons i is ih =>
    obtain ⟨apart, distinct⟩ := List.nodup_cons.1 distinct
    cases holds : (t.slot i).occupant with
    | none =>
      have later := ih distinct (lodging.vacate_free holds)
      have first : (t.slot i).adapter? = none := by rw [Slot.adapter?, holds]; rfl
      rw [clearSlots_of_free holds, later, SlotTable.adaptersIn_vacate apart]
      simp only [SlotTable.adaptersIn, List.filterMap_cons, first]
    | some owned =>
      obtain ⟨back, -, left⟩ := lodging.vacate holds
      have later := ih distinct left
      have first : (t.slot i).adapter? = some owned.value := by rw [Slot.adapter?, holds]; rfl
      rw [clearSlots_of_held holds back, Outcome.after_events, Outcome.map_events,
        milestones_append, clearing_milestones, later, SlotTable.adaptersIn_vacate apart]
      simp only [SlotTable.adaptersIn, List.filterMap_cons, first, List.flatMap_cons]

/-- The milestone of a driver that leaves its host, if the host knows it. -/
def leaving (c : Context) : List Milestone :=
  match c.registration with
  | .unregistered => []
  | .registered handle _ => [.called (.deregister handle)]

theorem leave_milestones (c : Context) : milestones c.leave.events = c.leaving := by
  unfold leave leaving
  cases c.registration <;> rfl

/-- Nobody leaves twice. -/
theorem leave_leaving (c : Context) : c.leave.state.leaving = [] := by
  unfold leave leaving
  cases registration : c.registration <;> simp [registration]

theorem release_milestones (activity : Activity) (id : UInt32) :
    milestones (activity.release id).events = [] := by
  unfold Activity.release
  split <;> rfl

/-- Without a fault, the role is given up, and the host hears of the adapters and of the registration.
-/
theorem teardown_farewell {c : Context} {rest : List Record} {arena : Arena}
    (coherent : c.slots.Coherent) (lodging : Lodging c.slots rest arena) (activity : Activity) :
    (c.teardown arena activity).answer = .ok () ∧
      (c.teardown arena activity).state =
        ((clearSlots c.id (List.finRange maxAdapters) c.slots arena).state.2,
          (activity.release c.id).state) ∧
      milestones (c.teardown arena activity).events =
        c.slots.adapters.flatMap Adapter.farewell ++ c.leaving := by
  obtain ⟨n, done⟩ := (clearSlots_cleared c.id (List.finRange maxAdapters) coherent lodging).answer
  have cleared := clearSlots_milestones c.id (List.nodup_finRange maxAdapters) lodging
  unfold teardown
  simp only [done]
  refine ⟨trivial, trivial, ?_⟩
  rw [milestones_append, milestones_append, milestones_append, cleared, leave_milestones,
    release_milestones, List.append_nil]
  exact List.append_nil _

end Context

namespace Driver

variable {d : Driver} {others : List Record}

/-- What is left of the arena when the driver is gone. -/
def vacatedArena (d : Driver) : Arena :=
  ((Context.clearSlots d.context.value.id (List.finRange maxAdapters) d.slots
    d.arena).state.2.surrenderOf Context d.context.block).state

theorem Housed.discard_eq (housed : d.Housed others) (coherent : d.slots.Coherent)
    (activity : Activity) :
    (Context.discard (some d.context) d.arena activity).answer = .ok () ∧
      (Context.discard (some d.context) d.arena activity).state =
        (d.vacatedArena, (activity.release d.context.value.id).state) ∧
      milestones (Context.discard (some d.context) d.arena activity).events =
        d.slots.adapters.flatMap Adapter.farewell ++ d.context.value.leaving := by
  obtain ⟨answer, state, told⟩ := Context.teardown_farewell coherent housed.lodging activity
  refine ⟨(housed.discard coherent activity).answer, ?_, ?_⟩
  · unfold Context.discard
    simp only [Outcome.andThen_state, answer, state]
    rfl
  · unfold Context.discard
    simp only [Outcome.andThen_events, answer, milestones_append, told]
    simp

/-- The driver whose registration has been undone already. -/
def departed (d : Driver) : Driver :=
  { d with context := ⟨d.context.block, d.context.value.leave.state⟩ }

theorem departed_slots (d : Driver) : d.departed.slots = d.slots := d.context.value.leave_slots

theorem Housed.departed (housed : d.Housed others) : d.departed.Housed others := by
  refine ⟨housed.own, ?_⟩
  rw [departed_slots]
  exact housed.lodging

theorem departed_vacatedArena (d : Driver) : d.departed.vacatedArena = d.vacatedArena := by
  have id : d.departed.context.value.id = d.context.value.id := d.context.value.leave_make.1
  rw [vacatedArena, vacatedArena, id, departed_slots]
  rfl

/-- All that the driver had is out of its arena. -/
theorem Housed.vacated (housed : d.Housed others) (coherent : d.slots.Coherent) :
    d.arena.live.Perm
      (d.slots.tenants ++ d.context.block.recordFor Context :: d.vacatedArena.live) := by
  have cleared := Context.clearSlots_cleared d.context.value.id (List.finRange maxAdapters) coherent
    housed.lodging
  have none : (Context.clearSlots d.context.value.id (List.finRange maxAdapters) d.slots
      d.arena).state.1.tenants = [] := by
    refine List.filterMap_eq_nil_iff.2 fun i member => ?_
    rw [SlotTable.tenant?, cleared.vacant i (.inl member)]
    rfl
  have live := cleared.lodging.live
  rw [none, List.nil_append] at live
  have hosts : Arena.Hosts Context _ d.context.block :=
    ⟨housed.own.trans cleared.id.symm, live.mem_iff.2 List.mem_cons_self⟩
  obtain ⟨-, -, -, released⟩ := Arena.surrenderOf_of_hosts cleared.lodging.sound hosts
  have left := (released.symm.trans live).cons_inv
  exact housed.lodging.live.trans ((left.symm.cons _).append_left _)

/-- How the driver takes its leave: when it is destroyed, and when it is unloaded. -/
structure TakesLeave (d : Driver) (activity : Activity)
    (gone unloaded : Outcome Event (Arena × Activity) (Except Fault Unit)) : Prop where
  answer : gone.answer = .ok () ∧ unloaded.answer = .ok ()
  /-- Slot by slot, what an adapter had to send goes back before the adapter is destroyed. -/
  told : milestones gone.events =
    d.slots.adapters.flatMap Adapter.farewell ++ d.context.value.leaving
  toldFirst : milestones unloaded.events =
    d.context.value.leaving ++ d.slots.adapters.flatMap Adapter.farewell
  /-- Every adapter goes. -/
  adapters : d.slots.adapters.length = d.slots.inUseCount
  /-- No list is sent back twice. -/
  once : ∀ a ∈ d.slots.adapters, a.sends.held.Nodup
  unnotified : Unnotified gone.events ∧ Unnotified unloaded.events
  /-- Of the arena's blocks exactly those of the driver are gone. -/
  live : d.arena.live.Perm (d.slots.tenants ++ d.context.block.recordFor Context :: gone.state.1.live)
  blocks : d.slots.tenants.length = d.slots.inUseCount
  /-- The role of the active context is the driver's, and is given up. -/
  recorded : activity.Names d.context.value.id
  inactive : activity.active = d.context.value.id → gone.state.2.active? = none
  same : unloaded.state = gone.state

/-- **A driver takes leave of all that it has**, and does so as well when it is unloaded. -/
theorem Reachable.takesLeave {activity : Activity} (reachable : d.Reachable activity) :
    d.TakesLeave activity (Context.discard (some d.context) d.arena activity)
      (Context.unload (some d.context) d.arena activity) := by
  obtain ⟨others, housed⟩ := reachable.housed
  have coherent := reachable.coherent
  have slots := d.departed_slots
  obtain ⟨answer, state, told⟩ := housed.discard_eq coherent activity
  obtain ⟨answer', state', told'⟩ := housed.departed.discard_eq (slots ▸ coherent) activity
  have alone : d.departed.context.value.leaving = [] := d.context.value.leave_leaving
  have id : d.departed.context.value.id = d.context.value.id := d.context.value.leave_make.1
  rw [slots, alone, List.append_nil] at told'
  refine {
    answer := ⟨answer, answer'⟩
    told := told
    toldFirst := ?_
    adapters := d.slots.length_adapters
    once := fun a member => ?_
    unnotified := ⟨(housed.discard coherent activity).unnotified,
      (housed.unload coherent activity).unnotified⟩
    live := ?_
    blocks := d.slots.length_tenants
    recorded := reachable.names
    inactive := fun active => ?_
    same := ?_ }
  · change milestones ((.notice _ :: d.context.value.leave.events) ++ _) = _
    rw [milestones_append]
    refine congrArg₂ (· ++ ·) ?_ told'
    exact d.context.value.leave_milestones
  · obtain ⟨h, named⟩ := SlotTable.adapter?_of_mem member
    exact (reachable.sound h a named).sends.nodup
  · rw [state]
    exact housed.vacated coherent
  · rw [state, Activity.release_of_recorded active]
    rfl
  · rw [state]
    refine state'.trans ?_
    rw [departed_vacatedArena, id]

/-- Two adapters, the first one with a pause that waits for two lists to be sent. -/
def laden : List (HostAnswers × Request) :=
  [(.willing, .register ⟨1⟩ "radio"), (.willing, .createAdapter ⟨⟨7⟩, none⟩),
    (.willing, .createAdapter ⟨⟨8⟩, none⟩), (.willing, .restart ⟨0, 1⟩ 0),
    (.willing, .send .passive ⟨0, 1⟩ [⟨5⟩, ⟨6⟩] ⟨0⟩), (.willing, .pause ⟨0, 1⟩)]

theorem laden_takesLeave :
    let d := (sample.run laden).state
    let gone := Context.discard (some d.context) d.arena ⟨1, 2⟩
    d.Reachable ⟨1, 2⟩ ∧
      milestones gone.events =
        [.called (.sendComplete ⟨0, 1⟩ ⟨5⟩ .failure), .called (.sendComplete ⟨0, 1⟩ ⟨6⟩ .failure),
          .destroyed ⟨0, 1⟩, .destroyed ⟨1, 1⟩, .called (.deregister ⟨1⟩)] ∧
      d.TakesLeave ⟨1, 2⟩ gone (Context.unload (some d.context) d.arena ⟨1, 2⟩) :=
  have reachable := sample_reachable.run laden
  ⟨reachable, by decide +kernel, reachable.takesLeave⟩

end Driver

end PacketRadio
