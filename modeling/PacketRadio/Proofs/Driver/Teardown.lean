import PacketRadio.Driver.Teardown
import PacketRadio.Proofs.Driver.Sends
import PacketRadio.Proofs.Driver.Tenancy

/-!
# Taking a driver down

Whatever a driver has been asked to do, taking it down ends: every adapter goes, slot by slot, what
it had still to send goes back first, and the arena takes every block. No pause is told to be
complete on the way.
-/

namespace PacketRadio

open Pool

namespace Context

/-- What is left to say when the slots `is` have been cleared. -/
structure Cleared (is : List (Fin maxAdapters)) (t : SlotTable) (rest : List Record) (arena : Arena)
    (o : Outcome Event (SlotTable × Arena) (Except Fault Nat)) : Prop where
  answer : ∃ n, o.answer = .ok n
  coherent : o.state.1.Coherent
  lodging : Lodging o.state.1 rest o.state.2
  id : o.state.2.id = arena.id
  vacant : ∀ i, i ∈ is ∨ (t.slot i).occupant = none → (o.state.1.slot i).occupant = none
  balance : ∀ h list, completions h list o.events + o.state.1.owed h list = t.owed h list
  unnotified : Unnotified o.events

/-- A slot that holds an adapter is cleared: its sends go back, then the adapter and its block. -/
theorem clearSlots_of_held {context : UInt32} {i : Fin maxAdapters} {is : List (Fin maxAdapters)}
    {t : SlotTable} {arena : Arena} {owned : Owned Adapter}
    (holds : (t.slot i).occupant = some owned)
    (back : (arena.surrenderOf Adapter owned.block).answer = .ok ()) :
    clearSlots context (i :: is) t arena =
      ((clearSlots context is (t.vacate i) (arena.surrenderOf Adapter owned.block).state).map
        (Except.map (· + 1))).after
        (.notice (.forceDestroying context owned.value.handle owned.value.lifecycle) ::
          owned.value.flushSends.events ++
            (Adapter.discard (some ⟨owned.block, owned.value.flushSends.state⟩) arena).events) := by
  have answer : (Adapter.discard (some ⟨owned.block, owned.value.flushSends.state⟩) arena).answer =
      .ok () := back
  rw [clearSlots, holds]
  simp only
  rw [answer]
  rfl

theorem clearSlots_of_free {context : UInt32} {i : Fin maxAdapters} {is : List (Fin maxAdapters)}
    {t : SlotTable} {arena : Arena} (free : (t.slot i).occupant = none) :
    clearSlots context (i :: is) t arena = clearSlots context is (t.vacate i) arena := by
  rw [clearSlots, free]

/-- The host hears of a cleared slot by the sends that go back. -/
theorem clearing_calls (context : UInt32) (owned : Owned Adapter) (arena : Arena) :
    hostCalls (.notice (.forceDestroying context owned.value.handle owned.value.lifecycle) ::
        owned.value.flushSends.events ++
          (Adapter.discard (some ⟨owned.block, owned.value.flushSends.state⟩) arena).events) =
      owned.value.sends.held.map fun list => .sendComplete owned.value.handle list .failure := by
  simp [Adapter.discard_some, owned.value.flushSends_spec.1]

/-- **Clearing slots meets no fault**, and balances. -/
theorem clearSlots_cleared (context : UInt32) {rest : List Record} (is : List (Fin maxAdapters))
    {t : SlotTable} {arena : Arena} (coherent : t.Coherent) (lodging : Lodging t rest arena) :
    Cleared is t rest arena (clearSlots context is t arena) := by
  induction is generalizing t arena with
  | nil =>
    refine ⟨⟨0, rfl⟩, coherent, lodging, rfl, fun i free => ?_, fun h list => ?_, fun h => ?_⟩
    · exact free.resolve_left fun member => by cases member
    · exact Nat.zero_add _
    · exact List.not_mem_nil
  | cons i is ih =>
    have vacant : ∀ j, j ∈ i :: is ∨ (t.slot j).occupant = none →
        j ∈ is ∨ ((t.vacate i).slot j).occupant = none := by
      intro j free
      rw [SlotTable.slot_vacate]
      by_cases here : j = i
      · rw [if_pos here]
        exact .inr rfl
      · rw [if_neg here]
        exact free.imp_left fun member => (List.mem_cons.1 member).resolve_left here
    cases holds : (t.slot i).occupant with
    | none =>
      have later := ih (coherent.vacate i) (lodging.vacate_free holds)
      rw [clearSlots_of_free holds]
      refine ⟨later.answer, later.coherent, later.lodging, later.id,
        fun j free => later.vacant j (vacant j free), fun h list => ?_, later.unnotified⟩
      rw [later.balance, Driver.owed_vacate_free h list holds]
    | some owned =>
      obtain ⟨back, same, left⟩ := lodging.vacate holds
      have later := ih (coherent.vacate i) left
      have calls := clearing_calls context owned arena
      rw [clearSlots_of_held holds back]
      refine ⟨?_, later.coherent, later.lodging, later.id.trans same,
        fun j free => later.vacant j (vacant j free), fun h list => ?_, fun h member => ?_⟩
      · obtain ⟨n, answer⟩ := later.answer
        refine ⟨n + 1, ?_⟩
        rw [Outcome.after_answer, Outcome.map_answer, answer]
        rfl
      · have balance := later.balance h list
        rw [Driver.owed_vacate] at balance
        rw [Outcome.after_events, Outcome.map_events, Outcome.after_state, Outcome.map_state,
          completions_append, completions, calls, count_flushed, coherent.handle i owned holds]
        by_cases here : t.handleAt i = h
        · have found : t.locate h = .ok (i, owned) := SlotTable.locate_eq_ok.2 ⟨holds, here.symm⟩
          rw [if_pos here] at balance
          rw [if_pos here, Driver.owed_of_locate list found]
          omega
        · rw [if_neg here] at balance
          rw [if_neg here]
          omega
      · rw [Outcome.after_events, hostCalls_append, calls, List.mem_append] at member
        rcases member with flushed | after
        · obtain ⟨list, -, same⟩ := List.mem_map.1 flushed
          cases same
        · exact later.unnotified h after

theorem leave_unsettling (c : Context) : Unsettling c.leave.events := by
  unfold leave
  split
  · exact unsettling_of_silent rfl
  · simp [Unsettling, HostCall.settles]

theorem leave_slots (c : Context) : c.leave.state.slots = c.slots := by
  unfold leave
  split <;> rfl

theorem release_silent (activity : Activity) (id : UInt32) :
    hostCalls (activity.release id).events = [] := by
  unfold Activity.release
  split <;> rfl

/-- Without a fault, a teardown clears the slots, leaves the host, and gives the role up. -/
theorem teardown_of_cleared {c : Context} {arena : Arena} {n : Nat}
    (cleared : (clearSlots c.id (List.finRange maxAdapters) c.slots arena).answer = .ok n)
    (activity : Activity) :
    (c.teardown arena activity).answer = .ok () ∧
      (c.teardown arena activity).state.1 =
        (clearSlots c.id (List.finRange maxAdapters) c.slots arena).state.2 ∧
      hostCalls (c.teardown arena activity).events =
        hostCalls (clearSlots c.id (List.finRange maxAdapters) c.slots arena).events ++
          hostCalls c.leave.events := by
  unfold teardown
  simp only [cleared]
  refine ⟨trivial, trivial, ?_⟩
  simp [release_silent]

theorem discard_of_torn {owned : Owned Context} {arena : Arena} {activity : Activity}
    (torn : (owned.value.teardown arena activity).answer = .ok ()) :
    (discard (some owned) arena activity).answer =
        ((owned.value.teardown arena activity).state.1.surrenderOf Context owned.block).answer ∧
      hostCalls (discard (some owned) arena activity).events =
        hostCalls (owned.value.teardown arena activity).events := by
  unfold discard
  simp only [Outcome.andThen_answer, Outcome.andThen_events, torn]
  refine ⟨rfl, ?_⟩
  simp

end Context

/-! ## The whole driver -/

namespace Driver

/-- A driver was taken down: all that was owed went back, and no pause was told to be complete. -/
structure TakenDown (d : Driver) (o : Outcome Event (Arena × Activity) (Except Fault Unit)) :
    Prop where
  answer : o.answer = .ok ()
  balance : ∀ h list, completions h list o.events = d.slots.owed h list
  unnotified : Unnotified o.events

theorem Housed.discard {d : Driver} {others : List Record} (housed : d.Housed others)
    (coherent : d.slots.Coherent) (activity : Activity) :
    d.TakenDown (Context.discard (some d.context) d.arena activity) := by
  have cleared := Context.clearSlots_cleared d.context.value.id (List.finRange maxAdapters) coherent
    housed.lodging
  obtain ⟨n, done⟩ := cleared.answer
  obtain ⟨answer, state, calls⟩ := Context.teardown_of_cleared done activity
  obtain ⟨given, heard⟩ := Context.discard_of_torn answer
  have vacant : ∀ i, ((Context.clearSlots d.context.value.id (List.finRange maxAdapters) d.slots
      d.arena).state.1.slot i).occupant = none := fun i =>
    cleared.vacant i (.inl (List.mem_finRange i))
  have unnamed : ∀ h, (Context.clearSlots d.context.value.id (List.finRange maxAdapters) d.slots
      d.arena).state.1.adapter? h = none := by
    intro h
    cases named : SlotTable.adapter? _ h with
    | none => rfl
    | some a =>
      obtain ⟨i, owned, holds, -, -⟩ := SlotTable.adapter?_eq_some.1 named
      rw [vacant i] at holds
      cases holds
  refine ⟨?_, fun h list => ?_, fun h member => ?_⟩
  · have hosts : Arena.Hosts Context _ d.context.block :=
      ⟨housed.own.trans cleared.id.symm, cleared.lodging.live.mem_iff.2
        (List.mem_append_right _ List.mem_cons_self)⟩
    rw [given, state]
    exact (Arena.surrenderOf_of_hosts cleared.lodging.sound hosts).1
  · have balance := cleared.balance h list
    have quiet := completions_of_unsettling h list (d.context.value.leave_unsettling)
    rw [owed_of_missing h list (unnamed h)] at balance
    rw [completions, heard, calls, List.countP_append]
    change completions h list _ + completions h list _ = _
    simp only [slots] at balance ⊢
    omega
  · rw [heard, calls, List.mem_append] at member
    rcases member with clearing | leaving
    · exact cleared.unnotified h clearing
    · have quiet := d.context.value.leave_unsettling _ leaving
      cases quiet

/-- Unloading undoes the registration first and then takes the driver down as well. -/
theorem Housed.unload {d : Driver} {others : List Record} (housed : d.Housed others)
    (coherent : d.slots.Coherent) (activity : Activity) :
    d.TakenDown (Context.unload (some d.context) d.arena activity) := by
  let left : Driver := { d with context := ⟨d.context.block, d.context.value.leave.state⟩ }
  have slots : left.slots = d.slots := d.context.value.leave_slots
  have housed' : left.Housed others := by
    refine ⟨housed.own, ?_⟩
    rw [slots]
    exact housed.lodging
  have down := housed'.discard (by rw [slots]; exact coherent) activity
  have quiet := d.context.value.leave_unsettling
  refine ⟨down.answer, fun h list => ?_, fun h member => ?_⟩
  · have balance := down.balance h list
    rw [slots] at balance
    have before := completions_of_unsettling h list quiet
    change completions h list ((.notice _ :: d.context.value.leave.events) ++ _) = _
    rw [completions_append, balance]
    change completions h list d.context.value.leave.events + _ = _
    rw [before, Nat.zero_add]
  · change _ ∈ hostCalls ((.notice _ :: d.context.value.leave.events) ++ _) at member
    rw [hostCalls_append, List.mem_append] at member
    rcases member with leaving | after
    · have quiet := quiet _ leaving
      cases quiet
    · exact down.unnotified h after

end Driver

end PacketRadio
