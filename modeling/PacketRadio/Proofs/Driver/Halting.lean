import PacketRadio.Proofs.Driver.Decision
import PacketRadio.Proofs.Driver.Farewell
import PacketRadio.Proofs.Driver.Refusals

/-!
# Halting an adapter

A halt of a handle that names no adapter stops the driver, and nothing has happened before. A halt
of any other one takes the adapter out of its slot, gives back what it had still to send, destroys
it and releases its block. The slot is free then and keeps its count, so the handle names nothing
any more; and the next adapter that comes up gets the slot, unless a lower one is free.

The sends are given back by a loop that goes on until there is none. It needs no bound: it ends with
the last send, also if that send completes a pause on its way out.
-/

namespace PacketRadio

open Pool

/-! ## The loop of a flush -/

namespace Adapter

/-- Sends are taken from `a` until there is none: first to last the `lists`, which leaves `b`. -/
inductive Flushes : Adapter → List BufferList → Adapter → Prop
  | done {a : Adapter} (none : a.takeSend.answer = .none) : Flushes a [] a.takeSend.state
  | next {a b : Adapter} {list : BufferList} {lists : List BufferList}
      (taken : a.takeSend.answer = some list) (rest : Flushes a.takeSend.state lists b) :
      Flushes a (list :: lists) b

/-- The loop can end in one way only. -/
theorem Flushes.unique {a b c : Adapter} {lists others : List BufferList}
    (flushes : a.Flushes lists b) (also : a.Flushes others c) : lists = others ∧ b = c := by
  induction flushes generalizing others with
  | done none =>
    cases also with
    | done => exact ⟨rfl, rfl⟩
    | next taken => cases none.symm.trans taken
  | next taken rest ih =>
    cases also with
    | done none => cases none.symm.trans taken
    | next taken' rest' =>
      cases taken.symm.trans taken'
      obtain ⟨rfl, rfl⟩ := ih rest'
      exact ⟨rfl, rfl⟩

/-- With nothing to take, the loop leaves the adapter as it was. -/
theorem Flushes.of_empty {a : Adapter} (empty : a.sends.pop? = none) : a.Flushes [] a := by
  have taken := takeSend_of_empty empty
  have done : a.Flushes [] a.takeSend.state := .done (by rw [taken]; rfl)
  rw [taken] at done
  exact done

/-- With as many rounds as there are lists, a flush is the whole loop. -/
theorem flushes_flush {rounds : Nat} {a : Adapter} (enough : a.sends.held.length ≤ rounds) :
    a.Flushes a.sends.held (flush rounds a).state := by
  induction rounds generalizing a with
  | zero =>
    have none : a.sends.held = [] := List.eq_nil_of_length_eq_zero (Nat.le_zero.1 enough)
    rw [none]
    exact .of_empty (InFlight.pop?_eq_none.2 none)
  | succ rounds ih =>
    cases gone : a.sends.pop? with
    | none =>
      rw [InFlight.pop?_eq_none.1 gone, flush, takeSend_of_empty gone]
      exact .of_empty gone
    | some first =>
      obtain ⟨list, sends⟩ := first
      have held := (InFlight.pop?_held gone).1
      have taken := takeSend_of_held gone
      -- The last list may settle a pause, which does not touch the sends.
      have left : a.takeSend.state.sends = sends := by
        rw [taken]
        exact (settlePause_onlyMoves _).sends
      have answer : a.takeSend.answer = some list := by
        rw [taken]
        rfl
      rw [held, List.length_cons] at enough
      have later := ih (a := a.takeSend.state) (by rw [left]; omega)
      rw [left] at later
      rw [held, flush, Outcome.andThen_state, answer]
      exact .next answer later

/-- **The loop of a flush takes one round for each held list**, and then ends. -/
theorem flushes_iff {a b : Adapter} {lists : List BufferList} :
    a.Flushes lists b ↔ lists = a.sends.held ∧ b = a.flushSends.state := by
  have whole := flushes_flush a.sends.length_held_le
  refine ⟨fun flushes => flushes.unique whole, ?_⟩
  rintro ⟨rfl, rfl⟩
  exact whole

end Adapter

/-! ## Handles that name nothing -/

namespace SlotTable

/-- The handle names the adapter in some slot. -/
def Names (t : SlotTable) (h : Handle) : Prop :=
  ∃ i, (t.slot i).inUse = true ∧ h = t.handleAt i

instance (t : SlotTable) (h : Handle) : Decidable (t.Names h) :=
  inferInstanceAs (Decidable (∃ i, (t.slot i).inUse = true ∧ h = t.handleAt i))

theorem locate_of_unnamed {t : SlotTable} {h : Handle} (unnamed : ¬ t.Names h) :
    ∃ why, t.locate h = .error why := by
  cases found : t.locate h with
  | error why => exact ⟨why, rfl⟩
  | ok there =>
    obtain ⟨holds, named⟩ := locate_eq_ok.1 found
    refine absurd ⟨there.1, ?_, named⟩ unnamed
    rw [Slot.inUse, holds]
    rfl

/-- A handle that names nothing is invalid if there is no slot of its number, and else stale. -/
theorem invalid_iff {t : SlotTable} {h : Handle} {why : Error}
    (missing : t.locate h = .error why) : why = .invalidHandle ↔ 16 ≤ h.slot.toNat := by
  have status := status_of_missing missing
  unfold Handle.absence at status
  rcases locate_error missing with rfl | rfl
  · refine iff_of_true rfl (Decidable.byContradiction fun inside => ?_)
    rw [if_neg inside] at status
    cases status
  · refine iff_of_false nofun fun outside => ?_
    rw [if_pos outside] at status
    cases status

end SlotTable

/-- What stops the driver if the host halts an adapter that is not there. -/
def BugCheck.ofHalt (h : Handle) : BugCheck :=
  if 16 ≤ h.slot.toNat then .haltOfInvalidAdapter h else .haltOfStaleAdapter h

namespace Context

variable {c : Context} {arena : Arena}

theorem haltAdapter_of_unnamed {h : Handle} (unnamed : ¬ c.slots.Names h) (arena : Arena)
    (action : HaltAction) :
    c.haltAdapter arena h action =
      ⟨.error (.bugCheck (.ofHalt h)), (c, arena), [.notice (.bugCheck (.ofHalt h))]⟩ := by
  obtain ⟨why, missing⟩ := SlotTable.locate_of_unnamed unnamed
  have check : (if why = .invalidHandle then .haltOfInvalidAdapter h
      else BugCheck.haltOfStaleAdapter h) = .ofHalt h :=
    if_congr (SlotTable.invalid_iff missing) rfl rfl
  unfold haltAdapter
  rw [missing]
  simp only [check]

/-! ## The slot that was left -/

/-- The next adapter that comes up does so in slot `k`, under the slot's next count. -/
structure NextIn (c : Context) (arena : Arena) (k : Fin maxAdapters) : Prop where
  lowest : c.slots.LowestFree k
  handle : ∀ answers p h, (c.createAdapter arena answers p).answer = .ok h →
    h = ⟨UInt8.ofNat k, (c.slots.slot k).generation + 1⟩
  others : ∀ answers p, ∀ j ≠ k,
    (c.createAdapter arena answers p).state.1.slots.slot j = c.slots.slot j

/-- An adapter comes up in the lowest free slot or not at all. -/
theorem nextIn_firstFree {k : Fin maxAdapters} (free : c.slots.firstFree? = some k) :
    c.NextIn arena k where
  lowest := SlotTable.firstFree?_lowest free
  handle answers p h answer := by
    cases c.createAdapter_creation arena answers p with
    | turnedAway told => cases answer.symm.trans told
    | unmade _ told => cases answer.symm.trans told
    | withdrawn _ told =>
      rw [answer] at told
      split at told <;> cases told
    | installed _ lowest _ told =>
      cases free.symm.trans lowest
      cases answer.symm.trans told
      rfl
  others answers p j other := by
    cases c.createAdapter_creation arena answers p with
    | turnedAway _ state => rw [state]
    | unmade _ _ state => rw [state]
    | withdrawn _ _ state => rw [state]
    | installed _ lowest _ _ state =>
      cases free.symm.trans lowest
      rw [state]
      exact c.slots.slot_put_other _ other

theorem exists_firstFree {t : SlotTable} {i : Fin maxAdapters} (free : (t.slot i).inUse = false) :
    ∃ k, t.firstFree? = some k := by
  cases found : t.firstFree? with
  | some k => exact ⟨k, rfl⟩
  | none =>
    have taken := SlotTable.firstFree?_eq_none.1 found i
    cases free.symm.trans taken

/-- The slot that was left is the lowest free one unless a lower one was free before. -/
theorem lowestFree_vacate {t : SlotTable} {i k : Fin maxAdapters}
    (lowest : (t.vacate i).LowestFree k) : k = i ↔ ∀ j < i, (t.slot j).inUse = true := by
  constructor
  · rintro rfl j lower
    have taken := lowest.before j lower
    rwa [SlotTable.slot_vacate, if_neg (Fin.ne_of_lt lower)] at taken
  · intro taken
    rcases lt_trichotomy k i with lower | same | above
    · have free := lowest.free
      rw [SlotTable.slot_vacate, if_neg (Fin.ne_of_lt lower), taken k lower] at free
      cases free
    · exact same
    · have taken := lowest.before i above
      rw [SlotTable.slot_vacate, if_pos rfl] at taken
      cases taken

/-! ## Adapters that go -/

/-- The adapter `owned` in slot `i` was halted. -/
structure WentDown (c : Context) (arena : Arena) (i : Fin maxAdapters) (owned : Owned Adapter)
    (o : Outcome Event (Context × Arena) (Except Fatal Unit)) : Prop where
  answer : o.answer = .ok ()
  /-- What the adapter had to send goes back as failed, and then the adapter is destroyed. -/
  told : milestones o.events =
    (owned.value.sends.held.map fun list =>
      .called (.sendComplete (c.slots.handleAt i) list .failure)) ++
        [.destroyed (c.slots.handleAt i)]
  calls : hostCalls o.events =
    owned.value.sends.held.map fun list => .sendComplete (c.slots.handleAt i) list .failure
  /-- No list goes back twice. -/
  once : owned.value.sends.held.Nodup
  /-- There is one round for each list. -/
  rounds : ∀ lists b, owned.value.Flushes lists b ↔
    lists = owned.value.sends.held ∧ b = owned.value.flushSends.state
  /-- The block is live before, and released. -/
  live : arena.live.Perm (owned.block.recordFor Adapter :: o.state.2.live)
  memory : o.state.2 = arena.withoutBlock (owned.block.recordFor Adapter)
  /-- The slot is free and keeps its count. -/
  slot : o.state.1.slots.slot i = ⟨none, none, (c.slots.slot i).generation⟩
  others : ∀ j ≠ i, o.state.1.slots.slot j = c.slots.slot j
  /-- Nothing but the slots changes. -/
  registration : o.state.1 = { c with slots := o.state.1.slots }
  next : ∃ k, o.state.1.NextIn o.state.2 k ∧ (k = i ↔ ∀ j < i, (c.slots.slot j).inUse = true)

theorem halting_milestones (owned : Owned Adapter) (arena : Arena) (h : Handle)
    (action : HaltAction) :
    milestones ((owned.value.flushSends.events ++ [.notice (.halting h action)]) ++
        (Adapter.discard (some ⟨owned.block, owned.value.flushSends.state⟩) arena).events) =
      owned.value.farewell := by
  have flushed := Adapter.flush_milestones maxInFlight owned.value
  change milestones owned.value.flushSends.events =
    (hostCalls owned.value.flushSends.events).map .called at flushed
  rw [owned.value.flushSends_spec.1] at flushed
  have quiet : milestones [.notice (.halting h action)] = [] := rfl
  rw [milestones_append, milestones_append, flushed, quiet, List.append_nil, Adapter.discard_some]
  simp [Adapter.farewell, Adapter.destroy_milestones, Adapter.flushSends_handle]

/-- **An adapter that is halted goes down**, whatever state it is in. -/
theorem haltAdapter_wentDown {rest : List Record} (coherent : c.slots.Coherent)
    (lodging : Lodging c.slots rest arena) {i : Fin maxAdapters} {owned : Owned Adapter}
    (holds : (c.slots.slot i).occupant = some owned) (sound : owned.value.Sound)
    (action : HaltAction) :
    c.WentDown arena i owned (c.haltAdapter arena (c.slots.handleAt i) action) := by
  have found : c.slots.locate (c.slots.handleAt i) = .ok (i, owned) :=
    SlotTable.locate_eq_ok.2 ⟨holds, rfl⟩
  have named := coherent.handle i owned holds
  obtain ⟨back, released⟩ := Arena.surrenderOf_eq lodging.sound (lodging.hosts holds)
  obtain ⟨answer, state, calls⟩ := haltAdapter_of_found found arena action
  rw [back] at answer
  rw [released] at state
  rw [named] at calls
  refine ⟨answer, ?_, calls, sound.sends.nodup, fun lists b => Adapter.flushes_iff, ?_, ?_, ?_, ?_,
    ?_, ?_⟩
  · have told := halting_milestones owned arena (c.slots.handleAt i) action
    rw [Adapter.farewell, named] at told
    unfold haltAdapter
    rw [found]
    exact told
  · rw [state]
    exact Arena.live_withoutBlock (lodging.sound.recordAt? (lodging.hosts holds).live)
  · rw [state]
  · rw [state, SlotTable.slot_vacate, if_pos rfl]
  · intro j other
    rw [state, SlotTable.slot_vacate, if_neg other]
  · rw [state]
  · have free : ((c.slots.vacate i).slot i).inUse = false := by
      rw [SlotTable.slot_vacate, if_pos rfl]
      rfl
    obtain ⟨k, lowest⟩ := exists_firstFree free
    rw [state]
    exact ⟨k, nextIn_firstFree lowest, lowestFree_vacate (SlotTable.firstFree?_lowest lowest)⟩

end Context

namespace Driver

/-- How halts of the driver's adapters end. -/
structure Halts (d : Driver) : Prop where
  /-- What names no adapter stops the driver before anything happens. -/
  unnamed : ∀ h action, ¬ d.slots.Names h →
    d.context.value.haltAdapter d.arena h action =
      ⟨.error (.bugCheck (.ofHalt h)), (d.context.value, d.arena),
        [.notice (.bugCheck (.ofHalt h))]⟩
  named : ∀ h action, d.slots.Names h →
    ∃ i owned, (d.slots.slot i).occupant = some owned ∧ h = d.slots.handleAt i ∧
      d.context.value.WentDown d.arena i owned (d.context.value.haltAdapter d.arena h action)
  entry : ∀ h action,
    d.context.value.halt d.arena (some h) action = d.context.value.haltAdapter d.arena h action
  /-- A halt of no adapter does nothing. -/
  nobody : ∀ action, (d.context.value.halt d.arena none action).answer = .ok () ∧
    (d.context.value.halt d.arena none action).state = (d.context.value, d.arena) ∧
    milestones (d.context.value.halt d.arena none action).events = []

/-- **Every halt is one of an adapter that goes down with all that it has, or stops the driver at
once**, in whatever state the driver and its adapters are. -/
theorem Reachable.halts {d : Driver} {activity : Activity} (reachable : d.Reachable activity) :
    d.Halts where
  unnamed h action unnamed := Context.haltAdapter_of_unnamed unnamed d.arena action
  named h action := by
    rintro ⟨i, inUse, rfl⟩
    obtain ⟨others, housed⟩ := reachable.housed
    obtain ⟨owned, holds⟩ := Option.isSome_iff_exists.1 inUse
    have sound := reachable.sound _ _
      (SlotTable.adapter?_of_locate (SlotTable.locate_eq_ok.2 ⟨holds, rfl⟩))
    exact ⟨i, owned, holds, rfl,
      Context.haltAdapter_wentDown reachable.coherent housed.lodging holds sound action⟩
  entry h action := rfl
  nobody action := ⟨rfl, rfl, rfl⟩

/-- A pausing adapter goes down, and its handle is stale then. -/
theorem laden_halts :
    let d := (sample.run laden).state
    let gone := d.context.value.haltAdapter d.arena ⟨0, 1⟩ .deviceDisabled
    d.Halts ∧ d.slots.Names ⟨0, 1⟩ ∧ ¬ gone.state.1.slots.Names ⟨0, 1⟩ ∧
      milestones gone.events =
        [.called (.sendComplete ⟨0, 1⟩ ⟨5⟩ .failure), .called (.sendComplete ⟨0, 1⟩ ⟨6⟩ .failure),
          .destroyed ⟨0, 1⟩] ∧
      (gone.state.1.createAdapter gone.state.2 .willing ⟨⟨7⟩, none⟩).answer = .ok ⟨0, 2⟩ :=
  ⟨(sample_reachable.run laden).halts, by decide +kernel, by decide +kernel, by decide +kernel,
    by decide +kernel⟩

end Driver

end PacketRadio
