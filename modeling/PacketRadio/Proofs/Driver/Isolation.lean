import PacketRadio.Proofs.Driver.Voices
import PacketRadio.Proofs.Pool.Returns

/-!
# Adapters do not disturb each other

A request to an adapter reads and writes one slot, and a halt gives one block back besides. No other
handle sees any of that, not even a stale one of the same slot: the slot's count stays, and it is
the count by which a handle is told from the others of its slot. So requests under two handles can
change places, and every adapter is served as if it were alone.
-/

namespace PacketRadio

open Pool

/-! ## What a handle sees -/

namespace SlotTable

variable {t : SlotTable} {i j : Fin maxAdapters} {s : Slot} {h : Handle}

theorem put_comm (t : SlotTable) (other : j ≠ i) (s r : Slot) :
    (t.put i s).put j r = (t.put j r).put i s :=
  congrArg SlotTable.mk (Vector.set_comm s r fun same => other (Fin.ext same.symm))

/-- Of its slot, a handle sees the occupant and the count. -/
theorem locate_of_slot (slot : h.slot = UInt8.ofNat i) :
    t.locate h =
      match (t.slot i).occupant with
      | some owned =>
        if (t.slot i).generation = h.generation then .ok (i, owned) else .error .staleAdapter
      | none => .error .staleAdapter := by
  unfold locate
  rw [resolve_of_slot slot]
  cases holds : (t.slot i).occupant with
  | none => simp [Slot.inUse, holds]
  | some owned =>
    by_cases count : (t.slot i).generation = h.generation
    · simp [Slot.inUse, holds, count]
    · simp [Slot.inUse, holds, count]

/-- A handle has a slot, or is no handle for any table. -/
theorem slot_or_invalid (h : Handle) :
    (∃ i : Fin maxAdapters, h.slot = UInt8.ofNat i) ∨
      ∀ t : SlotTable, t.locate h = .error .invalidHandle := by
  cases index : index? h.slot.toNat with
  | some i =>
    refine .inl ⟨i, ?_⟩
    rw [← UInt8.toNat_inj, toNat_slotNumber]
    exact index?_eq_some.1 index
  | none =>
    refine .inr fun t => ?_
    unfold locate resolve
    rw [index]

/-- **A handle sees nothing of what becomes of others**, in other slots or in its own. -/
theorem locate_put (count : s.generation = (t.slot i).generation) (other : h ≠ t.handleAt i) :
    (t.put i s).locate h = t.locate h := by
  rcases slot_or_invalid h with ⟨j, slot⟩ | invalid
  · rw [locate_of_slot slot, locate_of_slot slot]
    by_cases here : j = i
    · subst here
      have stale : (t.slot j).generation ≠ h.generation := fun same =>
        other ((eq_handleAt slot).2 same.symm)
      rw [slot_put_same, count]
      simp only [if_neg stale]
      cases s.occupant <;> cases (t.slot j).occupant <;> rfl
    · rw [slot_put_other t s here]
  · rw [invalid, invalid]

end SlotTable

/-! ## What becomes of a slot and of the arena -/

namespace Errand

/-- What becomes of the slot whose adapter is asked. -/
def leaves (e : Errand) (s : Slot) (owned : Owned Adapter) : Slot :=
  match e with
  | .visit v => { s with occupant := some ⟨owned.block, (v.work owned.value).state⟩ }
  | .halt .. => { s with occupant := none, interface := none }
  | _ => s

/-- What becomes of the arena that holds the adapter. -/
def arenaAfter (e : Errand) (block : Block) (arena : Arena) : Arena :=
  match e with
  | .halt .. => (arena.surrenderOf Adapter block).state
  | _ => arena

theorem leaves_generation (e : Errand) (s : Slot) (owned : Owned Adapter) :
    (e.leaves s owned).generation = s.generation := by
  cases e <;> rfl

/-- What becomes of the occupant does not depend on what else is noted of the slot. -/
theorem leaves_occupant (e : Errand) {r s : Slot} (same : r.occupant = s.occupant)
    (owned : Owned Adapter) : (e.leaves r owned).occupant = (e.leaves s owned).occupant := by
  cases e with
  | visit v => rfl
  | halt adapter action => rfl
  | aside => exact same
  | create p refuse => exact same

/-- Two errands to adapters in different blocks leave the same arena in either order. -/
theorem arenaAfter_comm (e f : Errand) {arena : Arena} {b c : Block} (sound : arena.Sound)
    (first : arena.Hosts Adapter b) (second : arena.Hosts Adapter c) (apart : b.offset ≠ c.offset) :
    f.arenaAfter c (e.arenaAfter b arena) = e.arenaAfter b (f.arenaAfter c arena) := by
  cases e with
  | halt handle action =>
    cases f with
    | halt other reason => exact Arena.surrenderOf_comm sound first second apart
    | aside => rfl
    | visit v => rfl
    | create p refuse => rfl
  | aside => rfl
  | visit v => rfl
  | create p refuse => rfl

end Errand

/-- No two adapters have blocks at the same place. -/
theorem Lodging.apart {t : SlotTable} {rest : List Record} {arena : Arena}
    (lodging : Lodging t rest arena) {i j : Fin maxAdapters} (other : j ≠ i)
    {owned neighbour : Owned Adapter} (here : (t.slot i).occupant = some owned)
    (there : (t.slot j).occupant = some neighbour) :
    owned.block.offset ≠ neighbour.block.offset := by
  have places : ((t.tenants ++ rest).map Record.offset).Nodup :=
    (lodging.live.map Record.offset).nodup_iff.1 lodging.sound.offsets_nodup
  have split := ((SlotTable.tenants_vacate here).append_right rest).map Record.offset
  rw [split.nodup_iff, List.cons_append, List.map_cons, List.nodup_cons] at places
  have kept : ((t.vacate i).slot j).occupant = some neighbour := by
    rw [SlotTable.slot_vacate, if_neg other]
    exact there
  intro same
  refine places.1 ?_
  rw [show (owned.block.recordFor Adapter).offset = (neighbour.block.recordFor Adapter).offset from
    same]
  refine List.mem_map_of_mem (List.mem_append_left rest ?_)
  exact (SlotTable.tenants_vacate kept).mem_iff.2 List.mem_cons_self

/-- The calls to the host that are about the adapter `h`. -/
def callsFor (h : Handle) (events : List Event) : List HostCall :=
  (hostCalls events).filter fun call => call.adapter? = some h

@[simp] theorem callsFor_append (h : Handle) (events more : List Event) :
    callsFor h (events ++ more) = callsFor h events ++ callsFor h more := by
  simp [callsFor]

namespace Driver

variable {d e : Driver} {activity : Activity} {request : Request} {h k : Handle}

/-- The driver with slot `i` and the arena replaced. -/
def settled (d : Driver) (i : Fin maxAdapters) (s : Slot) (arena : Arena) : Driver :=
  ⟨⟨d.context.block, { d.context.value with slots := d.slots.put i s }⟩, arena⟩

/-- **What a request to an adapter changes**: the slot, and the arena if the block goes back. -/
theorem serve_of_addressed (asked : request.addressee? = some h) {i : Fin maxAdapters}
    {owned : Owned Adapter} (found : d.slots.locate h = .ok (i, owned)) (answers : HostAnswers) :
    (d.serve answers request).state =
      d.settled i (request.errand.leaves (d.slots.slot i) owned)
        (request.errand.arenaAfter owned.block d.arena) := by
  rcases Request.errand_of_addressee asked with ⟨v, errand, rfl⟩ | ⟨action, errand⟩
  · rw [serve_of_found errand found, errand]
    rfl
  · rw [serve_halt errand, errand]
    simp only [onBoth, Outcome.within_state, Outcome.map_state]
    rw [(Context.haltAdapter_of_found found d.arena action).2.1]
    rfl

/-- What is asked under one handle is not seen under another. -/
theorem locate_elsewhere (asked : request.addressee? = some h) (other : k ≠ h)
    (answers : HostAnswers) :
    (d.serve answers request).state.slots.locate k = d.slots.locate k := by
  cases found : d.slots.locate h with
  | error why => rw [serve_of_lost asked found]
  | ok there =>
    obtain ⟨i, owned⟩ := there
    obtain ⟨-, at_⟩ := SlotTable.locate_eq_ok.1 found
    rw [serve_of_addressed asked found]
    exact SlotTable.locate_put (request.errand.leaves_generation _ _) fun same =>
      other (same.trans at_.symm)

/-- Who sees the same is left with the same. -/
theorem locate_own (asked : request.addressee? = some h)
    (same : e.slots.locate h = d.slots.locate h) (answers : HostAnswers) :
    (e.serve answers request).state.slots.locate h =
      (d.serve answers request).state.slots.locate h := by
  cases found : d.slots.locate h with
  | error why => rw [serve_of_lost asked found, serve_of_lost asked (same.trans found), same]
  | ok there =>
    obtain ⟨i, owned⟩ := there
    obtain ⟨holds, at_⟩ := SlotTable.locate_eq_ok.1 found
    obtain ⟨holds', at'⟩ := SlotTable.locate_eq_ok.1 (same.trans found)
    have slot : h.slot = UInt8.ofNat i := congrArg Handle.slot at_
    have count : (e.slots.slot i).generation = (d.slots.slot i).generation := by
      rw [← (SlotTable.eq_handleAt slot).1 at', (SlotTable.eq_handleAt slot).1 at_]
    rw [serve_of_addressed asked found, serve_of_addressed asked (same.trans found)]
    change ((e.slots.put i _).locate h) = (d.slots.put i _).locate h
    rw [SlotTable.locate_of_slot slot, SlotTable.locate_of_slot slot, SlotTable.slot_put_same,
      SlotTable.slot_put_same, Errand.leaves_generation, Errand.leaves_generation, count,
      Errand.leaves_occupant _ (holds'.trans holds.symm)]

/-- Slots that are settled one after the other can be settled in either order. -/
theorem settled_comm (d : Driver) {i j : Fin maxAdapters} (other : j ≠ i) (s r : Slot)
    (x y arena : Arena) :
    (d.settled i s x).settled j r arena = (d.settled j r y).settled i s arena := by
  simp only [settled, slots, SlotTable.put_comm d.context.value.slots other s r]

/-- **Requests under two handles can change places**: they leave the same driver. -/
theorem Reachable.serve_comm (reachable : d.Reachable activity) {first second : Request}
    (asked : first.addressee? = some h) (asked' : second.addressee? = some k) (other : k ≠ h)
    (answers more : HostAnswers) :
    ((d.serve answers first).state.serve more second).state =
      ((d.serve more second).state.serve answers first).state := by
  have unseen := locate_elsewhere (d := d) asked other answers
  have unseen' := locate_elsewhere (d := d) asked' other.symm more
  cases found : d.slots.locate h with
  | error why => rw [serve_of_lost asked found, serve_of_lost asked (unseen'.trans found)]
  | ok here =>
    cases found' : d.slots.locate k with
    | error why => rw [serve_of_lost asked' found', serve_of_lost asked' (unseen.trans found')]
    | ok there =>
      obtain ⟨i, owned⟩ := here
      obtain ⟨j, neighbour⟩ := there
      obtain ⟨holds, at_⟩ := SlotTable.locate_eq_ok.1 found
      obtain ⟨holds', at'⟩ := SlotTable.locate_eq_ok.1 found'
      have away : j ≠ i := fun same => other (by rw [at_, at', same])
      obtain ⟨others, housed⟩ := reachable.housed
      have lodging := housed.lodging
      have arenas := first.errand.arenaAfter_comm second.errand lodging.sound (lodging.hosts holds)
        (lodging.hosts holds') (lodging.apart away holds holds')
      rw [serve_of_addressed asked' (unseen.trans found'),
        serve_of_addressed asked (unseen'.trans found), serve_of_addressed asked found,
        serve_of_addressed asked' found']
      change (d.settled i _ _).settled j (second.errand.leaves ((d.slots.put i _).slot j) neighbour)
          (second.errand.arenaAfter _ (first.errand.arenaAfter _ d.arena)) =
        (d.settled j _ _).settled i (first.errand.leaves ((d.slots.put j _).slot i) owned)
          (first.errand.arenaAfter _ (second.errand.arenaAfter _ d.arena))
      rw [SlotTable.slot_put_other _ _ away, SlotTable.slot_put_other _ _ away.symm, arenas]
      exact d.settled_comm away _ _ _ _ _

/-! ## Replies -/

/-- What a request brings: the answer for whoever made it, and the calls to the host. -/
structure Reply where
  answer : Except Fatal Response
  calls : List HostCall

/-- What a request brings in `d`. -/
def reply (d : Driver) (answers : HostAnswers) (request : Request) : Reply :=
  ⟨(d.serve answers request).answer, hostCalls (d.serve answers request).events⟩

/-- **What a request brings depends on what its handle sees**, and on nothing else. -/
theorem reply_local (before : d.Reachable activity) (after : e.Reachable activity)
    (asked : request.addressee? = some h) (same : e.slots.locate h = d.slots.locate h)
    (answers : HostAnswers) : e.reply answers request = d.reply answers request := by
  unfold reply
  rcases Request.errand_of_addressee asked with ⟨v, errand, rfl⟩ | ⟨action, errand⟩
  · cases found : d.slots.locate v.adapter with
    | error why =>
      rw [serve_of_missing errand found, serve_of_missing errand (same.trans found)]
    | ok there =>
      obtain ⟨i, owned⟩ := there
      rw [serve_of_found errand found, serve_of_found errand (same.trans found)]
  · rw [serve_halt errand, serve_halt errand]
    simp only [onBoth, Outcome.within_answer, Outcome.map_answer, Outcome.within_events,
      Outcome.map_events]
    cases found : d.slots.locate h with
    | error why =>
      obtain ⟨check, lost⟩ := Context.haltAdapter_lost h action why
      rw [lost _ d.arena found, lost _ e.arena (same.trans found)]
    | ok there =>
      obtain ⟨i, owned⟩ := there
      obtain ⟨answer, -, calls⟩ := Context.haltAdapter_of_found found d.arena action
      obtain ⟨answer', -, calls'⟩ :=
        Context.haltAdapter_of_found (same.trans found) e.arena action
      obtain ⟨others, housed⟩ := before.housed
      obtain ⟨others', housed'⟩ := after.housed
      have taken := (housed.lodging.vacate (SlotTable.locate_eq_ok.1 found).1).1
      have taken' :=
        (housed'.lodging.vacate (SlotTable.locate_eq_ok.1 (same.trans found)).1).1
      rw [answer, answer', calls, calls', taken, taken']

/-- The host hears of no adapter but the one that was asked. -/
theorem callsFor_serve (coherent : d.slots.Coherent) (asked : request.addressee? = some h)
    (k : Handle) (answers : HostAnswers) :
    callsFor k (d.serve answers request).events =
      if h = k then (d.reply answers request).calls else [] := by
  have about : ∀ call ∈ hostCalls (d.serve answers request).events, call.adapter? = some h :=
    fun call heard => (serve_voices coherent heard).adapter? asked
  split
  · rename_i same
    refine List.filter_eq_self.2 fun call heard => decide_eq_true ?_
    rw [about call heard, same]
  · rename_i other
    refine List.filter_eq_nil_iff.2 fun call heard here => other ?_
    exact Option.some.inj ((about call heard).symm.trans (of_decide_eq_true here))

end Driver

end PacketRadio
