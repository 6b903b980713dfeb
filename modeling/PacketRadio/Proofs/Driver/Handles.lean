import PacketRadio.Proofs.Driver.Blocks
import PacketRadio.Proofs.Driver.Decision

/-!
# How long a handle is good

A handle names a slot and how often the slot has been filled. The slot's count is a word, so the
same handle comes round again with every `2 ^ 32` adapters, and not before. Between an adapter's
creation and any later moment it is therefore enough to count the creations in its slot: that tells
whether its handle names the occupant of the slot, or is stale and touches nobody.

A handle that the host was shown for an adapter which it then refused is another matter. The slot
was not filled and its count has not moved, so the next adapter there comes up under the very handle
that the host has seen before.
-/

namespace PacketRadio

open Pool

namespace Request

/-- The adapter that the request wants to work, or to go. -/
def addressee? : Request → Option Handle
  | .haltAdapter h _ | .pause h | .restart h _ | .accessAttribute h _ | .send _ h _ _
  | .takeBack _ h _ _ | .completeSend h _ _ | .indicate h _ => some h
  | .halt h _ => h
  | _ => none

theorem addressee?_of_errand (request : Request) :
    request.addressee? =
      match request.errand with
      | .visit v => some v.adapter
      | .halt h _ => some h
      | _ => none := by
  cases request
  case halt handle action => cases handle <;> rfl
  all_goals rfl

/-- A request to an adapter is work for it, or brings it down. -/
theorem errand_of_addressee {request : Request} {h : Handle}
    (asked : request.addressee? = some h) :
    (∃ v, request.errand = .visit v ∧ v.adapter = h) ∨
      ∃ action, request.errand = .halt h action := by
  rw [request.addressee?_of_errand] at asked
  cases errand : request.errand with
  | visit v =>
    rw [errand] at asked
    exact .inl ⟨v, rfl, Option.some.inj asked⟩
  | halt adapter action =>
    rw [errand] at asked
    cases asked
    exact .inr ⟨action, rfl⟩
  | aside => rw [errand] at asked; cases asked
  | create p refuse => rw [errand] at asked; cases asked

end Request

/-! ## Resolution -/

namespace SlotTable

variable {t : SlotTable} {h : Handle} {i : Fin maxAdapters}

/-- A handle of slot `i` resolves if the slot is in use under the handle's count, and is stale
otherwise. -/
theorem resolve_of_slot (slot : h.slot = UInt8.ofNat i) :
    t.resolve h =
      if (t.slot i).inUse = true ∧ (t.slot i).generation = h.generation then .ok i
      else .error .staleAdapter := by
  have number : h.slot.toNat = i := by rw [slot, toNat_slotNumber]
  unfold resolve
  rw [index?_eq_some.2 number]
  simp only [Bool.and_eq_true, beq_iff_eq]

theorem slot_of_resolve (resolves : t.resolve h = .ok i) : h.slot = UInt8.ofNat i := by
  unfold resolve at resolves
  split at resolves
  · cases resolves
  · rename_i j index
    dsimp only at resolves
    split at resolves
    · cases resolves
      rw [← UInt8.toNat_inj, toNat_slotNumber]
      exact index?_eq_some.1 index
    · cases resolves

/-- A handle that resolves has the count of its slot, which is in use. -/
theorem count_of_resolve (resolves : t.resolve h = .ok i) :
    (t.slot i).inUse = true ∧ (t.slot i).generation = h.generation := by
  have decided := resolve_of_slot (t := t) (slot_of_resolve resolves)
  rw [resolves] at decided
  split at decided
  · assumption
  · cases decided

theorem locate_of_resolve (resolves : t.resolve h = .ok i) :
    ∃ owned, (t.slot i).occupant = some owned ∧ t.locate h = .ok (i, owned) := by
  obtain ⟨owned, holds⟩ := inUse_iff.1 (count_of_resolve resolves).1
  refine ⟨owned, holds, ?_⟩
  unfold locate
  rw [resolves]
  simp only [holds]

theorem locate_of_unresolved {why : Error} (unresolved : t.resolve h = .error why) :
    t.locate h = .error why := by
  unfold locate
  rw [unresolved]

end SlotTable

namespace Driver

/-- `h` names the adapter in slot `i`: what is asked of `h` is asked of that one. -/
structure Names (d : Driver) (h : Handle) (i : Fin maxAdapters) (owned : Owned Adapter) : Prop where
  resolves : d.slots.resolve h = .ok i
  holds : (d.slots.slot i).occupant = some owned
  own : owned.value.handle = h
  works : ∀ answers {request v}, Request.errand request = .visit v → v.adapter = h →
    d.serve answers request =
      ⟨.ok (v.work owned.value).answer,
        d.withSlots (d.slots.put i
          { d.slots.slot i with occupant := some ⟨owned.block, (v.work owned.value).state⟩ }),
        (v.work owned.value).events⟩
  goes : ∀ answers {request}, Request.halts? request = some h →
    (d.serve answers request).state.slots = d.slots.vacate i

/-- `h` is stale: what is asked of it is asked of nobody, and changes nothing. -/
structure Disowns (d : Driver) (h : Handle) : Prop where
  stale : d.slots.resolve h = .error .staleAdapter
  untouched : ∀ answers request, Request.addressee? request = some h →
    (d.serve answers request).state = d

theorem names_of_resolve {d : Driver} (coherent : d.slots.Coherent) {h : Handle}
    {i : Fin maxAdapters} (resolves : d.slots.resolve h = .ok i) : ∃ owned, d.Names h i owned := by
  obtain ⟨owned, holds, found⟩ := SlotTable.locate_of_resolve resolves
  refine ⟨owned, resolves, holds, ?_, ?_, ?_⟩
  · exact coherent.handle_eq (SlotTable.adapter?_of_locate found)
  · intro answers request v errand here
    exact serve_of_found errand (here ▸ found) answers
  · intro answers request halts
    obtain ⟨action, errand⟩ := Request.errand_of_halts halts
    rw [serve_halt errand]
    simp only [onBoth, Outcome.within_state, Outcome.map_state]
    rw [(Context.haltAdapter_of_found found d.arena action).2.1]

/-- A request to an adapter that is not there changes nothing. -/
theorem serve_of_lost {d : Driver} {h : Handle} {request : Request}
    (asked : request.addressee? = some h) {why : Error}
    (missing : d.slots.locate h = .error why) (answers : HostAnswers) :
    (d.serve answers request).state = d := by
  rcases Request.errand_of_addressee asked with ⟨v, errand, rfl⟩ | ⟨action, errand⟩
  · rw [serve_of_missing errand missing]
  · rw [serve_halt errand]
    simp only [onBoth, Outcome.within_state, Outcome.map_state]
    rw [(Context.haltAdapter_of_missing missing d.arena action).2.1]

theorem disowns_of_stale {d : Driver} {h : Handle}
    (stale : d.slots.resolve h = .error .staleAdapter) : d.Disowns h where
  stale := stale
  untouched answers _ asked := serve_of_lost asked (SlotTable.locate_of_unresolved stale) answers

/-- A handle of a slot names its occupant or is stale; the slot's count decides. -/
theorem names_or_disowns {d : Driver} (coherent : d.slots.Coherent) {h : Handle}
    {i : Fin maxAdapters} (slot : h.slot = UInt8.ofNat i) {good : Prop}
    (decides : good ↔
      (d.slots.slot i).inUse = true ∧ (d.slots.slot i).generation = h.generation) :
    ((∃ owned, d.Names h i owned) ↔ good) ∧ (d.Disowns h ↔ ¬ good) := by
  have resolve := SlotTable.resolve_of_slot (t := d.slots) slot
  rw [decides]
  split at resolve
  · rename_i live
    constructor
    · exact iff_of_true (names_of_resolve coherent resolve) live
    · refine iff_of_false (fun disowns => ?_) (not_not_intro live)
      cases disowns.stale.symm.trans resolve
  · rename_i dead
    constructor
    · refine iff_of_false ?_ dead
      rintro ⟨owned, names⟩
      cases names.resolves.symm.trans resolve
    · exact iff_of_true (disowns_of_stale resolve) dead

/-! ## Counting -/

/-- How often slot `i` is filled while the requests are served. -/
def filled (d : Driver) (i : Fin maxAdapters) (requests : List (HostAnswers × Request)) : Nat :=
  (d.turns requests).countP (Turn.fills i)

theorem Agrees.run {past : List Turn} {d : Driver} (agrees : Agrees past d)
    (requests : List (HostAnswers × Request)) :
    Agrees (past ++ d.turns requests) (d.run requests).state :=
  run_history (P := Agrees) (fun _ _ answers request before => before.step answers request) past
    agrees requests

/-- **A slot's count moves on by one with each adapter that fills it**, as far as a word counts. -/
theorem Agrees.generation {past : List Turn} {d : Driver} (agrees : Agrees past d)
    (i : Fin maxAdapters) (requests : List (HostAnswers × Request)) :
    ((d.run requests).state.slots.slot i).generation.toNat =
      ((d.slots.slot i).generation.toNat + d.filled i requests) % UInt32.size := by
  have before := agrees.counted i
  have after := (agrees.run requests).counted i
  rw [List.countP_append] at after
  change _ = (_ + d.filled i requests) % UInt32.size at after
  unfold UInt32.size at before after ⊢
  omega

/-- A free slot stays free until it is filled. -/
theorem serve_vacant {d : Driver} {i : Fin maxAdapters}
    (free : (d.slots.slot i).occupant = none) {answers : HostAnswers} {request : Request}
    (unfilled : (d.turn answers request).fills i = false) :
    ((d.serve answers request).state.slots.slot i).occupant = none := by
  cases d.serve_step answers request with
  | aside errand undisturbed => rwa [undisturbed.slots]
  | missed errand missing same => rwa [same]
  | @visited v j owned errand found same =>
    obtain ⟨holds, -⟩ := SlotTable.locate_eq_ok.1 found
    have other : i ≠ j := by
      rintro rfl
      rw [free] at holds
      cases holds
    rw [same, withSlots_slots, SlotTable.slot_put_other _ _ other]
    exact free
  | declined errand slots answer unsettling => rwa [slots]
  | @created p refuse j owned config errand unused vacancy value slots answer unsettling got =>
    rw [Turn.fills_of_handle answer] at unfilled
    have other : i ≠ j := by
      rintro rfl
      exact absurd unfilled (by simp [SlotTable.nextHandle])
    rw [slots, SlotTable.slot_put_other _ _ other]
    exact free
  | stopped errand missing slots answer silent => rwa [slots]
  | halted errand found slots answer calls =>
    rw [slots, SlotTable.slot_vacate]
    split
    · rfl
    · exact free

theorem run_vacant {d : Driver} {i : Fin maxAdapters} (free : (d.slots.slot i).occupant = none)
    {requests : List (HostAnswers × Request)} (unfilled : d.filled i requests = 0) :
    ((d.run requests).state.slots.slot i).occupant = none := by
  induction requests generalizing d with
  | nil => exact free
  | cons first requests ih =>
    rw [filled, turns, List.countP_cons] at unfilled
    have now : (d.turn first.1 first.2).fills i = false := by
      by_contra fills
      rw [Bool.not_eq_false] at fills
      rw [if_pos fills] at unfilled
      omega
    have later : (d.serve first.1 first.2).state.filled i requests = 0 := by
      unfold filled
      omega
    exact ih (serve_vacant free now) later

/-- A slot whose occupant goes has a count that its handle does not meet again before `2 ^ 32`
adapters later, and until then the handle is stale. -/
theorem run_disowns {past : List Turn} {d : Driver} (agrees : Agrees past d) {h : Handle}
    {i : Fin maxAdapters} (slot : h.slot = UInt8.ofNat i)
    (count : (d.slots.slot i).generation = h.generation)
    (free : (d.slots.slot i).occupant = none) {requests : List (HostAnswers × Request)}
    (few : d.filled i requests < UInt32.size) : (d.run requests).state.Disowns h := by
  have generation := agrees.generation i requests
  refine (names_or_disowns (agrees.run requests).coherent slot Iff.rfl).2.2 ?_
  rintro ⟨inUse, same⟩
  rw [same, count] at generation
  have bound := h.generation.toNat_lt
  have unfilled : d.filled i requests = 0 := by
    unfold UInt32.size at generation few
    omega
  rw [Slot.inUse, run_vacant free unfilled] at inUse
  cases inUse

/-- **A handle that is `ahead` of its slot's count comes to its turn** when the slot has been filled
as often, and again after every `2 ^ 32` times. -/
theorem Agrees.names_iff {past : List Turn} {d : Driver} (agrees : Agrees past d) {h : Handle}
    {i : Fin maxAdapters} (slot : h.slot = UInt8.ofNat i) (ahead : Nat) (near : ahead < UInt32.size)
    (count : h.generation.toNat = ((d.slots.slot i).generation.toNat + ahead) % UInt32.size)
    (requests : List (HostAnswers × Request)) :
    ((∃ owned, (d.run requests).state.Names h i owned) ↔
        ((d.run requests).state.slots.slot i).inUse = true ∧
          d.filled i requests % UInt32.size = ahead) ∧
      ((d.run requests).state.Disowns h ↔
        ¬ (((d.run requests).state.slots.slot i).inUse = true ∧
          d.filled i requests % UInt32.size = ahead)) := by
  -- Both counts are words, so it is their distance that decides, up to a turn of the wheel.
  refine names_or_disowns (agrees.run requests).coherent slot (and_congr_right fun inUse => ?_)
  have generation := agrees.generation i requests
  have bound := (d.slots.slot i).generation.toNat_lt
  rw [← UInt32.toNat_inj, generation, count]
  unfold UInt32.size at near ⊢
  omega

/-! ## Handles that were given out -/

/-- **A handle that was given out is good as long as its slot is in use and has been filled a
multiple of `2 ^ 32` times since**, and is stale otherwise. So once its adapter is halted, it names
none of the next `2 ^ 32 - 1` adapters in the slot. -/
theorem run_names_iff {d : Driver} (started : d.Started) (before : List (HostAnswers × Request))
    {answers : HostAnswers} {request : Request} {h : Handle}
    (issued : ((d.run before).state.serve answers request).answer = .ok (.adapter h))
    (after : List (HostAnswers × Request)) :
    ∃ i : Fin maxAdapters, h.slot = UInt8.ofNat i ∧
      let since := ((d.run before).state.serve answers request).state
      let now := (since.run after).state
      ((∃ owned, now.Names h i owned) ↔
        (now.slots.slot i).inUse = true ∧ UInt32.size ∣ since.filled i after) ∧
      (now.Disowns h ↔ ¬ ((now.slots.slot i).inUse = true ∧ UInt32.size ∣ since.filled i after)) ∧
      ∀ answers request later, Request.halts? request = some h → now.slots.resolve h = .ok i →
        (now.serve answers request).state.filled i later < UInt32.size →
          ((now.serve answers request).state.run later).state.Disowns h := by
  have issue := (run_agrees started before).step answers request
  have agrees := issue.run after
  obtain ⟨block, -, i, owned, holds, -, same⟩ := serve_places issued
  have slot : h.slot = UInt8.ofNat i := congrArg Handle.slot same
  have count : h.generation =
      (((d.run before).state.serve answers request).state.slots.slot i).generation :=
    congrArg Handle.generation same
  have near : h.generation.toNat = (h.generation.toNat + 0) % UInt32.size :=
    (Nat.mod_eq_of_lt h.generation.toNat_lt).symm
  have decided := issue.names_iff slot 0 (by decide) (count ▸ near) after
  refine ⟨i, slot, ?_⟩
  simp only [Nat.dvd_iff_mod_eq_zero]
  refine ⟨decided.1, decided.2, ?_⟩
  intro answers' request' later halts resolves few
  obtain ⟨there, names⟩ := names_of_resolve agrees.coherent resolves
  have gone := names.goes answers' halts
  have live := SlotTable.count_of_resolve resolves
  refine run_disowns (agrees.step answers' request') slot ?_ ?_ few
  · rw [gone, SlotTable.slot_vacate, if_pos rfl]
    exact live.2
  · rw [gone, SlotTable.slot_vacate, if_pos rfl]

/-- An adapter comes and goes, the next one in its slot gets the handle that is watched. -/
def reused : List (HostAnswers × Request) :=
  [(.willing, .register ⟨1⟩ "radio"), (.willing, .createAdapter ⟨⟨7⟩, none⟩),
    (.willing, .halt (some ⟨0, 1⟩) .unspecified)]

/-- It is halted as well, and a third one moves in. -/
def reusedAgain : List (HostAnswers × Request) :=
  [(.willing, .halt (some ⟨0, 2⟩) .unspecified), (.willing, .createAdapter ⟨⟨9⟩, none⟩)]

theorem reused_slot_disowns :
    sample.Started ∧
      ((sample.run reused).state.serve .willing (.bringUp ⟨⟨8⟩, none⟩)).answer =
        .ok (.adapter ⟨0, 2⟩) ∧
      (((sample.run reused).state.serve .willing (.bringUp ⟨⟨8⟩, none⟩)).state.run
        reusedAgain).state.Disowns ⟨0, 2⟩ := by
  have issued : ((sample.run reused).state.serve .willing (.bringUp ⟨⟨8⟩, none⟩)).answer =
      .ok (.adapter ⟨0, 2⟩) := by decide +kernel
  obtain ⟨i, slot, -, disowns, -⟩ := run_names_iff sample_started reused issued reusedAgain
  have first : (⟨0, by decide⟩ : Fin maxAdapters) = i := SlotTable.slotNumber_inj slot
  subst first
  refine ⟨sample_started, issued, disowns.2 ?_⟩
  decide +kernel

end Driver

/-! ## Handles that were only shown -/

/-- A host that refuses every adapter it is shown. -/
def HostAnswers.unwilling : HostAnswers := ⟨.ok ⟨1⟩, .failure, .failure⟩

namespace Context

/-- What the host hears while an adapter is installed is what it is shown of it. -/
theorem install_calls {c : Context} {i : Fin maxAdapters}
    (vacant : (c.slots.slot i).occupant = none) (answers : HostAnswers) (interface : Interface)
    (owned : Owned Adapter) (arena : Arena) :
    hostCalls (c.install answers i interface owned arena).events = owned.value.shown answers := by
  have shown := (present_shown answers owned.value).2
  unfold install
  rcases presented : present answers owned.value with ⟨_ | status, events⟩
  all_goals rw [presented] at shown
  · dsimp only
    rw [SlotTable.occupy_of_free vacant]
    exact shown
  · simpa [withdraw_calls] using shown

/-- While an adapter is created, the host hears nothing, or that there is no room, or what it is
shown of the adapter, whose handle is the next one of the lowest free slot. -/
theorem createAdapter_calls (c : Context) (arena : Arena) (answers : HostAnswers) (p : Parameters) :
    hostCalls (c.createAdapter arena answers p).events = [] ∨
      (∃ code, hostCalls (c.createAdapter arena answers p).events = [.errorLog none code]) ∨
      ∃ i a, c.slots.firstFree? = some i ∧ a.handle = c.slots.nextHandle i ∧
        hostCalls (c.createAdapter arena answers p).events = Adapter.shown a answers := by
  unfold createAdapter
  dsimp only
  split
  · exact .inl rfl
  split
  · exact .inl rfl
  split
  · exact .inr (.inl ⟨_, rfl⟩)
  rename_i i free
  have silent := (Adapter.create_making arena (c.slots.nextHandle i) p.interface
    (c.config.adapter.withOverrides p)).2
  split
  · rw [hostCalls_append, silent, List.nil_append]
    split
    · exact .inr (.inl ⟨_, rfl⟩)
    · exact .inl rfl
  · rename_i owned made
    have handle : owned.value.handle = c.slots.nextHandle i := by
      rw [(Adapter.create_made made).1]
      rfl
    refine .inr (.inr ⟨i, owned.value, free, handle, ?_⟩)
    rw [Outcome.after_events, hostCalls_append, silent, List.nil_append,
      install_calls (SlotTable.firstFree?_vacant free)]

/-- **A handle that the host is shown is the next one of the lowest free slot.** -/
theorem createAdapter_shows {c : Context} {arena : Arena} {answers : HostAnswers} {p : Parameters}
    {h : Handle} {descriptor : RegistrationDescriptor}
    (shown : .registrationAttributes h descriptor ∈
      hostCalls (c.createAdapter arena answers p).events) :
    ∃ i, c.slots.firstFree? = some i ∧ h = c.slots.nextHandle i := by
  rcases c.createAdapter_calls arena answers p with
    silent | ⟨code, crowded⟩ | ⟨i, a, free, handle, calls⟩
  · rw [silent] at shown
    cases shown
  · rw [crowded] at shown
    simp at shown
  · refine ⟨i, free, ?_⟩
    rw [calls] at shown
    have first : HostCall.registrationAttributes h descriptor =
        .registrationAttributes a.handle a.registration := by
      unfold Adapter.shown at shown
      split at shown
      · exact (List.mem_cons.1 shown).resolve_right (by simp)
      · exact List.mem_singleton.1 shown
    rw [← handle]
    exact (HostCall.registrationAttributes.inj first).1

end Context

namespace Driver

/-- An adapter that fills a slot gets the slot's next handle. -/
theorem serve_fills {d : Driver} {i : Fin maxAdapters} {answers : HostAnswers} {request : Request}
    (fills : (d.turn answers request).fills i = true) :
    (d.serve answers request).answer = .ok (.adapter (d.slots.nextHandle i)) := by
  have given : ∃ h, (d.serve answers request).answer = .ok (.adapter h) := by
    by_contra none
    push Not at none
    rw [Turn.fills_of_other none] at fills
    cases fills
  obtain ⟨h, answer⟩ := given
  cases d.serve_step answers request with
  | aside errand undisturbed => exact absurd answer (undisturbed.answer h)
  | @missed v why errand missing same =>
    rw [same] at answer
    exact absurd (Except.ok.inj answer) (missed_answer errand why h)
  | @visited v j owned errand found same =>
    rw [same] at answer
    exact absurd (Except.ok.inj answer) (work_answer errand owned.value h)
  | declined errand slots told unsettling => exact absurd answer (told h)
  | @created p refuse j owned config errand unused free value slots told unsettling got =>
    rw [Turn.fills_of_handle told, beq_iff_eq] at fills
    have here : j = i := SlotTable.slotNumber_inj fills
    rw [told, here]
  | stopped errand missing slots told silent => exact absurd answer (told h)
  | halted errand found slots told calls => exact absurd answer (told h)

/-- A request that is refused fills no slot. -/
theorem serve_refused {d : Driver} {answers : HostAnswers} {request : Request} {p : Parameters}
    {refuse : Error → Response} (errand : request.errand = .create p refuse) {why : Error}
    (refused : (d.serve answers request).answer = .ok (refuse why)) :
    (d.serve answers request).state.slots = d.slots := by
  cases d.serve_step answers request with
  | declined errand slots told unsettling => exact slots
  | created errand' unused free value slots told unsettling got =>
    exact absurd (refused.symm.trans told) (readCreated_error errand (.refused why) _)
  | aside other undisturbed => cases errand.symm.trans other
  | missed other missing same => cases errand.symm.trans other
  | visited other found same => cases errand.symm.trans other
  | stopped other missing slots told silent => cases errand.symm.trans other
  | halted other found slots told calls => cases errand.symm.trans other

/-- **A handle that was shown for an adapter which the host refused is given to the next adapter in
its slot.** It is stale up to then. From then on it is as good as any handle of that adapter: it
names the occupant as long as the slot is in use and has been filled once since, or once more than a
multiple of `2 ^ 32` times. -/
theorem run_gives_shown {d : Driver} (started : d.Started)
    (before : List (HostAnswers × Request)) {answers : HostAnswers} {request : Request}
    {p : Parameters} {refuse : Error → Response} (errand : request.errand = .create p refuse)
    {h : Handle} {descriptor : RegistrationDescriptor}
    (shown : .registrationAttributes h descriptor ∈
      hostCalls ((d.run before).state.serve answers request).events)
    {status : Status}
    (refused : ((d.run before).state.serve answers request).answer =
      .ok (refuse (.registration status)))
    (after : List (HostAnswers × Request)) :
    ∃ i : Fin maxAdapters, h.slot = UInt8.ofNat i ∧
      let since := ((d.run before).state.serve answers request).state
      let now := (since.run after).state
      since.Disowns h ∧
      (∀ answers request, (now.turn answers request).fills i = true →
        ((now.serve answers request).answer = .ok (.adapter h) ↔
          UInt32.size ∣ since.filled i after)) ∧
      ((∃ owned, now.Names h i owned) ↔
        (now.slots.slot i).inUse = true ∧ since.filled i after % UInt32.size = 1) ∧
      (now.Disowns h ↔
        ¬ ((now.slots.slot i).inUse = true ∧ since.filled i after % UInt32.size = 1)) := by
  have refusal := (run_agrees started before).step answers request
  have slots := serve_refused errand refused
  rw [serve_create errand] at shown
  obtain ⟨i, free, same⟩ := Context.createAdapter_shows shown
  have vacant : (((d.run before).state.serve answers request).state.slots.slot i).occupant =
      none := by
    rw [slots]
    exact SlotTable.firstFree?_vacant free
  have promised : h = ((d.run before).state.serve answers request).state.slots.nextHandle i := by
    rw [slots]
    exact same
  generalize ((d.run before).state.serve answers request).state = since at *
  have slot : h.slot = UInt8.ofNat i := congrArg Handle.slot promised
  have count : h.generation.toNat = ((since.slots.slot i).generation.toNat + 1) % UInt32.size := by
    rw [promised]
    exact UInt32.toNat_add _ _
  -- The slot was not filled, so what it has promised is one ahead of its count.
  have stale := refusal.names_iff slot 1 (by decide) count []
  have decided := refusal.names_iff slot 1 (by decide) count after
  refine ⟨i, slot, stale.2.2 (fun named => ?_), ?_, decided⟩
  · cases named.2
  · intro answers' request' fills
    have generation := refusal.generation i after
    have bound := (since.slots.slot i).generation.toNat_lt
    rw [serve_fills fills, Except.ok.injEq, Response.adapter.injEq, promised]
    have next : (since.run after).state.slots.nextHandle i = since.slots.nextHandle i ↔
        ((since.run after).state.slots.slot i).generation = (since.slots.slot i).generation := by
      simp [SlotTable.nextHandle]
    rw [next, ← UInt32.toNat_inj, generation]
    unfold UInt32.size
    omega

/-- A driver that has just been registered. -/
def introduced : Driver := (sample.run [(.willing, .register ⟨1⟩ "radio")]).state

/-- The host has then refused an adapter in the first slot. -/
def snubbed : Driver := (introduced.serve .unwilling (.createAdapter ⟨⟨7⟩, none⟩)).state

theorem snubbed_gives_shown :
    sample.Started ∧
      (introduced.serve .unwilling (.createAdapter ⟨⟨7⟩, none⟩)).answer =
        .ok (.refused (.registration .failure)) ∧
      snubbed.Disowns ⟨0, 1⟩ ∧
      ∃ i owned,
        (snubbed.run [(.willing, .createAdapter ⟨⟨8⟩, none⟩)]).state.Names ⟨0, 1⟩ i owned := by
  have shown : .registrationAttributes ⟨0, 1⟩ (Adapter.setUpFor ⟨0, 1⟩ ⟨7⟩ {}).registration ∈
      hostCalls (introduced.serve .unwilling (.createAdapter ⟨⟨7⟩, none⟩)).events := by
    decide +kernel
  have refused : (introduced.serve .unwilling (.createAdapter ⟨⟨7⟩, none⟩)).answer =
      .ok (.refused (.registration .failure)) := by decide +kernel
  obtain ⟨i, slot, stale, -, names, -⟩ :=
    run_gives_shown sample_started [(.willing, .register ⟨1⟩ "radio")] rfl shown refused
      [(.willing, .createAdapter ⟨⟨8⟩, none⟩)]
  have first : (⟨0, by decide⟩ : Fin maxAdapters) = i := SlotTable.slotNumber_inj slot
  subst first
  refine ⟨sample_started, refused, stale, _, names.2 ?_⟩
  decide +kernel

/-- The handle of an adapter that was refused is good again, for the adapter that comes next. -/
theorem shown_handle_comes_back :
    (introduced.serve .unwilling (.createAdapter ⟨⟨7⟩, none⟩)).answer =
        .ok (.refused (.registration .failure)) ∧
      .registrationAttributes ⟨0, 1⟩ (Adapter.setUpFor ⟨0, 1⟩ ⟨7⟩ {}).registration ∈
        hostCalls (introduced.serve .unwilling (.createAdapter ⟨⟨7⟩, none⟩)).events ∧
      (snubbed.serve .willing (.createAdapter ⟨⟨8⟩, none⟩)).answer = .ok (.adapter ⟨0, 1⟩) ∧
      ((snubbed.serve .willing (.createAdapter ⟨⟨8⟩, none⟩)).state.serve .willing
        (.pause ⟨0, 1⟩)).answer = .ok (.status .failure) := by
  decide +kernel

end Driver

end PacketRadio
