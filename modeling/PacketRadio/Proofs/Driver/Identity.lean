import PacketRadio.Proofs.Driver.Runs

/-!
# Slots, handles and interfaces agree

A handle is promised before its adapter exists, and goes into what the host is told; the slot's
count follows only when the adapter moves in. This module shows that slot, adapter and descriptor
agree all the same, whatever happens to the slots, that an interface has one adapter at most, and
that this is the adapter that was created for it and not brought down since.
-/

namespace PacketRadio

open Pool

namespace SlotTable

/-- Slots, adapters and descriptors agree. -/
structure Coherent (t : SlotTable) : Prop where
  vacant : ∀ i, (t.slot i).inUse = false → (t.slot i).interface = none
  handle : ∀ i owned, (t.slot i).occupant = some owned → owned.value.handle = t.handleAt i
  registration : ∀ i owned, (t.slot i).occupant = some owned →
    owned.value.registration.adapter = t.handleAt i
  interface : ∀ i owned, (t.slot i).occupant = some owned →
    (t.slot i).interface = some owned.value.interface
  distinct : ∀ i j, (t.slot i).inUse = true → (t.slot j).inUse = true →
    (t.slot i).interface = (t.slot j).interface → i = j

theorem inUse_iff {s : Slot} : s.inUse = true ↔ ∃ owned, s.occupant = some owned :=
  Option.isSome_iff_exists

theorem handleAt_put_other {t : SlotTable} {i j : Fin maxAdapters} (s : Slot) (other : j ≠ i) :
    (t.put i s).handleAt j = t.handleAt j := by
  rw [handleAt, handleAt, slot_put_other t s other]

/-! ## What keeps them in agreement -/

theorem empty_coherent : empty.Coherent where
  vacant i _ := by simp [Slot.vacant]
  handle i owned holds := by simp [Slot.vacant] at holds
  registration i owned holds := by simp [Slot.vacant] at holds
  interface i owned holds := by simp [Slot.vacant] at holds
  distinct i j inUse _ _ := by simp [Slot.vacant, Slot.inUse] at inUse

/-- A slot is replaced by one that agrees with itself and clashes with no other. -/
theorem Coherent.put {t : SlotTable} (coherent : t.Coherent) {i : Fin maxAdapters} {s : Slot}
    (vacant : s.inUse = false → s.interface = none)
    (named : ∀ owned, s.occupant = some owned →
      owned.value.handle = ⟨UInt8.ofNat i, s.generation⟩ ∧
        owned.value.registration.adapter = ⟨UInt8.ofNat i, s.generation⟩ ∧
        s.interface = some owned.value.interface)
    (alone : s.inUse = true → ∀ j, j ≠ i → (t.slot j).inUse = true →
      (t.slot j).interface ≠ s.interface) : (t.put i s).Coherent where
  vacant j free := by
    by_cases here : j = i
    · subst here
      rw [slot_put_same] at free ⊢
      exact vacant free
    · rw [slot_put_other t s here] at free ⊢
      exact coherent.vacant j free
  handle j owned holds := by
    by_cases here : j = i
    · subst here
      rw [slot_put_same] at holds
      rw [handleAt, slot_put_same]
      exact (named owned holds).1
    · rw [slot_put_other t s here] at holds
      rw [handleAt_put_other s here]
      exact coherent.handle j owned holds
  registration j owned holds := by
    by_cases here : j = i
    · subst here
      rw [slot_put_same] at holds
      rw [handleAt, slot_put_same]
      exact (named owned holds).2.1
    · rw [slot_put_other t s here] at holds
      rw [handleAt_put_other s here]
      exact coherent.registration j owned holds
  interface j owned holds := by
    by_cases here : j = i
    · subst here
      rw [slot_put_same] at holds ⊢
      exact (named owned holds).2.2
    · rw [slot_put_other t s here] at holds ⊢
      exact coherent.interface j owned holds
  distinct j k first second same := by
    by_cases here : j = i
    · subst here
      by_cases there : k = j
      · exact there.symm
      · rw [slot_put_same] at first same
        rw [slot_put_other t s there] at second same
        exact absurd same.symm (alone first k there second)
    · rw [slot_put_other t s here] at first same
      by_cases there : k = i
      · subst there
        rw [slot_put_same] at second same
        exact absurd same (alone second j here first)
      · rw [slot_put_other t s there] at second same
        exact coherent.distinct j k first second same

/-- An adapter that works stays who it is, and so does its slot. -/
theorem Coherent.rewrite {t : SlotTable} (coherent : t.Coherent) {i : Fin maxAdapters}
    {owned : Owned Adapter} (holds : (t.slot i).occupant = some owned) {a : Adapter}
    (same : owned.value.SameIdentity a) :
    (t.put i { t.slot i with occupant := some ⟨owned.block, a⟩ }).Coherent := by
  have inUse : (t.slot i).inUse = true := inUse_iff.2 ⟨owned, holds⟩
  refine coherent.put (fun free => by cases free) (fun other new => ?_) (fun _ j away used same => ?_)
  · cases new
    refine ⟨same.handle.trans (coherent.handle i owned holds), ?_, ?_⟩
    · exact (congrArg RegistrationDescriptor.adapter same.registration).trans
        (coherent.registration i owned holds)
    · exact (coherent.interface i owned holds).trans (congrArg some same.interface.symm)
  · exact away (coherent.distinct j i used inUse same)

theorem Coherent.vacate {t : SlotTable} (coherent : t.Coherent) (i : Fin maxAdapters) :
    (t.vacate i).Coherent :=
  coherent.put (fun _ => rfl) (fun _ holds => by cases holds) (fun used => by cases used)

/-- An adapter moves in under the handle that was promised, for an interface that has none. -/
theorem Coherent.fill {t : SlotTable} (coherent : t.Coherent) {i : Fin maxAdapters}
    {k : Interface} {owned : Owned Adapter} (unused : t.findInterface? k = none)
    (handle : owned.value.handle = t.nextHandle i)
    (registration : owned.value.registration.adapter = t.nextHandle i)
    (interface : owned.value.interface = k) :
    (t.put i ⟨some owned, some k, (t.slot i).generation + 1⟩).Coherent := by
  refine coherent.put (fun free => by cases free) (fun other new => ?_) fun _ j _ used same => ?_
  · cases new
    exact ⟨handle, registration, congrArg some interface.symm⟩
  · have clash := lowest?_eq_none.1 unused j
    simp only [used, same, Bool.true_and, beq_self_eq_true, Bool.true_eq_false] at clash

/-! ## Looking adapters up by interface -/

theorem Coherent.handle_eq {t : SlotTable} (coherent : t.Coherent) {h : Handle} {a : Adapter}
    (named : t.adapter? h = some a) : a.handle = h := by
  obtain ⟨i, owned, holds, rfl, rfl⟩ := adapter?_eq_some.1 named
  exact coherent.handle i owned holds

/-- The slot that is found for an interface is the one with its adapter. -/
theorem Coherent.findInterface {t : SlotTable} (coherent : t.Coherent) {i : Fin maxAdapters}
    {k : Interface} :
    t.findInterface? k = some i ↔
      ∃ owned, (t.slot i).occupant = some owned ∧ owned.value.interface = k := by
  have found : ∀ j, t.findInterface? k = some j →
      ∃ owned, (t.slot j).occupant = some owned ∧ owned.value.interface = k := by
    intro j lowest
    have here := lowest?_eq_some lowest
    simp only [Bool.and_eq_true, beq_iff_eq] at here
    obtain ⟨owned, holds⟩ := inUse_iff.1 here.1
    have recorded := coherent.interface j owned holds
    rw [here.2] at recorded
    exact ⟨owned, holds, (Option.some.inj recorded).symm⟩
  constructor
  · exact found i
  · rintro ⟨owned, holds, rfl⟩
    cases lowest : t.findInterface? owned.value.interface with
    | none =>
      have clash := lowest?_eq_none.1 lowest i
      simp [Slot.inUse, holds, coherent.interface i owned holds] at clash
    | some j =>
      obtain ⟨other, there, same⟩ := found j lowest
      have : j = i := by
        refine coherent.distinct j i (inUse_iff.2 ⟨other, there⟩) (inUse_iff.2 ⟨owned, holds⟩) ?_
        rw [coherent.interface j other there, coherent.interface i owned holds, same]
      rw [this]

end SlotTable

/-- **The adapter of an interface is the one that a handle names.** -/
theorem Context.adapterFor?_eq_some {c : Context} (coherent : c.slots.Coherent) {k : Interface}
    {a : Adapter} :
    c.adapterFor? k = some a ↔ ∃ h, c.slots.adapter? h = some a ∧ a.interface = k := by
  unfold adapterFor?
  rw [Option.bind_eq_bind, Option.bind_eq_some_iff]
  constructor
  · rintro ⟨i, lowest, held⟩
    obtain ⟨owned, holds, same⟩ := coherent.findInterface.1 lowest
    rw [Slot.adapter?, holds] at held
    cases held
    exact ⟨c.slots.handleAt i, SlotTable.adapter?_eq_some.2 ⟨i, owned, holds, rfl, rfl⟩, same⟩
  · rintro ⟨h, named, same⟩
    obtain ⟨i, owned, holds, rfl, rfl⟩ := SlotTable.adapter?_eq_some.1 named
    refine ⟨i, coherent.findInterface.2 ⟨owned, holds, same⟩, ?_⟩
    rw [Slot.adapter?, holds]
    rfl

/-! ## Who was created and not brought down -/

namespace Turn

/-- In this turn the adapter `h` was created for the interface `k`. -/
def Creates (t : Turn) (h : Handle) (k : Interface) : Prop :=
  t.request.wantsAdapter? = some k ∧ t.answer = .ok (.adapter h)

/-- In this turn slot `i` was filled. -/
def fills (i : Fin maxAdapters) (t : Turn) : Bool :=
  match t.answer with
  | .ok (.adapter h) => h.slot == UInt8.ofNat i
  | _ => false

theorem fills_of_other {t : Turn} (answer : ∀ handle, t.answer ≠ .ok (.adapter handle))
    (i : Fin maxAdapters) : t.fills i = false := by
  unfold fills
  split
  · rename_i h same
    exact absurd same (answer h)
  · rfl

theorem fills_of_handle {t : Turn} {h : Handle} (answer : t.answer = .ok (.adapter h))
    (i : Fin maxAdapters) : t.fills i = (h.slot == UInt8.ofNat i) := by
  rw [fills, answer]

theorem not_creates_of_other {t : Turn} (answer : ∀ handle, t.answer ≠ .ok (.adapter handle))
    (h : Handle) (k : Interface) : ¬ t.Creates h k :=
  fun creates => answer h creates.2

end Turn

/-- In some turn the adapter `h` was created for `k`, and no later one halted it. -/
def Standing (turns : List Turn) (h : Handle) (k : Interface) : Prop :=
  ∃ before creation after, turns = before ++ creation :: after ∧ creation.Creates h k ∧
    ∀ t ∈ after, t.request.halts? ≠ some h

theorem not_standing_nil (h : Handle) (k : Interface) : ¬ Standing [] h k := not_lasting_nil _ _

/-- An adapter stands after a turn if the turn created it, or did not halt it and it stood. -/
theorem standing_concat {past : List Turn} {t : Turn} {h : Handle} {k : Interface} :
    Standing (past ++ [t]) h k ↔
      t.Creates h k ∨ Standing past h k ∧ t.request.halts? ≠ some h :=
  lasting_concat (Turn.Creates · h k) (·.request.halts? = some h)

namespace Driver

/-- The slots agree with each other and with what has happened so far. -/
structure Agrees (past : List Turn) (d : Driver) : Prop where
  coherent : d.slots.Coherent
  standing : ∀ h k, Standing past h k ↔ ∃ a, d.slots.adapter? h = some a ∧ a.interface = k
  counted : ∀ i, (d.slots.slot i).generation.toNat = past.countP (Turn.fills i) % UInt32.size

/-- Slots that look the same agree still, after a turn that neither created nor halted. -/
theorem Agrees.same {past : List Turn} {d e : Driver} {t : Turn} (agrees : Agrees past d)
    (coherent : e.slots.Coherent)
    (interfaces : ∀ h k, (∃ a, e.slots.adapter? h = some a ∧ a.interface = k) ↔
      ∃ a, d.slots.adapter? h = some a ∧ a.interface = k)
    (generations : ∀ i, (e.slots.slot i).generation = (d.slots.slot i).generation)
    (answer : ∀ handle, t.answer ≠ .ok (.adapter handle))
    (halts : ∀ h a, d.slots.adapter? h = some a → t.request.halts? ≠ some h) :
    Agrees (past ++ [t]) e where
  coherent := coherent
  standing h k := by
    rw [standing_concat, agrees.standing, interfaces]
    refine ⟨?_, fun stands => .inr ⟨stands, ?_⟩⟩
    · rintro (creates | ⟨stands, -⟩)
      · exact absurd creates (Turn.not_creates_of_other answer h k)
      · exact stands
    · obtain ⟨a, named, -⟩ := stands
      exact halts h a named
  counted i := by
    rw [generations, agrees.counted, List.countP_append, List.countP_singleton,
      Turn.fills_of_other answer]
    rfl

/-- An adapter works in its place. -/
theorem Agrees.rewrite {past : List Turn} {d e : Driver} {t : Turn} (agrees : Agrees past d)
    {h : Handle} {i : Fin maxAdapters} {owned : Owned Adapter} {a : Adapter}
    (found : d.slots.locate h = .ok (i, owned)) (identity : owned.value.SameIdentity a)
    (slots : e.slots = d.slots.put i { d.slots.slot i with occupant := some ⟨owned.block, a⟩ })
    (answer : ∀ handle, t.answer ≠ .ok (.adapter handle)) (halts : t.request.halts? = none) :
    Agrees (past ++ [t]) e := by
  obtain ⟨holds, -⟩ := SlotTable.locate_eq_ok.1 found
  refine agrees.same ?_ (fun k interface => ?_) (fun j => ?_) answer (fun _ _ _ => by simp [halts])
  · rw [slots]
    exact agrees.coherent.rewrite holds identity
  · rw [slots, SlotTable.adapter?_rewrite found]
    by_cases here : k = h
    · subst here
      rw [if_pos rfl, SlotTable.adapter?_of_locate found]
      simp only [Option.some.injEq, exists_eq_left', identity.interface]
    · rw [if_neg here]
  · rw [slots, SlotTable.slot_put]
    split
    · rename_i here
      rw [here]
    · rfl

/-- An adapter comes up. -/
theorem Agrees.fill {past : List Turn} {d e : Driver} {t : Turn} (agrees : Agrees past d)
    {i : Fin maxAdapters} {k : Interface} {owned : Owned Adapter} {config : AdapterConfig}
    (unused : d.slots.findInterface? k = none) (free : d.slots.firstFree? = some i)
    (value : owned.value = Adapter.setUpFor (d.slots.nextHandle i) k config)
    (slots : e.slots = d.slots.put i ⟨some owned, some k, (d.slots.slot i).generation + 1⟩)
    (wants : t.request.wantsAdapter? = some k) (halts : t.request.halts? = none)
    (answer : t.answer = .ok (.adapter (d.slots.nextHandle i))) : Agrees (past ++ [t]) e := by
  have vacant := SlotTable.firstFree?_vacant free
  have interface : owned.value.interface = k := congrArg Adapter.interface value
  refine ⟨?_, fun h other => ?_, fun j => ?_⟩
  · rw [slots]
    exact agrees.coherent.fill unused (congrArg Adapter.handle value)
      (congrArg (fun a => a.registration.adapter) value) interface
  · rw [standing_concat, agrees.standing, slots, SlotTable.adapter?_fill vacant, Turn.Creates, wants,
      answer, halts]
    by_cases here : h = d.slots.nextHandle i
    · have unnamed : d.slots.adapter? h = none :=
        SlotTable.adapter?_of_slot (by rw [here]; rfl) (.inr vacant)
      rw [if_pos here, unnamed]
      simp only [Option.some.injEq, exists_eq_left', interface, here, reduceCtorEq, false_and,
        exists_false, and_true, or_false]
    · rw [if_neg here]
      have other : d.slots.nextHandle i ≠ h := fun same => here same.symm
      simp only [Except.ok.injEq, Response.adapter.injEq, other, and_false, false_or, ne_eq,
        reduceCtorEq, not_false_eq_true, and_true]
  · have before := agrees.counted j
    rw [slots, SlotTable.slot_put, List.countP_append, List.countP_singleton,
      Turn.fills_of_handle answer]
    change _ = (_ + if (UInt8.ofNat i == UInt8.ofNat j) = true then 1 else 0) % 2 ^ 32
    by_cases here : j = i
    · subst here
      rw [if_pos rfl, if_pos (beq_self_eq_true _), UInt32.toNat_add, before]
      change (_ % 2 ^ 32 + 1) % 2 ^ 32 = _
      omega
    · have other : ¬ (UInt8.ofNat i == UInt8.ofNat j) = true := fun same =>
        here (SlotTable.slotNumber_inj (beq_iff_eq.1 same).symm)
      rw [if_neg here, if_neg other, Nat.add_zero]
      exact before

/-- An adapter goes. -/
theorem Agrees.vacate {past : List Turn} {d e : Driver} {t : Turn} (agrees : Agrees past d)
    {h : Handle} {i : Fin maxAdapters} {owned : Owned Adapter}
    (found : d.slots.locate h = .ok (i, owned)) (slots : e.slots = d.slots.vacate i)
    (answer : ∀ handle, t.answer ≠ .ok (.adapter handle)) (halts : t.request.halts? = some h) :
    Agrees (past ++ [t]) e := by
  obtain ⟨-, at_⟩ := SlotTable.locate_eq_ok.1 found
  refine ⟨?_, fun k interface => ?_, fun j => ?_⟩
  · rw [slots]
    exact agrees.coherent.vacate i
  · rw [standing_concat, agrees.standing, slots, SlotTable.adapter?_vacate, ← at_, halts]
    have silent := Turn.not_creates_of_other answer k interface
    by_cases here : k = h
    · subst here
      simp [silent]
    · have other : h ≠ k := fun same => here same.symm
      simp [silent, here, other]
  · rw [slots, SlotTable.slot_vacate, List.countP_append, List.countP_singleton,
      Turn.fills_of_other answer]
    have before := agrees.counted j
    split
    · rename_i here
      rw [← here]
      exact before
    · exact before

/-- **Every turn keeps slots, handles and interfaces in agreement.** -/
theorem Agrees.step {past : List Turn} {d : Driver} (agrees : Agrees past d)
    (answers : HostAnswers) (request : Request) :
    Agrees (past ++ [d.turn answers request]) (d.serve answers request).state := by
  obtain ⟨wants, halts⟩ := request.wants_of_errand
  have unchanged : (d.serve answers request).state.slots = d.slots →
      (∀ handle, (d.serve answers request).answer ≠ .ok (.adapter handle)) →
      (∀ h a, d.slots.adapter? h = some a → request.halts? ≠ some h) →
      Agrees (past ++ [d.turn answers request]) (d.serve answers request).state := by
    intro slots answer unhalted
    refine agrees.same ?_ (fun h k => ?_) (fun i => ?_) answer unhalted
    · rw [slots]
      exact agrees.coherent
    · rw [slots]
    · rw [slots]
  cases d.serve_step answers request with
  | aside errand undisturbed =>
    rw [errand] at halts
    exact unchanged undisturbed.slots undisturbed.answer fun _ _ _ => by simp [halts]
  | missed errand missing same =>
    rw [errand] at halts
    refine unchanged (by rw [same]) (fun handle answer => ?_) fun _ _ _ => by simp [halts]
    rw [same] at answer
    exact missed_answer errand _ handle (Except.ok.inj answer)
  | @visited v i owned errand found same =>
    rw [errand] at halts
    refine agrees.rewrite found (visit_evolves errand owned.value).identity (by rw [same]; rfl)
      (fun handle answer => ?_) halts
    rw [turn, same] at answer
    exact work_answer errand owned.value handle (Except.ok.inj answer)
  | declined errand slots answer unsettling =>
    rw [errand] at halts
    exact unchanged slots answer fun _ _ _ => by simp [halts]
  | created errand unused free value slots answer unsettling =>
    rw [errand] at wants halts
    exact agrees.fill unused free value slots wants halts answer
  | stopped errand missing slots answer silent =>
    rw [errand] at halts
    refine unchanged slots answer fun h a named wrong => ?_
    cases halts.symm.trans wrong
    rw [SlotTable.adapter?_of_missing missing] at named
    cases named
  | halted errand found slots answer calls =>
    rw [errand] at halts
    exact agrees.vacate found slots answer halts

theorem run_agrees {d : Driver} (started : d.Started) (requests : List (HostAnswers × Request)) :
    Agrees (d.turns requests) (d.run requests).state := by
  refine run_history (P := Agrees) (fun past d answers request agrees => agrees.step answers request)
    [] ⟨?_, fun h k => ?_, fun i => ?_⟩ requests
  · rw [started.spec.1]
    exact SlotTable.empty_coherent
  · rw [started.spec.1, SlotTable.adapter?_empty]
    simp [not_standing_nil]
  · rw [started.spec.1, SlotTable.slot_empty]
    rfl

end Driver

/-- The slots of a context account for what has happened so far. -/
structure Context.AccountsFor (c : Context) (past : List Turn) : Prop where
  /-- Slots, adapters and descriptors agree, and no interface has two adapters. -/
  coherent : c.slots.Coherent
  /-- A slot counts how often an adapter was created in it. -/
  counted : ∀ i, (c.slots.slot i).generation.toNat = past.countP (Turn.fills i) % UInt32.size
  /-- The adapter of an interface is the one that was created for it and not halted since. -/
  found : ∀ k a, c.adapterFor? k = some a ↔
    Standing past a.handle k ∧ c.slots.get a.handle = .ok a
  /-- There is no other, and without one none is found. -/
  alone : ∀ k h h', Standing past h k → Standing past h' k → h = h'
  missing : ∀ k, c.adapterFor? k = none ↔ ∀ h, ¬ Standing past h k

theorem Driver.Agrees.accountsFor {past : List Turn} {d : Driver} (agrees : Agrees past d) :
    d.context.value.AccountsFor past := by
  have lookup : ∀ k a, d.context.value.adapterFor? k = some a ↔
      ∃ h, d.slots.adapter? h = some a ∧ a.interface = k := fun k a =>
    Context.adapterFor?_eq_some agrees.coherent
  refine ⟨agrees.coherent, agrees.counted, fun k a => ?_, fun k h h' first second => ?_, fun k => ?_⟩
  · rw [lookup, agrees.standing, SlotTable.get_eq_ok]
    constructor
    · rintro ⟨h, named, same⟩
      cases agrees.coherent.handle_eq named
      exact ⟨⟨a, named, same⟩, named⟩
    · rintro ⟨⟨b, other, same⟩, named⟩
      cases Option.some.inj (other.symm.trans named)
      exact ⟨a.handle, named, same⟩
  · obtain ⟨a, named, same⟩ := (agrees.standing h k).1 first
    obtain ⟨b, other, same'⟩ := (agrees.standing h' k).1 second
    have left := (lookup k a).2 ⟨h, named, same⟩
    have right := (lookup k b).2 ⟨h', other, same'⟩
    cases Option.some.inj (left.symm.trans right)
    rw [← agrees.coherent.handle_eq named, agrees.coherent.handle_eq other]
  · rw [Option.eq_none_iff_forall_ne_some]
    constructor
    · intro none h stands
      obtain ⟨a, named, same⟩ := (agrees.standing h k).1 stands
      exact none a ((lookup k a).2 ⟨h, named, same⟩)
    · intro none a found
      obtain ⟨h, named, same⟩ := (lookup k a).1 found
      exact none h ((agrees.standing h k).2 ⟨a, named, same⟩)

/-- **Slots, handles and interfaces agree in every run**, and account for all that was created and
halted in it. -/
theorem Driver.run_accountsFor {d : Driver} (started : d.Started)
    (requests : List (HostAnswers × Request)) :
    (d.run requests).state.context.value.AccountsFor (d.turns requests) :=
  (run_agrees started requests).accountsFor

/-- An interface that is asked for twice, an adapter that the host turns away, a slot that is filled
again, and a handle that has gone stale. -/
def Driver.churned : List (HostAnswers × Request) :=
  [(.willing, .register ⟨1⟩ "radio"), (.willing, .createAdapter ⟨⟨7⟩, none⟩),
    (.willing, .createAdapter ⟨⟨7⟩, none⟩), (⟨.ok ⟨1⟩, .success, .failure⟩, .bringUp ⟨⟨8⟩, none⟩),
    (.willing, .halt (some ⟨0, 1⟩) .unspecified), (.willing, .bringUp ⟨⟨7⟩, none⟩),
    (.willing, .haltAdapter ⟨0, 1⟩ .unspecified)]

theorem Driver.churned_slots_account :
    sample.Started ∧
      (sample.run churned).state.context.value.AccountsFor (sample.turns churned) :=
  ⟨sample_started, run_accountsFor sample_started churned⟩

end PacketRadio
