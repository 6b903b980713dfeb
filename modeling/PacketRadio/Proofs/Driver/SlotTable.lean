import Mathlib.Data.List.FinRange
import PacketRadio.Driver.SlotTable

/-!
# Looking adapters up

A table of slots is seen through its handles: every handle names one adapter or none. Work on an
adapter, its removal and a new occupant each change what one handle names, and leave every other
handle alone.
-/

namespace PacketRadio

open Pool

namespace SlotTable

/-! ## Slots -/

@[simp] theorem slot_put_same (t : SlotTable) (i : Fin maxAdapters) (s : Slot) :
    (t.put i s).slot i = s := by
  simp [slot, put]

theorem slot_put_other (t : SlotTable) {i j : Fin maxAdapters} (s : Slot) (other : j ≠ i) :
    (t.put i s).slot j = t.slot j := by
  have : (i : Nat) ≠ j := fun same => other (Fin.ext same.symm)
  simp [slot, put, this]

theorem slot_put (t : SlotTable) (i j : Fin maxAdapters) (s : Slot) :
    (t.put i s).slot j = if j = i then s else t.slot j := by
  by_cases same : j = i
  · subst same
    simp
  · rw [slot_put_other t s same, if_neg same]

@[simp] theorem slot_empty (i : Fin maxAdapters) : empty.slot i = Slot.vacant := by
  simp [slot, empty]

theorem slot_vacate (t : SlotTable) (i j : Fin maxAdapters) :
    (t.vacate i).slot j =
      if j = i then { t.slot i with occupant := none, interface := none } else t.slot j :=
  t.slot_put i j _

theorem toList_slots (t : SlotTable) : t.slots.toList = (List.finRange maxAdapters).map t.slot := by
  rw [← List.ofFn_eq_map]
  apply List.ext_getElem
  · simp
  · intro i _ _
    simp [slot]

theorem index?_eq_some {n : Nat} {i : Fin maxAdapters} : index? n = some i ↔ n = i := by
  unfold index?
  split
  · rw [Option.some.injEq]
    exact ⟨fun same => same ▸ rfl, fun same => Fin.ext same⟩
  · have := i.isLt
    simp only [reduceCtorEq, false_iff]
    omega

/-! ## Handles -/

/-- The handle of the adapter that slot `i` holds, or held last. -/
def handleAt (t : SlotTable) (i : Fin maxAdapters) : Handle := ⟨UInt8.ofNat i, (t.slot i).generation⟩

theorem toNat_slotNumber (i : Fin maxAdapters) : (UInt8.ofNat i).toNat = i := by
  have : i.val < 16 := i.isLt
  rw [UInt8.toNat_ofNat']
  omega

theorem slotNumber_inj {i j : Fin maxAdapters} (same : UInt8.ofNat i = UInt8.ofNat j) : i = j := by
  have := congrArg UInt8.toNat same
  rw [toNat_slotNumber, toNat_slotNumber] at this
  exact Fin.ext this

/-- A handle names what the slot of its number holds, if the slot's count is that of the handle. -/
theorem locate_eq_ok {t : SlotTable} {h : Handle} {i : Fin maxAdapters} {owned : Owned Adapter} :
    t.locate h = .ok (i, owned) ↔ (t.slot i).occupant = some owned ∧ h = t.handleAt i := by
  have number : h.slot.toNat = i ↔ h.slot = UInt8.ofNat i := by
    rw [← UInt8.toNat_inj, toNat_slotNumber]
  have whole : h = t.handleAt i ↔ h.slot.toNat = i ∧ h.generation = (t.slot i).generation := by
    rw [number]
    exact ⟨fun same => by rw [same]; exact ⟨rfl, rfl⟩, fun ⟨a, b⟩ => by
      cases h
      simp only at a b
      rw [a, b, handleAt]⟩
  rw [whole]
  unfold locate resolve
  constructor
  · intro found
    split at found
    · cases found
    · rename_i j at_
      split at at_
      · cases at_
      · rename_i k index
        simp only at at_
        split at at_
        · rename_i live
          cases at_
          split at found
          · cases found
          · rename_i owned' holds
            cases found
            simp only [Bool.and_eq_true, beq_iff_eq] at live
            exact ⟨holds, index?_eq_some.1 index, live.2.symm⟩
        · cases at_
  · rintro ⟨holds, slot, generation⟩
    have index := index?_eq_some.2 slot
    simp [index, Slot.inUse, holds, generation]

/-- The adapter that `h` names. -/
def adapter? (t : SlotTable) (h : Handle) : Option Adapter := (t.locate h).toOption.map (·.2.value)

theorem adapter?_of_locate {t : SlotTable} {h : Handle} {i : Fin maxAdapters} {owned : Owned Adapter}
    (found : t.locate h = .ok (i, owned)) : t.adapter? h = some owned.value := by
  simp [adapter?, found, Except.toOption]

theorem adapter?_of_missing {t : SlotTable} {h : Handle} {why : Error}
    (missing : t.locate h = .error why) : t.adapter? h = none := by
  simp [adapter?, missing, Except.toOption]

theorem adapter?_eq_some {t : SlotTable} {h : Handle} {a : Adapter} :
    t.adapter? h = some a ↔
      ∃ i owned, (t.slot i).occupant = some owned ∧ owned.value = a ∧ h = t.handleAt i := by
  constructor
  · intro named
    cases found : t.locate h with
    | error why => rw [adapter?_of_missing found] at named; cases named
    | ok at_ =>
      obtain ⟨i, owned⟩ := at_
      rw [adapter?_of_locate found, Option.some.injEq] at named
      obtain ⟨holds, same⟩ := locate_eq_ok.1 found
      exact ⟨i, owned, holds, named, same⟩
  · rintro ⟨i, owned, holds, rfl, same⟩
    exact adapter?_of_locate (locate_eq_ok.2 ⟨holds, same⟩)

theorem get_eq_ok {t : SlotTable} {h : Handle} {a : Adapter} :
    t.get h = .ok a ↔ t.adapter? h = some a := by
  unfold get
  cases found : t.locate h with
  | error why => simp [adapter?_of_missing found]
  | ok at_ => simp [adapter?_of_locate found]

/-- A handle of a slot that is not the slot's own names nothing. -/
theorem adapter?_of_slot {t : SlotTable} {i : Fin maxAdapters} {k : Handle}
    (slot : k.slot = UInt8.ofNat i) (differ : k ≠ t.handleAt i ∨ (t.slot i).occupant = none) :
    t.adapter? k = none := by
  cases named : t.adapter? k with
  | none => rfl
  | some a =>
    obtain ⟨j, owned, holds, -, at_⟩ := adapter?_eq_some.1 named
    have : j = i := slotNumber_inj (by rw [← slot, at_, handleAt])
    subst this
    rcases differ with differ | free
    · exact absurd at_ differ
    · rw [free] at holds
      cases holds

theorem handleAt_slot (t : SlotTable) (i : Fin maxAdapters) : (t.handleAt i).slot = UInt8.ofNat i := rfl

theorem eq_handleAt {t : SlotTable} {i : Fin maxAdapters} {k : Handle} (slot : k.slot = UInt8.ofNat i) :
    k = t.handleAt i ↔ k.generation = (t.slot i).generation := by
  cases k
  simp only at slot
  simp [handleAt, slot]

/-- A handle without an adapter is refused, and the reason is one of two. -/
theorem locate_error {t : SlotTable} {h : Handle} {why : Error} (missing : t.locate h = .error why) :
    why = .invalidHandle ∨ why = .staleAdapter := by
  unfold locate resolve at missing
  grind

/-! ## Changes -/

@[simp] theorem adapter?_empty (h : Handle) : empty.adapter? h = none := by
  cases named : empty.adapter? h with
  | none => rfl
  | some a =>
    obtain ⟨i, owned, holds, -, -⟩ := adapter?_eq_some.1 named
    simp [Slot.vacant] at holds

/-- A write to one slot leaves the handles of the others alone. -/
theorem adapter?_put_other {t : SlotTable} {i : Fin maxAdapters} {s : Slot} {k : Handle}
    (other : k.slot ≠ UInt8.ofNat i) : (t.put i s).adapter? k = t.adapter? k := by
  have same : ∀ a, (t.put i s).adapter? k = some a ↔ t.adapter? k = some a := by
    intro a
    rw [adapter?_eq_some, adapter?_eq_some]
    apply exists_congr
    intro j
    by_cases here : j = i
    · subst here
      have : ∀ g, k ≠ ⟨UInt8.ofNat j, g⟩ := fun g same => other (by rw [same])
      simp [handleAt, this]
    · simp [handleAt, slot_put_other t s here]
  exact Option.ext same

/-- What a handle names after a write to its slot. -/
theorem adapter?_put_same {t : SlotTable} {i : Fin maxAdapters} {s : Slot} {k : Handle}
    (same : k.slot = UInt8.ofNat i) :
    (t.put i s).adapter? k = if k.generation = s.generation then s.adapter? else none := by
  have named : ∀ a, (t.put i s).adapter? k = some a ↔
      s.adapter? = some a ∧ k.generation = s.generation := by
    intro a
    rw [adapter?_eq_some]
    constructor
    · rintro ⟨j, owned, holds, rfl, at_⟩
      have : j = i := slotNumber_inj (by rw [← same, at_, handleAt])
      subst this
      rw [slot_put_same] at holds
      rw [handleAt, slot_put_same] at at_
      exact ⟨by rw [Slot.adapter?, holds]; rfl, by rw [at_]⟩
    · rintro ⟨held, generation⟩
      obtain ⟨owned, holds, value⟩ := Option.map_eq_some_iff.1 held
      refine ⟨i, owned, by rw [slot_put_same]; exact holds, value, ?_⟩
      rw [eq_handleAt same, slot_put_same, generation]
  apply Option.ext
  intro a
  rw [named]
  split
  · rename_i generation
    simp [generation]
  · rename_i generation
    simp [generation]

/-- Work on an adapter in its place changes what its handle names. -/
theorem adapter?_rewrite {t : SlotTable} {h : Handle} {i : Fin maxAdapters} {owned : Owned Adapter}
    (found : t.locate h = .ok (i, owned)) (a : Adapter) (k : Handle) :
    (t.put i { t.slot i with occupant := some ⟨owned.block, a⟩ }).adapter? k =
      if k = h then some a else t.adapter? k := by
  obtain ⟨holds, at_⟩ := locate_eq_ok.1 found
  subst at_
  by_cases slot : k.slot = UInt8.ofNat i
  · rw [adapter?_put_same slot]
    by_cases same : k = t.handleAt i
    · rw [if_pos same, if_pos ((eq_handleAt slot).1 same)]
      rfl
    · rw [if_neg same, if_neg (fun generation => same ((eq_handleAt slot).2 generation)),
        adapter?_of_slot slot (.inl same)]
  · rw [adapter?_put_other slot, if_neg fun same => slot (by rw [same, handleAt_slot])]

/-- A slot that is vacated takes its adapter from its handle. -/
theorem adapter?_vacate (t : SlotTable) (i : Fin maxAdapters) (k : Handle) :
    (t.vacate i).adapter? k = if k = t.handleAt i then none else t.adapter? k := by
  by_cases slot : k.slot = UInt8.ofNat i
  · rw [vacate, adapter?_put_same slot]
    by_cases same : k = t.handleAt i
    · simp [same, Slot.adapter?]
    · rw [if_neg same, adapter?_of_slot slot (.inl same)]
      simp [Slot.adapter?]
  · rw [vacate, adapter?_put_other slot, if_neg fun same => slot (by rw [same, handleAt_slot])]

/-- A free slot that is filled gives its next handle an adapter. -/
theorem adapter?_fill {t : SlotTable} {i : Fin maxAdapters} (free : (t.slot i).occupant = none)
    (owned : Owned Adapter) (interface : Option Interface) (k : Handle) :
    (t.put i ⟨some owned, interface, (t.slot i).generation + 1⟩).adapter? k =
      if k = t.nextHandle i then some owned.value else t.adapter? k := by
  by_cases slot : k.slot = UInt8.ofNat i
  · rw [adapter?_put_same slot]
    have whole : k = t.nextHandle i ↔ k.generation = (t.slot i).generation + 1 := by
      cases k
      simp only at slot
      simp [nextHandle, slot]
    simp only [whole, adapter?_of_slot slot (.inr free)]
    split
    · rfl
    · rfl
  · have differ : k ≠ t.nextHandle i := fun same => slot (by rw [same, nextHandle])
    rw [adapter?_put_other slot, if_neg differ]

/-! ## Operations -/

variable {ε α : Type}

theorem visit_of_locate {t : SlotTable} {h : Handle} {i : Fin maxAdapters} {owned : Owned Adapter}
    (found : t.locate h = .ok (i, owned)) (op : Adapter → Outcome ε Adapter α) :
    t.visit h op =
      ⟨.ok (op owned.value).answer,
        t.put i { t.slot i with occupant := some ⟨owned.block, (op owned.value).state⟩ },
        (op owned.value).events⟩ := by
  unfold visit
  rw [found]
  rfl

theorem visit_of_missing {t : SlotTable} {h : Handle} {why : Error} (missing : t.locate h = .error why)
    (op : Adapter → Outcome ε Adapter α) : t.visit h op = .quiet (.error why) t := by
  unfold visit
  rw [missing]

theorem lowest?_eq_some {t : SlotTable} {p : Slot → Bool} {i : Fin maxAdapters}
    (found : t.lowest? p = some i) : p (t.slot i) = true :=
  List.find?_some (p := fun j => p (t.slot j)) found

theorem lowest?_eq_none {t : SlotTable} {p : Slot → Bool} :
    t.lowest? p = none ↔ ∀ i, p (t.slot i) = false := by
  simp [lowest?, List.find?_eq_none]

theorem firstFree?_vacant {t : SlotTable} {i : Fin maxAdapters} (found : t.firstFree? = some i) :
    (t.slot i).occupant = none := by
  simpa [Slot.inUse] using lowest?_eq_some found

/-- A free slot is filled with what was meant for it. -/
theorem occupy_of_free {t : SlotTable} {i : Fin maxAdapters} (free : (t.slot i).occupant = none)
    (interface : Interface) (box : Box Adapter) :
    t.occupy i interface box =
      .ok (t.nextHandle i, t.put i ⟨box, some interface, (t.slot i).generation + 1⟩) := by
  unfold occupy
  rw [index?_eq_some.2 rfl]
  simp [Slot.inUse, free]

end SlotTable

end PacketRadio
