import Mathlib.Data.List.Nodup
import PacketRadio.Adapter.InFlight

/-!
# Held buffer lists

A table of buffer lists in flight is sound if it holds no list twice and its number is right. Every
operation keeps it so. Each is told by what it does to the held lists; their order is left open,
but for the first one.
-/

namespace PacketRadio

namespace InFlight

/-- No list is held twice, and the number is that of the held lists. -/
structure Sound (t : InFlight) : Prop where
  nodup : t.held.Nodup
  count_eq : t.count = t.held.length

@[simp] theorem held_empty : empty.held = [] := Rack.held_empty

theorem empty_sound : empty.Sound := ⟨by simp, by simp [empty, held]⟩

theorem Sound.count_eq_zero {t : InFlight} (sound : t.Sound) : t.count = 0 ↔ t.held = [] := by
  rw [sound.count_eq, List.length_eq_zero_iff]

/-- In a sound table a list is counted once or not at all. -/
theorem Sound.count_held {t : InFlight} (sound : t.Sound) (list : BufferList) :
    t.held.count list = (t.contains list).toNat := by
  unfold contains
  by_cases member : list ∈ t.held
  · rw [List.count_eq_one_of_mem sound.nodup member, List.contains_iff_mem.2 member]
    rfl
  · have absent : t.held.contains list = false := by simpa using member
    rw [List.count_eq_zero_of_not_mem member, absent]
    rfl

/-- There is room for as many lists as a table holds. -/
theorem length_held_le (t : InFlight) : t.held.length ≤ maxInFlight := t.entries.length_held_le

/-! ## Taking a list in -/

theorem insert?_held {t t' : InFlight} {list : BufferList} (taken : t.insert? list = some t') :
    list ∉ t.held ∧ t'.held.Perm (list :: t.held) ∧ t'.count = t.count + 1 := by
  unfold insert? at taken
  split at taken
  · cases taken
  · rename_i room
    simp only [contains, Bool.or_eq_true, not_or, Bool.not_eq_true] at room
    obtain ⟨⟨-, absent⟩, cell⟩ := room
    cases taken
    exact ⟨by simpa using absent, t.entries.held_insert_perm list cell, rfl⟩

theorem Sound.insert {t t' : InFlight} (sound : t.Sound) {list : BufferList}
    (taken : t.insert? list = some t') : t'.Sound := by
  obtain ⟨absent, held, count⟩ := insert?_held taken
  refine ⟨held.nodup_iff.2 (List.nodup_cons.2 ⟨absent, sound.nodup⟩), ?_⟩
  rw [held.length_eq, List.length_cons, count, sound.count_eq]

/-- A list is not taken in if it is held already, or if there is no room. -/
theorem Sound.insert?_eq_none {t : InFlight} (sound : t.Sound) {list : BufferList} :
    t.insert? list = none ↔ list ∈ t.held ∨ t.held.length = maxInFlight := by
  have counted : t.isFull = true ↔ t.held.length = maxInFlight := by
    rw [isFull, sound.count_eq, beq_iff_eq]
  have celled : t.entries.isFull = true ↔ t.held.length = maxInFlight := t.entries.isFull_iff
  have member : t.contains list = true ↔ list ∈ t.held := List.contains_iff_mem
  unfold insert?
  split
  · rename_i refused
    simp only [Bool.or_eq_true, counted, celled, member] at refused
    refine iff_of_true rfl ?_
    rcases refused with (full | held) | full
    · exact .inr full
    · exact .inl held
    · exact .inr full
  · rename_i room
    simp only [Bool.or_eq_true, counted, celled, member, not_or] at room
    exact iff_of_false nofun (not_or.2 ⟨room.1.2, room.1.1⟩)

/-! ## Letting a list go -/

theorem remove?_eq_none {t : InFlight} {list : BufferList} :
    t.remove? list = none ↔ list ∉ t.held := by
  simp [remove?, contains]

theorem remove?_held {t t' : InFlight} {list : BufferList} (gone : t.remove? list = some t') :
    t.held.Perm (list :: t'.held) ∧ t'.count = t.count - 1 := by
  unfold remove? contains at gone
  split at gone
  · rename_i member
    cases gone
    refine ⟨?_, rfl⟩
    have left : (t.entries.erase (· == list)).held = t.held.erase list := by
      rw [Rack.held_erase, List.erase_eq_eraseP', held]
    change t.held.Perm (list :: (t.entries.erase (· == list)).held)
    rw [left]
    exact List.perm_cons_erase (List.contains_iff_mem.1 member)
  · cases gone

theorem Sound.remove {t t' : InFlight} (sound : t.Sound) {list : BufferList}
    (gone : t.remove? list = some t') : t'.Sound := by
  obtain ⟨held, count⟩ := remove?_held gone
  refine ⟨(List.nodup_cons.1 (held.nodup_iff.1 sound.nodup)).2, ?_⟩
  have := held.length_eq
  rw [List.length_cons] at this
  rw [count, sound.count_eq, this, Nat.add_sub_cancel]

theorem pop?_eq_none {t : InFlight} : t.pop? = none ↔ t.held = [] := by
  simp [pop?]

theorem pop?_held {t t' : InFlight} {list : BufferList} (gone : t.pop? = some (list, t')) :
    t.held = list :: t'.held ∧ t'.count = t.count - 1 := by
  obtain ⟨first, head, same⟩ := Option.map_eq_some_iff.1 gone
  cases same
  obtain ⟨rest, whole⟩ := List.head?_eq_some_iff.1 head
  refine ⟨?_, rfl⟩
  have left : (t.entries.erase fun _ => true).held = t.held.eraseP fun _ => true :=
    t.entries.held_erase _
  change t.held = list :: (t.entries.erase fun _ => true).held
  rw [left, whole]
  rfl

theorem Sound.pop {t t' : InFlight} (sound : t.Sound) {list : BufferList}
    (gone : t.pop? = some (list, t')) : t'.Sound := by
  obtain ⟨held, count⟩ := pop?_held gone
  have := sound.nodup
  rw [held] at this
  refine ⟨(List.nodup_cons.1 this).2, ?_⟩
  rw [count, sound.count_eq, held, List.length_cons, Nat.add_sub_cancel]

end InFlight

end PacketRadio
