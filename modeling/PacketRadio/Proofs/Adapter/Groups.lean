import PacketRadio.Proofs.Adapter.Settings
import PacketRadio.Proofs.Driver.Refusals
import PacketRadio.Proofs.Walk

/-!
# Tables of groups

A table of multicast groups is told by the list that was accepted last: the groups of this list
stand in front, and the unused mark stands behind them. Nothing is left of the lists before, be they
longer or shorter, and nothing comes of a list that is refused.
-/

namespace PacketRadio

open Walk

namespace Multicast

/-! ## One list -/

/-- The table with `groups` in front and the unused mark behind them. -/
def holding (groups : List Address) : Multicast :=
  ⟨Vector.ofFn fun i => groups.getD i Address.unused, groups.length⟩

/-- The groups can be joined: there is room for them, and the unused mark is not among them. -/
structure Fits (groups : List Address) : Prop where
  room : groups.length ≤ maxMulticast
  used : Address.unused ∉ groups

theorem overwritten_empty (groups : List Address) : empty.overwritten groups = holding groups := by
  rw [overwritten, holding, mk.injEq]
  refine ⟨congrArg Vector.ofFn (funext fun i => ?_), rfl⟩
  simp [empty]

theorem any_isUnused {groups : List Address} :
    groups.any Address.isUnused = true ↔ Address.unused ∈ groups := by
  simp [Address.isUnused_iff]

/-- **A list is judged by its length and then by its groups**, and the table has no say in it. -/
theorem replace_eq (t : Multicast) (groups : List Address) : t.replace groups =
    if maxMulticast < groups.length then .error .multicastFull
    else if Address.unused ∈ groups then .error .invalidData
    else .ok (holding groups) := by
  simp only [replace, any_isUnused, cleared_eq, overwritten_empty]

variable {t after : Multicast} {groups : List Address}

theorem replace_eq_multicastFull :
    t.replace groups = .error .multicastFull ↔ maxMulticast < groups.length := by
  rw [replace_eq]
  split_ifs with full unused
  · exact iff_of_true rfl full
  · exact iff_of_false nofun full
  · exact iff_of_false nofun full

theorem replace_eq_invalidData : t.replace groups = .error .invalidData ↔
    groups.length ≤ maxMulticast ∧ Address.unused ∈ groups := by
  rw [replace_eq]
  split_ifs with full unused
  · exact iff_of_false nofun fun objected => Nat.not_lt.2 objected.1 full
  · exact iff_of_true rfl ⟨Nat.not_lt.1 full, unused⟩
  · exact iff_of_false nofun fun objected => unused objected.2

theorem replace_eq_holding :
    t.replace groups = .ok after ↔ Fits groups ∧ after = holding groups := by
  rw [replace_eq]
  split_ifs with full unused
  · exact iff_of_false nofun fun accepted => Nat.not_lt.2 accepted.1.room full
  · exact iff_of_false nofun fun accepted => accepted.1.used unused
  · rw [Except.ok.injEq, eq_comm]
    exact (and_iff_right ⟨Nat.not_lt.1 full, unused⟩).symm

theorem Fits.groups_holding (fits : Fits groups) : (holding groups).groups = groups := by
  rw [← overwritten_empty, groups_overwritten empty fits.room]

/-- The unused mark stands behind the groups, and nowhere else. -/
theorem Fits.getElem_holding (fits : Fits groups) (i : Nat) (bound : i < maxMulticast) :
    (holding groups).entries[i] = Address.unused ↔ groups.length ≤ i := by
  have entry : (holding groups).entries[i] = groups[i]?.getD Address.unused := by
    simp [holding]
  rw [entry]
  by_cases there : i < groups.length
  · rw [List.getElem?_eq_getElem there, Option.getD_some]
    refine iff_of_false (fun unused => fits.used ?_) (Nat.not_le.2 there)
    exact unused ▸ List.getElem_mem there
  · rw [List.getElem?_eq_none (Nat.not_lt.1 there)]
    exact iff_of_true rfl (Nat.not_lt.1 there)

theorem contains_iff {group : Address} :
    t.contains group = true ↔ group ≠ Address.unused ∧ group ∈ t.groups := by
  rw [contains, Bool.and_eq_true, Bool.not_eq_true', ← Bool.not_eq_true, Address.isUnused_iff,
    List.contains_iff_mem]

/-! ## One list after the other -/

/-- The table that a list makes, if it is accepted. -/
def replace? (t : Multicast) (groups : List Address) : Option Multicast :=
  (t.replace groups).toOption

theorem replace?_eq_some : t.replace? groups = some after ↔ t.replace groups = .ok after := by
  unfold replace?
  cases t.replace groups <;> simp [Except.toOption]

/-- The list that was accepted last, of some lists that were given to a new table. -/
def joined (lists : List (List Address)) : List Address :=
  (taken replace? empty lists).getLast?.getD []

theorem fits_joined (lists : List (List Address)) : Fits (joined lists) := by
  unfold joined
  cases last : (taken replace? empty lists).getLast? with
  | none => exact ⟨Nat.zero_le _, List.not_mem_nil⟩
  | some groups =>
    obtain ⟨t, after, accepted⟩ := exists_of_mem_taken (List.mem_of_getLast? last)
    exact (replace_eq_holding.1 (replace?_eq_some.1 accepted)).1

/-- **Of all lists, only the one that was accepted last counts.** -/
theorem through_replace? (lists : List (List Address)) :
    through replace? empty lists = holding (joined lists) := by
  have leads (t : Multicast) (groups : List Address) (after : Multicast)
      (accepted : t.replace? groups = some after) : after = holding groups :=
    (replace_eq_holding.1 (replace?_eq_some.1 accepted)).2
  unfold joined
  cases last : (taken replace? empty lists).getLast? with
  | none => rw [through_of_nothing leads last]; rfl
  | some groups => rw [through_of_last leads last]; rfl

end Multicast

/-! ## Tables of adapters -/

namespace Adapter

/-- The table of an adapter takes the list that a request brings, or stays as it is. -/
theorem set_multicast {a : Adapter} {r : AttributeRequest} {groups : List Address}
    (named : r.oid = Attribute.multicastList.oid) (brings : r.buffer = bytesOfAll groups) :
    (a.set r).state = { a with multicast := (a.multicast.replace? groups).getD a.multicast } := by
  cases judged : a.multicast.replace groups with
  | ok after =>
    obtain ⟨packed, rfl⟩ := Multicast.replace_eq_ok.1 judged
    have sets : a.Sets .multicastList r.buffer { a with multicast := after } := by
      rw [brings]
      exact .groups packed
    rw [(set_of_sets sets named).2, Multicast.replace?_eq_some.2 judged, Option.getD_some]
  | error why =>
    have none : a.multicast.replace? groups = none := by
      rw [Multicast.replace?, judged]
      rfl
    rw [none]
    refine (a.set_checked r).resolve_right fun done => ?_
    obtain ⟨asked, oid, sets⟩ := sets_of_set done
    obtain rfl := Attribute.oid_injective (oid.symm.trans named)
    -- Had the request been accepted, its bytes would be those of a list that can be joined.
    generalize held : r.buffer = bytes, (a.set r).state = b at sets
    cases sets with
    | groups packed =>
      have same := bytesOfAll_injective (held.symm.trans brings)
      cases judged.symm.trans (Multicast.replace_eq_ok.2 ⟨packed, same⟩)

end Adapter

namespace Multicast

/-- How a table is found after some lists, of which `last` was accepted last. -/
structure Canonical (t : Multicast) (last : List Address) : Prop where
  /-- All entries and the number are told by this list. -/
  whole : t = holding last
  groups : t.groups = last
  /-- The unused mark stands behind the groups, and nowhere else. -/
  unused_iff : ∀ (i : Nat) (bound : i < maxMulticast), t.entries[i] = Address.unused ↔ t.count ≤ i
  contains_iff : ∀ group, t.contains group = true ↔ group ≠ Address.unused ∧ group ∈ last
  full_iff : ∀ next, t.replace next = .error .multicastFull ↔ maxMulticast < next.length
  invalid_iff : ∀ next, t.replace next = .error .invalidData ↔
    next.length ≤ maxMulticast ∧ Address.unused ∈ next
  accepted_iff : ∀ next after, t.replace next = .ok after ↔ Fits next ∧ after = holding next
  /-- As the table of an adapter, it takes the list that a request brings, or stays as it is. -/
  set : ∀ (a : Adapter) (r : AttributeRequest) (next : List Address), a.multicast = t →
    r.oid = Attribute.multicastList.oid → r.buffer = bytesOfAll next →
    (a.set r).state = { a with multicast := (t.replace? next).getD t }

/-- **A table of groups is told by the list that was accepted last.** -/
theorem lists_canonical (lists : List (List Address)) :
    (through replace? empty lists).Canonical (joined lists) := by
  have fits := fits_joined lists
  rw [through_replace?]
  exact {
    whole := rfl
    groups := fits.groups_holding
    unused_iff := fits.getElem_holding
    contains_iff group := by rw [contains_iff, fits.groups_holding]
    full_iff next := replace_eq_multicastFull
    invalid_iff next := replace_eq_invalidData
    accepted_iff next after := replace_eq_holding
    set a r next same named brings := same ▸ a.set_multicast named brings }

/-- A shorter list leaves nothing of a longer one, and one that is refused leaves everything. -/
example : through replace? empty [[⟨1⟩, ⟨2⟩, ⟨3⟩], [⟨4⟩], [⟨5⟩, Address.unused]] =
    holding [⟨4⟩] := by
  decide +kernel

end Multicast

end PacketRadio
