import PacketRadio.Proofs.Adapter.Encoding

/-!
# Settings

The host can set three attributes of an adapter: packet filter, VLAN identifier and multicast groups.
What it can set them to is told by `Sets`: a filter that an adapter can deliver, an identifier of a
VLAN, and at most sixteen groups, none of which is the unused mark. A request is accepted exactly if
it asks for one of these, whatever the adapter is set to at the time.
-/

namespace PacketRadio

open Pool

/-! ## Tables of groups -/

namespace Multicast

/-- The table holds groups only, and nothing but the unused mark behind them. -/
structure Packed (t : Multicast) : Prop where
  room : t.groups.length ≤ maxMulticast
  used : t.groups.any Address.isUnused = false
  filled : t = empty.overwritten t.groups

theorem cleared_eq (t : Multicast) : t.cleared = empty := by
  rw [cleared, empty, mk.injEq]
  exact ⟨Vector.ext fun i bound => by rw [Vector.getElem_map, Vector.getElem_replicate], rfl⟩

theorem groups_overwritten (t : Multicast) {groups : List Address}
    (room : groups.length ≤ maxMulticast) : (t.overwritten groups).groups = groups := by
  refine List.ext_getElem ?_ fun i taken given => ?_
  · simp [overwritten, Multicast.groups, room]
  · simp [overwritten, Multicast.groups, given]

theorem empty_packed : empty.Packed where
  room := Nat.zero_le _
  used := rfl
  filled := rfl

/-- A list that is accepted makes a packed table of it, whatever was there before. -/
theorem replace_eq_ok {t after : Multicast} {groups : List Address} :
    t.replace groups = .ok after ↔ after.Packed ∧ after.groups = groups := by
  unfold replace
  split
  · rename_i full
    refine iff_of_false nofun fun ⟨packed, same⟩ => ?_
    exact Nat.not_lt.2 packed.room (same ▸ full)
  · rename_i room
    split
    · rename_i unused
      refine iff_of_false nofun fun ⟨packed, same⟩ => ?_
      cases packed.used.symm.trans (same ▸ unused)
    · rename_i used
      have kept := groups_overwritten empty (Nat.not_lt.1 room)
      rw [cleared_eq, Except.ok.injEq]
      constructor
      · rintro rfl
        refine ⟨⟨?_, ?_, ?_⟩, kept⟩ <;> rw [kept]
        · exact Nat.not_lt.1 room
        · exact Bool.eq_false_iff.2 used
      · rintro ⟨packed, rfl⟩
        exact packed.filled.symm

end Multicast

/-! ## Attributes that can be set -/

namespace Attribute

/-- The attribute can be set. -/
def isSettable : Attribute → Bool
  | packetFilter | vlan | multicastList => true
  | _ => false

theorem ofOid?_eq_some {oid : UInt32} {asked : Attribute} :
    ofOid? oid = some asked ↔ asked.oid = oid := by
  constructor
  · intro found
    have same := List.find?_some found
    exact eq_of_beq same
  · rintro rfl
    cases asked <;> rfl

theorem oid_injective {asked other : Attribute} (same : asked.oid = other.oid) : asked = other :=
  Option.some_inj.1 ((ofOid?_eq_some.2 same).symm.trans (ofOid?_eq_some.2 rfl))

end Attribute

/-- The request as it comes back if `asked` was set. -/
def AttributeRequest.taken (r : AttributeRequest) : Attribute → AttributeRequest
  | .multicastList => { r with bytesWritten := r.buffer.length }
  | _ => { r with bytesNeeded := 4, bytesWritten := 4 }

namespace Adapter

/-- Setting `asked` to `bytes` makes `b` of the adapter `a`. -/
inductive Sets (a : Adapter) : Attribute → List UInt8 → Adapter → Prop
  | filter {bits : UInt32} (known : (⟨bits⟩ : PacketFilter).isKnown = true)
      (supported : PacketFilter.supported.includes ⟨bits⟩ = true) :
      Sets a .packetFilter (wordBytes bits) { a with filter := ⟨bits⟩ }
  | vlan {id : UInt32} (bounded : id ≤ maxVlan) :
      Sets a .vlan (wordBytes id) { a with vlan := id }
  | groups {table : Multicast} (packed : table.Packed) :
      Sets a .multicastList (bytesOfAll table.groups) { a with multicast := table }

/-- The adapter is set to something that it could be set to. -/
structure Settled (a : Adapter) : Prop where
  known : a.filter.isKnown = true
  supported : PacketFilter.supported.includes a.filter = true
  vlan : a.vlan ≤ maxVlan
  multicast : a.multicast.Packed

namespace Sets

variable {a b : Adapter} {asked : Attribute} {bytes : List UInt8}

theorem isSettable (sets : a.Sets asked bytes b) : asked.isSettable = true := by
  cases sets <;> rfl

/-- The attribute is encoded in the bytes that it was set to. -/
theorem encode (sets : a.Sets asked bytes b) : b.encode asked = bytes := by
  cases sets <;> rfl

/-- No other attribute changes. -/
theorem encode_of_ne (sets : a.Sets asked bytes b) {other : Attribute} (apart : other ≠ asked) :
    b.encode other = a.encode other := by
  cases sets <;> cases other <;> first | rfl | exact absurd rfl apart

theorem settled (sets : a.Sets asked bytes b) (settled : a.Settled) : b.Settled := by
  cases sets with
  | filter known supported => exact ⟨known, supported, settled.vlan, settled.multicast⟩
  | vlan bounded => exact ⟨settled.known, settled.supported, bounded, settled.multicast⟩
  | groups packed => exact ⟨settled.known, settled.supported, settled.vlan, packed⟩

end Sets

/-- The present setting can be set, and makes no difference. -/
theorem Settled.sets {a : Adapter} (settled : a.Settled) {asked : Attribute}
    (settable : asked.isSettable = true) : a.Sets asked (a.encode asked) a := by
  cases asked with
  | packetFilter => exact .filter settled.known settled.supported
  | vlan => exact .vlan settled.vlan
  | multicastList => exact .groups settled.multicast
  | _ => cases settable

/-! ## Requests to set -/

theorem setFilter_accepted {a : Adapter} {r : AttributeRequest}
    (accepted : (a.setFilter r).answer.2 = .ok ()) :
    a.Sets .packetFilter r.buffer (a.setFilter r).state := by
  cases read : wordOfBytes? r.buffer with
  | none =>
    simp only [setFilter, AttributeRequest.readWord, read] at accepted
    cases accepted
  | some bits =>
    simp only [setFilter, AttributeRequest.readWord, read] at accepted ⊢
    split at accepted
    · rename_i deliverable
      obtain ⟨known, supported⟩ := Bool.and_eq_true_iff.1 deliverable
      rw [if_pos deliverable, wordOfBytes?_eq_some.1 read]
      exact .filter known supported
    · cases accepted

theorem setVlan_accepted {a : Adapter} {r : AttributeRequest}
    (accepted : (a.setVlan r).answer.2 = .ok ()) : a.Sets .vlan r.buffer (a.setVlan r).state := by
  cases read : wordOfBytes? r.buffer with
  | none =>
    simp only [setVlan, AttributeRequest.readWord, read] at accepted
    cases accepted
  | some id =>
    simp only [setVlan, AttributeRequest.readWord, read] at accepted ⊢
    split at accepted
    · cases accepted
    · rename_i bounded
      rw [if_neg bounded, wordOfBytes?_eq_some.1 read]
      exact .vlan (UInt32.not_lt.1 bounded)

theorem setGroups_accepted {a : Adapter} {r : AttributeRequest}
    (accepted : (a.setGroups r).answer.2 = .ok ()) :
    a.Sets .multicastList r.buffer (a.setGroups r).state := by
  by_cases whole : r.buffer.length % Address.length = 0
  · by_cases room : r.buffer.length / Address.length ≤ maxMulticast
    · have read : r.readGroups = (r, .ok (addressesOf r.buffer)) := by
        rw [AttributeRequest.readGroups, if_neg (fun odd => odd whole), if_neg (Nat.not_lt.2 room)]
      cases replaced : a.multicast.replace (addressesOf r.buffer) with
      | error why =>
        simp only [setGroups, read, replaced] at accepted
        cases accepted
      | ok table =>
        obtain ⟨packed, same⟩ := Multicast.replace_eq_ok.1 replaced
        simp only [setGroups, read, replaced]
        rw [← bytesOfAll_addressesOf whole, ← same]
        exact .groups packed
    · have read : r.readGroups = (r, .error .multicastFull) := by
        rw [AttributeRequest.readGroups, if_neg (fun odd => odd whole), if_pos (Nat.not_le.1 room)]
      simp only [setGroups, read] at accepted
      cases accepted
  · have read : r.readGroups = ({ r with bytesNeeded := Address.length }, .error .invalidLength) := by
      rw [AttributeRequest.readGroups, if_pos whole]
    simp only [setGroups, read] at accepted
    cases accepted

/-- What is accepted as a setting is one. -/
theorem sets_of_set {a : Adapter} {r : AttributeRequest} (accepted : (a.set r).answer.2 = .ok ()) :
    ∃ asked : Attribute, r.oid = asked.oid ∧ a.Sets asked r.buffer (a.set r).state := by
  cases named : Attribute.ofOid? r.oid with
  | none =>
    simp only [set, named] at accepted
    cases accepted
  | some asked =>
    refine ⟨asked, (Attribute.ofOid?_eq_some.1 named).symm, ?_⟩
    cases asked <;> simp only [set, named] at accepted ⊢
    case packetFilter => exact setFilter_accepted accepted
    case vlan => exact setVlan_accepted accepted
    case multicastList => exact setGroups_accepted accepted
    all_goals cases accepted

/-- What is a setting is accepted as one. -/
theorem set_of_sets {a b : Adapter} {r : AttributeRequest} {asked : Attribute}
    (sets : a.Sets asked r.buffer b) (named : r.oid = asked.oid) :
    (a.set r).answer = (r.taken asked, .ok ()) ∧ (a.set r).state = b := by
  rw [set, Attribute.ofOid?_eq_some.2 named.symm]
  generalize held : r.buffer = bytes at sets
  cases sets with
  | @filter bits known supported =>
    have deliverable : ((⟨bits⟩ : PacketFilter).isKnown &&
        PacketFilter.supported.includes ⟨bits⟩) = true := by
      rw [known, supported]
      rfl
    simp only [setFilter, AttributeRequest.readWord, wordOfBytes?_eq_some.2 held]
    rw [if_pos deliverable]
    exact ⟨rfl, rfl⟩
  | vlan bounded =>
    simp only [setVlan, AttributeRequest.readWord, wordOfBytes?_eq_some.2 held]
    rw [if_neg (UInt32.not_lt.2 bounded)]
    exact ⟨rfl, rfl⟩
  | @groups table packed =>
    have replaced : a.multicast.replace table.groups = .ok table :=
      Multicast.replace_eq_ok.2 ⟨packed, rfl⟩
    have long : r.buffer.length = Address.length * table.groups.length := by
      rw [held, length_bytesOfAll]
    have read : r.readGroups = (r, .ok table.groups) := by
      rw [AttributeRequest.readGroups, if_neg, if_neg, held, addressesOf_bytesOfAll]
      · rw [long, Nat.mul_div_cancel_left _ (by decide)]
        exact Nat.not_lt.2 packed.room
      · rw [long, Nat.mul_mod_right]
        exact fun odd => odd rfl
    simp only [setGroups, read, replaced]
    exact ⟨rfl, rfl⟩

end Adapter

end PacketRadio
