import PacketRadio.Proofs.Adapter.Answers

/-!
# Verdicts on settings

A request to set an attribute is judged by its identifier and its bytes alone. It is accepted if the
bytes are a valid setting of that attribute, and then this attribute changes and nothing else does.
Otherwise the adapter stays as it is, and the first objection is told: an attribute that cannot be
set, bytes of a wrong number, and only then what the bytes say.

The bytes are read here as the host writes them, by number and by entry.
-/

namespace PacketRadio

/-! ## Masks -/

/-- Every bit of `n` is one of `mask`. -/
def Within (mask n : Nat) : Prop := ∀ i, n.testBit i = true → mask.testBit i = true

theorem within_iff {mask n : Nat} : Within mask n ↔ n &&& mask = n := by
  constructor
  · intro within
    refine Nat.eq_of_testBit_eq fun i => ?_
    rw [Nat.testBit_and]
    cases set : n.testBit i with
    | false => rfl
    | true => rw [within i set, Bool.true_and]
  · intro same i set
    rw [← same, Nat.testBit_and, Bool.and_eq_true] at set
    exact set.2

instance (mask n : Nat) : Decidable (Within mask n) := decidable_of_iff _ within_iff.symm

theorem Within.trans {mask other n : Nat} (outer : Within mask other) (inner : Within other n) :
    Within mask n := fun i set => outer i (inner i set)

/-- The flags of the packets that an adapter can deliver, by their names. -/
def deliverableFlags : List String := ["DIRECTED", "MULTICAST", "ALL_MULTICAST", "BROADCAST"]

/-- The bits of these flags. -/
def deliverableBits : Nat :=
  ((packetFilters.members.filter fun flag => flag.1 ∈ deliverableFlags).map
    fun flag => flag.2.toNat).foldl (· ||| ·) 0

theorem includes_iff {family : FlagFamily} {s t : FlagSet family} :
    s.includes t = true ↔ Within s.bits.toNat t.bits.toNat := by
  rw [FlagSet.includes, beq_iff_eq, within_iff, ← UInt32.toNat_inj, UInt32.toNat_and, Nat.and_comm]

theorem isKnown_iff {family : FlagFamily} {s : FlagSet family} :
    s.isKnown = true ↔ Within family.known.toNat s.bits.toNat := by
  rw [FlagSet.isKnown, beq_iff_eq, within_iff, ← UInt32.toNat_inj, UInt32.toNat_and]

/-- All that can be delivered has a name. -/
theorem deliverable_iff {filter : PacketFilter} :
    (filter.isKnown && PacketFilter.supported.includes filter) = true ↔
      Within deliverableBits filter.bits.toNat := by
  have named : Within packetFilters.known.toNat deliverableBits := within_iff.2 (by decide)
  rw [Bool.and_eq_true, isKnown_iff, includes_iff]
  exact ⟨And.right, fun within => ⟨named.trans within, within⟩⟩

/-! ## Words and entries -/

/-- Exactly four bytes are read as a word, which is their number. -/
theorem wordOfBytes?_cases (bytes : List UInt8) :
    (bytes.length ≠ 4 ∧ wordOfBytes? bytes = none) ∨
      ∃ w, bytes.length = 4 ∧ Address.packed bytes = w.toNat ∧ wordOfBytes? bytes = some w := by
  unfold wordOfBytes?
  split
  · exact .inr ⟨_, rfl, (toNat_ofFour ..).symm, rfl⟩
  · rename_i other
    refine .inl ⟨fun four => ?_, rfl⟩
    match bytes, four with
    | [a, b, c, d], _ => exact other a b c d rfl

/-- The entries of a list of addresses, seven bytes each. -/
def entriesOf (bytes : List UInt8) : List (List UInt8) :=
  (List.range (bytes.length / 7)).map fun k => (bytes.drop (7 * k)).take 7

theorem length_entriesOf (bytes : List UInt8) : (entriesOf bytes).length = bytes.length / 7 := by
  rw [entriesOf, List.length_map, List.length_range]

theorem entriesOf_append {first : List UInt8} (seven : first.length = 7) (rest : List UInt8) :
    entriesOf (first ++ rest) = first :: entriesOf rest := by
  have count : (first ++ rest).length / 7 = rest.length / 7 + 1 := by
    rw [List.length_append, seven]
    omega
  rw [entriesOf, count, List.range_succ_eq_map, List.map_cons, List.map_map, entriesOf]
  refine congrArg₂ _ ?_ (List.map_congr_left fun k _ => ?_)
  · rw [Nat.mul_zero, List.drop_zero, ← seven, List.take_left]
  · rw [Function.comp, Nat.mul_succ, Nat.add_comm, ← List.drop_drop, ← seven, List.drop_left]

theorem entriesOf_bytesOfAll (groups : List Address) :
    entriesOf (bytesOfAll groups) = groups.map fun g => g.bytes.toList := by
  induction groups with
  | nil => rfl
  | cons g gs ih => rw [bytesOfAll_cons, entriesOf_append g.bytes.length_toList, ih, List.map_cons]

/-- The unused mark is the address whose bytes are all zero. -/
theorem Address.isUnused_iff_bytes (g : Address) :
    g.isUnused = true ↔ g.bytes.toList = List.replicate 7 0 := by
  rw [isUnused_iff]
  constructor
  · rintro rfl
    rfl
  · intro zeros
    have zero : g.bits.toNat = 0 := by
      rw [← g.packed_bytes, zeros]
      rfl
    exact congrArg Address.mk (BitVec.eq_of_toNat_eq zero)

/-- An entry of zeros is one that reads as the unused mark. -/
theorem any_isUnused_iff {bytes : List UInt8} (whole : bytes.length % Address.length = 0) :
    (addressesOf bytes).any Address.isUnused = true ↔ List.replicate 7 0 ∈ entriesOf bytes := by
  have entries := entriesOf_bytesOfAll (addressesOf bytes)
  rw [bytesOfAll_addressesOf whole] at entries
  rw [entries, List.any_eq_true, List.mem_map]
  exact exists_congr fun g => and_congr_right' g.isUnused_iff_bytes

theorem length_addressesOf {bytes : List UInt8} (whole : bytes.length % Address.length = 0) :
    (addressesOf bytes).length = bytes.length / 7 := by
  have length := length_bytesOfAll (addressesOf bytes)
  rw [bytesOfAll_addressesOf whole] at length
  rw [length, Nat.mul_comm]
  exact (Nat.mul_div_cancel _ (by decide)).symm

/-! ## Verdicts -/

/-- The bytes are a valid setting of the attribute. -/
def ValidSetting (oid : UInt32) (bytes : List UInt8) : Prop :=
  (oid = Attribute.packetFilter.oid ∧ bytes.length = 4 ∧
      Within deliverableBits (Address.packed bytes)) ∨
    (oid = Attribute.vlan.oid ∧ bytes.length = 4 ∧ Address.packed bytes ≤ 4095) ∨
    (oid = Attribute.multicastList.oid ∧ 7 ∣ bytes.length ∧ bytes.length ≤ 112 ∧
      List.replicate 7 0 ∉ entriesOf bytes)

/-- The attribute never takes that many bytes. -/
def WrongLength (oid : UInt32) (bytes : List UInt8) : Prop :=
  (oid = Attribute.multicastList.oid ∧ bytes.length % 7 ≠ 0) ∨
    (oid ≠ Attribute.multicastList.oid ∧ bytes.length ≠ 4)

instance (oid : UInt32) (bytes : List UInt8) : Decidable (WrongLength oid bytes) :=
  inferInstanceAs (Decidable (_ ∨ _))

/-- The first objection to setting the attribute to the bytes. -/
def objection? (oid : UInt32) (bytes : List UInt8) : Option Error :=
  if oid ∉ Adapter.settableOids then some .notSupported
  else if WrongLength oid bytes then some .invalidLength
  else if oid = Attribute.packetFilter.oid ∧ ¬ Within deliverableBits (Address.packed bytes) then
    some .notSupported
  else if oid = Attribute.vlan.oid ∧ 4095 < Address.packed bytes then some .invalidData
  else if oid = Attribute.multicastList.oid ∧ 16 < (entriesOf bytes).length then
    some .multicastFull
  else if oid = Attribute.multicastList.oid ∧ List.replicate 7 0 ∈ entriesOf bytes then
    some .invalidData
  else none

/-- The attributes that can be set, one by one. -/
theorem settable_cases (oid : UInt32) :
    oid ∉ Adapter.settableOids ∨ oid = Attribute.packetFilter.oid ∨ oid = Attribute.vlan.oid ∨
      oid = Attribute.multicastList.oid := by
  by_cases settable : oid ∈ Adapter.settableOids
  · simp only [Adapter.settableOids, List.mem_cons, List.not_mem_nil, or_false] at settable
    exact .inr settable
  · exact .inl settable

section
variable (bytes : List UInt8)

theorem objection?_filter : objection? Attribute.packetFilter.oid bytes =
    if bytes.length ≠ 4 then some .invalidLength
    else if ¬ Within deliverableBits (Address.packed bytes) then some .notSupported
    else none := by
  simp [objection?, WrongLength, Adapter.settableOids, Attribute.oid]

theorem objection?_vlan : objection? Attribute.vlan.oid bytes =
    if bytes.length ≠ 4 then some .invalidLength
    else if 4095 < Address.packed bytes then some .invalidData
    else none := by
  simp [objection?, WrongLength, Adapter.settableOids, Attribute.oid]

theorem objection?_groups : objection? Attribute.multicastList.oid bytes =
    if bytes.length % Address.length ≠ 0 then some .invalidLength
    else if maxMulticast < bytes.length / Address.length then some .multicastFull
    else if List.replicate 7 0 ∈ entriesOf bytes then some .invalidData
    else none := by
  change _ = if bytes.length % 7 ≠ 0 then _ else if 16 < bytes.length / 7 then _ else _
  simp [objection?, WrongLength, Adapter.settableOids, Attribute.oid, length_entriesOf]

end

theorem objected_eq_none {ε : Type} {objected : Prop} [Decidable objected] {why : ε}
    {later : Option ε} :
    (if objected then some why else later) = none ↔ ¬ objected ∧ later = none := by
  split
  · rename_i objected
    exact iff_of_false nofun fun none => none.1 objected
  · rename_i passed
    exact (and_iff_right passed).symm

/-- What there is no objection to is valid. -/
theorem objection?_eq_none {oid : UInt32} {bytes : List UInt8} :
    objection? oid bytes = none ↔ ValidSetting oid bytes := by
  rcases settable_cases oid with other | rfl | rfl | rfl
  · rw [objection?, if_pos other]
    refine iff_of_false nofun ?_
    rintro (⟨rfl, -⟩ | ⟨rfl, -⟩ | ⟨rfl, -⟩) <;> exact other (by decide)
  · have valid : ValidSetting Attribute.packetFilter.oid bytes ↔
        bytes.length = 4 ∧ Within deliverableBits (Address.packed bytes) := by
      simp [ValidSetting, Attribute.oid]
    rw [valid, objection?_filter, objected_eq_none, objected_eq_none]
    simp only [Decidable.not_not, and_true]
  · have valid : ValidSetting Attribute.vlan.oid bytes ↔
        bytes.length = 4 ∧ Address.packed bytes ≤ 4095 := by
      simp [ValidSetting, Attribute.oid]
    rw [valid, objection?_vlan, objected_eq_none, objected_eq_none]
    simp only [Decidable.not_not, Nat.not_lt, and_true]
  · have valid : ValidSetting Attribute.multicastList.oid bytes ↔
        7 ∣ bytes.length ∧ bytes.length ≤ 112 ∧ List.replicate 7 0 ∉ entriesOf bytes := by
      simp [ValidSetting, Attribute.oid]
    rw [valid, objection?_groups, objected_eq_none, objected_eq_none, objected_eq_none]
    simp only [Decidable.not_not, ← Nat.dvd_iff_mod_eq_zero, Nat.not_lt, and_true]
    refine and_congr_right fun whole => and_congr_left' ?_
    rw [Address.length] at whole ⊢
    rw [maxMulticast]
    omega

namespace Adapter

/-- Accepted, or the first objection. -/
def verdict (oid : UInt32) (bytes : List UInt8) : Except Error Unit :=
  (objection? oid bytes).elim (.ok ()) .error

theorem verdict_eq_ok {oid : UInt32} {bytes : List UInt8} :
    verdict oid bytes = .ok () ↔ ValidSetting oid bytes := by
  rw [← objection?_eq_none, verdict]
  cases objection? oid bytes with
  | none => exact iff_of_true rfl rfl
  | some why => exact iff_of_false nofun nofun

theorem verdict_eq_error {oid : UInt32} {bytes : List UInt8} {why : Error} :
    verdict oid bytes = .error why ↔ objection? oid bytes = some why := by
  rw [verdict]
  cases objection? oid bytes with
  | none => exact iff_of_false nofun nofun
  | some other => rw [Option.elim_some, Except.error.injEq, Option.some_inj]

theorem setFilter_answer (a : Adapter) (r : AttributeRequest) :
    (a.setFilter r).answer.2 = verdict Attribute.packetFilter.oid r.buffer := by
  rw [verdict, objection?_filter]
  rcases wordOfBytes?_cases r.buffer with ⟨length, read⟩ | ⟨bits, four, packs, read⟩ <;>
    simp only [setFilter, AttributeRequest.readWord, read]
  · rw [if_pos length]
    rfl
  · rw [if_neg (not_not_intro four), packs]
    by_cases within : Within deliverableBits bits.toNat
    · rw [if_pos (deliverable_iff.2 within), if_neg (not_not_intro within)]
      rfl
    · rw [if_neg (mt deliverable_iff.1 within), if_pos within]
      rfl

theorem setVlan_answer (a : Adapter) (r : AttributeRequest) :
    (a.setVlan r).answer.2 = verdict Attribute.vlan.oid r.buffer := by
  rw [verdict, objection?_vlan]
  rcases wordOfBytes?_cases r.buffer with ⟨length, read⟩ | ⟨id, four, packs, read⟩ <;>
    simp only [setVlan, AttributeRequest.readWord, read]
  · rw [if_pos length]
    rfl
  · have above : 4095 < Address.packed r.buffer ↔ maxVlan < id := by
      rw [packs, UInt32.lt_iff_toNat_lt]
      rfl
    rw [if_neg (not_not_intro four)]
    by_cases high : maxVlan < id
    · rw [if_pos high, if_pos (above.2 high)]
      rfl
    · rw [if_neg high, if_neg (mt above.1 high)]
      rfl

theorem setGroups_answer (a : Adapter) (r : AttributeRequest) :
    (a.setGroups r).answer.2 = verdict Attribute.multicastList.oid r.buffer := by
  rw [verdict, objection?_groups, setGroups, AttributeRequest.readGroups]
  by_cases whole : r.buffer.length % Address.length = 0
  · rw [if_neg (not_not_intro whole), if_neg (not_not_intro whole)]
    by_cases full : maxMulticast < r.buffer.length / Address.length
    · rw [if_pos full, if_pos full]
      rfl
    · have room : ¬ maxMulticast < (addressesOf r.buffer).length := by
        rw [length_addressesOf whole]
        exact full
      have zeros := any_isUnused_iff whole
      rw [if_neg full, if_neg full]
      simp only [Multicast.replace, if_neg room]
      by_cases unused : (addressesOf r.buffer).any Address.isUnused = true
      · rw [if_pos unused, if_pos (zeros.1 unused)]
        rfl
      · rw [if_neg unused, if_neg (mt zeros.2 unused)]
        rfl
  · rw [if_pos whole, if_pos whole]
    rfl

/-- What cannot be set comes back as it was sent. -/
theorem set_of_unsettable (a : Adapter) {r : AttributeRequest} (other : r.oid ∉ settableOids) :
    (a.set r).answer = (r, .error .notSupported) := by
  cases found : Attribute.ofOid? r.oid with
  | none => rw [set, found]
  | some asked =>
    have oid := (Attribute.ofOid?_eq_some.1 found).symm
    have fixed : asked.isSettable ≠ true := fun can => other (mem_settableOids.2 ⟨_, oid, can⟩)
    cases asked <;> rw [set, found] <;> exact absurd rfl fixed

/-- A request to set an attribute is answered with the verdict on it. -/
theorem set_answer (a : Adapter) (r : AttributeRequest) :
    (a.set r).answer.2 = verdict r.oid r.buffer := by
  rcases settable_cases r.oid with other | named | named | named
  · rw [verdict, objection?, if_pos other, a.set_of_unsettable other]
    rfl
  all_goals rw [set, Attribute.ofOid?_eq_some.2 named.symm, named]
  · exact a.setFilter_answer r
  · exact a.setVlan_answer r
  · exact a.setGroups_answer r

/-- `s` is the request `r` with its counts filled in. -/
def Counted (r s : AttributeRequest) : Prop :=
  ∃ written needed, s = { r with bytesWritten := written, bytesNeeded := needed }

theorem setFilter_counted (a : Adapter) (r : AttributeRequest) :
    Counted r (a.setFilter r).answer.1 := by
  cases read : wordOfBytes? r.buffer <;> simp only [setFilter, AttributeRequest.readWord, read]
  · exact ⟨_, _, rfl⟩
  · split <;> exact ⟨_, _, rfl⟩

theorem setVlan_counted (a : Adapter) (r : AttributeRequest) :
    Counted r (a.setVlan r).answer.1 := by
  cases read : wordOfBytes? r.buffer <;> simp only [setVlan, AttributeRequest.readWord, read]
  · exact ⟨_, _, rfl⟩
  · split <;> exact ⟨_, _, rfl⟩

theorem setGroups_counted (a : Adapter) (r : AttributeRequest) :
    Counted r (a.setGroups r).answer.1 := by
  unfold setGroups AttributeRequest.readGroups
  by_cases whole : r.buffer.length % Address.length = 0
  · rw [if_neg (not_not_intro whole)]
    by_cases full : maxMulticast < r.buffer.length / Address.length
    · rw [if_pos full]
      exact ⟨_, _, rfl⟩
    · rw [if_neg full]
      dsimp only
      split <;> exact ⟨_, _, rfl⟩
  · rw [if_pos whole]
    exact ⟨_, _, rfl⟩

/-- A request comes back as it was sent, but for its counts. -/
theorem set_counted (a : Adapter) (r : AttributeRequest) : Counted r (a.set r).answer.1 := by
  unfold set
  split
  · exact a.setFilter_counted r
  · exact a.setVlan_counted r
  · exact a.setGroups_counted r
  · exact ⟨_, _, rfl⟩

/-- Storing `bytes` as the setting of an attribute makes `b` of the adapter `a`: the field is the
number that the bytes are, or the list of their entries. -/
inductive Stores (a : Adapter) (bytes : List UInt8) : UInt32 → Adapter → Prop
  | filter {filter : PacketFilter} (decoded : filter.bits.toNat = Address.packed bytes) :
      Stores a bytes Attribute.packetFilter.oid { a with filter := filter }
  | vlan {id : UInt32} (decoded : id.toNat = Address.packed bytes) :
      Stores a bytes Attribute.vlan.oid { a with vlan := id }
  | groups {table : Multicast} (packed : table.Packed)
      (decoded : (table.groups.map fun g => g.bytes.toList) = entriesOf bytes) :
      Stores a bytes Attribute.multicastList.oid { a with multicast := table }

theorem Sets.stores {a b : Adapter} {asked : Attribute} {bytes : List UInt8}
    (sets : a.Sets asked bytes b) : a.Stores bytes asked.oid b := by
  cases sets with
  | filter => exact .filter (packed_wordBytes _).symm
  | vlan => exact .vlan (packed_wordBytes _).symm
  | groups packed => exact .groups packed (entriesOf_bytesOfAll _).symm

/-- How a request `r` to set an attribute of `a` ends. -/
structure Judges (a : Adapter) (r : AttributeRequest)
    (o : Outcome Event Adapter (AttributeRequest × Except Error Unit)) : Prop where
  /-- Exactly the valid settings are accepted. -/
  accepted : o.answer.2 = .ok () ↔ ValidSetting r.oid r.buffer
  /-- For any other one, the first objection is told. -/
  refused : ∀ why, o.answer.2 = .error why ↔ objection? r.oid r.buffer = some why
  /-- What is accepted is stored in its field, and no other field changes. -/
  stored : o.answer.2 = .ok () → a.Stores r.buffer r.oid o.state
  /-- What is refused changes nothing. -/
  kept : ∀ why, o.answer.2 = .error why → o.state = a
  /-- The buffer is only read. -/
  counted : ∃ written needed,
    o.answer.1 = { r with bytesWritten := written, bytesNeeded := needed }

/-- The adapter is set to what the host may set it to. -/
structure WithinLimits (a : Adapter) : Prop where
  filter : Within deliverableBits a.filter.bits.toNat
  vlan : a.vlan.toNat ≤ 4095
  room : a.multicast.groups.length ≤ 16
  used : ∀ g ∈ a.multicast.groups, g ≠ Address.unused

theorem Settled.withinLimits {a : Adapter} (settled : a.Settled) : a.WithinLimits where
  filter := includes_iff.1 settled.supported
  vlan := UInt32.le_iff_toNat_le.1 settled.vlan
  room := settled.multicast.room
  used g joined unused :=
    List.any_eq_false.1 settled.multicast.used g joined (Address.isUnused_iff.2 unused)

theorem set_judges (a : Adapter) (r : AttributeRequest) : a.Judges r (a.set r) where
  accepted := by rw [set_answer, verdict_eq_ok]
  refused why := by rw [set_answer, verdict_eq_error]
  stored accepted := by
    obtain ⟨asked, named, sets⟩ := sets_of_set accepted
    rw [named]
    exact sets.stores
  kept why refused := by
    refine (a.set_checked r).resolve_right fun accepted => ?_
    cases accepted.symm.trans refused
  counted := a.set_counted r

/-- **A setting is judged by its bytes, and takes effect as a whole or not at all**, whatever state
the adapter is in. So no adapter that came about by requests is ever set to anything invalid. -/
theorem serve_judges_setting (a : Adapter) :
    (∀ oid buffer written needed,
      a.Judges ⟨oid, .set, buffer, written, needed⟩
        (a.serve ⟨oid, .set, buffer, written, needed⟩)) ∧
      (a.Reachable → a.WithinLimits) :=
  ⟨fun oid buffer written needed => a.set_judges ⟨oid, .set, buffer, written, needed⟩,
    fun reached => reached.settled.withinLimits⟩

theorem tuned_judges_setting :
    tuned.WithinLimits ∧
      (tuned.serve ⟨Attribute.vlan.oid, .set, [0, 16, 0, 0], 0, 0⟩).answer.2 = .error .invalidData ∧
      (tuned.serve ⟨Attribute.packetFilter.oid, .set, [0x0b, 0, 0, 0], 0, 0⟩).state =
        { tuned with filter := ⟨0x0b⟩ } := by
  have judged := serve_judges_setting tuned
  exact ⟨judged.2 tuned_reachable, ((judged.1 _ _ 0 0).refused _).2 (by decide +kernel), rfl⟩

/-- Three entries of which the second is zero, and a byte too many of them. -/
example : objection? Attribute.multicastList.oid (List.replicate 7 1 ++ List.replicate 14 0) =
      some .invalidData ∧
    objection? Attribute.multicastList.oid (List.replicate 22 0) = some .invalidLength := by
  decide +kernel

end Adapter

end PacketRadio
