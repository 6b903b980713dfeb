import Mathlib.Algebra.Order.Ring.Nat
import PacketRadio.Adapter.Attribute

/-!
# Bytes and what they stand for

Words, addresses and lists of addresses are written as bytes, the lowest one first, and read back by
code of its own. Both are compared through the number that the bytes make up: bytes of one length
that make up the same number are the same, so each reader undoes its writer, and each writer its
reader.

An answer is the encoding of an attribute. Lists are written into the buffer item by item, which
comes to the same as writing their encoding at once.
-/

namespace PacketRadio

/-! ## Numbers -/

namespace Address

theorem packed_lt (bytes : List UInt8) : packed bytes < 256 ^ bytes.length := by
  induction bytes with
  | nil => exact Nat.one_pos
  | cons b rest ih =>
    have := b.toNat_lt
    rw [packed, List.length_cons, Nat.pow_succ]
    omega

/-- Bytes are told by their number, if it is known how many they are. -/
theorem packed_inj {xs ys : List UInt8} (same : xs.length = ys.length)
    (packs : packed xs = packed ys) : xs = ys := by
  induction xs generalizing ys with
  | nil => exact (List.length_eq_zero_iff.1 same.symm).symm
  | cons x xs ih =>
    cases ys with
    | nil => cases same
    | cons y ys =>
      have := x.toNat_lt
      have := y.toNat_lt
      rw [packed, packed] at packs
      have head : x = y := UInt8.toNat_inj.1 (by omega)
      have tail : xs = ys := ih (Nat.succ.inj same) (by omega)
      rw [head, tail]

/-! ## Addresses -/

theorem packed_bytes (a : Address) : packed a.bytes.toList = a.bits.toNat := by
  have := a.bits.isLt
  rw [bytes, Vector.toList_ofFn]
  simp [byte, List.ofFn_succ, packed, UInt8.toNat, Nat.shiftRight_eq_div_pow]
  omega

theorem toNat_ofBytes (v : Vector UInt8 7) : (ofBytes v).bits.toNat = packed v.toList := by
  have fits := packed_lt v.toList
  rw [Vector.length_toList] at fits
  exact Nat.mod_eq_of_lt fits

theorem ofBytes_bytes (a : Address) : ofBytes a.bytes = a := by
  have same : (ofBytes a.bytes).bits = a.bits :=
    BitVec.eq_of_toNat_eq ((toNat_ofBytes _).trans a.packed_bytes)
  cases a
  exact congrArg mk same

theorem bytes_ofBytes (v : Vector UInt8 7) : (ofBytes v).bytes = v := by
  refine Vector.toList_inj.1 (packed_inj ?_ ?_)
  · rw [Vector.length_toList, Vector.length_toList]
  · rw [packed_bytes, toNat_ofBytes]

end Address

/-! ## Words -/

theorem packed_wordBytes (w : UInt32) : Address.packed (wordBytes w) = w.toNat := by
  have := w.toNat_lt
  simp [wordBytes, Address.packed, Nat.shiftRight_eq_div_pow]
  omega

/-- A byte that is put above all lower bits adds to their number. -/
theorem or_byte {low shift : Nat} (b : UInt8) (below : low < 2 ^ shift) (room : shift ≤ 24) :
    low ||| b.toNat <<< shift % 2 ^ 32 = low + 2 ^ shift * b.toNat := by
  have fits : b.toNat <<< shift < 2 ^ 32 := by
    rw [Nat.shiftLeft_eq]
    calc b.toNat * 2 ^ shift
      _ < 2 ^ 8 * 2 ^ shift := Nat.mul_lt_mul_of_pos_right b.toNat_lt (Nat.two_pow_pos _)
      _ ≤ 2 ^ 8 * 2 ^ 24 := Nat.mul_le_mul_left _ (Nat.pow_le_pow_right (by decide) room)
  rw [Nat.mod_eq_of_lt fits, Nat.or_comm, ← Nat.shiftLeft_add_eq_or_of_lt below, Nat.shiftLeft_eq,
    Nat.mul_comm, Nat.add_comm]

theorem toNat_ofFour (a b c d : UInt8) :
    (a.toUInt32 ||| b.toUInt32 <<< 8 ||| c.toUInt32 <<< 16 ||| d.toUInt32 <<< 24).toNat =
      Address.packed [a, b, c, d] := by
  have := a.toNat_lt
  have := b.toNat_lt
  have := c.toNat_lt
  calc (a.toUInt32 ||| b.toUInt32 <<< 8 ||| c.toUInt32 <<< 16 ||| d.toUInt32 <<< 24).toNat
    _ = a.toNat ||| b.toNat <<< 8 % 2 ^ 32 ||| c.toNat <<< 16 % 2 ^ 32 |||
          d.toNat <<< 24 % 2 ^ 32 := by
      simp
    _ = a.toNat + 2 ^ 8 * b.toNat + 2 ^ 16 * c.toNat + 2 ^ 24 * d.toNat := by
      rw [or_byte b (by omega) (by omega), or_byte c (by omega) (by omega),
        or_byte d (by omega) (by omega)]
    _ = Address.packed [a, b, c, d] := by
      simp only [Address.packed]
      omega

/-- A word is read from the four bytes that make up its number, and from no others. -/
theorem wordOfBytes?_eq_some {bytes : List UInt8} {w : UInt32} :
    wordOfBytes? bytes = some w ↔ bytes = wordBytes w := by
  constructor
  · intro read
    unfold wordOfBytes? at read
    split at read
    · cases read
      refine Address.packed_inj rfl ?_
      rw [packed_wordBytes, toNat_ofFour]
    · cases read
  · intro written
    rw [written, wordBytes, wordOfBytes?, Option.some_inj, ← UInt32.toNat_inj, toNat_ofFour]
    exact packed_wordBytes w

theorem wordBytes_injective {v w : UInt32} (same : wordBytes v = wordBytes w) : v = w :=
  UInt32.toNat_inj.1 (by rw [← packed_wordBytes v, ← packed_wordBytes w, same])

/-! ## Lists of addresses -/

/-- The bytes of some addresses, one address after the other. -/
def bytesOfAll (groups : List Address) : List UInt8 := groups.flatMap fun g => g.bytes.toList

@[simp] theorem bytesOfAll_cons (g : Address) (gs : List Address) :
    bytesOfAll (g :: gs) = g.bytes.toList ++ bytesOfAll gs := List.flatMap_cons

theorem length_bytesOfAll (groups : List Address) :
    (bytesOfAll groups).length = Address.length * groups.length := by
  induction groups with
  | nil => rfl
  | cons g gs ih =>
    rw [bytesOfAll_cons, List.length_append, ih, Vector.length_toList, List.length_cons,
      Address.length]
    omega

theorem addressesOf_append (v : Vector UInt8 7) (rest : List UInt8) :
    addressesOf (v.toList ++ rest) = Address.ofBytes v :: addressesOf rest := by
  obtain ⟨⟨bytes⟩, seven⟩ := v
  match bytes, seven with
  | [a, b, c, d, e, f, g], _ => rfl

theorem addressesOf_bytesOfAll (groups : List Address) :
    addressesOf (bytesOfAll groups) = groups := by
  induction groups with
  | nil => rfl
  | cons g gs ih => rw [bytesOfAll_cons, addressesOf_append, ih, Address.ofBytes_bytes]

theorem bytesOfAll_injective {groups others : List Address}
    (same : bytesOfAll groups = bytesOfAll others) : groups = others := by
  rw [← addressesOf_bytesOfAll groups, ← addressesOf_bytesOfAll others, same]

/-- Nothing is lost of bytes that are a whole number of addresses. -/
theorem bytesOfAll_addressesOf {bytes : List UInt8} (whole : bytes.length % Address.length = 0) :
    bytesOfAll (addressesOf bytes) = bytes := by
  induction bytes using addressesOf.induct with
  | case1 a b c d e f g rest ih =>
    have rest_whole : rest.length % Address.length = 0 := by
      simp only [List.length_cons, Address.length] at whole ⊢
      omega
    rw [addressesOf, bytesOfAll_cons, Address.bytes_ofBytes, ih rest_whole]
    rfl
  | case2 bytes short =>
    match bytes, whole, short with
    | [], _, _ => rfl
    | a :: b :: c :: d :: e :: f :: g :: rest, _, short => exact (short _ _ _ _ _ _ _ _ rfl).elim

/-! ## Answers -/

/-- Items that fill a piece each, and find a piece each, are written one after the other. -/
theorem writeItems_eq {size : Nat} {items : List (List UInt8)}
    (sized : ∀ item ∈ items, item.length = size) {buffer : List UInt8}
    (room : items.length * size ≤ buffer.length) :
    writeItems size buffer items = items.flatten ++ buffer.drop (items.length * size) := by
  induction items generalizing buffer with
  | nil => rw [writeItems, List.flatten_nil, List.nil_append, List.length_nil, Nat.zero_mul,
      List.drop_zero]
  | cons item items ih =>
    obtain ⟨first, rest⟩ := List.forall_mem_cons.1 sized
    rw [List.length_cons, Nat.succ_mul] at room ⊢
    have left : items.length * size ≤ (buffer.drop size).length := by
      rw [List.length_drop]
      omega
    rw [writeItems, if_neg (by omega), ih rest left, List.drop_drop, List.flatten_cons,
      List.append_assoc, Nat.add_comm size]

namespace AttributeRequest

/-- Writing item by item comes to the same as writing all items at once. -/
theorem respondItems_eq (r : AttributeRequest) {size : Nat} {items : List (List UInt8)}
    (sized : ∀ item ∈ items, item.length = size) :
    r.respondItems size items = r.respond items.flatten := by
  have length : items.flatten.length = items.length * size := by
    have sizes : items.map List.length = List.replicate items.length size :=
      List.eq_replicate_iff.2 ⟨List.length_map .., List.forall_mem_map.2 sized⟩
    rw [List.length_flatten, sizes, List.sum_replicate_nat]
  rw [respondItems, respond, length]
  split
  · rfl
  · rename_i room
    rw [writeItems_eq sized (Nat.not_lt.1 room)]

end AttributeRequest

namespace Adapter

/-- The value of an attribute in bytes. -/
def encode (a : Adapter) : Attribute → List UInt8
  | .supportedList => a.general.oids.flatMap wordBytes
  | .maximumFrameSize => wordBytes a.general.mtu
  | .linkSpeed => wordBytes (speedInUnits a.general.xmitSpeed)
  | .packetFilter => wordBytes a.filter.bits
  | .connectStatus => wordBytes mediaConnected
  | .vlan => wordBytes a.vlan
  | .permanentAddress => a.general.permanent.bytes.toList
  | .currentAddress => a.general.current.bytes.toList
  | .multicastList => bytesOfAll a.multicast.groups
  | .maximumListSize => wordBytes (UInt32.ofNat maxMulticast)

/-- **An attribute is answered with its encoding**, whether it is one value or a list. -/
theorem respond_eq (a : Adapter) (r : AttributeRequest) (asked : Attribute) :
    a.respond r asked = r.respond (a.encode asked) := by
  cases asked with
  | supportedList =>
    rw [respond, encode, r.respondItems_eq, List.flatMap_def]
    exact List.forall_mem_map.2 fun _ _ => rfl
  | multicastList =>
    rw [respond, encode, r.respondItems_eq, bytesOfAll, List.flatMap_def]
    exact List.forall_mem_map.2 fun g _ => g.bytes.length_toList
  | _ => rfl

end Adapter

end PacketRadio
