import PacketRadio.Proofs.Adapter.ReadBack

/-!
# Answers to queries

An adapter answers a query for each attribute that it lists, and for no other one. The answer is
told by numbers: how many bytes each of them takes, and which ones they are. It is written over the
front of the buffer as a whole, or not at all, and what is behind it in the buffer stays.

An answer of several numbers is written number by number, each into the next piece of the buffer,
and one of a single number may as well be. The pieces that are left are never written to.
-/

namespace PacketRadio

open Pool

/-! ## Numbers in bytes -/

/-- A number in `count` bytes, the lowest byte first. -/
def bytesOfNumber : (count : Nat) → Nat → List UInt8
  | 0, _ => []
  | count + 1, n => UInt8.ofNat n :: bytesOfNumber count (n / 256)

@[simp] theorem length_bytesOfNumber (count n : Nat) : (bytesOfNumber count n).length = count := by
  induction count generalizing n with
  | zero => rfl
  | succ count ih => rw [bytesOfNumber, List.length_cons, ih]

/-- The bytes make up the number, as far as they reach. -/
theorem packed_bytesOfNumber {count n : Nat} (fits : n < 256 ^ count) :
    Address.packed (bytesOfNumber count n) = n := by
  induction count generalizing n with
  | zero => exact (Nat.lt_one_iff.1 fits).symm
  | succ count ih =>
    rw [Nat.pow_succ] at fits
    rw [bytesOfNumber, Address.packed, ih (by omega), UInt8.toNat_ofNat']
    omega

/-- Bytes are those of the number that they make up. -/
theorem eq_bytesOfNumber {bytes : List UInt8} {count n : Nat} (length : bytes.length = count)
    (packs : Address.packed bytes = n) : bytes = bytesOfNumber count n := by
  have fits := Address.packed_lt bytes
  rw [length, packs] at fits
  refine Address.packed_inj (length.trans (length_bytesOfNumber count n).symm) ?_
  rw [packs, packed_bytesOfNumber fits]

theorem wordBytes_eq (w : UInt32) : wordBytes w = bytesOfNumber 4 w.toNat :=
  eq_bytesOfNumber rfl (packed_wordBytes w)

theorem Address.bytes_eq (a : Address) : a.bytes.toList = bytesOfNumber 7 a.bits.toNat :=
  eq_bytesOfNumber a.bytes.length_toList a.packed_bytes

/-- A link speed is told in units of a hundred bits per second, up to the highest word. -/
theorem toNat_speedInUnits (speed : UInt64) :
    (speedInUnits speed).toNat = min (speed.toNat / 100) (2 ^ 32 - 1) := by
  have units : (speed / linkSpeedUnit).toNat = speed.toNat / 100 := UInt64.toNat_div ..
  rw [speedInUnits, units]
  exact UInt32.toNat_ofNat_of_lt' (Nat.lt_of_le_of_lt (Nat.min_le_right ..) (by decide))

/-! ## What is told -/

/-- The value of an attribute: how many bytes each number takes, and the numbers. -/
def Adapter.figures (a : Adapter) : Attribute → Nat × List Nat
  | .supportedList => (4, a.general.oids.map UInt32.toNat)
  | .maximumFrameSize => (4, [a.general.mtu.toNat])
  | .linkSpeed => (4, [min (a.general.xmitSpeed.toNat / 100) (2 ^ 32 - 1)])
  | .packetFilter => (4, [a.filter.bits.toNat])
  | .connectStatus => (4, [0])
  | .vlan => (4, [a.vlan.toNat])
  | .permanentAddress => (7, [a.general.permanent.bits.toNat])
  | .currentAddress => (7, [a.general.current.bits.toNat])
  | .multicastList => (7, a.multicast.groups.map fun g => g.bits.toNat)
  | .maximumListSize => (4, [16])

/-- The bytes of some numbers of one size, one number after the other. -/
def bytesOfFigures (figures : Nat × List Nat) : List UInt8 :=
  figures.2.flatMap (bytesOfNumber figures.1)

/-- **An attribute is told by its numbers.** -/
theorem Adapter.encode_eq (a : Adapter) (asked : Attribute) :
    a.encode asked = bytesOfFigures (a.figures asked) := by
  have alone : ∀ count n, bytesOfFigures (count, [n]) = bytesOfNumber count n := fun count n =>
    List.append_nil _
  cases asked with
  | supportedList =>
    simp only [encode, figures, bytesOfFigures, List.flatMap_map, ← wordBytes_eq]
  | linkSpeed => rw [encode, figures, alone, wordBytes_eq, toNat_speedInUnits]
  | multicastList =>
    simp only [encode, figures, bytesOfAll, bytesOfFigures, List.flatMap_map, Address.bytes_eq]
  | permanentAddress | currentAddress => rw [encode, figures, alone, Address.bytes_eq]
  | connectStatus | maximumListSize => rfl
  | maximumFrameSize | packetFilter | vlan => rw [encode, figures, alone, wordBytes_eq]

/-! ## Queries -/

theorem mem_supportedOids {oid : UInt32} :
    oid ∈ supportedOids ↔ ∃ asked : Attribute, asked.oid = oid := by
  constructor
  · intro listed
    obtain ⟨asked, -, named⟩ := List.mem_map.1 listed
    exact ⟨asked, named⟩
  · rintro ⟨asked, rfl⟩
    cases asked <;> decide

namespace Adapter

/-- How a query `q` to the adapter `a` is answered. -/
structure Answers (a : Adapter) (q : AttributeRequest)
    (o : Outcome Event Adapter (AttributeRequest × Except Error Unit)) : Prop where
  /-- What is not listed is not answered. -/
  unlisted : q.oid ∉ supportedOids → o.answer = (q, .error .notSupported)
  listed : q.oid ∈ supportedOids ↔ ∃ asked : Attribute, asked.oid = q.oid
  /-- A buffer that is too short stays as it is. -/
  short : ∀ asked : Attribute, asked.oid = q.oid → ∀ e, e = bytesOfFigures (a.figures asked) →
    q.buffer.length < e.length →
      o.answer = ({ q with bytesNeeded := e.length }, .error (.bufferTooShort e.length))
  /-- Otherwise the front of the buffer holds the answer, and the rest is as before. -/
  whole : ∀ asked : Attribute, asked.oid = q.oid → ∀ e, e = bytesOfFigures (a.figures asked) →
    e.length ≤ q.buffer.length →
      o.answer = ({ q with
        buffer := e ++ q.buffer.drop e.length
        bytesWritten := e.length
        bytesNeeded := e.length }, .ok ())
  /-- Writing the numbers one by one makes the same buffer. -/
  piecewise : ∀ asked : Attribute, asked.oid = q.oid → o.answer.2 = .ok () →
    o.answer.1.buffer = writeItems (a.figures asked).1 q.buffer
      ((a.figures asked).2.map (bytesOfNumber (a.figures asked).1))
  /-- The list that is told is the one of what is answered. -/
  lists : a.Reachable → a.figures .supportedList = (4, supportedOids.map UInt32.toNat)
  state : o.state = a

theorem query_unlisted {a : Adapter} {q : AttributeRequest} (unlisted : q.oid ∉ supportedOids) :
    (a.query q).answer = (q, .error .notSupported) := by
  cases named : Attribute.ofOid? q.oid with
  | none => rw [query, named]
  | some asked =>
    exact absurd (mem_supportedOids.2 ⟨asked, Attribute.ofOid?_eq_some.1 named⟩) unlisted

/-- What is listed is answered by its numbers, if they fit. -/
theorem query_listed {a : Adapter} {q : AttributeRequest} {asked : Attribute}
    (named : asked.oid = q.oid) :
    (a.query q).answer = q.respond (bytesOfFigures (a.figures asked)) := by
  rw [query_answer named.symm, encode_eq]

/-- The numbers may be taken for items, which are written one after the other. -/
theorem query_items {a : Adapter} {q : AttributeRequest} {asked : Attribute}
    (named : asked.oid = q.oid) :
    (a.query q).answer = q.respondItems (a.figures asked).1
      ((a.figures asked).2.map (bytesOfNumber (a.figures asked).1)) := by
  rw [query_listed named, bytesOfFigures, List.flatMap_def, AttributeRequest.respondItems_eq]
  exact List.forall_mem_map.2 fun n _ => length_bytesOfNumber _ n

theorem apply_evolves (a : Adapter) (operation : Operation) : a.Evolves (a.apply operation) := by
  cases operation with
  | pause => exact a.pause_evolves
  | restart flags => exact a.restart_evolves flags
  | send list => exact a.send_evolves list
  | completeSend list => exact a.completeSend_evolves list
  | receive list => exact a.receive_evolves list
  | takeBack list => exact a.takeBack_evolves list
  | takeSend => exact a.takeSend_evolves
  | serve request => exact a.serve_evolves request

/-- An adapter lists what it answers. -/
theorem Reachable.lists {a : Adapter} (reached : a.Reachable) : a.general.oids = supportedOids := by
  induction reached with
  | made answer =>
    rw [(create_made answer).1]
    rfl
  | @tenant d activity h a reached there =>
    refine reached.all (P := fun a => a.general.oids = supportedOids) (fun _ _ _ => rfl)
      (fun errand a lists => ?_) h a there
    rw [(Driver.visit_evolves errand a).identity.general, lists]
  | @worked a reached operation ih => rw [(a.apply_evolves operation).identity.general, ih]
  | framed reached inbound outbound ih => exact ih

/-- **Exactly the listed attributes are answered, as a whole or not at all**, whatever state the
adapter is in and however long the buffer is; and the adapter stays as it is. -/
theorem serve_answers_query (a : Adapter) (oid : UInt32) (buffer : List UInt8)
    (written needed : Nat) :
    a.Answers ⟨oid, .query, buffer, written, needed⟩
      (a.serve ⟨oid, .query, buffer, written, needed⟩) where
  unlisted := query_unlisted
  listed := mem_supportedOids
  short asked named e told short := by
    subst told
    refine (query_listed named).trans ?_
    rw [AttributeRequest.respond, if_pos short]
  whole asked named e told room := by
    subst told
    refine (query_listed named).trans ?_
    exact AttributeRequest.respond_of_room room
  piecewise asked named done := by
    change (a.query _).answer.2 = .ok () at done
    change (a.query _).answer.1.buffer = _
    rw [query_items named, AttributeRequest.respondItems] at done ⊢
    split at done
    · cases done
    · rename_i room
      rw [if_neg room]
  lists reached := by rw [figures, reached.lists]
  state := a.query_state _

/-- Two groups in a buffer with room for two groups and a half. -/
example :
    let a : Adapter := { setUpFor ⟨0, 1⟩ ⟨7⟩ {} with
      multicast := Multicast.empty.overwritten [⟨1⟩, ⟨258⟩] }
    (a.serve ⟨Attribute.multicastList.oid, .query, List.replicate 18 9, 0, 0⟩).answer =
      (⟨Attribute.multicastList.oid, .query,
        [1, 0, 0, 0, 0, 0, 0, 2, 1, 0, 0, 0, 0, 0, 9, 9, 9, 9], 14, 14⟩, .ok ()) := by
  decide +kernel

end Adapter

end PacketRadio
