import Mathlib.Tactic.IntervalCases
import PacketRadio.Proofs.Adapter.Encoding

/-!
# Callsigns and addresses

An address is made of a callsign and an identifier, of a word or of seven bytes, and is read as any
of these. Each way of packing it goes its own way about it; that they agree is shown byte by byte.

A callsign is a string, and is measured and checked in the bytes of its encoding. Since it has
nothing but capital letters and digits, these bytes are its characters, and neither the blanks
behind a short callsign nor the hyphen before the identifier can be taken for part of it. So the
text of an address tells which callsign and which identifier it was made of.
-/

namespace PacketRadio

/-! ## Strings in bytes -/

/-- The bytes of an array are listed from the first to the last. -/
theorem toList_eq_data (bytes : ByteArray) : bytes.toList = bytes.data.toList := by
  have listed : ∀ i before, ByteArray.toList.loop bytes i before =
      before.reverse ++ bytes.data.toList.drop i := by
    intro i before
    fun_induction ByteArray.toList.loop bytes i before with
    | case1 i before inside ih =>
      have bound : i < bytes.data.toList.length := by simpa using inside
      rw [ih, List.drop_eq_getElem_cons bound]
      simp [ByteArray.get!, inside]
    | case2 i before outside =>
      rw [List.drop_eq_nil_of_le (by simpa using Nat.le_of_not_lt outside), List.append_nil]
  exact listed 0 []

/-- A string is encoded character by character. -/
theorem toList_toUTF8 (s : String) : s.toUTF8.toList = s.toList.flatMap String.utf8EncodeChar := by
  rw [toList_eq_data, String.toUTF8_eq_toByteArray, ← String.utf8Encode_toList, List.utf8Encode,
    List.toList_data_toByteArray]

theorem length_toUTF8 (s : String) : s.toUTF8.toList.length = s.utf8ByteSize := by
  rw [toList_eq_data, Array.length_toList]
  exact String.size_toByteArray

namespace Address

/-! ## Characters of a callsign -/

/-- The character may stand in a callsign. -/
def isCallsignChar (c : Char) : Bool := c.isUpper || c.isDigit

theorem isCallsignChar_iff {c : Char} :
    isCallsignChar c = true ↔ (65 ≤ c.toNat ∧ c.toNat ≤ 90) ∨ (48 ≤ c.toNat ∧ c.toNat ≤ 57) := by
  change (decide (65 ≤ c.val ∧ c.val ≤ 90) ||
    (decide (48 ≤ c.val) && decide (c.val ≤ 57))) = true ↔ _
  simp only [Bool.or_eq_true, Bool.and_eq_true, decide_eq_true_eq, UInt32.le_iff_toNat_le]
  rfl

theorem isCallsignByte_iff {b : UInt8} :
    isCallsignByte b = true ↔ (65 ≤ b.toNat ∧ b.toNat ≤ 90) ∨ (48 ≤ b.toNat ∧ b.toNat ≤ 57) := by
  simp only [isCallsignByte, Bool.or_eq_true, Bool.and_eq_true, decide_eq_true_eq,
    UInt8.le_iff_toNat_le]
  rfl

/-- A character of a callsign is encoded as itself. -/
theorem utf8EncodeChar_of_callsign {c : Char} (fits : isCallsignChar c = true) :
    String.utf8EncodeChar c = [UInt8.ofNat c.toNat] := by
  have small : c.val.toNat ≤ 127 := by
    have := isCallsignChar_iff.1 fits
    change c.toNat ≤ 127
    omega
  rw [String.utf8EncodeChar, if_pos small]
  rfl

/-- The bytes of a character belong in a callsign exactly if the character does. -/
theorem utf8EncodeChar_all (c : Char) :
    (String.utf8EncodeChar c).all isCallsignByte = isCallsignChar c := by
  by_cases small : c.val.toNat ≤ 127
  · have same : (UInt8.ofNat c.val.toNat).toNat = c.toNat := by
      rw [UInt8.toNat_ofNat', Nat.mod_eq_of_lt (by omega)]
      rfl
    rw [String.utf8EncodeChar, if_pos small, List.all_cons, List.all_nil, Bool.and_true,
      Bool.eq_iff_iff, isCallsignByte_iff, isCallsignChar_iff, same]
  · -- The first of several bytes is above all of ASCII.
    have other : isCallsignChar c = false := by
      rw [← Bool.not_eq_true, isCallsignChar_iff]
      change ¬ c.toNat ≤ 127 at small
      omega
    have high : ∀ n, 192 ≤ n → n < 256 → isCallsignByte (UInt8.ofNat n) = false := by
      intro n above below
      rw [← Bool.not_eq_true, isCallsignByte_iff, UInt8.toNat_ofNat', Nat.mod_eq_of_lt below]
      omega
    rw [other, String.utf8EncodeChar, if_neg small]
    split
    · rw [List.all_cons, high _ (by omega) (by omega), Bool.false_and]
    · split
      · rw [List.all_cons, high _ (by omega) (by omega), Bool.false_and]
      · rw [List.all_cons, high _ (by omega) (by omega), Bool.false_and]

/-- A string belongs in a callsign with all its characters or with all its bytes. -/
theorem all_isCallsignByte (s : String) :
    s.toUTF8.toList.all isCallsignByte = s.toList.all isCallsignChar := by
  rw [toList_toUTF8, List.all_flatMap]
  exact congrArg s.toList.all (funext utf8EncodeChar_all)

/-- The bytes of a callsign are its characters. -/
theorem map_ofNat_toUTF8 {s : String} (fits : s.toList.all isCallsignChar = true) :
    s.toUTF8.toList.map (fun b => Char.ofNat b.toNat) = s.toList := by
  rw [toList_toUTF8]
  generalize s.toList = cs at fits ⊢
  induction cs with
  | nil => rfl
  | cons c cs ih =>
    obtain ⟨first, rest⟩ := Bool.and_eq_true_iff.1 (List.all_cons ▸ fits)
    have same : (UInt8.ofNat c.toNat).toNat = c.toNat := by
      have := isCallsignChar_iff.1 first
      rw [UInt8.toNat_ofNat', Nat.mod_eq_of_lt (by omega)]
    rw [List.flatMap_cons, List.map_append, ih rest, utf8EncodeChar_of_callsign first]
    rw [List.map_singleton, same, Char.ofNat_toNat]
    rfl

/-! ## Packing -/

/-- Bits as the byte in the place `j`. -/
def byteAt (j : Nat) (bits : BitVec 56) : BitVec 8 := (bits >>> (8 * j)).setWidth 8

theorem byteAt_or (j : Nat) (x y : BitVec 56) : byteAt j (x ||| y) = byteAt j x ||| byteAt j y := by
  rw [byteAt, BitVec.ushiftRight_or_distrib, BitVec.setWidth_or]
  rfl

/-- A byte that is put into its place is read there, and nowhere else. -/
theorem byteAt_place (b : UInt8) {i : Nat} (room : i ≤ 6) (j : Nat) :
    byteAt j (b.toBitVec.setWidth 56 <<< (8 * i)) = if j = i then b.toBitVec else 0#8 := by
  ext k bound
  simp only [byteAt, BitVec.getElem_setWidth, BitVec.getLsbD_ushiftRight,
    BitVec.getLsbD_shiftLeft, BitVec.getLsbD_setWidth]
  split
  · rename_i here
    subst here
    have inside : 8 * j + k < 56 := by omega
    rw [Nat.add_sub_cancel_left, decide_eq_true inside, decide_eq_false (by omega),
      decide_eq_true (by omega), BitVec.getLsbD_eq_getElem bound]
    rfl
  · rename_i elsewhere
    rw [BitVec.getElem_zero]
    by_cases below : 8 * j + k < 8 * i
    · rw [decide_eq_true below, Bool.not_true, Bool.and_false, Bool.false_and]
    · rw [BitVec.getLsbD_of_ge _ _ (by omega), Bool.and_false, Bool.and_false]

/-- What the place `j` gets of the byte that is put into the place `i`. -/
def shareOf (callsign : Vector UInt8 6) (j : Nat) (i : Fin 6) : BitVec 8 :=
  if j = i then (callsign.get i).toBitVec else 0#8

/-- Of the bytes that are put into their places one after the other, each place gets its share. -/
theorem byteAt_foldl (callsign : Vector UInt8 6) (j : Nat) (places : List (Fin 6))
    (bits : BitVec 56) :
    byteAt j (places.foldl (fun bits (i : Fin 6) =>
        bits ||| (callsign.get i).toBitVec.setWidth 56 <<< (8 * (i : Nat))) bits) =
      places.foldl (fun b i => b ||| shareOf callsign j i) (byteAt j bits) := by
  induction places generalizing bits with
  | nil => rfl
  | cons i places ih =>
    rw [List.foldl_cons, List.foldl_cons, ih, byteAt_or, byteAt_place _ (by omega), shareOf]

/-- **The bytes of an address that is put together are those that it was put together from.** -/
theorem bytes_ofParts (callsign : Vector UInt8 6) (ssid : UInt8) :
    (ofParts callsign ssid).bytes = callsign.push ssid := by
  have read : ∀ j, (ofParts callsign ssid).byte j =
      ⟨(List.finRange 6).foldl (fun b i => b ||| shareOf callsign j i) (byteAt j 0) |||
        if j = 6 then ssid.toBitVec else 0#8⟩ := by
    intro j
    rw [← byteAt_foldl, ← byteAt_place _ (by omega), ← byteAt_or]
    rfl
  have places : List.finRange 6 = [⟨0, by decide⟩, ⟨1, by decide⟩, ⟨2, by decide⟩, ⟨3, by decide⟩,
    ⟨4, by decide⟩, ⟨5, by decide⟩] := rfl
  refine Vector.ext fun j bound => ?_
  rw [bytes, Vector.getElem_ofFn, read, places, Vector.getElem_push]
  -- Numerals for the places would hide which of them is `j`.
  interval_cases j <;> simp [byteAt, shareOf, -Fin.reduceFinMk] <;> rfl

/-- Every address has its callsign first and its identifier last. -/
theorem bytes_eq_push (a : Address) : a.bytes = a.callsign.push a.ssid := by
  refine Vector.ext fun j bound => ?_
  rw [bytes, Vector.getElem_ofFn, Vector.getElem_push]
  split
  · rw [callsign, Vector.getElem_ofFn]
  · rename_i behind
    exact congrArg a.byte (show j = 6 by omega)

theorem parts_of_ofParts (callsign : Vector UInt8 6) (ssid : UInt8) :
    (ofParts callsign ssid).ssid = ssid ∧ (ofParts callsign ssid).callsign = callsign :=
  Vector.push_eq_push.1 ((bytes_eq_push _).symm.trans (bytes_ofParts callsign ssid))

/-! ## Words -/

theorem toNat_raw (a : Address) : a.raw.toNat = a.bits.toNat :=
  (BitVec.toNat_setWidth 64 a.bits).trans (Nat.mod_eq_of_lt (by have := a.bits.isLt; omega))

theorem ofRaw_raw (a : Address) : ofRaw a.raw = a := by
  have same : (a.bits.setWidth 64).setWidth 56 = a.bits :=
    (BitVec.setWidth_setWidth_of_le a.bits (by decide)).trans (BitVec.setWidth_eq a.bits)
  cases a
  exact congrArg mk same

theorem toNat_ofRaw (w : UInt64) : (ofRaw w).bits.toNat = w.toNat % 2 ^ 56 :=
  BitVec.toNat_setWidth 56 w.toBitVec

theorem ofRaw_eq_ofRaw {v w : UInt64} :
    ofRaw v = ofRaw w ↔ v.toNat % 2 ^ 56 = w.toNat % 2 ^ 56 := by
  rw [← toNat_ofRaw, ← toNat_ofRaw, BitVec.toNat_inj]
  constructor
  · exact congrArg bits
  · exact congrArg mk

/-! ## Short callsigns -/

theorem toList_padded {bytes : List UInt8} (short : bytes.length ≤ 6) :
    (padded bytes).toList = bytes ++ List.replicate (6 - bytes.length) blank := by
  rw [padded, Vector.toList_ofFn]
  refine List.ext_getElem (by simp; omega) fun j inside _ => ?_
  rw [List.getElem_ofFn, List.getElem_append]
  split
  · rename_i own
    simp only [List.getD_eq_getElem?_getD, List.getElem?_eq_getElem own, Option.getD_some]
  · rename_i behind
    simp only [List.getD_eq_getElem?_getD, List.getElem?_eq_none (Nat.le_of_not_lt behind),
      Option.getD_none, List.getElem_replicate]

/-! ## Acceptance -/

/-- A station may be called by the callsign and the identifier. -/
structure WellFormed (callsign : String) (ssid : UInt8) : Prop where
  nonempty : 1 ≤ callsign.utf8ByteSize
  short : callsign.utf8ByteSize ≤ 6
  characters : callsign.toList.all isCallsignChar = true
  ssid : ssid ≤ 15

theorem ofCallsign?_eq (callsign : String) (ssid : UInt8) :
    ofCallsign? callsign ssid =
      if callsign.utf8ByteSize = 0 ∨ 6 < callsign.utf8ByteSize then .error .callsignLength
      else if !callsign.toList.all isCallsignChar then .error .callsignCharacter
      else if 15 < ssid then .error .ssid
      else .ok (ofParts (padded callsign.toUTF8.toList) ssid) := by
  rw [ofCallsign?, ofCallsignBytes?, length_toUTF8, all_isCallsignByte]
  rfl

theorem ofCallsign?_eq_ok {callsign : String} {ssid : UInt8} {a : Address} :
    ofCallsign? callsign ssid = .ok a ↔
      WellFormed callsign ssid ∧ ofParts (padded callsign.toUTF8.toList) ssid = a := by
  rw [ofCallsign?_eq]
  constructor
  · intro accepted
    split at accepted
    · cases accepted
    · split at accepted
      · cases accepted
      · split at accepted
        · cases accepted
        · rename_i size characters identifier
          exact ⟨⟨by omega, by omega, by simpa using characters, UInt8.not_lt.1 identifier⟩,
            Except.ok.inj accepted⟩
  · rintro ⟨⟨nonempty, short, characters, identifier⟩, rfl⟩
    rw [if_neg (by omega), characters, Bool.not_true, if_neg Bool.false_ne_true,
      if_neg (UInt8.not_lt.2 identifier)]

theorem ofCallsign?_eq_callsignLength {callsign : String} {ssid : UInt8} :
    ofCallsign? callsign ssid = .error .callsignLength ↔
      callsign.utf8ByteSize = 0 ∨ 6 < callsign.utf8ByteSize := by
  rw [ofCallsign?_eq]
  grind

theorem ofCallsign?_eq_callsignCharacter {callsign : String} {ssid : UInt8} :
    ofCallsign? callsign ssid = .error .callsignCharacter ↔
      (1 ≤ callsign.utf8ByteSize ∧ callsign.utf8ByteSize ≤ 6) ∧
        callsign.toList.all isCallsignChar = false := by
  rw [ofCallsign?_eq]
  grind

theorem ofCallsign?_eq_ssid {callsign : String} {ssid : UInt8} :
    ofCallsign? callsign ssid = .error .ssid ↔
      (1 ≤ callsign.utf8ByteSize ∧ callsign.utf8ByteSize ≤ 6) ∧
        callsign.toList.all isCallsignChar = true ∧ 15 < ssid := by
  rw [ofCallsign?_eq]
  grind

/-! ## Texts -/

/-- What may stand in a callsign is shown as it is. -/
theorem visible_of_callsign {b : UInt8} (fits : isCallsignByte b = true) :
    Text.visible '?' b = Char.ofNat b.toNat := by
  have graphic : Text.isGraphic b = true := by
    have := isCallsignByte_iff.1 fits
    simp only [Text.isGraphic, Bool.and_eq_true, decide_eq_true_eq, UInt8.le_iff_toNat_le]
    change 33 ≤ b.toNat ∧ b.toNat ≤ 126
    omega
  rw [Text.visible, if_pos graphic]

/-- The callsign ends where the blanks begin. -/
theorem takeWhile_filled {bytes : List UInt8} (letters : ∀ b ∈ bytes, isCallsignByte b = true)
    (n : Nat) : (bytes ++ List.replicate n blank).takeWhile (· ≠ blank) = bytes := by
  rw [List.takeWhile_append_of_pos, List.takeWhile_replicate]
  · exact List.append_nil _
  · intro b member
    refine decide_eq_true (ne_of_apply_ne isCallsignByte ?_)
    rw [letters b member]
    decide

theorem callsign_of_isUnused {a : Address} (unused : a.isUnused = true) :
    a.callsign.toList = List.replicate 6 0 := by
  cases a
  cases beq_iff_eq.1 unused
  rfl

/-- What an address shows of the callsign and the identifier that it was made of. -/
structure Shows (a : Address) (c : String) (s : UInt8) : Prop where
  used : a.isUnused = false
  callsign : a.callsign.toList = c.toUTF8.toList ++ List.replicate (6 - c.utf8ByteSize) blank
  ssid : a.ssid = s
  text : a.text = c ++ "-" ++ toString s.toNat

theorem WellFormed.shows {c : String} {s : UInt8} (fits : WellFormed c s) :
    Shows (ofParts (padded c.toUTF8.toList) s) c s := by
  obtain ⟨identifier, called⟩ := parts_of_ofParts (padded c.toUTF8.toList) s
  generalize ofParts (padded c.toUTF8.toList) s = a at identifier called ⊢
  have letters : ∀ b ∈ c.toUTF8.toList, isCallsignByte b = true :=
    List.all_eq_true.1 ((all_isCallsignByte c).trans fits.characters)
  have filled : a.callsign.toList =
      c.toUTF8.toList ++ List.replicate (6 - c.utf8ByteSize) blank := by
    rw [called, toList_padded (by rw [length_toUTF8]; exact fits.short), length_toUTF8]
  have used : a.isUnused = false := by
    rw [← Bool.not_eq_true]
    intro unused
    have zeros := callsign_of_isUnused unused
    have some : 0 < c.toUTF8.toList.length := by rw [length_toUTF8]; exact fits.nonempty
    obtain ⟨b, member⟩ := List.exists_mem_of_length_pos some
    have null : b = 0 :=
      List.eq_of_mem_replicate (zeros ▸ filled ▸ List.mem_append_left _ member)
    exact absurd (letters b member) (by rw [null]; decide)
  refine ⟨used, filled, identifier, ?_⟩
  have shown : a.callsign.toList.takeWhile (· ≠ blank) = c.toUTF8.toList := by
    rw [filled, takeWhile_filled letters]
  have characters : c.toUTF8.toList.map (Text.visible '?') = c.toList :=
    (List.map_congr_left fun b member => visible_of_callsign (letters b member)).trans
      (map_ofNat_toUTF8 fits.characters)
  simp only [text, used, shown, characters, identifier, String.ofList_toList, Bool.false_eq_true,
    if_false]

/-- A numeral tells its number. -/
theorem toString_nat_inj {m n : Nat} (same : toString m = toString n) : m = n := by
  rw [Nat.toString_eq_repr, Nat.toString_eq_repr] at same
  rw [← Nat.ofDigitChars_ten_toDigits (n := m), ← Nat.ofDigitChars_ten_toDigits (n := n),
    ← Nat.toList_repr, ← Nat.toList_repr, same]

/-- The callsign ends at the first hyphen of the text. -/
theorem takeWhile_text {c : String} (fits : c.toList.all isCallsignChar = true) (rest : String) :
    (c ++ "-" ++ rest).toList.takeWhile (· ≠ '-') = c.toList := by
  have letters : ∀ x ∈ c.toList, decide (x ≠ '-') = true := by
    intro x member
    refine decide_eq_true (ne_of_apply_ne isCallsignChar ?_)
    rw [List.all_eq_true.1 fits x member]
    decide
  rw [String.toList_append, String.toList_append, List.append_assoc,
    List.takeWhile_append_of_pos letters]
  exact List.append_nil _

/-- The text of an address tells what the address was made of. -/
theorem text_inj {c d : String} {s t : UInt8} (cfits : c.toList.all isCallsignChar = true)
    (dfits : d.toList.all isCallsignChar = true)
    (same : c ++ "-" ++ toString s.toNat = d ++ "-" ++ toString t.toNat) : c = d ∧ s = t := by
  have called : c = d := by
    rw [← String.toList_inj, ← takeWhile_text cfits (toString s.toNat), same, takeWhile_text dfits]
  subst called
  refine ⟨rfl, UInt8.toNat_inj.1 (toString_nat_inj ?_)⟩
  rw [← String.toList_inj] at same ⊢
  rw [String.toList_append, String.toList_append (s := c ++ "-")] at same
  exact List.append_cancel_left same

/-! ## All together -/

/-- What is answered to a callsign and an identifier, and what comes of them. -/
structure Judged (c : String) (s : UInt8) (answer : Except AddressError Address) : Prop where
  accepted : (∃ a, answer = .ok a) ↔ WellFormed c s
  callsignLength : answer = .error .callsignLength ↔ c.utf8ByteSize = 0 ∨ 6 < c.utf8ByteSize
  callsignCharacter : answer = .error .callsignCharacter ↔
    (1 ≤ c.utf8ByteSize ∧ c.utf8ByteSize ≤ 6) ∧ c.toList.all isCallsignChar = false
  ssid : answer = .error .ssid ↔
    (1 ≤ c.utf8ByteSize ∧ c.utf8ByteSize ≤ 6) ∧ c.toList.all isCallsignChar = true ∧ 15 < s
  shows : ∀ a, answer = .ok a → Shows a c s

theorem judged (c : String) (s : UInt8) : Judged c s (ofCallsign? c s) where
  accepted := by
    constructor
    · rintro ⟨a, answer⟩
      exact (ofCallsign?_eq_ok.1 answer).1
    · exact fun fits => ⟨_, ofCallsign?_eq_ok.2 ⟨fits, rfl⟩⟩
  callsignLength := ofCallsign?_eq_callsignLength
  callsignCharacter := ofCallsign?_eq_callsignCharacter
  ssid := ofCallsign?_eq_ssid
  shows a answer := by
    obtain ⟨fits, rfl⟩ := ofCallsign?_eq_ok.1 answer
    exact fits.shows

/-- The word and the bytes of an address stand for one another and for the address. -/
structure Packs (a : Address) : Prop where
  raw_lt : a.raw.toNat < 2 ^ 56
  raw_eq : a.raw.toNat = packed a.bytes.toList
  ofRaw : ofRaw a.raw = a
  ofBytes : ofBytes a.bytes = a
  bytes : a.bytes = a.callsign.push a.ssid

theorem packs (a : Address) : Packs a where
  raw_lt := (toNat_raw a).trans_lt a.bits.isLt
  raw_eq := (toNat_raw a).trans a.packed_bytes.symm
  ofRaw := ofRaw_raw a
  ofBytes := ofBytes_bytes a
  bytes := bytes_eq_push a

/-- Callsigns and identifiers that are accepted are told by the text. -/
theorem text_inj_of_accepted {c d : String} {s t : UInt8} {a b : Address}
    (first : ofCallsign? c s = .ok a) (second : ofCallsign? d t = .ok b) (same : a.text = b.text) :
    c = d ∧ s = t := by
  have left := (ofCallsign?_eq_ok.1 first).1
  have right := (ofCallsign?_eq_ok.1 second).1
  refine text_inj left.characters right.characters ?_
  rw [← ((judged c s).shows a first).text, ← ((judged d t).shows b second).text, same]

/-- **Addresses are faithful to what they are made of.** A callsign and an identifier are accepted
or refused for what they are, and an accepted pair can be told from its address as from the text of
it. Of words and bytes an address keeps just the 56 bits, in whichever way it is packed. -/
theorem codec_faithful :
    (∀ c s, Judged c s (ofCallsign? c s)) ∧
    (∀ c d s t a b, ofCallsign? c s = .ok a → ofCallsign? d t = .ok b → (c, s) ≠ (d, t) →
      a ≠ b ∧ a.text ≠ b.text) ∧
    (∀ a, Packs a) ∧ (∀ bytes, (ofBytes bytes).bytes = bytes) ∧
    (∀ word, (ofRaw word).raw.toNat = word.toNat % 2 ^ 56) ∧
    (∀ v w : UInt64, ofRaw v = ofRaw w ↔ v.toNat % 2 ^ 56 = w.toNat % 2 ^ 56) := by
  refine ⟨judged, ?_, packs, bytes_ofBytes, ?_, fun v w => ofRaw_eq_ofRaw⟩
  · intro c d s t a b first second differ
    have texts : a.text ≠ b.text := fun same =>
      have ⟨called, identified⟩ := text_inj_of_accepted first second same
      differ (called ▸ identified ▸ rfl)
    exact ⟨fun same => texts (congrArg text same), texts⟩
  · exact fun word => (toNat_raw _).trans (toNat_ofRaw word)

/-- Two stations whose texts, `W1AW-11` and `W1AW1-1`, differ by the place of the hyphen alone. -/
theorem hyphens_told_apart :
    ∃ a b, ofCallsign? "W1AW" 11 = .ok a ∧ ofCallsign? "W1AW1" 1 = .ok b ∧
      a ≠ b ∧ a.text ≠ b.text := by
  have first : ofCallsign? "W1AW" 11 = .ok ⟨0x0b202057413157⟩ := by decide +kernel
  have second : ofCallsign? "W1AW1" 1 = .ok ⟨0x01203157413157⟩ := by decide +kernel
  exact ⟨_, _, first, second, codec_faithful.2.1 _ _ _ _ _ _ first second (by decide)⟩

end Address

end PacketRadio
