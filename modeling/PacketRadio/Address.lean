import PacketRadio.Text.Shape

/-!
# Station addresses

A station is called by a callsign of at most six characters and a secondary station identifier
(SSID). Both are packed into 56 bits: six callsign bytes, filled up with blanks, the first one
lowest, and the identifier in the highest byte. The word zero marks a table entry without an
address.
-/

namespace PacketRadio

/-- An address of a station. -/
structure Address where
  bits : BitVec 56
  deriving DecidableEq

/-- Why a callsign and an identifier make no address. -/
inductive AddressError
  | callsignLength
  | callsignCharacter
  | ssid
  deriving DecidableEq

namespace AddressError

/-- The word for the error. -/
def name : AddressError → String
  | callsignLength => "CallsignLength"
  | callsignCharacter => "CallsignCharacter"
  | ssid => "Ssid"

/-- The error in a sentence. -/
def message : AddressError → String
  | callsignLength => "callsign must be 1 to 6 characters"
  | callsignCharacter => "callsign must be uppercase letters and digits"
  | ssid => "SSID must be 0 to 15"

end AddressError

namespace Address

/-- How many bytes an address has. -/
def length : Nat := 7

/-- How many bits an address has. -/
def width : Nat := 56

/-- How many of its bytes hold the callsign. -/
def callsignLength : Nat := 6

/-- The highest identifier of a well-formed address. -/
def maxSsid : UInt8 := 15

/-- The filler behind a short callsign. -/
def blank : UInt8 := 0x20

/-- The mark of an entry without an address. -/
def unused : Address := ⟨0⟩

def isUnused (a : Address) : Bool := a.bits == 0

theorem isUnused_iff {a : Address} : a.isUnused = true ↔ a = unused := by
  cases a
  simp [isUnused, unused]

/-- The low 56 bits of a word. -/
def ofRaw (word : UInt64) : Address := ⟨word.toBitVec.setWidth 56⟩

/-- The address as a word. -/
def raw (a : Address) : UInt64 := ⟨a.bits.setWidth 64⟩

/-- Byte `i` of the address, the lowest one first. -/
def byte (a : Address) (i : Nat) : UInt8 := ⟨(a.bits >>> (8 * i)).setWidth 8⟩

/-- The seven bytes, the lowest one first. -/
def bytes (a : Address) : Vector UInt8 7 :=
  Vector.ofFn fun i => a.byte i

/-- Bytes as a number, the lowest one first. -/
def packed : List UInt8 → Nat
  | [] => 0
  | b :: rest => b.toNat + 256 * packed rest

/-- The address of seven bytes. -/
def ofBytes (bytes : Vector UInt8 7) : Address :=
  ⟨BitVec.ofNat 56 (packed bytes.toList)⟩

/-- The six bytes of the callsign. -/
def callsign (a : Address) : Vector UInt8 6 :=
  Vector.ofFn fun i => a.byte i

/-- The identifier. -/
def ssid (a : Address) : UInt8 := a.byte 6

/-- Puts the bytes of a callsign and an identifier into their places, one after the other. -/
def ofParts (callsign : Vector UInt8 6) (ssid : UInt8) : Address :=
  let place (b : UInt8) (i : Nat) : BitVec 56 := b.toBitVec.setWidth 56 <<< (8 * i)
  let called :=
    (List.finRange 6).foldl (fun bits (i : Fin 6) => bits ||| place callsign[i] i) 0
  ⟨called ||| place ssid 6⟩

/-- The characters of a callsign. -/
def isCallsignByte (b : UInt8) : Bool :=
  (0x41 ≤ b && b ≤ 0x5a) || (0x30 ≤ b && b ≤ 0x39)

/-- A callsign filled up to six bytes with blanks. -/
def padded (callsign : List UInt8) : Vector UInt8 6 :=
  Vector.ofFn fun i => callsign.getD i blank

/-- The address of a callsign, given by its bytes, and an identifier. -/
def ofCallsignBytes? (callsign : List UInt8) (ssid : UInt8) : Except AddressError Address :=
  if callsign.length = 0 ∨ callsignLength < callsign.length then .error .callsignLength
  else if !callsign.all isCallsignByte then .error .callsignCharacter
  else if maxSsid < ssid then .error .ssid
  else .ok (ofParts (padded callsign) ssid)

/-- The address of a callsign and an identifier. A callsign is measured and checked byte by byte. -/
def ofCallsign? (callsign : String) (ssid : UInt8) : Except AddressError Address :=
  ofCallsignBytes? callsign.toUTF8.toList ssid

/-- The callsign up to its first blank, a hyphen and the identifier. Bytes that cannot be shown
appear as question marks. -/
def text (a : Address) : String :=
  if a.isUnused then "<unused>"
  else
    let shown := (a.callsign.toList.takeWhile (· ≠ blank)).map (Text.visible '?')
    String.ofList shown ++ "-" ++ toString a.ssid.toNat

/-- The address of a station that was not given one: `KG7UDH-0`. -/
def default : Address :=
  ofParts #v[0x4b, 0x47, 0x37, 0x55, 0x44, 0x48] 0

end Address

end PacketRadio
