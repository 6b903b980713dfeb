import PacketRadio.Text.Shape

/-!
# Allocation tags

Every block is recorded under a tag of four characters, and can be released under that tag only.
-/

namespace PacketRadio.Pool

/-- Four characters packed into a word, the first one in the low byte. -/
structure Tag where
  raw : UInt32
  deriving DecidableEq

namespace Tag

/-- The tag of four bytes. -/
def ofBytes (a b c d : UInt8) : Tag :=
  ⟨a.toUInt32 ||| b.toUInt32 <<< 8 ||| c.toUInt32 <<< 16 ||| d.toUInt32 <<< 24⟩

/-- The tag of four characters of ASCII. -/
def ofChars (a b c d : Char) : Tag :=
  ofBytes a.toUInt8 b.toUInt8 c.toUInt8 d.toUInt8

/-- The four bytes in the order in which they lie in memory. -/
def bytes (t : Tag) : List UInt8 :=
  [t.raw.toUInt8, (t.raw >>> 8).toUInt8, (t.raw >>> 16).toUInt8, (t.raw >>> 24).toUInt8]

/-- The characters of the tag, each invisible one as a dot. -/
def text (t : Tag) : String :=
  String.ofList (t.bytes.map (Text.visible '.'))

/-- The tag for diagnosis: its packed value. -/
def debug (t : Tag) : String :=
  Text.applied "PoolTag" (toString t.raw.toNat)

/-- The tag of values whose type does not choose its own. -/
def generic : Tag := ofChars 'a' 'x' 'U' 'P'

end Tag

end PacketRadio.Pool
