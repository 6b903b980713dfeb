import PacketRadio.Text.Shape

/-!
# Sets of flags

A family of flags names some of the bits of a 32-bit word. A set of the family is any word: bits
without a name are kept, and shown as a number behind the names.
-/

namespace PacketRadio

/-- Named bits of a word, in the order in which they are shown. -/
structure FlagFamily where
  name : String
  members : List (String × UInt32)

/-- A word read as flags of `family`. -/
structure FlagSet (family : FlagFamily) where
  bits : UInt32
  deriving DecidableEq

namespace FlagFamily

/-- All bits that have a name. -/
def known (family : FlagFamily) : UInt32 :=
  family.members.foldl (fun bits flag => bits ||| flag.2) 0

end FlagFamily

namespace FlagSet

variable {family : FlagFamily}

/-- The set without any flag. -/
def empty : FlagSet family := ⟨0⟩

def isEmpty (s : FlagSet family) : Bool := s.bits == 0

/-- Every flag of `t` is in `s`. -/
def includes (s t : FlagSet family) : Bool := s.bits &&& t.bits == t.bits

/-- No bit without a name is set. -/
def isKnown (s : FlagSet family) : Bool := s.bits &&& family.known == s.bits

/-- The named bits of `s`. -/
def truncated (s : FlagSet family) : FlagSet family := ⟨s.bits &&& family.known⟩

/-- The bits of `s` that have no name. -/
def unnamed (s : FlagSet family) : UInt32 := s.bits &&& ~~~family.known

/-- The names of the flags in `s`, then its unnamed bits as one number. -/
def parts (s : FlagSet family) : List String :=
  (family.members.filter fun flag => s.bits &&& flag.2 == flag.2).map Prod.fst ++
    (if s.unnamed == 0 then [] else [Text.hex s.unnamed.toNat])

/-- `Family(A | B | 0x40)`; the empty set is `Family(0x0)`. -/
def text (s : FlagSet family) : String :=
  Text.applied family.name
    (if s.isEmpty then "0x0" else String.intercalate " | " s.parts)

end FlagSet

end PacketRadio
