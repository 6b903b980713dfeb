import PacketRadio.Event
import PacketRadio.Pool.Box

/-!
# Samples

Simple values that are kept in boxes to watch what becomes of them. A sample is a number; the kind of
a sample decides where it can lie, and whether its destruction can be heard.
-/

namespace PacketRadio.Scenario

open Pool

/-- Something that can be observed while a scenario is played: what the driver and its arenas do,
and that a sample is destroyed. -/
inductive Observation
  | event (event : Event)
  | dropped (text : String)
  deriving DecidableEq

namespace Observation

/-- What an arena reports. -/
def pool (notice : Pool.Notice) : Observation := .event (.pool notice)

/-- The call to the host that is observed. -/
def call? : Observation → Option HostCall
  | event e => e.call?
  | dropped _ => none

/-- The sample that is destroyed. -/
def dropped? : Observation → Option String
  | event _ => none
  | dropped text => some text

/-- The severity and wording of a report. -/
def report? : Observation → Option (Severity × String)
  | event e => e.report?
  | dropped _ => none

end Observation

/-- A kind of samples: what an arena knows of them, and whether their destruction can be heard. -/
structure SampleKind where
  name : String
  tag : Tag
  layout : Layout
  audible : Bool
  deriving DecidableEq

namespace SampleKind

def probe : SampleKind := ⟨"probe", Tag.ofChars 'a' 'x' 'P' 'R', ⟨16, 4⟩, true⟩

def big : SampleKind := ⟨"big", Tag.ofChars 'a' 'x' 'B' 'G', ⟨2048, 4⟩, true⟩

/-- A kind that does not choose a tag of its own. -/
def generic : SampleKind := ⟨"generic", Tag.generic, ⟨8, 4⟩, true⟩

/-- A kind with a tag that cannot be shown as it is, and with a strict alignment. -/
def wide : SampleKind := ⟨"wide", Tag.ofBytes 0x61 0x78 0x00 0xff, ⟨64, 64⟩, true⟩

/-- A kind without a destructor. -/
def plain : SampleKind := ⟨"plain", Tag.ofChars 'a' 'x' 'P' 'L', ⟨4, 4⟩, false⟩

/-- A kind without size. -/
def zst : SampleKind := ⟨"zst", Tag.ofChars 'a' 'x' 'Z' 'Z', ⟨0, 1⟩, true⟩

/-- The kinds that a scenario can name. -/
def all : List SampleKind := [probe, big, generic, wide, plain, zst]

end SampleKind

/-- A sample of a kind. -/
structure Sample (kind : SampleKind) where
  value : UInt32
  deriving DecidableEq

instance (kind : SampleKind) : Pooled (Sample kind) := ⟨kind.tag, kind.layout⟩

namespace Sample

variable {kind : SampleKind}

/-- The sample with a number. One without size is always zero. -/
def ofValue (kind : SampleKind) (value : UInt32) : Sample kind :=
  ⟨if kind.layout.size = 0 then 0 else value⟩

/-- The sample for diagnosis. -/
def debug (s : Sample kind) : String :=
  Text.applied kind.name (toString s.value.toNat)

/-- What the destructor of a sample does. -/
def destroy (s : Sample kind) : List Observation :=
  if kind.audible then [.dropped s.debug] else []

end Sample

/-- A box for samples of one kind. -/
structure SampleBox where
  kind : SampleKind
  box : Box (Sample kind)
  deriving DecidableEq

namespace SampleBox

/-- A box that owns nothing. -/
def empty (kind : SampleKind) : SampleBox := ⟨kind, none⟩

/-- The block that the box owns. -/
def block? (b : SampleBox) : Option Block := b.box.map Owned.block

/-- The number in the box. -/
def value? (b : SampleBox) : Option UInt32 := b.box.map fun owned => owned.value.value

/-- The box for diagnosis. -/
def debug (b : SampleBox) : String :=
  Text.applied "PoolBox"
    (match b.box with
      | some owned => owned.value.debug
      | none => "<empty>")

/-- The box after `value` was written into `block`: it changes if that is its own. -/
def written (block : Block) (value : UInt32) (b : SampleBox) : SampleBox :=
  ⟨b.kind, b.box.map fun owned =>
    if owned.block = block then ⟨block, Sample.ofValue b.kind value⟩ else owned⟩

/-- Destroys what the box holds and gives its block back. -/
def discard (b : SampleBox) (arena : Arena) : Outcome Observation Arena (Except Fault Unit) :=
  arena.reset Observation.pool Sample.destroy b.box

end SampleBox

end PacketRadio.Scenario
