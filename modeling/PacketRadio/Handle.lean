import PacketRadio.Text.Shape

/-!
# Names exchanged with the host

Host and driver name things to each other by numbers: an adapter by its slot and the slot's
generation, everything else by a number that only its maker understands.
-/

namespace PacketRadio

/-- The host's index of the interface that an adapter serves. -/
structure Interface where
  index : UInt32
  deriving DecidableEq

namespace Interface

def text (i : Interface) : String := s!"if{i.index.toNat}"

def debug (i : Interface) : String := Text.applied "InterfaceId" (toString i.index.toNat)

end Interface

/-- The name of an adapter: the slot that it is in, and how often that slot had been filled by then.
-/
structure Handle where
  slot : UInt8
  generation : UInt32
  deriving DecidableEq

namespace Handle

def text (h : Handle) : String := s!"slot {h.slot.toNat}#{h.generation.toNat}"

def debug (h : Handle) : String :=
  Text.record "AdapterHandle"
    [("slot", toString h.slot.toNat), ("generation", toString h.generation.toNat)]

end Handle

/-- A list of buffers with traffic. It is held and given back, and never looked into. -/
structure BufferList where
  id : UInt64
  deriving DecidableEq

namespace BufferList

def debug (l : BufferList) : String := Text.applied "NetBufferListId" (toString l.id.toNat)

end BufferList

/-- What the host gives a driver that it has registered. -/
structure DriverHandle where
  id : UInt64
  deriving DecidableEq

namespace DriverHandle

def debug (h : DriverHandle) : String := Text.applied "DriverHandle" (toString h.id.toNat)

end DriverHandle

/-- The host's name for the image of a loaded driver. -/
structure DriverObject where
  id : UInt64
  deriving DecidableEq

namespace DriverObject

def debug (o : DriverObject) : String := Text.applied "DriverObject" (toString o.id.toNat)

end DriverObject

end PacketRadio
