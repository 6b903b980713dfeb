import PacketRadio.Adapter.AttributeId
import PacketRadio.Adapter.Config
import PacketRadio.FlagSet

/-!
# Descriptors

What the host is told about an adapter when it is brought up. Both descriptors are made from the
adapter's settings once; the host keeps reading them while the adapter lives.
-/

namespace PacketRadio

/-- Which packets the host wants to see. -/
def packetFilters : FlagFamily where
  name := "PacketFilter"
  members :=
    [("DIRECTED", 0x01), ("MULTICAST", 0x02), ("ALL_MULTICAST", 0x04), ("BROADCAST", 0x08),
      ("PROMISCUOUS", 0x20)]

abbrev PacketFilter := FlagSet packetFilters

/-- The packets an adapter can deliver: everything but those for other stations. -/
def PacketFilter.supported : PacketFilter := ⟨0x0f⟩

/-- What the host has to know about the link layer. -/
def macOptionFlags : FlagFamily where
  name := "MacOptions"
  members :=
    [("COPY_LOOKAHEAD_DATA", 0x01), ("RECEIVE_SERIALIZED", 0x02), ("TRANSFERS_NOT_PEND", 0x04),
      ("NO_LOOPBACK", 0x08)]

abbrev MacOptions := FlagSet macOptionFlags

/-- Properties of an adapter as a device. -/
def attributeFlags : FlagFamily where
  name := "AttributeFlags"
  members :=
    [("HARDWARE_DEVICE", 0x01), ("SURPRISE_REMOVE_OK", 0x04), ("NO_HALT_ON_SUSPEND", 0x20)]

abbrev AttributeFlags := FlagSet attributeFlags

/-- The kind of network that an adapter appears to be on. -/
inductive Medium
  | ieee8023
  deriving DecidableEq

namespace Medium

def name : Medium → String
  | ieee8023 => "Ieee8023"

end Medium

/-- The kind of wire under it. -/
inductive PhysicalMedium
  | unspecified
  deriving DecidableEq

namespace PhysicalMedium

def name : PhysicalMedium → String
  | unspecified => "Unspecified"

end PhysicalMedium

/-- Whether the link is up. -/
inductive ConnectState
  | unknown
  | connected
  | disconnected
  deriving DecidableEq

namespace ConnectState

def name : ConnectState → String
  | unknown => "Unknown"
  | connected => "Connected"
  | disconnected => "Disconnected"

end ConnectState

/-- Whether both ends can send at a time. -/
inductive DuplexState
  | half
  | full
  deriving DecidableEq

namespace DuplexState

def name : DuplexState → String
  | half => "Half"
  | full => "Full"

end DuplexState

/-- How the adapter is attached to the machine. -/
inductive InterfaceType
  /-- Not at all: it exists in software only. -/
  | internal
  deriving DecidableEq

namespace InterfaceType

def name : InterfaceType → String
  | internal => "Internal"

end InterfaceType

/-- What an adapter can do. -/
structure GeneralDescriptor where
  medium : Medium
  physicalMedium : PhysicalMedium
  mtu : UInt32
  maxXmitSpeed : UInt64
  xmitSpeed : UInt64
  maxRcvSpeed : UInt64
  rcvSpeed : UInt64
  connectState : ConnectState
  duplexState : DuplexState
  lookahead : UInt32
  filters : PacketFilter
  macOptions : MacOptions
  maxMulticast : UInt32
  addressLength : UInt16
  permanent : Address
  current : Address
  oids : List UInt32
  deriving DecidableEq

namespace GeneralDescriptor

/-- The descriptor of an adapter with the settings `c`. -/
def ofConfig (c : AdapterConfig) : GeneralDescriptor where
  medium := .ieee8023
  physicalMedium := .unspecified
  mtu := c.mtu
  maxXmitSpeed := c.maxXmitSpeed
  xmitSpeed := c.xmitSpeed
  maxRcvSpeed := c.maxRcvSpeed
  rcvSpeed := c.rcvSpeed
  connectState := .connected
  duplexState := .half
  lookahead := c.mtu
  filters := PacketFilter.supported
  macOptions := ⟨0x09⟩
  maxMulticast := UInt32.ofNat PacketRadio.maxMulticast
  addressLength := UInt16.ofNat Address.length
  permanent := c.permanent
  current := c.current
  oids := supportedOids

end GeneralDescriptor

/-- How an adapter is attached. -/
structure RegistrationDescriptor where
  adapter : Handle
  hangCheck : UInt32
  interfaceType : InterfaceType
  flags : AttributeFlags
  deriving DecidableEq

namespace RegistrationDescriptor

/-- The descriptor of the adapter `handle` with the settings `c`. -/
def ofConfig (handle : Handle) (c : AdapterConfig) : RegistrationDescriptor where
  adapter := handle
  hangCheck := c.hangCheck
  interfaceType := .internal
  flags := ⟨0x24⟩

end RegistrationDescriptor

end PacketRadio
