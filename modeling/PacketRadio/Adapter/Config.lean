import PacketRadio.Address
import PacketRadio.Handle

/-!
# Configuration

What an adapter and a driver are set up with, and which settings an adapter can run with. The
defaults describe one packet link on VHF.
-/

namespace PacketRadio

/-- How many bytes each of an adapter's two frame buffers has. -/
def bufferSize : Nat := 512

/-- How many multicast groups an adapter can join. -/
def maxMulticast : Nat := 16

/-- A version in two numbers. -/
structure Version where
  major : UInt8
  minor : UInt8
  deriving DecidableEq

namespace Version

def text (v : Version) : String := s!"{v.major.toNat}.{v.minor.toNat}"

end Version

/-- The settings of an adapter. Speeds are in bits per second. -/
structure AdapterConfig where
  mtu : UInt32 := 512
  xmitSpeed : UInt64 := 1200
  rcvSpeed : UInt64 := 1200
  maxXmitSpeed : UInt64 := 9600
  maxRcvSpeed : UInt64 := 9600
  /-- The address that the adapter was made with. -/
  permanent : Address := Address.default
  /-- The address in use. -/
  current : Address := Address.default
  /-- Seconds between the host's checks for a hang. -/
  hangCheck : UInt32 := 2
  deriving DecidableEq

/-- The settings of a driver, with the template for its adapters. -/
structure DriverConfig where
  adapter : AdapterConfig := {}
  driverVersion : Version := ⟨0, 1⟩
  interfaceVersion : Version := ⟨6, 20⟩
  deriving DecidableEq

/-- What the host asks for when it brings an adapter up. -/
structure Parameters where
  interface : Interface
  /-- An address that replaces the one in the template. -/
  networkAddress : Option Address := none
  deriving DecidableEq

/-- Why nothing can run with a configuration. -/
inductive ConfigFault
  | mtu (mtu : UInt32)
  | linkSpeed (xmit rcv maxXmit maxRcv : UInt64)
  | address
  | interfaceVersion (version : Version)
  deriving DecidableEq

namespace ConfigFault

/-- The fault in a sentence. -/
def text : ConfigFault → String
  | mtu m => s!"adapter config: MTU {m.toNat} outside 1..={bufferSize}"
  | linkSpeed xmit rcv maxXmit maxRcv =>
    s!"adapter config: link speed {xmit.toNat}/{rcv.toNat} exceeds {maxXmit.toNat}/{maxRcv.toNat}"
  | address => "adapter config: address must be set"
  | interfaceVersion v => s!"driver config: interface version {v.text} too old"

end ConfigFault

namespace AdapterConfig

/-- The first thing that keeps an adapter from running with these settings. -/
def fault? (c : AdapterConfig) : Option ConfigFault :=
  if c.mtu = 0 ∨ bufferSize < c.mtu.toNat then some (.mtu c.mtu)
  else if c.xmitSpeed = 0 ∨ c.rcvSpeed = 0 ∨ c.maxXmitSpeed < c.xmitSpeed ∨
      c.maxRcvSpeed < c.rcvSpeed then
    some (.linkSpeed c.xmitSpeed c.rcvSpeed c.maxXmitSpeed c.maxRcvSpeed)
  else if c.permanent.isUnused || c.current.isUnused then some .address
  else none

/-- The settings for one adapter: the template, with the address that the host asks for. -/
def withOverrides (c : AdapterConfig) (p : Parameters) : AdapterConfig :=
  { c with current := p.networkAddress.getD c.current }

end AdapterConfig

namespace DriverConfig

/-- The oldest interface a driver can work with. -/
def leastInterface : UInt8 := 6

/-- The first thing that keeps a driver from running with these settings. -/
def fault? (c : DriverConfig) : Option ConfigFault :=
  if c.interfaceVersion.major < leastInterface then some (.interfaceVersion c.interfaceVersion)
  else c.adapter.fault?

end DriverConfig

end PacketRadio
