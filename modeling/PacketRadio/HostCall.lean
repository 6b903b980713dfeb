import PacketRadio.Adapter.Descriptor
import PacketRadio.Status

/-!
# The host

Everything the driver says to its host, and the words in which the host speaks to the driver.
-/

namespace PacketRadio

/-- The requests that a driver can offer to serve. -/
def handlerFlags : FlagFamily where
  name := "MiniportHandlers"
  members :=
    [("INITIALIZE", 0x0001), ("HALT", 0x0002), ("UNLOAD", 0x0004), ("PAUSE", 0x0008),
      ("RESTART", 0x0010), ("OID_REQUEST", 0x0020), ("SEND_NET_BUFFER_LISTS", 0x0040),
      ("RETURN_NET_BUFFER_LISTS", 0x0080), ("CANCEL_SEND", 0x0100), ("CHECK_FOR_HANG", 0x0200),
      ("RESET", 0x0400), ("DEVICE_PNP_EVENT_NOTIFY", 0x0800), ("SHUTDOWN", 0x1000),
      ("CANCEL_OID_REQUEST", 0x2000), ("DIRECT_OID_REQUEST", 0x4000),
      ("CANCEL_DIRECT_OID_REQUEST", 0x8000)]

abbrev Handlers := FlagSet handlerFlags

/-- The requests that this driver serves: all but the direct ones. -/
def Handlers.provided : Handlers := ⟨0x3fff⟩

/-- Flags of a request to send. -/
def sendFlags : FlagFamily where
  name := "SendFlags"
  members := [("DISPATCH_LEVEL", 0x01), ("CHECK_FOR_LOOPBACK", 0x02)]

abbrev SendFlags := FlagSet sendFlags

/-- The caller says that it runs at the dispatch level. -/
def SendFlags.dispatchLevel : SendFlags := ⟨0x01⟩

/-- Flags of a request to take received lists back. -/
def returnFlags : FlagFamily where
  name := "ReturnFlags"
  members := [("DISPATCH_LEVEL", 0x01)]

abbrev ReturnFlags := FlagSet returnFlags

/-- The caller says that it runs at the dispatch level. -/
def ReturnFlags.dispatchLevel : ReturnFlags := ⟨0x01⟩

/-- What a driver says about itself when it registers. -/
structure Characteristics where
  interfaceVersion : Version
  driverVersion : Version
  handlers : Handlers
  deriving DecidableEq

namespace Characteristics

/-- The characteristics of a driver with the settings `c`. -/
def ofConfig (c : DriverConfig) : Characteristics :=
  ⟨c.interfaceVersion, c.driverVersion, Handlers.provided⟩

end Characteristics

/-- Why the host halts an adapter. -/
inductive HaltAction
  | unspecified
  | deviceDisabled
  | deviceInstanceRemoved
  | devicePoweredDown
  | deviceSurpriseRemoved
  | devicePnpFailed
  deriving DecidableEq

namespace HaltAction

def all : List HaltAction :=
  [unspecified, deviceDisabled, deviceInstanceRemoved, devicePoweredDown, deviceSurpriseRemoved,
    devicePnpFailed]

def name : HaltAction → String
  | unspecified => "Unspecified"
  | deviceDisabled => "DeviceDisabled"
  | deviceInstanceRemoved => "DeviceInstanceRemoved"
  | devicePoweredDown => "DevicePoweredDown"
  | deviceSurpriseRemoved => "DeviceSurpriseRemoved"
  | devicePnpFailed => "DevicePnpFailed"

end HaltAction

/-- Why the system shuts down. -/
inductive ShutdownAction
  | unspecified
  | powerOff
  | bugCheck
  deriving DecidableEq

namespace ShutdownAction

def all : List ShutdownAction := [unspecified, powerOff, bugCheck]

def name : ShutdownAction → String
  | unspecified => "Unspecified"
  | powerOff => "PowerOff"
  | bugCheck => "BugCheck"

end ShutdownAction

/-- What the host tells about the device. -/
inductive PnpEvent
  | surpriseRemoved
  | powerProfileChanged
  | other (code : UInt32)
  deriving DecidableEq

namespace PnpEvent

def debug : PnpEvent → String
  | surpriseRemoved => "SurpriseRemoved"
  | powerProfileChanged => "PowerProfileChanged"
  | other code => Text.applied "Other" (toString code.toNat)

end PnpEvent

/-- A call from the driver to its host. -/
inductive HostCall
  /-- Registers the driver. -/
  | register (driver : DriverObject) (path : String) (characteristics : Characteristics)
  /-- Undoes a registration. -/
  | deregister (handle : DriverHandle)
  /-- Shows the host how an adapter is attached. -/
  | registrationAttributes (adapter : Handle) (descriptor : RegistrationDescriptor)
  /-- Shows the host what an adapter can do. -/
  | generalAttributes (adapter : Handle) (descriptor : GeneralDescriptor)
  /-- A pause that was pending is complete. -/
  | pauseComplete (adapter : Handle)
  /-- A restart that was pending is complete. -/
  | restartComplete (adapter : Handle) (status : Status)
  /-- Gives a buffer list back that was to be sent. -/
  | sendComplete (adapter : Handle) (list : BufferList) (status : Status)
  /-- Passes a received buffer list up. -/
  | indicateReceive (adapter : Handle) (list : BufferList)
  /-- Writes to the host's error log. -/
  | errorLog (adapter : Option Handle) (code : LogCode)
  deriving DecidableEq

/-- What the host answers, should it be asked: to a registration of the driver, and to each of the
two descriptors of an adapter. -/
structure HostAnswers where
  registration : Except Status DriverHandle
  registrationAttributes : Status
  generalAttributes : Status

end PacketRadio
