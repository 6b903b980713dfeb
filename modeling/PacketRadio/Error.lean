import PacketRadio.Adapter.Lifecycle
import PacketRadio.Handle
import PacketRadio.Pool.Refusal
import PacketRadio.Status

/-!
# Errors

Why the driver refuses a request, what the host is told then, and the conditions that stop the
driver.
-/

namespace PacketRadio

/-- Classes of errors. -/
inductive ErrorKind
  /-- Slots or memory have run out; the request may be repeated later. -/
  | resourceExhaustion
  /-- The request is not valid here and has changed nothing. -/
  | precondition
  /-- The driver's own records disagree with what happens. -/
  | consistency
  /-- The request is none that this driver serves. -/
  | unsupported
  deriving DecidableEq

namespace ErrorKind

/-- The word for the class. -/
def name : ErrorKind → String
  | resourceExhaustion => "ResourceExhaustion"
  | precondition => "Precondition"
  | consistency => "Consistency"
  | unsupported => "Unsupported"

end ErrorKind

/-- Why the driver refuses a request. -/
inductive Error
  /-- Every adapter slot is taken. -/
  | slotsExhausted
  /-- The arena has run out of memory or records. -/
  | outOfMemory
  /-- The arena refused for a reason that does not pass. -/
  | arena (why : Pool.Refusal)
  /-- The handle names no slot. -/
  | invalidHandle
  /-- The handle names an adapter that is gone. -/
  | staleAdapter
  /-- The driver is not registered. -/
  | notRegistered
  /-- The driver is registered already. -/
  | alreadyRegistered
  /-- The handle is not the one the driver was registered under. -/
  | registrationMismatch (expected found : DriverHandle)
  /-- The operation is not possible in the adapter's state. -/
  | invalidState (state : Lifecycle) (operation : String)
  /-- Another driver context is active. -/
  | contextAlreadyActive
  /-- The interface has an adapter already. -/
  | interfaceInUse
  /-- The driver does not do this. -/
  | notSupported
  /-- The host refused to register a driver or an adapter. -/
  | registration (status : Status)
  /-- Nothing can run with the configuration. -/
  | invalidConfig
  /-- The buffer of the request has the wrong length. -/
  | invalidLength
  /-- The buffer of the request is too small for the answer. -/
  | bufferTooShort (needed : Nat)
  /-- The request carries a value that the adapter cannot take. -/
  | invalidData
  /-- There are more multicast groups than an adapter can join. -/
  | multicastFull
  /-- The adapter does not hold the buffer list. -/
  | unknownBufferList
  deriving DecidableEq

namespace Error

/-- The word for the error. -/
def name : Error → String
  | slotsExhausted => "SlotsExhausted"
  | outOfMemory => "OutOfMemory"
  | arena _ => "Arena"
  | invalidHandle => "InvalidHandle"
  | staleAdapter => "StaleAdapter"
  | notRegistered => "NotRegistered"
  | alreadyRegistered => "AlreadyRegistered"
  | registrationMismatch .. => "RegistrationMismatch"
  | invalidState .. => "InvalidState"
  | contextAlreadyActive => "ContextAlreadyActive"
  | interfaceInUse => "InterfaceInUse"
  | notSupported => "NotSupported"
  | registration _ => "Registration"
  | invalidConfig => "InvalidConfig"
  | invalidLength => "InvalidLength"
  | bufferTooShort _ => "BufferTooShort"
  | invalidData => "InvalidData"
  | multicastFull => "MulticastFull"
  | unknownBufferList => "UnknownBufferList"

/-- The class of the error. -/
def kind : Error → ErrorKind
  | slotsExhausted | outOfMemory => .resourceExhaustion
  | arena _ | contextAlreadyActive | unknownBufferList => .consistency
  | notSupported => .unsupported
  | _ => .precondition

/-- What the host is told. -/
def status : Error → Status
  | slotsExhausted | outOfMemory => .resources
  | arena _ => .failure
  | invalidHandle => .invalidParameter
  | staleAdapter => .adapterNotReady
  | notRegistered => .adapterNotFound
  | alreadyRegistered | contextAlreadyActive => .failure
  | registrationMismatch .. => .invalidParameter
  | invalidState .. => .failure
  | interfaceInUse => .invalidParameter
  | notSupported => .notSupported
  | registration status => status
  | invalidConfig => .badCharacteristics
  | invalidLength => .invalidLength
  | bufferTooShort _ => .bufferTooShort
  | invalidData => .invalidData
  | multicastFull => .multicastFull
  | unknownBufferList => .invalidParameter

/-- The error in a sentence. -/
def message : Error → String
  | slotsExhausted => "All adapter slots in use"
  | outOfMemory => "Out of memory"
  | arena why => s!"Arena failure: {why.message}"
  | invalidHandle => "Invalid adapter handle"
  | staleAdapter => "Adapter has been halted"
  | notRegistered => "Driver not registered"
  | alreadyRegistered => "Driver already registered"
  | registrationMismatch expected found =>
    s!"Registration handle {found.debug} does not match {expected.debug}"
  | invalidState state operation => s!"Cannot {operation} adapter in state {state.name}"
  | contextAlreadyActive => "Another driver context is active"
  | interfaceInUse => "Interface already has an adapter"
  | notSupported => "Operation not supported"
  | registration status => s!"Host refused registration: {status.text}"
  | invalidConfig => "Invalid configuration"
  | invalidLength => "Invalid request length"
  | bufferTooShort needed => s!"Buffer too short, need {needed} bytes"
  | invalidData => "Invalid request data"
  | multicastFull => "Multicast list full"
  | unknownBufferList => "Unknown buffer list"

/-- The error with its details, for diagnosis. -/
def debug (e : Error) : String :=
  match e with
  | arena why => Text.applied e.name why.debug
  | registrationMismatch expected found =>
    Text.record e.name [("expected", expected.debug), ("found", found.debug)]
  | invalidState state operation =>
    Text.record e.name [("state", state.name), ("operation", Text.quoted operation)]
  | registration status => Text.applied e.name status.name
  | bufferTooShort needed => Text.record e.name [("needed", toString needed)]
  | _ => e.name

/-- The driver's word for a refusal of its arena: what passes is a lack of memory. -/
def ofRefusal (why : Pool.Refusal) : Error :=
  if why.isExhaustion then outOfMemory else arena why

end Error

/-- A request of the host that shows that host and driver no longer agree. -/
inductive BugCheck
  /-- The adapter that was to be halted is gone. -/
  | haltOfStaleAdapter (handle : Handle)
  /-- What was to be halted never was an adapter. -/
  | haltOfInvalidAdapter (handle : Handle)
  deriving DecidableEq

namespace BugCheck

def code : BugCheck → UInt32
  | haltOfStaleAdapter _ => 0x0a250001
  | haltOfInvalidAdapter _ => 0x0a250002

/-- The condition in a sentence. -/
def message : BugCheck → String
  | haltOfStaleAdapter handle => s!"halt of destroyed adapter ({handle.text})"
  | haltOfInvalidAdapter handle => s!"halt of unknown adapter ({handle.text})"

/-- The code and the sentence. -/
def text (c : BugCheck) : String := s!"{Text.hexWord c.code}: {c.message}"

end BugCheck

/-- What stops the driver in the middle of an operation. -/
inductive Fatal
  | pool (fault : Pool.Fault)
  | bugCheck (check : BugCheck)
  deriving DecidableEq

namespace Fatal

/-- The last words. -/
def message : Fatal → String
  | pool fault => fault.message
  | bugCheck check => s!"bug check {check.text}"

end Fatal

/-- Why an operation gave no result: it was refused, or it stopped the driver. -/
inductive Failure
  | refused (error : Error)
  | fatal (why : Fatal)
  deriving DecidableEq

end PacketRadio
