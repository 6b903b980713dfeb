import PacketRadio.Text.Shape

/-!
# Status codes

The vocabulary in which the driver and its host answer each other, and the codes of the host's error
log.
-/

namespace PacketRadio

/-- The answer to a request. -/
inductive Status
  | success
  /-- The operation completes later, with a notification. -/
  | pending
  | failure
  | invalidParameter
  | resources
  | notSupported
  | badCharacteristics
  | adapterNotFound
  | multicastFull
  | adapterNotReady
  | invalidLength
  | invalidData
  | bufferTooShort
  | invalidOid
  /-- The adapter is paused and takes no traffic. -/
  | paused
  deriving DecidableEq

namespace Status

/-- Every status. -/
def all : List Status :=
  [success, pending, failure, invalidParameter, resources, notSupported, badCharacteristics,
    adapterNotFound, multicastFull, adapterNotReady, invalidLength, invalidData, bufferTooShort,
    invalidOid, paused]

/-- The word for a status. -/
def name : Status → String
  | success => "Success"
  | pending => "Pending"
  | failure => "Failure"
  | invalidParameter => "InvalidParameter"
  | resources => "Resources"
  | notSupported => "NotSupported"
  | badCharacteristics => "BadCharacteristics"
  | adapterNotFound => "AdapterNotFound"
  | multicastFull => "MulticastFull"
  | adapterNotReady => "AdapterNotReady"
  | invalidLength => "InvalidLength"
  | invalidData => "InvalidData"
  | bufferTooShort => "BufferTooShort"
  | invalidOid => "InvalidOid"
  | paused => "Paused"

/-- The code of a status. -/
def code : Status → UInt32
  | success => 0x00000000
  | pending => 0x00000103
  | failure => 0xc0000001
  | invalidParameter => 0xc000000d
  | resources => 0xc000009a
  | notSupported => 0xc00000bb
  | badCharacteristics => 0xc0010005
  | adapterNotFound => 0xc0010006
  | multicastFull => 0xc0010009
  | adapterNotReady => 0xc0010011
  | invalidLength => 0xc0010014
  | invalidData => 0xc0010015
  | bufferTooShort => 0xc0010016
  | invalidOid => 0xc0010017
  | paused => 0xc0010029

def isSuccess (s : Status) : Bool := s == success

/-- Both severity bits of the code are set. -/
def isError (s : Status) : Bool := s.code &&& 0xc0000000 == 0xc0000000

/-- The word and the code. -/
def text (s : Status) : String := s!"{s.name} ({Text.hexWord s.code})"

end Status

/-- What the driver writes to the host's error log. -/
inductive LogCode
  /-- There is no memory for an adapter. -/
  | outOfResources
  /-- Every adapter slot is taken. -/
  | adapterLimitReached
  /-- Buffer lists came back for an adapter that is gone. -/
  | leakBufferLists
  deriving DecidableEq

namespace LogCode

/-- Every code. -/
def all : List LogCode := [outOfResources, adapterLimitReached, leakBufferLists]

/-- The word for the code. -/
def name : LogCode → String
  | outOfResources => "OutOfResources"
  | adapterLimitReached => "AdapterLimitReached"
  | leakBufferLists => "LeakBufferLists"

def code : LogCode → UInt32
  | outOfResources => 0x0001
  | adapterLimitReached => 0x0002
  | leakBufferLists => 0x1000

end LogCode

end PacketRadio
