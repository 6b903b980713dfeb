import PacketRadio.Adapter.Attribute
import PacketRadio.Driver.SlotTable

/-!
# Driver contexts

A context is what one loaded driver keeps: its settings, its registration with the host, and its
adapters. It lives in a block of the arena in which it makes its adapters.

This module registers the driver, and brings adapters up and down. What the host answers on the way
is given to each operation beforehand; it counts only if the host is asked.
-/

namespace PacketRadio

open Pool

/-- Whether the host knows the driver. -/
inductive Registration
  | unregistered
  | registered (handle : DriverHandle) (driver : DriverObject)
  deriving DecidableEq

namespace Registration

/-- The registration for diagnosis. -/
def debug : Registration → String
  | unregistered => "Unregistered"
  | registered handle driver =>
    Text.record "Registered" [("handle", handle.debug), ("driver", driver.debug)]

def isRegistered : Registration → Bool
  | unregistered => false
  | registered .. => true

end Registration

/-- What a loaded driver keeps. -/
structure Context where
  id : UInt32
  config : DriverConfig
  registration : Registration
  slots : SlotTable
  deriving DecidableEq

/-- The layout is that of a build for x86-64, with a host that is kept as one address. The driver
relies on no more of it than that a type can have it. -/
instance : Pooled Context where
  tag := Tag.ofChars 'a' 'x' 'M' 'P'
  layout := ⟨752, 8⟩

namespace Context

/-- A context that is not registered and has no adapters. -/
def fresh (id : UInt32) (config : DriverConfig) : Context :=
  ⟨id, config, .unregistered, SlotTable.empty⟩

/-- The context for diagnosis. -/
def debug (c : Context) : String :=
  Text.record "DriverContext"
    [("id", toString c.id.toNat), ("registration", c.registration.debug),
      ("adapters", toString c.slots.inUseCount)]

/-- The adapter of an interface. -/
def adapterFor? (c : Context) (interface : Interface) : Option Adapter := do
  let i ← c.slots.findInterface? interface
  (c.slots.slot i).adapter?

/-! ## Registration -/

/-- Registers the driver with the host. -/
def register (c : Context) (answers : HostAnswers) (driver : DriverObject) (path : String) :
    Outcome Event Context (Except Error DriverHandle) :=
  match c.registration with
  | .registered .. => ⟨.error .alreadyRegistered, c, [.notice (.alreadyRegistered c.id)]⟩
  | .unregistered =>
    let characteristics := Characteristics.ofConfig c.config
    let asked := Event.call (.register driver path characteristics)
    match answers.registration with
    | .ok handle =>
      { answer := .ok handle
        state := { c with registration := .registered handle driver }
        events := [asked, .notice (.registered characteristics)] }
    | .error status =>
      { answer := .error (.registration status)
        state := { c with registration := .unregistered }
        events := [asked, .notice (.registrationFailed status)] }

/-- Undoes the registration, if there is one. -/
def leave (c : Context) : Outcome Event Context Unit :=
  match c.registration with
  | .unregistered => .quiet () c
  | .registered handle _ =>
    { answer := ()
      state := { c with registration := .unregistered }
      events := [.call (.deregister handle), .notice .deregistered] }

/-- Undoes the registration under `handle`, which must be the one that the host gave. -/
def deregister (c : Context) (handle : DriverHandle) : Outcome Event Context (Except Error Unit) :=
  match c.registration with
  | .unregistered => ⟨.error .notRegistered, c, [.notice (.notRegistered c.id)]⟩
  | .registered expected _ =>
    if expected ≠ handle then
      { answer := .error (.registrationMismatch expected handle)
        state := c
        events := [.notice (.otherRegistration c.id handle expected)] }
    else c.leave.map .ok

/-! ## Adapters come and go -/

/-- Shows the host both descriptors of an adapter, the second one only if it takes the first.
Answers the status of the refusal, if there is one. -/
def present (answers : HostAnswers) (a : Adapter) : Option Status × List Event :=
  let first := Event.call (.registrationAttributes a.handle a.registration)
  let second := Event.call (.generalAttributes a.handle a.general)
  if !answers.registrationAttributes.isSuccess then (some answers.registrationAttributes, [first])
  else if !answers.generalAttributes.isSuccess then
    (some answers.generalAttributes, [first, second])
  else (none, [first, second])

/-- Destroys an adapter that found no slot, because of `why`. -/
def withdraw (c : Context) (owned : Owned Adapter) (arena : Arena) (why : Error) :
    Outcome Event (Context × Arena) (Except Failure Handle) :=
  let gone := Adapter.discard (some owned) arena
  (gone.map fun
    | .ok () => .error (.refused why)
    | .error fault => .error (.fatal (.pool fault))).within fun arena => (c, arena)

/-- Shows an adapter to the host and puts it into slot `i`. -/
def install (c : Context) (answers : HostAnswers) (i : Fin maxAdapters) (interface : Interface)
    (owned : Owned Adapter) (arena : Arena) :
    Outcome Event (Context × Arena) (Except Failure Handle) :=
  match present answers owned.value with
  | (some status, shown) =>
    (c.withdraw owned arena (.registration status)).after
      (shown ++ [.notice (.descriptorRefused owned.value.handle status)])
  | (none, shown) =>
    match c.slots.occupy i interface (some owned) with
    | .error why => (c.withdraw owned arena why).after shown
    | .ok (handle, slots) => ⟨.ok handle, ({ c with slots := slots }, arena), shown⟩

/-- Brings an adapter up in the lowest free slot. -/
def createAdapter (c : Context) (arena : Arena) (answers : HostAnswers) (p : Parameters) :
    Outcome Event (Context × Arena) (Except Failure Handle) :=
  let refuse (why : Error) (events : List Event) :
      Outcome Event (Context × Arena) (Except Failure Handle) :=
    ⟨.error (.refused why), (c, arena), events⟩
  if c.registration = .unregistered then
    refuse .notRegistered [.notice (.adapterBeforeRegistration p.interface)]
  else
    match c.slots.findInterface? p.interface with
    | some i => refuse .interfaceInUse [.notice (.adapterExists p.interface i)]
    | none =>
      match c.slots.firstFree? with
      | none =>
        refuse .slotsExhausted
          [.notice (.noFreeSlot p.interface c.slots.inUseCount),
            .call (.errorLog none .adapterLimitReached)]
      | some i =>
        let config := c.config.adapter.withOverrides p
        let made := Adapter.create arena (c.slots.nextHandle i) p.interface config
        match made.answer with
        | .error why =>
          ⟨.error why, (c, made.state), made.events ++
            (if why = .refused .outOfMemory then [.call (.errorLog none .outOfResources)] else [])⟩
        | .ok owned => (c.install answers i p.interface owned made.state).after made.events

/-- Brings the adapter down that `handle` names. The host halts no adapter twice and none that it
was not given, so a handle that does not resolve stops the driver. -/
def haltAdapter (c : Context) (arena : Arena) (handle : Handle) (action : HaltAction) :
    Outcome Event (Context × Arena) (Except Fatal Unit) :=
  match c.slots.locate handle with
  | .error why =>
    let check :=
      if why = .invalidHandle then BugCheck.haltOfInvalidAdapter handle
      else BugCheck.haltOfStaleAdapter handle
    ⟨.error (.bugCheck check), (c, arena), [.notice (.bugCheck check)]⟩
  | .ok (i, owned) =>
    let c := { c with slots := c.slots.vacate i }
    let flushed := owned.value.flushSends
    let gone := Adapter.discard (some ⟨owned.block, flushed.state⟩) arena
    ((gone.map (Except.mapError Fatal.pool)).within fun arena => (c, arena)).after
      (flushed.events ++ [.notice (.halting handle action)])

/-- Brings an adapter down, if one is named. -/
def halt (c : Context) (arena : Arena) (handle : Option Handle) (action : HaltAction) :
    Outcome Event (Context × Arena) (Except Fatal Unit) :=
  match handle with
  | none => ⟨.ok (), (c, arena), [.notice .haltIgnored]⟩
  | some handle => c.haltAdapter arena handle action

end Context

end PacketRadio
