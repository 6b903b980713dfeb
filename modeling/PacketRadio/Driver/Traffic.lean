import PacketRadio.Driver.Context

/-!
# Requests to one adapter

What the host and the radio ask of a driver for one of its adapters. The adapter is looked up by its
handle; without it, the request is answered or reported and changes nothing.

A batch of buffer lists goes to one adapter, one list after the other. A list that the adapter does
not take for sending goes back to the host at once.
-/

namespace PacketRadio

open Pool

namespace Adapter

/-- A list that is not sent goes back to the host with the reason. -/
def sendRefused (handle : Handle) (list : BufferList) (status : Status) : List Event :=
  [.notice (.sendRefused handle list status), .call (.sendComplete handle list status)]

/-- Takes lists to be sent, one after the other. -/
def sendAll (handle : Handle) : List BufferList → Adapter → Outcome Event Adapter Unit
  | [], a => .quiet () a
  | list :: lists, a =>
    (a.send list).andThen fun taken b =>
      (sendAll handle lists b).after
        (match taken with
          | .ok () => []
          | .error status => sendRefused handle list status)

/-- Takes received lists back, one after the other. The host is told when that completes a pause. -/
def takeBackAll (handle : Handle) : List BufferList → Adapter → Outcome Event Adapter Unit
  | [], a => .quiet () a
  | list :: lists, a =>
    (a.takeBack list).andThen fun taken b =>
      (takeBackAll handle lists b).after
        (match taken with
          | .ok true => [.call (.pauseComplete handle)]
          | .ok false => []
          | .error why => [.notice (.returnRefused handle list why)])

end Adapter

namespace Context

variable {α : Type}

/-- Lets `op` work on the adapter that `handle` names. -/
def visit (c : Context) (handle : Handle) (op : Adapter → Outcome Event Adapter α) :
    Outcome Event Context (Except Error α) :=
  (c.slots.visit handle op).within fun slots => { c with slots := slots }

/-- The same for an operation that can itself be refused. -/
def attempt (c : Context) (handle : Handle)
    (op : Adapter → Outcome Event Adapter (Except Error α)) :
    Outcome Event Context (Except Error α) :=
  (c.visit handle op).map fun
    | .error why => .error why
    | .ok answer => answer

/-- Stops the traffic of an adapter. -/
def pause (c : Context) (handle : Handle) : Outcome Event Context Status :=
  (c.attempt handle Adapter.pause).map fun
    | .ok .completed => .success
    | .ok .pending => .pending
    | .error why => why.status

/-- Lets the traffic of an adapter flow. -/
def restart (c : Context) (handle : Handle) (flags : UInt32) : Outcome Event Context Status :=
  (c.attempt handle fun a => a.restart flags).map fun
    | .ok () => .success
    | .error why => why.status

/-- Serves a request for an attribute of an adapter. -/
def serveAttribute (c : Context) (handle : Handle) (request : AttributeRequest) :
    Outcome Event Context (AttributeRequest × Status) :=
  (c.visit handle fun a => a.serve request).map fun
    | .error why => (request, why.status)
    | .ok (request, .error why) => (request, why.status)
    | .ok (request, .ok ()) => (request, .success)

/-- Sends buffer lists. The caller's flags should tell the level that it runs at. -/
def send (c : Context) (level : Level) (handle : Handle) (lists : List BufferList)
    (flags : SendFlags) : Outcome Event Context Unit :=
  let warning : List Event :=
    if flags.includes SendFlags.dispatchLevel == level.mayBlock then
      [.notice (.sendLevel handle flags level)]
    else []
  let sent := c.visit handle (Adapter.sendAll handle lists)
  let refused : List Event :=
    match sent.answer with
    | .ok () => []
    | .error why => lists.flatMap fun list => Adapter.sendRefused handle list why.status
  ((sent.map fun _ => ()).before refused).after warning

/-- Takes received buffer lists back. If their adapter is gone, they are lost, and the host's error
log says so. -/
def takeBack (c : Context) (level : Level) (handle : Handle) (lists : List BufferList)
    (flags : ReturnFlags) : Outcome Event Context Unit :=
  let warning : List Event :=
    if flags.includes ReturnFlags.dispatchLevel == level.mayBlock then
      [.notice (.returnLevel handle flags level)]
    else []
  let taken := c.visit handle (Adapter.takeBackAll handle lists)
  let lost : List Event :=
    match taken.answer with
    | .ok () => []
    | .error why =>
      [.notice (.returnedToMissing handle lists.length why),
        .call (.errorLog (some handle) .leakBufferLists)]
  ((taken.map fun _ => ()).before lost).after warning

/-- The radio is done with a list: it goes back to the host, and with it a pause may be complete. -/
def completeSend (c : Context) (handle : Handle) (list : BufferList) (status : Status) :
    Outcome Event Context (Except Error Unit) :=
  let completed := c.attempt handle fun a => a.completeSend list
  match completed.answer with
  | .error why => completed.map fun _ => .error why
  | .ok settled =>
    (completed.map fun _ => .ok ()).before
      (.call (.sendComplete handle list status) ::
        (if settled then
          [.notice (.pauseComplete handle), .call (.pauseComplete handle)] else []))

/-- The radio has received a list: it is shown to the host, if the adapter takes it. -/
def indicate (c : Context) (handle : Handle) (list : BufferList) : Outcome Event Context Status :=
  let received := c.visit handle fun a => a.receive list
  match received.answer with
  | .error why => received.map fun _ => why.status
  | .ok (.error status) => received.map fun _ => status
  | .ok (.ok ()) =>
    (received.map fun _ => .success).before [.call (.indicateReceive handle list)]

/-- Looks whether an adapter hangs. A virtual one never does. -/
def checkForHang (c : Context) (handle : Handle) : Outcome Event Context Bool :=
  match c.slots.resolve handle with
  | .ok _ => .quiet false c
  | .error why => ⟨false, c, [.notice (.hangCheckFailed handle why)]⟩

/-- Takes note of what the host tells about a device. -/
def notePnp (c : Context) (handle : Handle) (event : PnpEvent) : Outcome Event Context Unit :=
  match c.slots.resolve handle with
  | .ok _ => ⟨(), c, [.notice (.pnp handle event)]⟩
  | .error why => ⟨(), c, [.notice (.pnpFailed handle event why)]⟩

end Context

end PacketRadio
