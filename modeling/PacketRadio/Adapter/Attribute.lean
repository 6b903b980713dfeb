import PacketRadio.Adapter.Basic

/-!
# Attribute requests

The host asks an adapter for an attribute, or sets one, through a buffer. An answer is written as a
whole or not at all; a new value is checked as a whole before it takes effect. Numbers are written
with the lowest byte first.
-/

namespace PacketRadio

/-- What the host wants to do with an attribute. -/
inductive RequestKind
  | query
  | set
  deriving DecidableEq

/-- A request for an attribute: its identifier, the buffer with the answer or the new value, and the
counts that the adapter fills in. -/
structure AttributeRequest where
  oid : UInt32
  kind : RequestKind
  buffer : List UInt8
  bytesWritten : Nat := 0
  bytesNeeded : Nat := 0
  deriving DecidableEq

/-- The highest VLAN identifier. -/
def maxVlan : UInt32 := 4095

/-- The unit in which link speeds are told, in bits per second. -/
def linkSpeedUnit : UInt64 := 100

/-- What is told of the link of an adapter that is connected. -/
def mediaConnected : UInt32 := 0

/-- The four bytes of a word, the lowest one first. -/
def wordBytes (w : UInt32) : List UInt8 :=
  [w.toUInt8, (w >>> 8).toUInt8, (w >>> 16).toUInt8, (w >>> 24).toUInt8]

/-- The word of four bytes. -/
def wordOfBytes? : List UInt8 → Option UInt32
  | [a, b, c, d] =>
    some (a.toUInt32 ||| b.toUInt32 <<< 8 ||| c.toUInt32 <<< 16 ||| d.toUInt32 <<< 24)
  | _ => none

/-- The addresses in a sequence of bytes, seven bytes each; what is left over is passed by. -/
def addressesOf : List UInt8 → List Address
  | a :: b :: c :: d :: e :: f :: g :: rest =>
    Address.ofBytes #v[a, b, c, d, e, f, g] :: addressesOf rest
  | _ => []

/-- A link speed in units, as far as a word reaches. -/
def speedInUnits (speed : UInt64) : UInt32 :=
  UInt32.ofNat (min (speed / linkSpeedUnit).toNat (UInt32.size - 1))

/-- Writes items over the front of a buffer, each into the next piece of `size` bytes. It ends with
the items, or with the whole pieces. -/
def writeItems (size : Nat) : List UInt8 → List (List UInt8) → List UInt8
  | buffer, [] => buffer
  | buffer, item :: items =>
    if buffer.length < size then buffer
    else item ++ writeItems size (buffer.drop size) items

namespace AttributeRequest

/-- Writes `bytes` over the front of the buffer, if they fit. -/
def respond (r : AttributeRequest) (bytes : List UInt8) : AttributeRequest × Except Error Unit :=
  if r.buffer.length < bytes.length then
    ({ r with bytesNeeded := bytes.length }, .error (.bufferTooShort bytes.length))
  else
    ({ r with
        buffer := bytes ++ r.buffer.drop bytes.length
        bytesNeeded := bytes.length
        bytesWritten := bytes.length }, .ok ())

/-- Writes one word. -/
def respondWord (r : AttributeRequest) (w : UInt32) : AttributeRequest × Except Error Unit :=
  r.respond (wordBytes w)

/-- Writes items of `size` bytes each, if all of them fit. -/
def respondItems (r : AttributeRequest) (size : Nat) (items : List (List UInt8)) :
    AttributeRequest × Except Error Unit :=
  let needed := items.length * size
  if r.buffer.length < needed then
    ({ r with bytesNeeded := needed }, .error (.bufferTooShort needed))
  else
    ({ r with
        buffer := writeItems size r.buffer items
        bytesNeeded := needed
        bytesWritten := needed }, .ok ())

/-- Reads the whole buffer as one word. -/
def readWord (r : AttributeRequest) : AttributeRequest × Except Error UInt32 :=
  match wordOfBytes? r.buffer with
  | none => ({ r with bytesNeeded := 4 }, .error .invalidLength)
  | some w => ({ r with bytesNeeded := 4, bytesWritten := 4 }, .ok w)

/-- Reads the whole buffer as a list of groups, no longer than an adapter can join. -/
def readGroups (r : AttributeRequest) : AttributeRequest × Except Error (List Address) :=
  if r.buffer.length % Address.length ≠ 0 then
    ({ r with bytesNeeded := Address.length }, .error .invalidLength)
  else if maxMulticast < r.buffer.length / Address.length then (r, .error .multicastFull)
  else (r, .ok (addressesOf r.buffer))

end AttributeRequest

namespace Adapter

/-- Answers with the value of an attribute. What is a list is written item by item. -/
def respond (a : Adapter) (r : AttributeRequest) : Attribute → AttributeRequest × Except Error Unit
  | .supportedList => r.respondItems 4 (a.general.oids.map wordBytes)
  | .maximumFrameSize => r.respondWord a.general.mtu
  | .linkSpeed => r.respondWord (speedInUnits a.general.xmitSpeed)
  | .packetFilter => r.respondWord a.filter.bits
  | .connectStatus => r.respondWord mediaConnected
  | .vlan => r.respondWord a.vlan
  | .permanentAddress => r.respond a.general.permanent.bytes.toList
  | .currentAddress => r.respond a.general.current.bytes.toList
  | .multicastList =>
    r.respondItems Address.length (a.multicast.groups.map fun g => g.bytes.toList)
  | .maximumListSize => r.respondWord (UInt32.ofNat maxMulticast)

/-- Answers a query. -/
def query (a : Adapter) (r : AttributeRequest) :
    Outcome Event Adapter (AttributeRequest × Except Error Unit) :=
  match Attribute.ofOid? r.oid with
  | none => ⟨(r, .error .notSupported), a, [.notice (.queryUnsupported a.handle r.oid)]⟩
  | some asked => .quiet (a.respond r asked) a

/-- Sets the packet filter, if the adapter can deliver what it asks for. -/
def setFilter (a : Adapter) (r : AttributeRequest) :
    Outcome Event Adapter (AttributeRequest × Except Error Unit) :=
  match r.readWord with
  | (r, .error why) => .quiet (r, .error why) a
  | (r, .ok w) =>
    let filter : PacketFilter := ⟨w⟩
    if filter.isKnown && PacketFilter.supported.includes filter then
      ⟨(r, .ok ()), { a with filter := filter }, [.notice (.filterSet a.handle filter)]⟩
    else .quiet (r, .error .notSupported) a

/-- Sets the VLAN identifier, if it is one. -/
def setVlan (a : Adapter) (r : AttributeRequest) :
    Outcome Event Adapter (AttributeRequest × Except Error Unit) :=
  match r.readWord with
  | (r, .error why) => .quiet (r, .error why) a
  | (r, .ok w) =>
    if maxVlan < w then .quiet (r, .error .invalidData) a
    else .quiet (r, .ok ()) { a with vlan := w }

/-- Joins the groups of the request in place of the present ones. -/
def setGroups (a : Adapter) (r : AttributeRequest) :
    Outcome Event Adapter (AttributeRequest × Except Error Unit) :=
  match r.readGroups with
  | (r, .error why) => .quiet (r, .error why) a
  | (r, .ok groups) =>
    match a.multicast.replace groups with
    | .error why => .quiet (r, .error why) a
    | .ok multicast =>
      .quiet ({ r with bytesWritten := r.buffer.length }, .ok ()) { a with multicast := multicast }

/-- Sets an attribute. -/
def set (a : Adapter) (r : AttributeRequest) :
    Outcome Event Adapter (AttributeRequest × Except Error Unit) :=
  match Attribute.ofOid? r.oid with
  | some .packetFilter => a.setFilter r
  | some .vlan => a.setVlan r
  | some .multicastList => a.setGroups r
  | _ => ⟨(r, .error .notSupported), a, [.notice (.setUnsupported a.handle r.oid)]⟩

/-- Serves a request for an attribute: the request with its counts and buffer filled in, and whether
it was served. -/
def serve (a : Adapter) (r : AttributeRequest) :
    Outcome Event Adapter (AttributeRequest × Except Error Unit) :=
  match r.kind with
  | .query => a.query r
  | .set => a.set r

end Adapter

end PacketRadio
