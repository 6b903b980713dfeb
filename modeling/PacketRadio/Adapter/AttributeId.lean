/-!
# Attributes

The attributes of an adapter that the host can ask for, and the identifiers under which it does.
-/

namespace PacketRadio

/-- An attribute that every adapter answers. -/
inductive Attribute
  | supportedList
  | maximumFrameSize
  | linkSpeed
  | packetFilter
  | connectStatus
  | vlan
  | permanentAddress
  | currentAddress
  | multicastList
  | maximumListSize
  deriving DecidableEq

namespace Attribute

/-- Every attribute, in the order in which adapters list them. -/
def all : List Attribute :=
  [supportedList, maximumFrameSize, linkSpeed, packetFilter, connectStatus, vlan, permanentAddress,
    currentAddress, multicastList, maximumListSize]

/-- The object identifier (OID) of an attribute. -/
def oid : Attribute → UInt32
  | supportedList => 0x00010101
  | maximumFrameSize => 0x00010106
  | linkSpeed => 0x00010107
  | packetFilter => 0x0001010e
  | connectStatus => 0x00010114
  | vlan => 0x0001021c
  | permanentAddress => 0x01010101
  | currentAddress => 0x01010102
  | multicastList => 0x01010103
  | maximumListSize => 0x01010104

/-- The attribute with an identifier. -/
def ofOid? (oid : UInt32) : Option Attribute :=
  all.find? fun a => a.oid == oid

end Attribute

/-- The identifiers of all attributes. -/
def supportedOids : List UInt32 := Attribute.all.map Attribute.oid

end PacketRadio
