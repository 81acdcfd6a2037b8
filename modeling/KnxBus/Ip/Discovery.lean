import KnxBus.Apdu
import KnxBus.Ip.Endpoint
import KnxBus.Ip.Packet
import KnxBus.Text.Utf8

/-!
# Finding and describing gateways

A client that looks for gateways, or wants to know more about one, sends the endpoint at which it
wants the answer.  The answer describes the device in a block of fixed length and the families of
services it offers in a block that counts itself.  The name of the device has room for 29 octets and
a closing zero; a longer name is cut, even within a character.
-/

namespace KnxBus

/-- Asks for an answer at an endpoint; the service says which answer. -/
structure EndpointRequest where
  /-- Where the answer is wanted. -/
  endpoint : Endpoint
  deriving DecidableEq, Repr

namespace EndpointRequest

/-- The datagram, if it can be written. -/
def toPacket (r : EndpointRequest) (service : Service) : Except EncodeError Packet :=
  Packet.build service r.endpoint.encode Endpoint.blockLength

/-- Reads the request from a datagram of the given service. -/
def ofPacket (p : Packet) (service : Service) : Except DecodeError EndpointRequest := do
  p.expect service
  if p.body.length ≠ Endpoint.blockLength then throw .invalidLength
  Reader.run (do return ⟨← Endpoint.reading⟩) p.body

end EndpointRequest

/-! ## The blocks of an answer -/

/-- The six octets of a hardware address. -/
structure HardwareAddress where
  (b0 b1 b2 b3 b4 b5 : UInt8)
  deriving DecidableEq, Repr

/-- The octets in order. -/
def HardwareAddress.octets (a : HardwareAddress) : Octets := [a.b0, a.b1, a.b2, a.b3, a.b4, a.b5]

/-- What a device says about itself. -/
structure DeviceInfo where
  /-- The kind of bus. -/
  medium : UInt8
  /-- Whether the device is being programmed. -/
  status : UInt8
  /-- The address of the device on the bus. -/
  address : IndividualAddress
  /-- The number of the installation. -/
  installation : UInt16
  /-- The serial number. -/
  serial : SerialNumber
  /-- The multicast group in which the device routes. -/
  multicast : Ipv4
  /-- The hardware address. -/
  hardware : HardwareAddress
  /-- The name that people see. -/
  name : String
  deriving DecidableEq, Repr

namespace DeviceInfo

/-- A device on twisted pair of which nothing else is known. -/
def blank : DeviceInfo :=
  { medium := 2
    status := 0
    address := .unset
    installation := 0
    serial := ⟨0, 0, 0, 0, 0, 0⟩
    multicast := .unspecified
    hardware := ⟨0, 0, 0, 0, 0, 0⟩
    name := "" }

instance : Inhabited DeviceInfo := ⟨blank⟩

/-- Length of the block. -/
def blockLength : Nat := 54

/-- The part of a name that goes on the wire. -/
def wireName (name : String) : Octets := (Utf8.encode name).take 29

/-- The name field: the part that goes on the wire, filled up with zeros to thirty octets. -/
def nameField (name : String) : Octets :=
  wireName name ++ List.replicate (30 - (wireName name).length) 0

/-- How the block is written. -/
def encode (d : DeviceInfo) : Encoding :=
  .octet 54 ++ .octet 1 ++ .octet d.medium ++ .octet d.status ++ .word d.address.raw ++
    .word d.installation ++ .octets d.serial.octets ++ .octets d.multicast.octets ++
    .octets d.hardware.octets ++ .octets (nameField d.name)

/-- The name in a name field: what stands before the first zero, and never more than 29 octets. -/
def nameOf (nameField : Octets) : String := Utf8.decode ((nameField.take 29).takeWhile (· ≠ 0))

/-- How a serial number is read. -/
def readSerial : Reading SerialNumber := do
  return ⟨← Reader.octet, ← Reader.octet, ← Reader.octet, ← Reader.octet, ← Reader.octet,
    ← Reader.octet⟩

/-- How a hardware address is read. -/
def readHardware : Reading HardwareAddress := do
  return ⟨← Reader.octet, ← Reader.octet, ← Reader.octet, ← Reader.octet, ← Reader.octet,
    ← Reader.octet⟩

/-- How the block is read. -/
def reading : Reading DeviceInfo := do
  Reader.require ((← Reader.octet) == 54) .invalidValue
  Reader.require ((← Reader.octet) == 1) .invalidValue
  return { medium := ← Reader.octet
           status := ← Reader.octet
           address := ⟨← Reader.word⟩
           installation := ← Reader.word
           serial := ← readSerial
           multicast := ← Endpoint.readAddress
           hardware := ← readHardware
           name := nameOf (← Reader.exactly 30) }

end DeviceInfo

/-- A family of services and its version. -/
structure ServiceFamily where
  /-- The number of the family. -/
  family : UInt8
  /-- The version. -/
  version : UInt8
  deriving DecidableEq, Repr

namespace ServiceFamily

/-- Discovery and description. -/
def core : ServiceFamily := ⟨2, 1⟩
/-- Tunnels. -/
def tunnelling : ServiceFamily := ⟨4, 1⟩
/-- Routing. -/
def routing : ServiceFamily := ⟨5, 1⟩

/-- Length of the block with the given families. -/
def blockLength (families : List ServiceFamily) : Nat := 2 + 2 * families.length

/-- How the families are written. -/
def encodeAll (families : List ServiceFamily) : Encoding :=
  .require (blockLength families < 256) .invalidLength ++
    .octet (UInt8.ofNat (blockLength families)) ++ .octet 2 ++
    families.foldr (fun s e => .octet s.family ++ .octet s.version ++ e) .empty

/-- Families from pairs of octets. -/
def ofPairs : Octets → List ServiceFamily
  | family :: version :: rest => ⟨family, version⟩ :: ofPairs rest
  | _ => []

/-- How the block of families is read. -/
def readingAll : Reading (List ServiceFamily) := do
  let length := (← Reader.octet).toNat
  Reader.require ((← Reader.octet) == 2) .invalidValue
  Reader.require (length % 2 == 0 && 2 ≤ length) .invalidLength
  return ofPairs (← Reader.exactly (length - 2))

end ServiceFamily

/-! ## The answers -/

/-- Answers a search. -/
structure SearchResponse where
  /-- Where the gateway takes requests. -/
  control : Endpoint
  /-- The device. -/
  device : DeviceInfo
  /-- What it offers. -/
  services : List ServiceFamily
  deriving DecidableEq, Repr

namespace SearchResponse

/-- The datagram, if it can be written. -/
def toPacket (r : SearchResponse) : Except EncodeError Packet :=
  Packet.build .searchResponse
    (r.control.encode ++ r.device.encode ++ ServiceFamily.encodeAll r.services)
    (Endpoint.blockLength + DeviceInfo.blockLength + ServiceFamily.blockLength r.services)

/-- Reads the response from a datagram; what follows the families is ignored. -/
def ofPacket (p : Packet) : Except DecodeError SearchResponse := do
  p.expect .searchResponse
  Reader.run (do return ⟨← Endpoint.reading, ← DeviceInfo.reading, ← ServiceFamily.readingAll⟩)
    p.body

end SearchResponse

/-- Answers a request for a description. -/
structure DescriptionResponse where
  /-- The device. -/
  device : DeviceInfo
  /-- What it offers. -/
  services : List ServiceFamily
  /-- Further blocks, as they stand. -/
  further : Octets
  deriving DecidableEq, Repr

namespace DescriptionResponse

/-- The datagram, if it can be written. -/
def toPacket (r : DescriptionResponse) : Except EncodeError Packet :=
  Packet.build .descriptionResponse
    (r.device.encode ++ ServiceFamily.encodeAll r.services ++ .octets r.further)
    (DeviceInfo.blockLength + ServiceFamily.blockLength r.services + r.further.length)

/-- Reads the response from a datagram. -/
def ofPacket (p : Packet) : Except DecodeError DescriptionResponse := do
  p.expect .descriptionResponse
  Reader.run (do return ⟨← DeviceInfo.reading, ← ServiceFamily.readingAll, ← Reader.remainder⟩)
    p.body

end DescriptionResponse
end KnxBus
