import KnxBus.Address
import KnxBus.Ip.Endpoint
import KnxBus.Ip.Packet

/-!
# Opening a channel

A client asks a gateway for a channel by naming the endpoints at which it wants to be answered and
the kind of channel.  The answer carries the number of the channel and a status; only if the status
is good do endpoint and further data have to follow, so a refusal may stop after two octets.

Both messages end in a block that counts itself: its first octet is the number of octets in the
block, that octet included.
-/

namespace KnxBus

/-! ## The status octets of answers -/

namespace Status

/-- All is well. -/
def ok : UInt8 := 0x00
/-- There is no such channel. -/
def noSuchChannel : UInt8 := 0x21
/-- That kind of connection is not offered. -/
def connectionType : UInt8 := 0x22
/-- All channels are in use. -/
def noMoreConnections : UInt8 := 0x24
/-- The tunnel does not work on that layer. -/
def tunnellingLayer : UInt8 := 0x29

end Status

/-- A block that counts itself; it holds at most 254 octets besides the count. -/
def countedBlock (data : Octets) : Encoding :=
  .require (data.length + 1 < 256) .invalidLength ++ .octet (UInt8.ofNat (data.length + 1)) ++
    .octets data

/-- A block that counts itself and is the last of its message. -/
def readCountedBlock : Reading Octets := do
  let count ← Reader.octet
  let data ← Reader.remainder
  Reader.require (count.toNat == data.length + 1) .invalidLength
  return data

/-- Asks for a channel. -/
structure ConnectRequest where
  /-- Where the client wants messages about the channel. -/
  control : Endpoint
  /-- Where the client wants the data of the channel. -/
  data : Endpoint
  /-- The kind of channel and its options. -/
  information : Octets
  deriving DecidableEq, Repr

namespace ConnectRequest

/-- Asks for a tunnel on the link layer. -/
def tunnel (control data : Endpoint) : ConnectRequest := ⟨control, data, [0x04, 0x02, 0x00]⟩

/-- Whether a tunnel on the link layer is asked for. -/
def isLinkLayerTunnel (r : ConnectRequest) : Bool :=
  match r.information with
  | [0x04, 0x02, _] => true
  | _ => false

/-- The datagram, if it can be written. -/
def toPacket (r : ConnectRequest) : Except EncodeError Packet :=
  Packet.build .connectRequest (r.control.encode ++ r.data.encode ++ countedBlock r.information)
    (2 * Endpoint.blockLength + 1 + r.information.length)

/-- Reads the request from a datagram. -/
def ofPacket (p : Packet) : Except DecodeError ConnectRequest := do
  p.expect .connectRequest
  if p.body.length < 18 then throw .endOfInput
  Reader.run (do return ⟨← Endpoint.reading, ← Endpoint.reading, ← readCountedBlock⟩) p.body

end ConnectRequest

/-- Grants or refuses a channel. -/
structure ConnectResponse where
  /-- The number of the channel. -/
  channel : UInt8
  /-- Whether the channel was granted. -/
  status : UInt8
  /-- Where the gateway wants the data of the channel. -/
  data : Endpoint
  /-- Further data of the channel. -/
  information : Octets
  deriving DecidableEq, Repr

namespace ConnectResponse

/-- Refuses a channel. -/
def rejected (status : UInt8) : ConnectResponse := ⟨0, status, .unspecified, []⟩

/-- The individual address that a granted tunnel has on the bus. -/
def assignedAddress? (r : ConnectResponse) : Option IndividualAddress :=
  match r.information with
  | [0x04, hi, lo] => some ⟨Octets.word hi lo⟩
  | _ => none

/-- The datagram, if it can be written. -/
def toPacket (r : ConnectResponse) : Except EncodeError Packet :=
  Packet.build .connectResponse
    (.octet r.channel ++ .octet r.status ++ r.data.encode ++ countedBlock r.information)
    (2 + Endpoint.blockLength + 1 + r.information.length)

/-- Reads what follows channel and status.  A refusal may end here. -/
def readBody (length : Nat) (channel status : UInt8) : Reading ConnectResponse := do
  if status ≠ Status.ok ∧ (← Reader.remaining) < Endpoint.blockLength + 2 then
    return ⟨channel, status, .unspecified, []⟩
  Reader.require (12 ≤ length) .endOfInput
  return ⟨channel, status, ← Endpoint.reading, ← readCountedBlock⟩

/-- Reads the response from a datagram. -/
def ofPacket (p : Packet) : Except DecodeError ConnectResponse := do
  p.expect .connectResponse
  Reader.run (do readBody p.body.length (← Reader.octet) (← Reader.octet)) p.body

end ConnectResponse
end KnxBus
