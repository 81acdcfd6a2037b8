import KnxBus.Ip.Packet

/-!
# Frames in a channel

A tunnelling request carries one frame in external framing, numbered within its channel by an octet
that wraps around; the receiver acknowledges the number.
-/

namespace KnxBus

/-- Length of the header of both messages. -/
def tunnelHeader : UInt8 := 4

/-- Carries a frame within a channel. -/
structure TunnelRequest where
  /-- The number of the channel. -/
  channel : UInt8
  /-- The number of the frame. -/
  sequence : UInt8
  /-- The frame in external framing. -/
  message : Octets
  deriving DecidableEq, Repr

namespace TunnelRequest

/-- The datagram. -/
def toPacket (r : TunnelRequest) : Packet :=
  ⟨.tunnelRequest, tunnelHeader :: r.channel :: r.sequence :: 0 :: r.message⟩

/-- Reads the request from a datagram; there must be two octets of message at least. -/
def ofPacket (p : Packet) : Except DecodeError TunnelRequest := do
  p.expect .tunnelRequest
  match p.body with
  | header :: channel :: sequence :: _ :: message =>
    if message.length < 2 then throw .endOfInput
    if header ≠ tunnelHeader then throw .invalidValue
    return ⟨channel, sequence, message⟩
  | _ => throw .endOfInput

end TunnelRequest

/-- Acknowledges a frame within a channel. -/
structure TunnelAck where
  /-- The number of the channel. -/
  channel : UInt8
  /-- The number of the frame. -/
  sequence : UInt8
  /-- Whether the frame was taken. -/
  status : UInt8
  deriving DecidableEq, Repr

namespace TunnelAck

/-- The datagram. -/
def toPacket (a : TunnelAck) : Packet :=
  ⟨.tunnelResponse, [tunnelHeader, a.channel, a.sequence, a.status]⟩

/-- Reads the acknowledgement from a datagram. -/
def ofPacket (p : Packet) : Except DecodeError TunnelAck := do
  p.expect .tunnelResponse
  match p.body with
  | [header, channel, sequence, status] =>
    if header ≠ tunnelHeader then throw .invalidValue
    return ⟨channel, sequence, status⟩
  | _ => throw .invalidLength

end TunnelAck
end KnxBus
