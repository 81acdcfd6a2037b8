import KnxBus.Ip.Endpoint
import KnxBus.Ip.Packet

/-!
# Keeping and closing a channel

Asking whether a channel is alive and closing it are the same message under two services, and so are
the two answers.
-/

namespace KnxBus

/-- Asks for the state of a channel or closes it, depending on the service. -/
structure ChannelRequest where
  /-- The number of the channel. -/
  channel : UInt8
  /-- Where the answer is wanted. -/
  control : Endpoint
  deriving DecidableEq, Repr

namespace ChannelRequest

/-- The datagram, if it can be written. -/
def toPacket (r : ChannelRequest) (service : Service) : Except EncodeError Packet :=
  Packet.build service (.octet r.channel ++ .octet 0 ++ r.control.encode) (2 + Endpoint.blockLength)

/-- Reads the request from a datagram of the given service. -/
def ofPacket (p : Packet) (service : Service) : Except DecodeError ChannelRequest := do
  p.expect service
  if p.body.length ≠ 2 + Endpoint.blockLength then throw .invalidLength
  Reader.run (do
    let channel ← Reader.octet
    Reader.skip 1
    return ⟨channel, ← Endpoint.reading⟩) p.body

end ChannelRequest

/-- The state of a channel, as an answer. -/
structure ChannelResponse where
  /-- The number of the channel. -/
  channel : UInt8
  /-- Whether all is well with it. -/
  status : UInt8
  deriving DecidableEq, Repr

namespace ChannelResponse

/-- The datagram. -/
def toPacket (r : ChannelResponse) (service : Service) : Packet := ⟨service, [r.channel, r.status]⟩

/-- Reads the response from a datagram of the given service. -/
def ofPacket (p : Packet) (service : Service) : Except DecodeError ChannelResponse := do
  p.expect service
  match p.body with
  | [channel, status] => return ⟨channel, status⟩
  | _ => throw .invalidLength

end ChannelResponse
end KnxBus
