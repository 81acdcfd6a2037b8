import KnxBus.Octets.Encoding

/-!
# Datagrams

A datagram is a header and the body of one service.  The header has six octets: its own length, the
version of the protocol, the code of the service and the length of the whole datagram.  A datagram
is accepted only if that length is exactly the number of octets that arrived, so no datagram can be
mistaken for the beginning of another.
-/

namespace KnxBus

/-- The services of the protocol. -/
inductive Service where
  | searchRequest
  | searchResponse
  | descriptionRequest
  | descriptionResponse
  | connectRequest
  | connectResponse
  | stateRequest
  | stateResponse
  | disconnectRequest
  | disconnectResponse
  | configurationRequest
  | configurationResponse
  | tunnelRequest
  | tunnelResponse
  | routingIndication
  /-- Any other code. -/
  | unknown (code : UInt16)
  deriving DecidableEq, Repr

namespace Service

/-- The service with the given code. -/
def ofWord (code : UInt16) : Service :=
  match code with
  | 0x0201 => searchRequest
  | 0x0202 => searchResponse
  | 0x0203 => descriptionRequest
  | 0x0204 => descriptionResponse
  | 0x0205 => connectRequest
  | 0x0206 => connectResponse
  | 0x0207 => stateRequest
  | 0x0208 => stateResponse
  | 0x0209 => disconnectRequest
  | 0x020a => disconnectResponse
  | 0x0310 => configurationRequest
  | 0x0311 => configurationResponse
  | 0x0420 => tunnelRequest
  | 0x0421 => tunnelResponse
  | 0x0530 => routingIndication
  | other => unknown other

/-- The code of a service. -/
def word : Service → UInt16
  | searchRequest => 0x0201
  | searchResponse => 0x0202
  | descriptionRequest => 0x0203
  | descriptionResponse => 0x0204
  | connectRequest => 0x0205
  | connectResponse => 0x0206
  | stateRequest => 0x0207
  | stateResponse => 0x0208
  | disconnectRequest => 0x0209
  | disconnectResponse => 0x020a
  | configurationRequest => 0x0310
  | configurationResponse => 0x0311
  | tunnelRequest => 0x0420
  | tunnelResponse => 0x0421
  | routingIndication => 0x0530
  | unknown code => code

/-- The name of a service; an unknown one is named by its code in decimal. -/
def name : Service → String
  | searchRequest => "SearchRequest"
  | searchResponse => "SearchResponse"
  | descriptionRequest => "DescriptionRequest"
  | descriptionResponse => "DescriptionResponse"
  | connectRequest => "ConnectionRequest"
  | connectResponse => "ConnectionResponse"
  | stateRequest => "ConnectionStateRequest"
  | stateResponse => "ConnectionStateResponse"
  | disconnectRequest => "DisconnectRequest"
  | disconnectResponse => "DisconnectResponse"
  | configurationRequest => "DeviceConfigurationRequest"
  | configurationResponse => "DeviceConfigurationResponse"
  | tunnelRequest => "TunnelRequest"
  | tunnelResponse => "TunnelResponse"
  | routingIndication => "RoutingIndication"
  | unknown code => "Unknown(" ++ Number.text code.toNat ++ ")"

end Service

/-- A datagram: a service and its body. -/
structure Packet where
  /-- What the datagram is about. -/
  service : Service
  /-- The octets behind the header. -/
  body : Octets
  deriving DecidableEq, Repr

namespace Packet

/-- Length of the header. -/
def headerLength : Nat := 6

/-- The largest datagram that is received whole. -/
def maxReceived : Nat := 512

/-- How many octets a datagram has. -/
def encodedLength (p : Packet) : Nat := headerLength + p.body.length

/-- How a datagram is written. -/
def encode (p : Packet) : Encoding :=
  .require (p.encodedLength < 65536) .invalidLength ++ .octet 0x06 ++ .octet 0x10 ++
    .word p.service.word ++ .word (UInt16.ofNat p.encodedLength) ++ .octets p.body

/-- The octets of a datagram, or why it has none. -/
def toOctets (p : Packet) : Except EncodeError Octets := p.encode.toOctets p.encodedLength

/-- Takes apart what follows the first two octets of a datagram of `total` octets. -/
def decodeBody (total : Nat) : Octets → Except DecodeError Packet
  | serviceHi :: serviceLo :: totalHi :: totalLo :: body =>
    if (Octets.word totalHi totalLo).toNat = total then
      .ok ⟨.ofWord (Octets.word serviceHi serviceLo), body⟩
    else .error .invalidLength
  | _ => .error .endOfInput

/-- Decodes a datagram. -/
def decode (b : Octets) : Except DecodeError Packet :=
  match b with
  | [] => .error .endOfInput
  | size :: rest =>
    if size ≠ 0x06 then .error .invalidValue
    else
      match rest with
      | [] => .error .endOfInput
      | version :: rest =>
        if version ≠ 0x10 then .error .invalidValue else decodeBody b.length rest

/-- The datagram whose body an encoder writes; `length` is the number of octets that the body is
known to have. -/
def build (service : Service) (body : Encoding) (length : Nat) : Except EncodeError Packet :=
  match body.toOctets length with
  | .ok octets => .ok ⟨service, octets⟩
  | .error e => .error e

/-- Refuses a datagram of another service. -/
def expect (p : Packet) (service : Service) : Except DecodeError Unit :=
  if p.service = service then .ok () else .error .invalidValue

end Packet
end KnxBus
