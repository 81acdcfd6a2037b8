import KnxBus.Ip.Address
import KnxBus.Octets.Encoding
import KnxBus.Octets.Reader

/-!
# Endpoints

An endpoint is an address with a port.  Inside messages it stands as a block of eight octets: the
length of the block, the transport (only datagrams are known), address and port.
-/

namespace KnxBus

/-- An address of version 4 with a port. -/
structure Endpoint where
  /-- The address. -/
  ip : Ipv4
  /-- The port. -/
  port : UInt16
  deriving DecidableEq, Repr

namespace Endpoint

/-- The endpoint that names nothing. -/
def unspecified : Endpoint := ⟨.unspecified, 0⟩

instance : Inhabited Endpoint := ⟨unspecified⟩

/-- An endpoint in text, `10.0.0.1:3671`. -/
def text (e : Endpoint) : String := e.ip.text ++ ":" ++ Number.text e.port.toNat

/-- Length of the block in a message. -/
def blockLength : Nat := 8

/-- How an endpoint is written into a message. -/
def encode (e : Endpoint) : Encoding :=
  .octet 8 ++ .octet 1 ++ .octets e.ip.octets ++ .word e.port

/-- How an address is read from a message. -/
def readAddress : Reading Ipv4 := do
  return ⟨← Reader.octet, ← Reader.octet, ← Reader.octet, ← Reader.octet⟩

/-- How an endpoint is read from a message. -/
def reading : Reading Endpoint := do
  Reader.require ((← Reader.octet) == 8) .invalidValue
  Reader.require ((← Reader.octet) == 1) .invalidValue
  return ⟨← readAddress, ← Reader.word⟩

end Endpoint

/-! ## Senders of datagrams -/

/-- The address that a datagram comes from. -/
inductive SocketAddress where
  /-- Version 4. -/
  | v4 (endpoint : Endpoint)
  /-- Version 6, with the number of the interface it is local to. -/
  | v6 (ip : Ipv6) (scope : Nat) (port : UInt16)
  deriving DecidableEq, Repr

namespace SocketAddress

/-- A port: digits only, zeros in front welcome. -/
def readPort? (cs : List Char) : Option UInt16 :=
  match Number.digits? cs with
  | some n => if n < 65536 then some (UInt16.ofNat n) else none
  | none => none

/-- An address of version 6 with the number of an interface behind a percent sign, if there is
one. -/
def readScoped? (cs : List Char) : Option (Ipv6 × Nat) :=
  match Blank.split '%' cs with
  | [ip] => (Ipv6.parse? ip).map fun ip => (ip, 0)
  | [ip, scope] =>
    match Ipv6.parse? ip, Number.digits? scope with
    | some ip, some scope => if scope < 4294967296 then some (ip, scope) else none
    | _, _ => none
  | _ => none

/-- Reads `a.b.c.d:port` or `[v6]:port`. -/
def parse? (cs : List Char) : Option SocketAddress :=
  match cs with
  | '[' :: rest =>
    match Blank.split ']' rest with
    | [inside, ':' :: port] =>
      match readScoped? inside, readPort? port with
      | some (ip, scope), some port => some (.v6 ip scope port)
      | _, _ => none
    | _ => none
  | _ =>
    match Blank.split ':' cs with
    | [ip, port] =>
      match Ipv4.parse? ip, readPort? port with
      | some ip, some port => some (.v4 ⟨ip, port⟩)
      | _, _ => none
    | _ => none

end SocketAddress

/-- Reads `a.b.c.d:port`. -/
def Endpoint.parse? (cs : List Char) : Option Endpoint :=
  match SocketAddress.parse? cs with
  | some (.v4 e) => some e
  | _ => none

end KnxBus
