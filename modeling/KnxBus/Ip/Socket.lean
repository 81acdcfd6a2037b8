import KnxBus.Ip.Filter
import KnxBus.Ip.Host
import KnxBus.Ip.Packet
import KnxBus.Medium.Error

/-!
# Sockets

A socket takes in whatever arrives at its port.  Octets beyond the size of its buffer are lost, what
is no datagram of the protocol is dropped, and of the rest only what its filter accepts goes on.  An
arrival may also be a failure of the host; the socket then rests for a while, and what arrives
meanwhile waits.

Sending leaves no trace in the socket.  A component therefore only says what it wants to send, and
`Outgoing.datagram` says what becomes of it.
-/

namespace KnxBus

/-- A datagram that is to be sent. -/
structure Outgoing where
  /-- The datagram. -/
  packet : Packet
  /-- Where it goes. -/
  destination : Endpoint
  deriving DecidableEq, Repr

namespace Outgoing

/-- The octets that leave the host, or why none do. -/
def datagram (o : Outgoing) : Except LinkError Octets :=
  match o.packet.toOctets with
  | .error cause => .error (.encode cause)
  | .ok octets => if Host.reaches o.destination.ip then .ok octets else .error .io

/-- What leaves the host of all that is to be sent, each with its destination; what cannot be sent
is dropped. -/
def datagrams (out : List Outgoing) : List (Endpoint × Octets) :=
  out.filterMap fun o =>
    match o.datagram with
    | .ok octets => some (o.destination, octets)
    | .error _ => none

/-- A message to be sent, if it could be written. -/
def ofBuilt (destination : Endpoint) : Except EncodeError Packet → List Outgoing
  | .ok packet => [⟨packet, destination⟩]
  | .error _ => []

end Outgoing

/-- A datagram that has been accepted. -/
structure Received where
  /-- The datagram. -/
  packet : Packet
  /-- Where it came from. -/
  sender : Endpoint
  deriving DecidableEq, Repr

/-- What happens at a socket. -/
inductive Arrival where
  /-- Octets arrive. -/
  | octets (content : Octets) (sender : Endpoint)
  /-- The host fails to receive. -/
  | failure
  deriving DecidableEq, Repr

/-- A socket. -/
structure UdpSocket where
  /-- The port it is bound to. -/
  port : UInt16
  /-- Whose datagrams it takes. -/
  filter : SourceFilter
  /-- What has happened and not been looked at, oldest first. -/
  arrivals : List Arrival
  /-- The time until which it rests. -/
  restsUntil : Nat
  deriving DecidableEq, Repr

namespace UdpSocket

/-- A socket that nothing has happened at. -/
def bound (port : UInt16) (filter : SourceFilter) : UdpSocket := ⟨port, filter, [], 0⟩

/-- How long a socket rests after a failure. -/
def rest : Nat := 50

/-- Something happens at a socket. -/
def arrive (s : UdpSocket) (a : Arrival) : UdpSocket := { s with arrivals := s.arrivals ++ [a] }

/-- What a socket makes of octets. -/
def accept (s : UdpSocket) (content : Octets) (sender : Endpoint) : List Received :=
  match Packet.decode (content.take Packet.maxReceived) with
  | .ok packet => if s.filter.accepts (.v4 sender) then [⟨packet, sender⟩] else []
  | .error _ => []

/-- Looks at arrivals until none is left or one is a failure. -/
def drain (s : UdpSocket) (now : Nat) : List Arrival → List Received × UdpSocket
  | [] => ([], { s with arrivals := [] })
  | .octets content sender :: later =>
    let (received, s') := drain s now later
    (s.accept content sender ++ received, s')
  | .failure :: later => ([], { s with arrivals := later, restsUntil := now + rest })

/-- What a socket has to give at a time. -/
def pump (s : UdpSocket) (now : Nat) : List Received × UdpSocket :=
  if now < s.restsUntil then ([], s) else s.drain now s.arrivals

/-- When a resting socket goes on, if something waits for it. -/
def nextDeadline? (s : UdpSocket) : Option Nat :=
  if s.arrivals.isEmpty then none else some s.restsUntil

/-- The lowest free port, of those that a host gives out by itself. -/
def freePort (inUse : List UInt16) : UInt16 :=
  (((List.range (inUse.length + 1)).map fun n => UInt16.ofNat (50000 + n)).find?
    fun port => !inUse.contains port).getD 50000

/-- The port that a socket gets: the one it wants, if nobody has it, or a free one, if it wants
none in particular. -/
def claim (inUse : List UInt16) (wanted : UInt16) : Except LinkError UInt16 :=
  if wanted = 0 then .ok (freePort inUse)
  else if inUse.contains wanted then .error .io
  else .ok wanted

end UdpSocket
end KnxBus
