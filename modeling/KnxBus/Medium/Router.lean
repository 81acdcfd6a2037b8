import KnxBus.Cemi
import KnxBus.Ip.Socket
import KnxBus.Medium.Monitor
import KnxBus.Medium.Url

/-!
# The routing medium

Routers on an IP network form one bus by sending each frame to a multicast group as an indication.
The sender is in the group as well, so its own datagrams come back and are filtered out by their
source.  Whatever else is sent to the group is ignored.

Datagrams are looked at only when something is taken from the medium; whether it monitors the bus at
that moment decides what they are reported as.
-/

namespace KnxBus

/-- How a router is set up. -/
structure RouterConfig where
  /-- The multicast group, or a single peer. -/
  multicast : Ipv4
  /-- The port that frames are sent to. -/
  port : UInt16
  /-- The port that frames are received at. -/
  listenPort : UInt16
  /-- The address of this device. -/
  address : IndividualAddress
  deriving DecidableEq, Repr

/-- The usual set-up. -/
def RouterConfig.usual : RouterConfig :=
  ⟨MediumUrl.defaultMulticast, MediumUrl.defaultPort, MediumUrl.defaultPort, ⟨1⟩⟩

/-- A medium that routes frames through a multicast group. -/
structure Router where
  /-- Where frames are sent. -/
  target : Endpoint
  /-- The address of this device. -/
  address : IndividualAddress
  /-- The socket, until the router is stopped. -/
  socket : Option UdpSocket
  /-- Datagrams that have not been looked at, oldest first. -/
  received : List Received
  /-- What they have been reported as and has not been taken. -/
  inbox : List Lpdu
  /-- Whether it reports captures. -/
  mode : MonitorMode
  deriving DecidableEq, Repr

namespace Router

/-- Joins a group on behalf of a host, if it is one.  The answer is the groups joined. -/
def join (host : Host) (group : Ipv4) : Except LinkError (List Ipv4) :=
  if Host.isMulticast group then
    if host.closedGroups.contains group then .error .io else .ok [group]
  else .ok []

/-- Opens a router.  The answer comes with the multicast groups joined. -/
def bind (host : Host) (inUse : List UInt16) (config : RouterConfig) :
    Except LinkError (Router × List Ipv4) := do
  let port ← UdpSocket.claim inUse config.listenPort
  let joined ← join host config.multicast
  match host.sourceFor? config.multicast with
  | none => throw .io
  | some source =>
    return (
      { target := ⟨config.multicast, config.port⟩
        address := config.address
        socket := some (.bound port (.allBut (.v4 ⟨source, port⟩)))
        received := []
        inbox := []
        mode := .off },
      joined)

/-- Where the socket is bound. -/
def localEndpoint (r : Router) : Except LinkError Endpoint :=
  match r.socket with
  | some socket => .ok ⟨.unspecified, socket.port⟩
  | none => .error .stopped

/-- Stops the router.  What has been received can still be taken. -/
def stop (r : Router) : Router := { r with socket := none }

/-- Whether the router has been stopped. -/
def isStopped (r : Router) : Bool := r.socket.isNone

/-- Sends a frame: what leaves the host, or why nothing does. -/
def send (r : Router) (frame : Frame) : Except LinkError (Outgoing × Octets) :=
  if r.isStopped then .error .stopped
  else
    match (Cemi.mk .indication frame).toOctets with
    | .error cause => .error (.encode cause)
    | .ok message =>
      let out : Outgoing := ⟨⟨.routingIndication, message⟩, r.target⟩
      match out.datagram with
      | .ok octets => .ok (out, octets)
      | .error cause => .error cause

/-- What a datagram is reported as. -/
def report (mode : MonitorMode) (p : Packet) : List Lpdu :=
  if p.service = .routingIndication ∧ p.body.head? = some MessageCode.indication.octet then
    match Cemi.decode p.body with
    | .ok message => mode.framesFor message.frame false
    | .error _ => []
  else []

/-- Takes from datagrams the first thing that one of them is reported as. -/
def receiveFrom? (mode : MonitorMode) : List Received → Option (Lpdu × List Lpdu × List Received)
  | [] => none
  | first :: later =>
    match report mode first.packet with
    | [] => receiveFrom? mode later
    | heard :: more => some (heard, more, later)

/-- Takes what was received first.  Datagrams that are reported as nothing are gone once somebody
has looked behind them. -/
def receive (r : Router) : Option Lpdu × Router :=
  match r.inbox with
  | heard :: more => (some heard, { r with inbox := more })
  | [] =>
    match receiveFrom? r.mode r.received with
    | some (heard, more, later) => (some heard, { r with inbox := more, received := later })
    | none => (none, { r with received := [] })

end Router
end KnxBus
