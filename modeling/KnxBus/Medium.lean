import KnxBus.Medium.Command
import KnxBus.Medium.Loopback
import KnxBus.Medium.Router
import KnxBus.Medium.Tunnel

/-!
# Media

Whatever carries frames can be told to start and to finish, to monitor, and which addresses to take;
frames can be sent to it and taken from it.  The three media differ in what they refuse: none has
address filters, but only the tunnel says so, and only for individual addresses.
-/

namespace KnxBus

/-- A medium. -/
inductive Medium where
  /-- A bus within the process. -/
  | loopback (medium : Loopback)
  /-- A bus made by routers. -/
  | router (medium : Router)
  /-- A bus behind a gateway. -/
  | tunnel (medium : Tunnel)
  deriving DecidableEq, Repr

namespace Medium

/-- Opens the medium that a text names.  The address is that of this device, where the medium does
not give one itself.  The answer comes with the multicast groups joined. -/
def ofUrl (host : Host) (address : IndividualAddress) :
    MediumUrl → Except LinkError (Medium × List Ipv4)
  | .loopback => .ok (loopback (.ofAddress address), [])
  | .routing multicast port =>
    (Router.bind host [] ⟨multicast, port, port, address⟩).map fun (r, joined) =>
      (router r, joined)
  | .tunnel gateway localPort =>
    (Tunnel.connect host [] gateway { TunnelConfig.usual with localPort := localPort } 0).map
      fun t => (tunnel t, [])

/-- Changes the switches of a medium. -/
def mapMode (f : MonitorMode → MonitorMode) : Medium → Medium
  | loopback m => loopback { m with mode := f m.mode }
  | router m => router { m with mode := f m.mode }
  | tunnel m => tunnel { m with mode := f m.mode }

/-- What a medium says to a command. -/
def verdict : Medium → Command → Except LinkError Unit
  | tunnel _, .addAddress _ | tunnel _, .removeAddress _ =>
    .error (.unsupported "individual address filter")
  | _, _ => .ok ()

/-- What a command that is obeyed does to a medium. -/
def obey (m : Medium) : Command → Medium
  | .enterBusmonitor => m.mapMode fun mode => { mode with busmonitor := true }
  | .leaveBusmonitor => m.mapMode fun mode => { mode with busmonitor := false }
  | .openVirtualMonitor => m.mapMode fun mode => { mode with virtualMonitor := true }
  | .closeVirtualMonitor => m.mapMode fun mode => { mode with virtualMonitor := false }
  | _ => m

/-- Gives a command. -/
def command (m : Medium) (c : Command) : Except LinkError Medium :=
  match m.verdict c with
  | .ok () => .ok (m.obey c)
  | .error e => .error e

/-- A datagram that has left the host: where it went, and its octets. -/
abbrev Datagram := Endpoint × Octets

/-- Sends a frame: the medium afterwards and what left the host at once. -/
def send : Medium → Frame → Except LinkError (Medium × List Datagram)
  | loopback m, frame =>
    match m.send frame with
    | .ok m' => .ok (loopback m', [])
    | .error e => .error e
  | router m, frame =>
    match m.send frame with
    | .ok (out, octets) => .ok (router m, [(out.destination, octets)])
    | .error e => .error e
  | tunnel m, frame => .ok (tunnel (m.send frame), [])

/-- Takes what was received first. -/
def receive : Medium → Option Lpdu × Medium
  | loopback m => (m.receive.1, loopback m.receive.2)
  | router m => (m.receive.1, router m.receive.2)
  | tunnel m => (m.receive.1, tunnel m.receive.2)

/-- Takes all that was received, oldest first. -/
def takeAll : Medium → List Lpdu × Medium
  | loopback m => (m.inbox, loopback { m with inbox := [] })
  | router m =>
    (m.inbox ++ m.received.flatMap fun r => Router.report m.mode r.packet,
      router { m with inbox := [], received := [] })
  | tunnel m => (m.inbox, tunnel { m with inbox := [] })

/-- The address of this device on the bus. -/
def address : Medium → IndividualAddress
  | loopback m => m.address
  | router m => m.address
  | tunnel m => m.address

/-- Whether the medium is gone. -/
def isLost : Medium → Bool
  | loopback m => m.lost
  | router m => m.isStopped
  | tunnel _ => false

/-- Whether nothing waits to be sent. -/
def sendQueueEmpty : Medium → Bool
  | loopback _ => true
  | router _ => true
  | tunnel m => m.sendQueueEmpty

/-! ## What a medium does by itself -/

/-- The socket of a medium on the network. -/
def socket? : Medium → Option UdpSocket
  | loopback _ => none
  | router m => m.socket
  | tunnel m => some m.socket

/-- Something happens at the socket of a medium. -/
def arrive (a : Arrival) : Medium → Medium
  | loopback m => loopback m
  | router m => router { m with socket := m.socket.map (·.arrive a) }
  | tunnel m => tunnel { m with socket := m.socket.arrive a }

/-- Takes in what has arrived at the socket. -/
def pump (m : Medium) (now : Nat) : Medium :=
  match m with
  | loopback m => loopback m
  | router m =>
    match m.socket with
    | none => router m
    | some socket =>
      let (received, socket') := socket.pump now
      router { m with socket := some socket', received := m.received ++ received }
  | tunnel m => tunnel (m.pump now)

/-- Whether a turn of the loop inside the medium is due. -/
def isDue (m : Medium) (now : Nat) : Bool :=
  match m with
  | tunnel m => m.isDue now
  | _ => false

/-- One turn of the loop inside the medium. -/
def turn (m : Medium) (now : Nat) : Medium × List Outgoing :=
  match m with
  | tunnel m => (tunnel (m.turn now).1, (m.turn now).2)
  | _ => (m, [])

/-- When the medium does something even if nothing comes. -/
def deadlines (m : Medium) : List Nat :=
  (m.socket?.bind UdpSocket.nextDeadline?).toList ++
    match m with
    | tunnel m => [m.nextDeadline]
    | _ => []

/-- The medium is given up: what its loop sends at its end. -/
def farewell : Medium → List Outgoing
  | tunnel m => m.finish.2
  | _ => []

end Medium
end KnxBus
