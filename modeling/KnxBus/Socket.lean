import KnxBus.Dispatch.Error
import KnxBus.Dispatch.Route
import KnxBus.Signal.Mailbox
import KnxBus.Tpdu

/-!
# Sockets without connections

A socket subscribes to one kind of frames and queues what it makes of each, its *image*.  Most kinds
carry application layer octets in unnumbered data units and ignore every other unit; a raw socket
carries transport layer units as they are.

The queue is bounded.  Who reads too slowly loses the oldest items, never the newest.  When the
medium is lost the socket is told to end: what is queued can still be read, and after that reading
gives nothing at once instead of waiting.
-/

namespace KnxBus

/-- The kinds of sockets. -/
inductive SocketKind where
  /-- To everybody. -/
  | broadcast
  /-- To and from one group. -/
  | group (address : GroupAddress)
  /-- To and from one device. -/
  | individual (peer : IndividualAddress)
  /-- Transport layer units to an individual address, zero for this device. -/
  | raw (own : IndividualAddress)
  /-- From every group. -/
  | allGroups
  deriving DecidableEq, Repr

namespace SocketKind

/-- The frames that a socket of a kind subscribes to. -/
def route : SocketKind → Route
  | broadcast => .broadcast
  | group g => .group g
  | individual peer => .individual peer .unset .shared
  | raw own => .individual .unset own .shared
  | allGroups => .group .broadcast

end SocketKind

/-- What a socket queues of a frame. -/
structure SocketItem where
  /-- Application layer octets, or a transport layer unit on a raw socket. -/
  data : Octets
  /-- The sender. -/
  source : IndividualAddress
  /-- The receiver, as the socket saw it. -/
  destination : Destination
  deriving DecidableEq, Repr

/-- The application layer octets of a frame that carries unnumbered data. -/
def Frame.unnumbered? (frame : Frame) : Option Octets :=
  match Tpdu.decode frame.payload with
  | .ok (.dataUnnumbered apdu) => some apdu
  | _ => none

/-- What a socket of a kind makes of a frame; nothing, if the frame is not for it. -/
def SocketKind.image? (kind : SocketKind) (frame : Frame) : Option SocketItem :=
  match kind with
  | raw _ => some ⟨frame.payload, frame.source, frame.destination⟩
  | allGroups =>
    if frame.destination.isGroup then
      frame.unnumbered?.map fun apdu => ⟨apdu, frame.source, frame.destination⟩
    else none
  | _ => frame.unnumbered?.map fun apdu => ⟨apdu, frame.source, frame.destination⟩

/-- A socket. -/
structure Socket where
  /-- What it is for. -/
  kind : SocketKind
  /-- The number of its subscription; a socket that is only written to has none. -/
  registration : Option Nat
  /-- What has been received and not been read. -/
  queue : Mailbox SocketItem
  /-- The flags that its reader waits for. -/
  flags : Flags
  deriving DecidableEq, Repr

namespace Socket

/-- The flag that is up while something is queued. -/
def ready : Flag := Flag.ofNat 1

/-- How many items are kept for the reader. -/
def depth : Nat := 256

/-- A socket that receives under a subscription. -/
def readable (kind : SocketKind) (registration : Nat) : Socket :=
  ⟨kind, some registration, .bounded ready depth, .none⟩

/-- A socket that is only written to. -/
def writeOnly (kind : SocketKind) : Socket := ⟨kind, none, .unbounded ready, .none⟩

/-- A frame is handed to the socket. -/
def deliver (s : Socket) (frame : Frame) : Socket :=
  match s.kind.image? frame with
  | none => s
  | some item =>
    let (queue, flags, _) := s.queue.push s.flags item
    { s with queue := queue, flags := flags }

/-- The medium is lost. -/
def lose (s : Socket) : Socket := { s with flags := s.flags.raise .stop }

/-- Takes the oldest item. -/
def take (s : Socket) : Option SocketItem × Socket :=
  let (item, queue, flags) := s.queue.pop s.flags
  (item, { s with queue := queue, flags := flags })

/-- Whether nothing will be received any more. -/
def isEnded (s : Socket) : Bool := s.flags.isStopped

/-- A frame that carries application layer octets. -/
def dataFrame (destination : Destination) (apdu : Octets) : Except DispatchError Frame :=
  match (Tpdu.dataUnnumbered apdu).toOctets with
  | .ok payload => .ok (.addressed destination payload)
  | .error cause => .error (.encode cause)

/-- The frame that sending on a socket gives to the dispatcher.  Only the kinds without a receiver
of their own look at the target. -/
def frame (s : Socket) (data : Octets) (target : UInt16) : Except DispatchError Frame :=
  match s.kind with
  | .broadcast => dataFrame (.group .broadcast) data
  | .group g => dataFrame (.group g) data
  | .individual peer => dataFrame (.individual peer) data
  | .raw _ => .ok (.addressed (.individual ⟨target⟩) data)
  | .allGroups => dataFrame (.group ⟨target⟩) data

end Socket
end KnxBus
