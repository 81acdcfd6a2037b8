import KnxBus.Frame

/-!
# Routes

A subscription says which frames it wants.  Group address zero stands for every group, individual
address zero on the receiving side for this device, on the sending side for any sender.  The frames
that are matched have had the address of this device replaced by zero already, so a route never has
to know it.
-/

namespace KnxBus

/-- Whether a subscription to frames from a peer keeps others from that peer. -/
inductive PeerLock where
  /-- It does not. -/
  | shared
  /-- It does: a connection talks to the peer. -/
  | exclusive
  deriving DecidableEq, Repr

/-- The frames that a subscription wants. -/
inductive Route where
  /-- Frames to everybody. -/
  | broadcast
  /-- Frames to a group, or to any group but the broadcast one. -/
  | group (address : GroupAddress)
  /-- Frames from a sender, or any, to an individual address. -/
  | individual (source destination : IndividualAddress) (lock : PeerLock)
  deriving DecidableEq, Repr

namespace Route

/-- Whether a route wants a frame. -/
def accepts (route : Route) (frame : Frame) : Bool :=
  match route, frame.destination with
  | broadcast, .group g => g.isBroadcast
  | group wanted, .group g => !g.isBroadcast && (wanted.isBroadcast || wanted == g)
  | individual source destination _, .individual d =>
    destination == d && (source.isUnset || source == frame.source)
  | _, _ => false

end Route

/-- A frame as routes see it: the address of this device is replaced by zero. -/
def Frame.seenFrom (frame : Frame) (own : IndividualAddress) : Frame :=
  if frame.destination = .individual own then { frame with destination := .individual .unset }
  else frame

end KnxBus
