import KnxBus.Connection
import KnxBus.Gateway
import KnxBus.GroupCache
import KnxBus.Socket

/-!
# The parts of a station

Everything that takes part in the bus through one dispatcher is a part: a bare registration, a
socket, a connection, a group cache, a gateway.  Seen from outside they are alike.  A part has
registrations, is handed frames and the news that the medium is lost, takes turns if it is a loop,
and can be closed.  What a turn or the end of a part does to the rest of the world is a list of
effects.
-/

namespace KnxBus

/-- What a part does to the rest of the world. -/
inductive Effect where
  /-- It gives a frame to the dispatcher. -/
  | transmit (frame : Frame)
  /-- It gives up a registration. -/
  | leave (registration : Nat)
  /-- It sends a datagram. -/
  | datagram (out : Outgoing)
  /-- It answers a reader. -/
  | answer (reader : Nat) (entry : CacheEntry)
  /-- It gives a reader all entries. -/
  | list (reader : Nat) (entries : List CacheEntry)
  deriving DecidableEq, Repr

/-- A part of a station. -/
inductive Part where
  /-- A bare registration. -/
  | listener (registration : Nat)
  /-- A socket. -/
  | socket (socket : Socket)
  /-- A connection. -/
  | connection (connection : Connection)
  /-- A group cache. -/
  | cache (cache : GroupCache)
  /-- A gateway. -/
  | gateway (gateway : Gateway)
  deriving DecidableEq, Repr

namespace Part

/-- The registrations of a part.  A connection that has closed has given up its own. -/
def registrations : Part → List Nat
  | listener registration => [registration]
  | socket s => s.registration.toList
  | connection c => if c.isClosed then [] else [c.registration]
  | cache c => c.registration.toList
  | gateway g => g.registrations

/-! ## What comes to a part -/

/-- A frame is handed to a part. -/
def deliver (now : Nat) (frame : Frame) : Part → Part
  | listener r => listener r
  | socket s => socket (s.deliver frame)
  | connection c => connection (c.deliver frame)
  | cache c => cache (c.deliver now frame)
  | gateway g => gateway (g.deliver frame)

/-- The medium is lost.  A cache goes on with what it has. -/
def lose : Part → Part
  | listener r => listener r
  | socket s => socket s.lose
  | connection c => connection c.stop
  | cache c => cache c
  | gateway g => gateway g.stop

/-- The socket of a part on the network. -/
def udpSocket? : Part → Option UdpSocket
  | gateway g => some g.socket
  | _ => none

/-- Something happens at the socket of a part. -/
def arrive (a : Arrival) : Part → Part
  | gateway g => gateway { g with socket := g.socket.arrive a }
  | other => other

/-- Takes in what has arrived at the socket. -/
def pump (now : Nat) : Part → Part
  | gateway g => gateway (g.pump now)
  | other => other

/-! ## Turns -/

/-- Whether a turn is due. -/
def isDue (now : Nat) : Part → Bool
  | listener _ | socket _ => false
  | connection c => c.isDue now
  | cache c => c.isDue now
  | gateway g => g.isDue now

/-- When something is due even if nothing comes. -/
def deadlines : Part → List Nat
  | listener _ | socket _ => []
  | connection c => if c.isClosed then [] else [c.nextDeadline]
  | cache c => c.deadlines
  | gateway g => g.deadlines ++ g.socket.nextDeadline?.toList

/-- Frames that are given to the dispatcher. -/
def transmitAll (frames : List Frame) : List Effect := frames.map .transmit

/-- What a cache does. -/
def ofCacheAction : CacheAction → List Effect
  | .ask g =>
    match GroupCache.question g with
    | .ok frame => [.transmit frame]
    | .error _ => []
  | .answer reader entry => [.answer reader entry]
  | .list reader entries => [.list reader entries]

/-- What a gateway does. -/
def ofGatewayAction : GatewayAction → Effect
  | .datagram out => .datagram out
  | .forward frame => .transmit frame

/-- One turn.  A connection that closes in it leaves. -/
def turn (accepts : Frame → Bool) (now : Nat) : Part → Part × List Effect
  | connection c =>
    let (c', sent) := c.turn accepts now
    (connection c', transmitAll sent ++ if c'.isClosed then [.leave c.registration] else [])
  | cache c =>
    let (c', done) := c.turn now
    (cache c', done.flatMap ofCacheAction)
  | gateway g =>
    let (g', done) := g.turn now
    (gateway g', done.map ofGatewayAction)
  | other => (other, [])

/-! ## The end of a part -/

/-- What the end of a part does.  A loop that has ended before does nothing more. -/
def close (now : Nat) : Part → List Effect
  | listener r => [.leave r]
  | socket s => s.registration.toList.map .leave
  | connection c =>
    if c.isClosed then [] else transmitAll c.finish.2 ++ [.leave c.registration]
  | cache c => c.registration.toList.map .leave ++ (c.finish now).flatMap ofCacheAction
  | gateway g =>
    g.registrations.map .leave ++ if g.isEnded then [] else g.finish.2.map .datagram

end Part
end KnxBus
