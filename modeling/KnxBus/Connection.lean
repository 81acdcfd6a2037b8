import KnxBus.Dispatch.Error
import KnxBus.Dispatch.Route
import KnxBus.Tpdu

/-!
# Connections

A connection carries application layer octets to one device and back, each numbered modulo sixteen
and acknowledged.  At most one unit is outstanding.  It is sent again when its timer runs out or
when the peer refuses it, a limited number of times; a connection over which nothing has gone for
a while is closed.

## One turn

A connection is a loop that takes a *turn* whenever something has come to it or a timer is due.  A
turn looks at all frames that have come from the peer, then at the timers, then sends the next
unit if none is outstanding.  Any of these may find that the connection cannot go on; the rest of
the turn is then skipped and the connection *ends*: it tries to tell the peer, and nothing is sent
or delivered by it afterwards.

A turn says which frames it tries to send, in order.  Whether the dispatcher takes a frame is asked
of a function, since a connection cannot go on after a refusal.

## Numbers

A unit with the expected number is delivered and acknowledged.  A unit with the number before that
is one whose acknowledgement was lost, so it is acknowledged once more and not delivered.  Any
other number is an error.

## Deadlines

Times are natural numbers of milliseconds, and there is no last one.  Real clocks end some day, and a
connection with a timer so long that its deadline lies beyond the end fails when it sets it.  Such
timers are left out here.
-/

namespace KnxBus

/-- Timers, in milliseconds, and limits of a connection. -/
structure ConnectionConfig where
  /-- How long nothing may happen while no unit is outstanding. -/
  inactivity : Nat
  /-- How long an acknowledgement may take. -/
  retransmit : Nat
  /-- How often a unit is sent again at most. -/
  maxRetries : Nat
  deriving DecidableEq, Repr

/-- The usual timers and limits. -/
def ConnectionConfig.usual : ConnectionConfig := ⟨6000, 3000, 3⟩

/-- Whether a unit is outstanding. -/
inductive ConnectionPhase where
  /-- None is. -/
  | idle
  /-- One is: it has been sent again so many times, and has to be acknowledged before a time. -/
  | awaiting (apdu : Octets) (retries : Nat) (deadline : Nat)
  deriving DecidableEq, Repr

/-- A connection. -/
structure Connection where
  /-- Timers and limits. -/
  config : ConnectionConfig
  /-- The device at the other end. -/
  peer : IndividualAddress
  /-- The number of its subscription. -/
  registration : Nat
  /-- Whether a unit is outstanding. -/
  phase : ConnectionPhase
  /-- The number of the outstanding unit, or of the next one. -/
  sendNo : UInt8
  /-- The number of the unit that is expected. -/
  receiveNo : UInt8
  /-- The time at which the connection has been idle for too long. -/
  idleDeadline : Nat
  /-- Frames from the peer that have not been looked at, oldest first. -/
  incoming : List Frame
  /-- Units that wait to be sent, oldest first. -/
  outgoing : List Octets
  /-- Units that have been received and not been read, oldest first. -/
  delivered : List Octets
  /-- Whether the connection has been told to end. -/
  stopping : Bool
  /-- Whether it has ended, as others see it. -/
  isClosed : Bool
  /-- The number of the next unit, as others see it. -/
  shownSendNo : UInt8
  /-- The number of the expected unit, as others see it. -/
  shownReceiveNo : UInt8
  deriving DecidableEq, Repr

namespace Connection

/-- The number behind a number, modulo sixteen. -/
def nextNo (n : UInt8) : UInt8 := (n + 1) &&& 0x0f

/-- The number before a number, modulo sixteen. -/
def previousNo (n : UInt8) : UInt8 := (n + 15) &&& 0x0f

/-- The frames that a connection subscribes to.  Nobody else can hold the peer meanwhile. -/
def route (peer : IndividualAddress) : Route := .individual peer .unset .exclusive

/-- A frame to the peer that carries a unit. -/
def frameTo (peer : IndividualAddress) (unit : Tpdu) (priority : Priority) :
    Except DispatchError Frame :=
  match unit.toOctets with
  | .ok payload => .ok { Frame.addressed (.individual peer) payload with priority := priority }
  | .error cause => .error (.encode cause)

/-- A connection that has just been opened. -/
def start (config : ConnectionConfig) (peer : IndividualAddress) (registration now : Nat) :
    Connection :=
  { config := config
    peer := peer
    registration := registration
    phase := .idle
    sendNo := 0
    receiveNo := 0
    idleDeadline := now + config.inactivity
    incoming := []
    outgoing := []
    delivered := []
    stopping := false
    isClosed := false
    shownSendNo := 0
    shownReceiveNo := 0 }

/-! ## What others do -/

/-- A frame from the peer is handed to the connection. -/
def deliver (c : Connection) (frame : Frame) : Connection :=
  { c with incoming := c.incoming ++ [frame] }

/-- The connection is told to end, or the medium is lost. -/
def stop (c : Connection) : Connection := { c with stopping := true }

/-- Queues octets to be sent. -/
def put (c : Connection) (apdu : Octets) : Except DispatchError Connection :=
  if c.isClosed then .error .connectionClosed
  else .ok { c with outgoing := c.outgoing ++ [apdu] }

/-- Takes the octets that were received first. -/
def take (c : Connection) : Option Octets × Connection :=
  match c.delivered with
  | [] => (none, c)
  | first :: rest => (some first, { c with delivered := rest })

/-! ## Parts of a turn -/

/-- How far a turn has come. -/
structure Progress where
  /-- The connection so far. -/
  connection : Connection
  /-- The frames that it has tried to send. -/
  sent : List Frame
  /-- Whether the connection goes on. -/
  goesOn : Bool

/-- Goes on without having sent anything. -/
def goOn (c : Connection) : Progress := ⟨c, [], true⟩

/-- The connection cannot go on. -/
def giveUp (c : Connection) : Progress := ⟨c, [], false⟩

/-- Tries to send a unit; the connection goes on only if the dispatcher takes it. -/
def transmit (accepts : Frame → Bool) (unit : Tpdu) (c : Connection) : Progress :=
  match frameTo c.peer unit .low with
  | .ok frame => ⟨c, [frame], accepts frame⟩
  | .error _ => c.giveUp

/-- Goes on with the next part, unless the connection cannot go on. -/
def Progress.andThen (p : Progress) (next : Connection → Progress) : Progress :=
  if p.goesOn then
    let q := next p.connection
    { q with sent := p.sent ++ q.sent }
  else p

/-- Something has gone over the connection. -/
def refresh (now : Nat) (c : Connection) : Connection :=
  { c with idleDeadline := now + c.config.inactivity }

/-! ## Frames from the peer -/

/-- The expected unit is delivered. -/
def accept (apdu : Octets) (c : Connection) : Connection :=
  { c with
    delivered := c.delivered ++ [apdu]
    receiveNo := nextNo c.receiveNo
    shownReceiveNo := nextNo c.receiveNo }

/-- The peer sends a unit. -/
def onData (accepts : Frame → Bool) (now : Nat) (sequence : UInt8) (apdu : Octets)
    (c : Connection) : Progress :=
  if sequence = c.receiveNo then ((c.accept apdu).refresh now).transmit accepts (.ack sequence)
  else if sequence = previousNo c.receiveNo then (c.refresh now).transmit accepts (.ack sequence)
  else c.giveUp

/-- The peer acknowledges a unit. -/
def onAck (now : Nat) (sequence : UInt8) (c : Connection) : Progress :=
  match c.phase with
  | .awaiting _ _ _ =>
    if sequence = c.sendNo then
      goOn (refresh now
        { c with
          phase := .idle
          sendNo := nextNo c.sendNo
          shownSendNo := nextNo c.sendNo })
    else c.giveUp
  | .idle => c.giveUp

/-- The outstanding unit is sent once more. -/
def resend (accepts : Frame → Bool) (now : Nat) (apdu : Octets) (retries : Nat)
    (c : Connection) : Progress :=
  transmit accepts (.dataConnected c.sendNo apdu)
    { c with phase := .awaiting apdu (retries + 1) (now + c.config.retransmit) }

/-- The peer refuses a unit. -/
def onNack (accepts : Frame → Bool) (now : Nat) (sequence : UInt8) (c : Connection) : Progress :=
  match c.phase with
  | .awaiting apdu retries _ =>
    if sequence = c.sendNo ∧ retries < c.config.maxRetries then c.resend accepts now apdu retries
    else c.giveUp
  | .idle => c.giveUp

/-- A frame comes from the peer.  What is no unit, or no unit that belongs to a connection, is
ignored. -/
def onFrame (accepts : Frame → Bool) (now : Nat) (frame : Frame) (c : Connection) : Progress :=
  match Tpdu.decode frame.payload with
  | .ok (.dataConnected sequence apdu) => c.onData accepts now sequence apdu
  | .ok (.ack sequence) => c.onAck now sequence
  | .ok (.nack sequence) => c.onNack accepts now sequence
  | .ok .connect | .ok .disconnect => c.giveUp
  | _ => c.goOn

/-- Frames come one after the other. -/
def onFrames (accepts : Frame → Bool) (now : Nat) : List Frame → Connection → Progress
  | [], c => c.goOn
  | frame :: later, c => (c.onFrame accepts now frame).andThen (onFrames accepts now later)

/-! ## Timers and sending -/

/-- Sends the next unit. -/
def sendNext (accepts : Frame → Bool) (now : Nat) (c : Connection) : Progress :=
  match c.outgoing with
  | [] => c.goOn
  | apdu :: rest =>
    (transmit accepts (.dataConnected c.sendNo apdu) { c with outgoing := rest }).andThen fun c' =>
      goOn (refresh now { c' with phase := .awaiting apdu 0 (now + c.config.retransmit) })

/-- The timers, and sending if no unit is outstanding. -/
def proceed (accepts : Frame → Bool) (now : Nat) (c : Connection) : Progress :=
  match c.phase with
  | .idle => if c.idleDeadline ≤ now then c.giveUp else c.sendNext accepts now
  | .awaiting apdu retries deadline =>
    if now < deadline then c.goOn
    else if c.config.maxRetries ≤ retries then c.giveUp
    else c.resend accepts now apdu retries

/-! ## Turns -/

/-- The frame by which the peer is told that the connection ends. -/
def farewell (c : Connection) : List Frame := (frameTo c.peer .disconnect .low).toOption.toList

/-- The connection ends.  It tries to tell the peer; whether that succeeds does not matter. -/
def finish (c : Connection) : Connection × List Frame :=
  ({ c with phase := .idle, outgoing := [], isClosed := true }, c.farewell)

/-- One turn: the connection afterwards and the frames that it has tried to send. -/
def turn (accepts : Frame → Bool) (now : Nat) (c : Connection) : Connection × List Frame :=
  let worked :=
    if c.stopping then c.giveUp
    else (onFrames accepts now c.incoming { c with incoming := [] }).andThen (proceed accepts now)
  if worked.goesOn then (worked.connection, worked.sent)
  else
    let (ended, farewell) := worked.connection.finish
    (ended, worked.sent ++ farewell)

/-- When a turn is due even if nothing comes. -/
def nextDeadline (c : Connection) : Nat :=
  match c.phase with
  | .idle => c.idleDeadline
  | .awaiting _ _ deadline => deadline

/-- Whether something has come that causes a turn. -/
def hasWork (c : Connection) : Bool :=
  c.stopping || !c.incoming.isEmpty || (c.phase == .idle && !c.outgoing.isEmpty)

/-- Whether a turn is due. -/
def isDue (c : Connection) (now : Nat) : Bool :=
  !c.isClosed && (c.hasWork || c.nextDeadline ≤ now)

end Connection
end KnxBus
