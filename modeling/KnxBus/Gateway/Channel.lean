import KnxBus.Cemi
import KnxBus.Gateway.Config
import KnxBus.Ip.Connect
import KnxBus.Ip.Socket
import KnxBus.Ip.Tunnel

/-!
# The channels of a gateway

A channel connects one client with the bus.  Frames for the client wait in a queue of which only
the front is ever under way.  It is sent again until the client acknowledges it or it has been
sent often enough; in either case it leaves the queue, but only an acknowledgement moves the
number on.

Of the frames from the client exactly the next one is taken.  The one before that is acknowledged
once more, since the acknowledgement may have been lost.
-/

namespace KnxBus

/-- A channel of a gateway. -/
structure GatewayChannel where
  /-- The number of the channel. -/
  id : UInt8
  /-- Where the client wants messages about the channel. -/
  control : Endpoint
  /-- Where the client wants frames. -/
  data : Endpoint
  /-- The number of the frame under way, or of the next one. -/
  sendNo : UInt8
  /-- The number of the frame that is expected. -/
  receiveNo : UInt8
  /-- Messages for the client, in order; the front may be under way. -/
  queue : List Octets
  /-- How often the front has been sent; zero if it is not under way. -/
  attempts : Nat
  /-- When the front was last sent. -/
  sentAt : Nat
  /-- When the channel ends without a sign of its client. -/
  expires : Nat
  deriving DecidableEq, Repr

namespace GatewayChannel

/-- A channel that has just been opened. -/
def fresh (id : UInt8) (control data : Endpoint) (now timeout : Nat) : GatewayChannel :=
  { id := id
    control := control
    data := data
    sendNo := 0
    receiveNo := 0
    queue := []
    attempts := 0
    sentAt := now
    expires := now + timeout }

/-- The client has given a sign. -/
def refresh (c : GatewayChannel) (now timeout : Nat) : GatewayChannel :=
  { c with expires := now + timeout }

/-- Queues a message for the client. -/
def offer (c : GatewayChannel) (message : Octets) : GatewayChannel :=
  { c with queue := c.queue ++ [message] }

/-! ## Towards the client -/

/-- The front of the queue as a datagram to the client. -/
def request (c : GatewayChannel) (message : Octets) : Outgoing :=
  ⟨(TunnelRequest.mk c.id c.sendNo message).toPacket, c.data⟩

/-- The front leaves the queue. -/
def advance (c : GatewayChannel) : GatewayChannel :=
  { c with queue := c.queue.drop 1, attempts := 0 }

/-- Whether the front is to be sent, or sent again. -/
def isSendDue (c : GatewayChannel) (retry now : Nat) : Bool :=
  if c.attempts = 0 then !c.queue.isEmpty else c.sentAt + retry ≤ now

/-- Sends the front, if that is due, or drops it, if it has been sent often enough.  The message
behind a dropped one is not sent in the same turn. -/
def pump (c : GatewayChannel) (config : GatewayConfig) (now : Nat) :
    GatewayChannel × List Outgoing :=
  if !c.isSendDue config.sendRetry now then (c, [])
  else if config.sendAttempts < c.attempts + 1 then (c.advance, [])
  else
    match c.queue with
    | [] => ({ c with attempts := 0 }, [])
    | message :: _ =>
      ({ c with attempts := c.attempts + 1, sentAt := now }, [c.request message])

/-- The client acknowledges a message. -/
def onAck (c : GatewayChannel) (ack : TunnelAck) : GatewayChannel :=
  if ack.sequence = c.sendNo ∧ ack.status = Status.ok ∧ c.attempts ≠ 0 then
    { c.advance with sendNo := c.sendNo + 1 }
  else c

/-! ## From the client -/

/-- An acknowledgement to the client. -/
def acknowledge (c : GatewayChannel) (sequence status : UInt8) : Outgoing :=
  ⟨(TunnelAck.mk c.id sequence status).toPacket, c.data⟩

/-- The confirmation of a request to send, if the message is one and the confirmation can be
written. -/
def confirmation (message : Cemi) : List Octets :=
  match message.code with
  | .request =>
    match (Cemi.mk .confirmation message.frame).toOctets with
    | .ok octets => [octets]
    | .error _ => []
  | _ => []

/-- The frame that a message from the client brings to the bus. -/
def busFrame (message : Cemi) : List Frame :=
  match message.code with
  | .request | .indication => [message.frame]
  | _ => []

/-- What comes of a frame from the client. -/
structure Taken where
  /-- The channel afterwards. -/
  channel : GatewayChannel
  /-- What goes to the bus. -/
  frames : List Frame
  /-- What the client is told. -/
  acks : List Outgoing

/-- The client sends a frame. -/
def onRequest (c : GatewayChannel) (now timeout : Nat) (request : TunnelRequest) : Taken :=
  if request.sequence + 1 = c.receiveNo then ⟨c, [], [c.acknowledge request.sequence Status.ok]⟩
  else if request.sequence ≠ c.receiveNo then ⟨c, [], []⟩
  else
    let taken := { c with receiveNo := c.receiveNo + 1, expires := now + timeout }
    match Cemi.decode request.message with
    | .ok message =>
      ⟨{ taken with queue := c.queue ++ confirmation message }, busFrame message,
        [c.acknowledge request.sequence Status.ok]⟩
    | .error _ => ⟨taken, [], [c.acknowledge request.sequence Status.tunnellingLayer]⟩

/-! ## Timers -/

/-- Whether the channel has ended. -/
def isExpired (c : GatewayChannel) (now : Nat) : Bool := c.expires ≤ now

/-- When something is due on the channel. -/
def deadlines (c : GatewayChannel) (retry : Nat) : List Nat :=
  c.expires :: if c.attempts = 0 then [] else [c.sentAt + retry]

end GatewayChannel
end KnxBus
