import KnxBus.Cemi
import KnxBus.Ip.Channel
import KnxBus.Ip.Connect
import KnxBus.Ip.Socket
import KnxBus.Ip.Tunnel
import KnxBus.Medium.Monitor

/-!
# The tunnelling medium

A gateway lets a client on the IP network take part in its bus through a *channel*.  The client asks
for a channel, numbers the frames that it sends through it, and repeats each until it is
acknowledged; it asks from time to time whether the channel is still there, and starts afresh when
it is not.  Frames wait while there is no channel, so losing one is not losing the medium.

## One turn

The client is a loop that takes a *turn* whenever something has come to it or a timer is due.  A
turn looks at all datagrams that have arrived, then at the timers, then sends the next frame if
none is outstanding.  All of this is one function of the state and the time; what is to be sent
comes out as a list.  Nothing else changes the session, so what holds of every turn holds of every
run.

## Ending a session

A session ends when the gateway closes the channel, when a frame has been sent as often as it may be
without an acknowledgement, or when heartbeats stay unanswered.  In the latter two cases the client
tells the gateway.  The outstanding frame is then lost; those that wait are not.
-/

namespace KnxBus

/-- Timers, in milliseconds, and limits of a tunnel. -/
structure TunnelConfig where
  /-- How long an acknowledgement may take. -/
  ackTimeout : Nat
  /-- How often a frame is sent at most. -/
  sendAttempts : Nat
  /-- How long after a heartbeat the next one follows. -/
  heartbeatInterval : Nat
  /-- How long the answer to a heartbeat may take. -/
  heartbeatTimeout : Nat
  /-- After how many unanswered heartbeats the session ends. -/
  heartbeatFailures : Nat
  /-- How long to wait before asking for a channel again. -/
  reconnectInterval : Nat
  /-- The local port, zero for any. -/
  localPort : UInt16
  deriving DecidableEq, Repr

/-- The usual timers and limits. -/
def TunnelConfig.usual : TunnelConfig :=
  { ackTimeout := 1000
    sendAttempts := 3
    heartbeatInterval := 30000
    heartbeatTimeout := 10000
    heartbeatFailures := 5
    reconnectInterval := 10000
    localPort := 0 }

/-- A frame that has been sent and not been acknowledged. -/
structure PendingRequest where
  /-- What was sent. -/
  packet : Packet
  /-- When it was last sent. -/
  sentAt : Nat
  /-- How often it has been sent. -/
  attempts : Nat
  deriving DecidableEq, Repr

/-- What is known about an open channel. -/
structure TunnelSession where
  /-- The number of the channel. -/
  channel : UInt8
  /-- Where the gateway wants data. -/
  data : Endpoint
  /-- The number of the next frame to be acknowledged. -/
  sendNo : UInt8
  /-- The number of the next frame to be taken. -/
  receiveNo : UInt8
  /-- The outstanding frame. -/
  pending : Option PendingRequest
  /-- When the next heartbeat is due. -/
  heartbeatAt : Nat
  /-- Until when the last heartbeat has to be answered. -/
  heartbeatDeadline : Option Nat
  /-- How many heartbeats in a row have not been answered. -/
  failures : Nat
  deriving DecidableEq, Repr

/-- Where the client stands with the gateway. -/
inductive Link where
  /-- There is no channel; the client asks for one at the given time. -/
  | disconnected (retryAt : Nat)
  /-- The client has asked and waits until the given time. -/
  | connecting (deadline : Nat)
  /-- There is a channel. -/
  | connected (session : TunnelSession)
  deriving DecidableEq, Repr

/-- A client of a gateway. -/
structure Tunnel where
  /-- Timers and limits. -/
  config : TunnelConfig
  /-- Where the gateway takes requests. -/
  gateway : Endpoint
  /-- Where the client is. -/
  own : Endpoint
  /-- The socket. -/
  socket : UdpSocket
  /-- Where the client stands with the gateway. -/
  link : Link
  /-- Datagrams that have not been looked at, oldest first. -/
  received : List Received
  /-- Frames that wait to be sent, oldest first. -/
  outbox : List Frame
  /-- What has been heard on the bus and not been taken, oldest first. -/
  inbox : List Lpdu
  /-- Whether captures are reported. -/
  mode : MonitorMode
  /-- The address that the gateway has assigned last. -/
  address : IndividualAddress
  /-- Whether there is a channel, as others see it. -/
  isConnected : Bool
  /-- The number of the last channel, as others see it. -/
  lastChannel : UInt8
  /-- Whether a frame is outstanding, as others see it. -/
  inFlight : Bool
  deriving DecidableEq, Repr

namespace Tunnel

/-- Opens a client.  Its first turn is due at once. -/
def connect (host : Host) (inUse : List UInt16) (gateway : Endpoint) (config : TunnelConfig)
    (now : Nat) : Except LinkError Tunnel := do
  let port ← UdpSocket.claim inUse config.localPort
  match host.sourceFor? gateway.ip with
  | none => throw .io
  | some source =>
    return {
      config := config
      gateway := gateway
      own := ⟨source, port⟩
      socket := .bound port (.peers [.v4 gateway])
      link := .disconnected now
      received := []
      outbox := []
      inbox := []
      mode := .off
      address := .unset
      isConnected := false
      lastChannel := 0
      inFlight := false }

/-- The session, while there is a channel. -/
def session? (t : Tunnel) : Option TunnelSession :=
  match t.link with
  | .connected s => some s
  | _ => none

/-- The number of the channel, as others see it. -/
def channel? (t : Tunnel) : Option UInt8 := if t.isConnected then some t.lastChannel else none

/-- Whether nothing waits to be sent or to be acknowledged, as others see it. -/
def sendQueueEmpty (t : Tunnel) : Bool := t.outbox.isEmpty && !t.inFlight

/-- Queues a frame. -/
def send (t : Tunnel) (frame : Frame) : Tunnel := { t with outbox := t.outbox ++ [frame] }

/-- Takes what was heard first. -/
def receive (t : Tunnel) : Option Lpdu × Tunnel :=
  match t.inbox with
  | [] => (none, t)
  | first :: rest => (some first, { t with inbox := rest })

/-! ## Asking for a channel and giving it up -/

/-- Asks for a channel. -/
def requestChannel (t : Tunnel) (now : Nat) : Tunnel × List Outgoing :=
  ({ t with link := .connecting (now + t.config.reconnectInterval) },
    Outgoing.ofBuilt t.gateway (ConnectRequest.tunnel t.own t.own).toPacket)

/-- Tells the gateway that a channel is given up. -/
def disconnectRequest (t : Tunnel) (channel : UInt8) : List Outgoing :=
  Outgoing.ofBuilt t.gateway ((ChannelRequest.mk channel t.own).toPacket .disconnectRequest)

/-- Asks the gateway whether a channel is still there. -/
def heartbeat (t : Tunnel) (channel : UInt8) : List Outgoing :=
  Outgoing.ofBuilt t.gateway ((ChannelRequest.mk channel t.own).toPacket .stateRequest)

/-- The session has ended; the next channel is asked for at the given time. -/
def reset (t : Tunnel) (retryAt : Nat) : Tunnel :=
  { t with link := .disconnected retryAt, isConnected := false, inFlight := false }

/-! ## Datagrams -/

/-- Where the gateway wants data: where it says, or where the response came from if it says
nothing. -/
def dataEndpoint (response : ConnectResponse) (sender : Endpoint) : Endpoint :=
  if response.data.ip = .unspecified ∨ response.data.port = 0 then sender else response.data

/-- The gateway grants or refuses a channel. -/
def onConnectResponse (t : Tunnel) (now : Nat) (p : Packet) (sender : Endpoint) : Tunnel :=
  match t.link, ConnectResponse.ofPacket p with
  | .connecting _, .ok response =>
    if response.status ≠ Status.ok then
      { t with link := .disconnected (now + t.config.reconnectInterval) }
    else
      let data := dataEndpoint response sender
      { t with
        address := response.assignedAddress?.getD t.address
        socket := { t.socket with filter := .peers [.v4 t.gateway, .v4 data] }
        lastChannel := response.channel
        isConnected := true
        link := .connected
          { channel := response.channel
            data := data
            sendNo := 0
            receiveNo := 0
            pending := none
            heartbeatAt := now + t.config.heartbeatInterval
            heartbeatDeadline := none
            failures := 0 } }
  | _, _ => t

/-- The gateway answers a heartbeat. -/
def onStateResponse (t : Tunnel) (p : Packet) : Tunnel :=
  match t.link, ChannelResponse.ofPacket p .stateResponse with
  | .connected s, .ok response =>
    if response.channel = s.channel ∧ response.status = Status.ok then
      { t with link := .connected { s with failures := 0, heartbeatDeadline := none } }
    else t
  | _, _ => t

/-- What a message from the gateway is reported as.  Confirmations of frames that were sent from
here are not reported. -/
def report (mode : MonitorMode) (message : Octets) : List Lpdu :=
  match Cemi.decode message with
  | .ok ⟨.indication, frame⟩ => mode.framesFor frame true
  | _ => []

/-- The gateway sends a frame.  Only the next one is taken and acknowledged, even if it cannot be
understood. -/
def onTunnelRequest (t : Tunnel) (p : Packet) : Tunnel × List Outgoing :=
  match t.link, TunnelRequest.ofPacket p with
  | .connected s, .ok request =>
    if request.channel = s.channel ∧ request.sequence = s.receiveNo then
      ({ t with
          link := .connected { s with receiveNo := s.receiveNo + 1 }
          inbox := t.inbox ++ report t.mode request.message },
        [⟨(TunnelAck.mk request.channel request.sequence Status.ok).toPacket, s.data⟩])
    else (t, [])
  | _, _ => (t, [])

/-- The gateway acknowledges a frame. -/
def onTunnelAck (t : Tunnel) (p : Packet) : Tunnel :=
  match t.link, TunnelAck.ofPacket p with
  | .connected s, .ok ack =>
    if ack.channel = s.channel ∧ ack.sequence = s.sendNo ∧ s.pending.isSome then
      { t with
        link := .connected { s with sendNo := s.sendNo + 1, pending := none }
        inFlight := false }
    else t
  | _, _ => t

/-- The gateway closes a channel. -/
def onDisconnectRequest (t : Tunnel) (now : Nat) (p : Packet) (sender : Endpoint) :
    Tunnel × List Outgoing :=
  match t.link, ChannelRequest.ofPacket p .disconnectRequest with
  | .connected s, .ok request =>
    if request.channel = s.channel then
      (t.reset (now + t.config.reconnectInterval),
        [⟨(ChannelResponse.mk request.channel Status.ok).toPacket .disconnectResponse, sender⟩])
    else (t, [])
  | _, _ => (t, [])

/-- A datagram arrives. -/
def onPacket (t : Tunnel) (now : Nat) (r : Received) : Tunnel × List Outgoing :=
  match r.packet.service with
  | .connectResponse => (t.onConnectResponse now r.packet r.sender, [])
  | .stateResponse => (t.onStateResponse r.packet, [])
  | .tunnelRequest => t.onTunnelRequest r.packet
  | .tunnelResponse => (t.onTunnelAck r.packet, [])
  | .disconnectRequest => t.onDisconnectRequest now r.packet r.sender
  | _ => (t, [])

/-- Datagrams arrive one after the other. -/
def onPackets (now : Nat) : List Received → Tunnel → Tunnel × List Outgoing
  | [], t => (t, [])
  | r :: rs, t =>
    let (t', sent) := t.onPacket now r
    let (last, more) := onPackets now rs t'
    (last, sent ++ more)

/-! ## Timers -/

/-- What a timer asks for. -/
inductive Due where
  /-- It is not due, or there is nothing to do. -/
  | nothing
  /-- Send once more. -/
  | again
  /-- End the session. -/
  | giveUp
  deriving DecidableEq, Repr

/-- What the timer of the outstanding frame asks for. -/
def pendingDue (config : TunnelConfig) (s : TunnelSession) (now : Nat) : Due :=
  match s.pending with
  | none => .nothing
  | some p =>
    if now < p.sentAt + config.ackTimeout then .nothing
    else if config.sendAttempts ≤ p.attempts then .giveUp
    else .again

/-- What the timer of the heartbeat asks for. -/
def heartbeatDue (config : TunnelConfig) (s : TunnelSession) (now : Nat) : Due :=
  match s.heartbeatDeadline with
  | some deadline =>
    if now < deadline then .nothing
    else if config.heartbeatFailures ≤ s.failures + 1 then .giveUp
    else .again
  | none => if now < s.heartbeatAt then .nothing else .again

/-- The session after the outstanding frame has been sent once more. -/
def resent (s : TunnelSession) (now : Nat) : TunnelSession :=
  { s with pending := s.pending.map fun p => { p with sentAt := now, attempts := p.attempts + 1 } }

/-- The session after a heartbeat.  If the one before has not been answered, that counts as a
failure. -/
def beaten (config : TunnelConfig) (s : TunnelSession) (now : Nat) : TunnelSession :=
  { s with
    failures := if s.heartbeatDeadline.isSome then s.failures + 1 else s.failures
    heartbeatDeadline := some (now + config.heartbeatTimeout)
    heartbeatAt := now + config.heartbeatInterval }

/-- The timers of a session. -/
def onSessionTimers (t : Tunnel) (s : TunnelSession) (now : Nat) : Tunnel × List Outgoing :=
  let ack := pendingDue t.config s now
  let beat := heartbeatDue t.config s now
  if ack = .giveUp ∨ beat = .giveUp then
    (t.reset (now + t.config.reconnectInterval), t.disconnectRequest s.channel)
  else
    let afterAck := if ack = .again then resent s now else s
    let afterBeat := if beat = .again then beaten t.config afterAck now else afterAck
    ({ t with link := .connected afterBeat },
      (if ack = .again then s.pending.toList.map fun p => ⟨p.packet, s.data⟩ else []) ++
        (if beat = .again then t.heartbeat s.channel else []))

/-- The timers. -/
def onTimers (t : Tunnel) (now : Nat) : Tunnel × List Outgoing :=
  match t.link with
  | .disconnected time | .connecting time =>
    if now < time then (t, []) else t.requestChannel now
  | .connected s => t.onSessionTimers s now

/-! ## Sending -/

/-- Sends the next frame, if there is a channel and no frame is outstanding.  A frame that cannot be
written is dropped. -/
def sendNext (t : Tunnel) (now : Nat) : Tunnel × List Outgoing :=
  match t.link, t.outbox with
  | .connected s, frame :: rest =>
    if s.pending.isSome then (t, [])
    else
      match (Cemi.mk .request frame).toOctets with
      | .error _ => ({ t with outbox := rest, inFlight := false }, [])
      | .ok message =>
        let packet := (TunnelRequest.mk s.channel s.sendNo message).toPacket
        ({ t with
            outbox := rest
            inFlight := true
            link := .connected { s with pending := some ⟨packet, now, 1⟩ } },
          [⟨packet, s.data⟩])
  | .connected s, [] => if s.pending.isSome then (t, []) else ({ t with inFlight := false }, [])
  | _, _ => (t, [])

/-! ## Turns -/

/-- When a turn is due even if nothing comes. -/
def nextDeadline (t : Tunnel) : Nat :=
  match t.link with
  | .disconnected time | .connecting time => time
  | .connected s =>
    let beat := s.heartbeatDeadline.getD s.heartbeatAt
    match s.pending with
    | some p => min beat (p.sentAt + t.config.ackTimeout)
    | none => beat

/-- Whether something has come that causes a turn: a datagram, or a frame to be sent while it can
be. -/
def hasWork (t : Tunnel) : Bool :=
  !t.received.isEmpty ||
    match t.link with
    | .connected s => s.pending.isNone && !t.outbox.isEmpty
    | _ => false

/-- Whether a turn is due. -/
def isDue (t : Tunnel) (now : Nat) : Bool := t.hasWork || t.nextDeadline ≤ now

/-- One turn. -/
def turn (t : Tunnel) (now : Nat) : Tunnel × List Outgoing :=
  let (t₁, acks) := onPackets now t.received { t with received := [] }
  let (t₂, timed) := t₁.onTimers now
  let (t₃, sent) := t₂.sendNext now
  (t₃, acks ++ timed ++ sent)

/-- The loop ends: a channel is given up. -/
def finish (t : Tunnel) : Tunnel × List Outgoing :=
  let ended := { t with isConnected := false, inFlight := false }
  match t.link with
  | .connected s =>
    ({ ended with link := .connected { s with pending := none } }, t.disconnectRequest s.channel)
  | _ => (ended, [])

/-- Takes in what has arrived at the socket. -/
def pump (t : Tunnel) (now : Nat) : Tunnel :=
  let (received, socket) := t.socket.pump now
  { t with socket := socket, received := t.received ++ received }

end Tunnel
end KnxBus
