import KnxBus.Dispatch.Route
import KnxBus.Gateway.Channel
import KnxBus.Gateway.Error
import KnxBus.Ip.Channel
import KnxBus.Medium.Router

/-!
# Gateways

A gateway lets clients on the IP network take part in the bus.  Depending on how it is set up it can
be found, routes frames between the bus and a multicast group, and opens channels to clients.

## One turn

A gateway is a loop that takes a *turn* whenever something has come to it or a timer is due.  A
turn looks at all datagrams, then at all frames from the bus, ends the channels whose clients have
been silent for too long, and lets each channel send.  The datagrams and frames that leave the
gateway come out of the turn as a list.

The channels are a table whose numbers are given out lowest first.  How many there are is also shown
to others, and is put right whenever one is opened or ends.
-/

namespace KnxBus

/-- What a gateway does. -/
inductive GatewayAction where
  /-- It sends a datagram. -/
  | datagram (out : Outgoing)
  /-- It gives a frame to the bus. -/
  | forward (frame : Frame)
  deriving DecidableEq, Repr

/-- A gateway. -/
structure Gateway where
  /-- What it offers, timers and limits. -/
  config : GatewayConfig
  /-- Where it runs. -/
  host : Host
  /-- Its socket. -/
  socket : UdpSocket
  /-- The numbers of its subscriptions. -/
  registrations : List Nat
  /-- Datagrams that have not been looked at, oldest first. -/
  received : List Received
  /-- Frames from the bus that have not been looked at, oldest first. -/
  heard : List Frame
  /-- The channels that are open, oldest first. -/
  channels : List GatewayChannel
  /-- How many channels there are, as others see it. -/
  shownCount : Nat
  /-- Whether the gateway has been told to end. -/
  stopping : Bool
  /-- Whether it has ended. -/
  isEnded : Bool
  deriving DecidableEq, Repr

namespace Gateway

/-- The frames that a gateway subscribes to: to everybody, to every group, and to this device. -/
def routes : List Route :=
  [.broadcast, .group .broadcast, .individual .unset .unset .shared]

/-- The multicast group that the host joins on behalf of the gateway.  It does not matter if it
cannot. -/
def joined (host : Host) (group : Ipv4) : List Ipv4 :=
  match Router.join host group with
  | .ok groups => groups
  | .error _ => []

/-- Opens the socket of a gateway.  Its own datagrams to the group are not taken. -/
def bind (host : Host) (inUse : List UInt16) (config : GatewayConfig) :
    Except GatewayError Gateway :=
  match UdpSocket.claim inUse config.port with
  | .error cause => .error (.link cause)
  | .ok port =>
    match host.sourceFor? config.multicast with
    | none => .error .io
    | some source =>
      .ok
        { config := config
          host := host
          socket := .bound port (.allBut (.v4 ⟨source, port⟩))
          registrations := []
          received := []
          heard := []
          channels := []
          shownCount := 0
          stopping := false
          isEnded := false }

/-- Where the gateway can be reached from its own host. -/
def localEndpoint (g : Gateway) : Endpoint := ⟨.localhost, g.socket.port⟩

/-- A frame from the bus is handed to the gateway. -/
def deliver (g : Gateway) (frame : Frame) : Gateway := { g with heard := g.heard ++ [frame] }

/-- The gateway is told to end, or the medium is lost. -/
def stop (g : Gateway) : Gateway := { g with stopping := true }

/-! ## Addresses -/

/-- Where an answer goes: where it is wanted, or to the sender if that is not said. -/
def replyTo (wanted sender : Endpoint) : Endpoint :=
  if wanted.ip = .unspecified ∨ wanted.port = 0 then sender else wanted

/-- The address of the gateway as somebody sees it. -/
def facing? (g : Gateway) (other : Endpoint) : Option Endpoint :=
  (g.host.sourceFor? other.ip).map fun ip => ⟨ip, g.socket.port⟩

/-! ## The table of channels -/

/-- The channel with a number. -/
def channel? (g : Gateway) (id : UInt8) : Option GatewayChannel :=
  g.channels.find? fun c => c.id == id

/-- Changes the channel with a number. -/
def update (g : Gateway) (id : UInt8) (f : GatewayChannel → GatewayChannel) : Gateway :=
  { g with channels := g.channels.map fun c => if c.id = id then f c else c }

/-- Shows how many channels there are. -/
def publish (g : Gateway) : Gateway := { g with shownCount := g.channels.length }

/-- The lowest number that no channel has; numbers start at one. -/
def freeId? (g : Gateway) : Option UInt8 :=
  ((List.range 255).map fun n => UInt8.ofNat (n + 1)).find? fun id => (g.channel? id).isNone

/-! ## Datagrams -/

/-- Datagrams as actions. -/
def sending (out : List Outgoing) : List GatewayAction := out.map .datagram

/-- Somebody looks for gateways. -/
def onSearch (g : Gateway) (p : Packet) (sender : Endpoint) : List Outgoing :=
  match EndpointRequest.ofPacket p .searchRequest with
  | .error _ => []
  | .ok request =>
    let target := replyTo request.endpoint sender
    match g.facing? target with
    | none => []
    | some control =>
      Outgoing.ofBuilt target (SearchResponse.mk control g.config.device g.config.services).toPacket

/-- Somebody wants a description. -/
def onDescription (g : Gateway) (p : Packet) (sender : Endpoint) : List Outgoing :=
  match EndpointRequest.ofPacket p .descriptionRequest with
  | .error _ => []
  | .ok request =>
    Outgoing.ofBuilt (replyTo request.endpoint sender)
      (DescriptionResponse.mk g.config.device g.config.services []).toPacket

/-- A router sends a frame. -/
def onRouting (p : Packet) : List Frame :=
  if p.body.length < 2 ∨ p.body.head? ≠ some MessageCode.indication.octet then []
  else
    match Cemi.decode p.body with
    | .ok message => [message.frame]
    | .error _ => []

/-- The answer to a request for a channel. -/
def connectAnswer (target own : Endpoint) (channel status : UInt8) : List Outgoing :=
  Outgoing.ofBuilt target (ConnectResponse.mk channel status own [0x04, 0x00, 0x00]).toPacket

/-- Opens a channel. -/
def openChannel (g : Gateway) (c : GatewayChannel) : Gateway :=
  { g with channels := g.channels ++ [c] }.publish

/-- Somebody wants a channel. -/
def onConnect (g : Gateway) (now : Nat) (p : Packet) (sender : Endpoint) :
    Gateway × List Outgoing :=
  match ConnectRequest.ofPacket p with
  | .error _ => (g, [])
  | .ok request =>
    let control := replyTo request.control sender
    match g.facing? control with
    | none => (g, [])
    | some own =>
      if !request.isLinkLayerTunnel then (g, connectAnswer control own 0 Status.connectionType)
      else
        match g.freeId? with
        | none => (g, connectAnswer control own 0 Status.noMoreConnections)
        | some id =>
          let data := replyTo request.data sender
          (g.openChannel (.fresh id control data now g.config.channelTimeout),
            connectAnswer control own id Status.ok)

/-- Whether there is such a channel, as a status. -/
def statusOf (g : Gateway) (id : UInt8) : UInt8 :=
  if (g.channel? id).isSome then Status.ok else Status.noSuchChannel

/-- The answer to a request about a channel. -/
def channelAnswer (g : Gateway) (request : ChannelRequest) (sender : Endpoint)
    (service : Service) : List Outgoing :=
  [⟨(ChannelResponse.mk request.channel (g.statusOf request.channel)).toPacket service,
    replyTo request.control sender⟩]

/-- A client asks for the state of a channel. -/
def onState (g : Gateway) (now : Nat) (p : Packet) (sender : Endpoint) :
    Gateway × List Outgoing :=
  match ChannelRequest.ofPacket p .stateRequest with
  | .error _ => (g, [])
  | .ok request =>
    (g.update request.channel (·.refresh now g.config.channelTimeout),
      g.channelAnswer request sender .stateResponse)

/-- Closes the channel with a number. -/
def dismiss (g : Gateway) (id : UInt8) : Gateway :=
  { g with channels := g.channels.filter fun c => c.id ≠ id }.publish

/-- A client closes a channel. -/
def onDisconnect (g : Gateway) (p : Packet) (sender : Endpoint) : Gateway × List Outgoing :=
  match ChannelRequest.ofPacket p .disconnectRequest with
  | .error _ => (g, [])
  | .ok request =>
    (g.dismiss request.channel, g.channelAnswer request sender .disconnectResponse)

/-- A client sends a frame. -/
def onTunnelRequest (g : Gateway) (now : Nat) (p : Packet) : Gateway × List GatewayAction :=
  match TunnelRequest.ofPacket p with
  | .error _ => (g, [])
  | .ok request =>
    match g.channel? request.channel with
    | none => (g, [])
    | some c =>
      let taken := c.onRequest now g.config.channelTimeout request
      (g.update c.id fun _ => taken.channel, taken.frames.map .forward ++ sending taken.acks)

/-- A client acknowledges a frame. -/
def onTunnelAck (g : Gateway) (p : Packet) : Gateway :=
  match TunnelAck.ofPacket p with
  | .error _ => g
  | .ok ack => g.update ack.channel (·.onAck ack)

/-- Datagrams as the only actions. -/
def onlySending (r : Gateway × List Outgoing) : Gateway × List GatewayAction :=
  (r.1, sending r.2)

/-- A datagram arrives.  Services that are not offered are ignored. -/
def onPacket (g : Gateway) (now : Nat) (r : Received) : Gateway × List GatewayAction :=
  let config := g.config
  match r.packet.service with
  | .searchRequest =>
    if config.discover then (g, sending (g.onSearch r.packet r.sender)) else (g, [])
  | .descriptionRequest =>
    if config.discover then (g, sending (g.onDescription r.packet r.sender)) else (g, [])
  | .routingIndication =>
    if config.route then (g, (onRouting r.packet).map .forward) else (g, [])
  | .connectRequest =>
    if config.tunnel then onlySending (g.onConnect now r.packet r.sender) else (g, [])
  | .stateRequest =>
    if config.tunnel then onlySending (g.onState now r.packet r.sender) else (g, [])
  | .disconnectRequest =>
    if config.tunnel then onlySending (g.onDisconnect r.packet r.sender) else (g, [])
  | .tunnelRequest => if config.tunnel then g.onTunnelRequest now r.packet else (g, [])
  | .tunnelResponse => if config.tunnel then (g.onTunnelAck r.packet, []) else (g, [])
  | _ => (g, [])

/-- Datagrams arrive one after the other. -/
def onPackets (now : Nat) : List Received → Gateway → Gateway × List GatewayAction
  | [], g => (g, [])
  | r :: later, g =>
    let (g', done) := g.onPacket now r
    let (last, more) := onPackets now later g'
    (last, done ++ more)

/-! ## Frames from the bus -/

/-- Where frames are routed to. -/
def group (g : Gateway) : Endpoint := ⟨g.config.multicast, g.socket.port⟩

/-- A frame comes from the bus: it is routed and queued in every channel. -/
def onBus (g : Gateway) (frame : Frame) : Gateway × List Outgoing :=
  match (Cemi.mk .indication frame).toOctets with
  | .error _ => (g, [])
  | .ok message =>
    ({ g with channels := g.channels.map (·.offer message) },
      if g.config.route then [⟨⟨.routingIndication, message⟩, g.group⟩] else [])

/-- Frames come from the bus one after the other. -/
def onBusFrames : List Frame → Gateway → Gateway × List Outgoing
  | [], g => (g, [])
  | frame :: later, g =>
    let (g', sent) := g.onBus frame
    let (last, more) := onBusFrames later g'
    (last, sent ++ more)

/-! ## Timers -/

/-- Ends the channels whose clients have been silent for too long. -/
def expire (g : Gateway) (now : Nat) : Gateway :=
  { g with channels := g.channels.filter fun c => !c.isExpired now }.publish

/-- Lets each channel send. -/
def pumpChannels (g : Gateway) (now : Nat) : Gateway × List Outgoing :=
  let pumped := g.channels.map fun c => c.pump g.config now
  ({ g with channels := pumped.map (·.1) }, pumped.flatMap (·.2))

/-! ## Turns -/

/-- Tells the client of a channel that it ends. -/
def farewell (g : Gateway) (c : GatewayChannel) : List Outgoing :=
  match g.facing? c.control with
  | none => []
  | some own =>
    Outgoing.ofBuilt c.control ((ChannelRequest.mk c.id own).toPacket .disconnectRequest)

/-- The gateway ends, and all its channels with it. -/
def finish (g : Gateway) : Gateway × List Outgoing :=
  ({ g with channels := [], isEnded := true }.publish, g.channels.flatMap g.farewell)

/-- The work of a turn. -/
def work (g : Gateway) (now : Nat) : Gateway × List GatewayAction :=
  let (g₁, done) := onPackets now g.received { g with received := [] }
  let (g₂, routed) := onBusFrames g₁.heard { g₁ with heard := [] }
  let (g₃, sent) := (g₂.expire now).pumpChannels now
  (g₃, done ++ sending routed ++ sending sent)

/-- One turn. -/
def turn (g : Gateway) (now : Nat) : Gateway × List GatewayAction :=
  if g.stopping then onlySending g.finish else g.work now

/-- When turns are due even if nothing comes. -/
def deadlines (g : Gateway) : List Nat :=
  if g.isEnded then [] else g.channels.flatMap (·.deadlines g.config.sendRetry)

/-- Whether a turn is due. -/
def isDue (g : Gateway) (now : Nat) : Bool :=
  !g.isEnded &&
    (g.stopping || !g.received.isEmpty || !g.heard.isEmpty || g.deadlines.any (· ≤ now))

/-- Takes in what has arrived at the socket. -/
def pump (g : Gateway) (now : Nat) : Gateway :=
  let (received, socket) := g.socket.pump now
  { g with socket := socket, received := g.received ++ received }

end Gateway
end KnxBus
