import KnxBus.Proofs.Gateway.Sending
import KnxBus.Proofs.Gateway.Table
import KnxBus.Proofs.Handshake

/-!
# Who has a channel, and until when

The table of a gateway says of every channel whose it is and when it ends.  For the channel with a
number a part of a turn can do one of five things (`Gateway.Custody`).  There is no such channel
before and after; it goes on as that of the same client; it is opened; its client closes it; or it
ends since its time is over.

Time comes into it as follows.  A channel is given its whole time when it is opened and when its
client asks for its state, and it is in these two cases only that the gateway tells the client that
it has the channel.  So who is told so has the whole time before him.
-/

namespace KnxBus
namespace Gateway
open GatewayChannel

/-- When a channel ends that gets its whole time now. -/
def wholeTime (now : Nat) (g : Gateway) : Nat := now + g.config.channelTimeout

theorem wholeTime_of_config {g g' : Gateway} (h : g'.config = g.config) (now : Nat) :
    g'.wholeTime now = g.wholeTime now := by
  rw [wholeTime, wholeTime, h]

/-- The datagrams arrive as they are sent, and none of them grants a channel. -/
def Plain (id : UInt8) (sent : List Outgoing) : Prop :=
  ∀ o ∈ sent, o.packet.IsCanonical ∧ ¬ o.packet.Grants id

/-- The datagrams say of a channel that it is there. -/
def Affirming (id : UInt8) (sent : List Outgoing) : Prop := ∃ o ∈ sent, o.packet.Affirms id

/-- What a part of a turn does to the channel with a number, when the gateway may be looking at a
datagram. -/
inductive Custody (id : UInt8) (now : Nat) (looked : Option Packet) (g g' : Gateway)
    (sent : List Outgoing) : Prop where
  /-- There is no such channel. -/
  | absent (before : g.held id = []) (after : g'.held id = []) (plain : Plain id sent)
  /-- It goes on. -/
  | kept (c c' : GatewayChannel) (before : g.held id = [c]) (after : g'.held id = [c'])
      (control_eq : c'.control = c.control)
      (expires_eq : c'.expires = c.expires ∨ c'.expires = g.wholeTime now)
      (affirmed : Affirming id sent → c'.expires = g.wholeTime now) (plain : Plain id sent)
  /-- It is opened, and its client is told so. -/
  | opened (c : GatewayChannel) (before : g.held id = []) (after : g'.held id = [c])
      (expires_eq : c.expires = g.wholeTime now) (channels_eq : g'.channels = g.channels ++ [c])
      (told : sent = [] ∨ ∃ p, p.IsCanonical ∧ sent = [⟨p, c.control⟩])
  /-- It is closed by its client. -/
  | closed (c : GatewayChannel) (p : Packet) (before : g.held id = [c]) (after : g'.held id = [])
      (looked_eq : looked = some p) (closes : p.Closes id) (plain : Plain id sent)
  /-- Its time is over. -/
  | expired (c : GatewayChannel) (before : g.held id = [c]) (after : g'.held id = [])
      (passed : c.expires ≤ now) (plain : Plain id sent)

variable {id : UInt8} {now : Nat} {looked : Option Packet} {g g' : Gateway}
  {sent sent' : List Outgoing}

/-! ## What is said -/

theorem plain_nil : Plain id [] := fun _ ho => absurd ho List.not_mem_nil

theorem not_affirming_nil : ¬ Affirming id [] := fun ⟨_, ho, _⟩ => absurd ho List.not_mem_nil

/-- Messages of another service neither grant nor affirm anything. -/
theorem plain_of_service {service : Service} (hgrant : service ≠ .connectResponse)
    (hcanonical : Service.ofWord service.word = service)
    (h : ∀ o ∈ sent, o.packet.service = service) : Plain id sent := fun o ho =>
  ⟨by rw [Packet.IsCanonical, h o ho]; exact hcanonical,
    Packet.not_grants_of_service (by rw [h o ho]; exact hgrant)⟩

theorem not_affirming_of_service {service : Service} (haffirm : service ≠ .stateResponse)
    (h : ∀ o ∈ sent, o.packet.service = service) : ¬ Affirming id sent := fun ⟨o, ho, haffirms⟩ =>
  haffirm ((h o ho).symm.trans haffirms.1)

/-- The gateway says nothing of the channel, and does nothing to it. -/
theorem Custody.calm (hone : AtMostOne (g.held id)) (hheld : g'.held id = g.held id)
    (hplain : Plain id sent) (hquiet : ¬ Affirming id sent) :
    Custody id now looked g g' sent := by
  obtain hnone | ⟨c, hc⟩ := hone
  · exact .absent hnone (hheld.trans hnone) hplain
  · exact .kept c c hc (hheld.trans hc) rfl (Or.inl rfl) (fun h => absurd h hquiet) hplain

/-- What is said is of a service that does not concern who has a channel. -/
theorem Custody.aside (hone : AtMostOne (g.held id)) (hheld : g'.held id = g.held id)
    {service : Service} (hgrant : service ≠ .connectResponse) (haffirm : service ≠ .stateResponse)
    (hcanonical : Service.ofWord service.word = service)
    (h : ∀ o ∈ sent, o.packet.service = service) : Custody id now looked g g' sent :=
  .calm hone hheld (plain_of_service hgrant hcanonical h) (not_affirming_of_service haffirm h)

/-- It is done to the channel what changes neither its client nor its time. -/
theorem Custody.map (hone : AtMostOne (g.held id)) {f : GatewayChannel → GatewayChannel}
    (hcontrol : ∀ c, (f c).control = c.control)
    (hexpires : ∀ c, (f c).expires = c.expires ∨ (f c).expires = g.wholeTime now)
    (hheld : g'.held id = (g.held id).map f) (hplain : Plain id sent)
    (hquiet : ¬ Affirming id sent) : Custody id now looked g g' sent := by
  obtain hnone | ⟨c, hc⟩ := hone
  · rw [hnone] at hheld
    exact .absent hnone hheld hplain
  · rw [hc] at hheld
    exact .kept c (f c) hc hheld (hcontrol c) (hexpires c) (fun h => absurd h hquiet) hplain

/-! ## Datagrams -/

theorem ofBuilt_service {service : Service} (target : Endpoint) (body : Encoding) (length : Nat) :
    ∀ o ∈ Outgoing.ofBuilt target (Packet.build service body length),
      o.packet.service = service := by
  intro o ho
  cases hp : Packet.build service body length with
  | error cause =>
    rw [hp] at ho
    exact absurd ho List.not_mem_nil
  | ok p =>
    rw [hp] at ho
    rw [List.mem_singleton.1 ho]
    exact (Packet.build_eq_ok_iff.1 hp).1

/-- A refusal grants nothing, and an answer grants no other channel than its own. -/
theorem connectAnswer_plain {target own : Endpoint} {channel status : UInt8}
    (h : channel ≠ id ∨ status ≠ Status.ok) :
    Plain id (connectAnswer target own channel status) := by
  intro o ho
  unfold connectAnswer at ho
  cases hp : (ConnectResponse.mk channel status own [0x04, 0x00, 0x00]).toPacket with
  | error cause =>
    rw [hp] at ho
    exact absurd ho List.not_mem_nil
  | ok p =>
    rw [hp] at ho
    rw [List.mem_singleton.1 ho]
    obtain ⟨hservice, hbody⟩ := ConnectResponse.body_of_toPacket hp
    refine ⟨by rw [Packet.IsCanonical, hservice]; rfl, fun hgrants => ?_⟩
    have hsame := hbody.symm.trans hgrants.2
    simp only [List.cons.injEq, and_true] at hsame
    exact h.elim (fun hne => hne hsame.1) fun hne => hne hsame.2

theorem connectAnswer_told (target own : Endpoint) (channel status : UInt8) :
    connectAnswer target own channel status = [] ∨
      ∃ p, p.IsCanonical ∧ connectAnswer target own channel status = [⟨p, target⟩] := by
  unfold connectAnswer
  cases hp : (ConnectResponse.mk channel status own [0x04, 0x00, 0x00]).toPacket with
  | error cause => exact Or.inl rfl
  | ok p =>
    refine Or.inr ⟨p, ?_, rfl⟩
    rw [Packet.IsCanonical, (ConnectResponse.body_of_toPacket hp).1]
    rfl

theorem onConnect_custody (hone : AtMostOne (g.held id)) (p : Packet) (sender : Endpoint) :
    Custody id now looked g (g.onConnect now p sender).1 (g.onConnect now p sender).2 := by
  unfold onConnect
  split
  · exact .calm hone rfl plain_nil not_affirming_nil
  · rename_i request _
    simp only
    split
    · exact .calm hone rfl plain_nil not_affirming_nil
    · rename_i own _
      have hanswer : ∀ {g' channel status}, g'.held id = g.held id →
          channel ≠ id ∨ status ≠ Status.ok → Custody id now looked g g'
            (connectAnswer (replyTo request.control sender) own channel status) :=
        fun hheld h => .calm hone hheld (connectAnswer_plain h)
          (not_affirming_of_service (by decide) (ofBuilt_service _ _ _))
      split
      · simp only
        exact hanswer rfl (Or.inr (by decide))
      · split
        · simp only
          exact hanswer rfl (Or.inr (by decide))
        · rename_i id' hfree
          simp only
          have hfreed := held_of_freeId? hfree
          have hheld : (g.openChannel (.fresh id' (replyTo request.control sender)
              (replyTo request.data sender) now g.config.channelTimeout)).held id =
                g.held id ++ if id' = id then [.fresh id' (replyTo request.control sender)
                  (replyTo request.data sender) now g.config.channelTimeout] else [] :=
            held_openChannel g _
          by_cases hid : id' = id
          · subst hid
            rw [hfreed, if_pos rfl] at hheld
            exact .opened _ hfreed hheld rfl rfl (connectAnswer_told _ _ _ _)
          · rw [if_neg hid, List.append_nil] at hheld
            exact hanswer hheld (Or.inl hid)

/-- What is said about a channel is said about the one that was named. -/
theorem channelAnswer_plain (request : ChannelRequest) (sender : Endpoint) {service : Service}
    (hservice : service ≠ .connectResponse) (hcanonical : Service.ofWord service.word = service) :
    Plain id (g.channelAnswer request sender service) := by
  refine plain_of_service hservice hcanonical fun o ho => ?_
  rw [List.mem_singleton.1 ho]
  rfl

theorem onState_custody (hone : AtMostOne (g.held id)) (p : Packet) (sender : Endpoint) :
    Custody id now looked g (g.onState now p sender).1 (g.onState now p sender).2 := by
  unfold onState
  split
  · exact .calm hone rfl plain_nil not_affirming_nil
  · rename_i request _
    have hheld : (g.update request.channel (·.refresh now g.config.channelTimeout)).held id =
        if request.channel = id then (g.held id).map (·.refresh now g.config.channelTimeout)
        else g.held id :=
      held_update (f := (·.refresh now g.config.channelTimeout)) (fun _ _ => rfl) g
    have hplain : Plain id (g.channelAnswer request sender .stateResponse) :=
      channelAnswer_plain request sender (by decide) rfl
    have haffirms : Affirming id (g.channelAnswer request sender .stateResponse) →
        request.channel = id ∧ g.held id ≠ [] := by
      rintro ⟨o, ho, -, hbody⟩
      rw [List.mem_singleton.1 ho] at hbody
      simp only [ChannelResponse.toPacket, List.cons.injEq, and_true] at hbody
      obtain ⟨hid, hstatus⟩ := hbody
      refine ⟨hid, fun hnone => ?_⟩
      rw [statusOf, hid, channel?_eq, hnone] at hstatus
      exact absurd hstatus (by decide)
    by_cases hid : request.channel = id
    · rw [if_pos hid] at hheld
      obtain hnone | ⟨c, hc⟩ := hone
      · rw [hnone] at hheld
        exact .absent hnone hheld hplain
      · rw [hc] at hheld
        exact .kept c _ hc hheld rfl (Or.inr rfl) (fun _ => rfl) hplain
    · rw [if_neg hid] at hheld
      exact .calm hone hheld hplain fun h => hid (haffirms h).1

theorem onDisconnect_custody (hone : AtMostOne (g.held id)) (p : Packet) (sender : Endpoint) :
    Custody id now (some p) g (g.onDisconnect p sender).1 (g.onDisconnect p sender).2 := by
  unfold onDisconnect
  split
  · exact .calm hone rfl plain_nil not_affirming_nil
  · rename_i request hreads
    have hcloses := ChannelRequest.closes_of_ofPacket hreads
    have hheld : (g.dismiss request.channel).held id =
        if request.channel = id then [] else g.held id := held_dismiss g request.channel
    have hplain : Plain id (g.channelAnswer request sender .disconnectResponse) :=
      channelAnswer_plain request sender (by decide) rfl
    have hservice : ∀ o ∈ g.channelAnswer request sender .disconnectResponse,
        o.packet.service = .disconnectResponse := fun o ho => by
      rw [List.mem_singleton.1 ho]
      rfl
    by_cases hid : request.channel = id
    · rw [if_pos hid] at hheld
      obtain hnone | ⟨c, hc⟩ := hone
      · exact .absent hnone hheld hplain
      · exact .closed c p hc hheld rfl (hid ▸ hcloses) hplain
    · rw [if_neg hid] at hheld
      exact .aside hone hheld (by decide) (by decide) rfl hservice

theorem onRequest_control (c : GatewayChannel) (now timeout : Nat) (q : TunnelRequest) :
    (c.onRequest now timeout q).channel.control = c.control ∧
      ((c.onRequest now timeout q).channel.expires = c.expires ∨
        (c.onRequest now timeout q).channel.expires = now + timeout) := by
  obtain ⟨-, heq⟩ | heq | ⟨-, more, status, heq, -⟩ := c.onRequest_cases now timeout q
  · rw [heq]
    exact ⟨rfl, Or.inl rfl⟩
  · rw [heq]
    exact ⟨rfl, Or.inl rfl⟩
  · rw [heq]
    exact ⟨rfl, Or.inr rfl⟩

theorem onTunnelRequest_custody (hone : AtMostOne (g.held id)) (p : Packet) :
    Custody id now looked g (g.onTunnelRequest now p).1
      (datagramsOf (g.onTunnelRequest now p).2) := by
  unfold onTunnelRequest
  split
  · exact .calm hone rfl plain_nil not_affirming_nil
  · rename_i q _
    split
    · exact .calm hone rfl plain_nil not_affirming_nil
    · rename_i c hc
      rw [channel?_eq] at hc
      have hmem := List.mem_of_head? hc
      have hacks : ∀ o ∈ (c.onRequest now g.config.channelTimeout q).acks,
          o.packet.service = .tunnelResponse := by
        intro o ho
        obtain ⟨status, rfl⟩ := onRequest_acks c now _ q o ho
        rfl
      have hheld : (g.update c.id fun _ =>
            (c.onRequest now g.config.channelTimeout q).channel).held id =
          if c.id = id then
            (g.held id).map fun _ => (c.onRequest now g.config.channelTimeout q).channel
          else g.held id :=
        held_update (fun c' hc' => (onRequest_id c now _ q).trans hc'.symm) g
      simp only [datagramsOf_append, datagramsOf_forward, datagramsOf_sending, List.nil_append]
      by_cases hid : c.id = id
      · have hself : g.held id = [c] := by
          obtain hnone | ⟨c', hc'⟩ := hone
          · rw [← id_of_held hmem, hid, hnone] at hmem
            exact absurd hmem List.not_mem_nil
          · rw [← id_of_held hmem, hid, hc'] at hmem
            rw [hc', List.mem_singleton.1 hmem]
        rw [if_pos hid, hself] at hheld
        obtain ⟨hcontrol, hexpires⟩ := onRequest_control c now g.config.channelTimeout q
        exact .kept c _ hself hheld hcontrol hexpires
          (fun h => absurd h (not_affirming_of_service (by decide) hacks))
          (plain_of_service (by decide) rfl hacks)
      · rw [if_neg hid] at hheld
        exact .aside hone hheld (by decide) (by decide) rfl hacks

theorem onTunnelAck_custody (hone : AtMostOne (g.held id)) (p : Packet) :
    Custody id now looked g (g.onTunnelAck p) [] := by
  unfold onTunnelAck
  split
  · exact .calm hone rfl plain_nil not_affirming_nil
  · rename_i a _
    have hheld : (g.update a.channel (·.onAck a)).held id =
        if a.channel = id then (g.held id).map (·.onAck a) else g.held id :=
      held_update (fun c _ => onAck_id c a) g
    have hsame : ∀ c : GatewayChannel, (c.onAck a).control = c.control ∧
        (c.onAck a).expires = c.expires := by
      intro c
      unfold GatewayChannel.onAck
      split <;> exact ⟨rfl, rfl⟩
    by_cases hid : a.channel = id
    · rw [if_pos hid] at hheld
      exact .map hone (fun c => (hsame c).1) (fun c => Or.inl (hsame c).2) hheld plain_nil
        not_affirming_nil
    · rw [if_neg hid] at hheld
      exact .calm hone hheld plain_nil not_affirming_nil

theorem onSearch_service (p : Packet) (sender : Endpoint) :
    ∀ o ∈ g.onSearch p sender, o.packet.service = .searchResponse := by
  unfold onSearch
  split
  · exact fun o ho => absurd ho List.not_mem_nil
  · simp only
    split
    · exact fun o ho => absurd ho List.not_mem_nil
    · exact ofBuilt_service _ _ _

theorem onDescription_service (p : Packet) (sender : Endpoint) :
    ∀ o ∈ g.onDescription p sender, o.packet.service = .descriptionResponse := by
  unfold onDescription
  split
  · exact fun o ho => absurd ho List.not_mem_nil
  · exact ofBuilt_service _ _ _

theorem onPacket_custody (hone : AtMostOne (g.held id)) (p : Received) :
    Custody id now (some p.packet) g (g.onPacket now p).1 (datagramsOf (g.onPacket now p).2) := by
  have hnothing : Custody id now (some p.packet) g g [] :=
    .calm hone rfl plain_nil not_affirming_nil
  unfold onPacket
  simp only
  split
  · split
    · simp only [datagramsOf_sending]
      exact .aside hone rfl (by decide) (by decide) rfl (onSearch_service p.packet p.sender)
    · exact hnothing
  · split
    · simp only [datagramsOf_sending]
      exact .aside hone rfl (by decide) (by decide) rfl (onDescription_service p.packet p.sender)
    · exact hnothing
  · split
    · simp only [datagramsOf_forward]
      exact hnothing
    · exact hnothing
  · split
    · simp only [onlySending, datagramsOf_sending]
      exact onConnect_custody hone p.packet p.sender
    · exact hnothing
  · split
    · simp only [onlySending, datagramsOf_sending]
      exact onState_custody hone p.packet p.sender
    · exact hnothing
  · split
    · simp only [onlySending, datagramsOf_sending]
      exact onDisconnect_custody hone p.packet p.sender
    · exact hnothing
  · split
    · exact onTunnelRequest_custody hone p.packet
    · exact hnothing
  · split
    · exact onTunnelAck_custody hone p.packet
    · exact hnothing
  · exact hnothing

/-! ## All parts -/

/-- What a gateway does at a time, other than to end. -/
inductive Doing where
  /-- A frame comes from the bus. -/
  | hear (frame : Frame)
  /-- It looks at a datagram. -/
  | look
  /-- It looks at a frame from the bus. -/
  | listen
  /-- Silent channels end. -/
  | expire
  /-- Each channel sends, if it can. -/
  | pump
  deriving DecidableEq, Repr

/-- What is done, at a time. -/
def Doing.act (now : Nat) : Doing → Act
  | hear frame => .hear frame
  | look => .look now
  | listen => .listen
  | expire => .expire now
  | pump => .pump now

/-- The datagram that is looked at, and those that wait behind it. -/
def Doing.rest (d : Doing) (g : Gateway) : Option Packet × List Received :=
  match d with
  | look => frontOf g.received
  | _ => (none, g.received)

theorem Doing.rest_eq (d : Doing) (g : Gateway) :
    (d.rest g).1.toList ++ (d.rest g).2.map (·.packet) = g.received.map (·.packet) := by
  cases d with
  | look => exact frontOf_eq g.received
  | hear frame => rfl
  | listen => rfl
  | expire => rfl
  | pump => rfl

theorem pump_control (c : GatewayChannel) (config : GatewayConfig) (now : Nat) :
    (c.pump config now).1.control = c.control ∧ (c.pump config now).1.expires = c.expires := by
  cases c.pump_outcome config now with
  | rests _ eq => rw [eq]; exact ⟨rfl, rfl⟩
  | givesUp _ _ eq => rw [eq]; exact ⟨rfl, rfl⟩
  | sends message rest _ _ _ eq => rw [eq]; exact ⟨rfl, rfl⟩
  | idles _ _ eq => rw [eq]; exact ⟨rfl, rfl⟩

/-- It does not matter what else is waiting. -/
theorem Custody.of_withWaiting {packets : List Received} {frames : List Frame}
    (h : Custody id now looked (g.withWaiting packets frames) g' sent) :
    Custody id now looked g g' sent := by
  cases h with
  | absent before after plain => exact .absent before after plain
  | kept c c' before after control_eq expires_eq affirmed plain =>
    exact .kept c c' before after control_eq expires_eq affirmed plain
  | opened c before after expires_eq channels_eq told =>
    exact .opened c before after expires_eq channels_eq told
  | closed c p before after looked_eq closes plain =>
    exact .closed c p before after looked_eq closes plain
  | expired c before after passed plain => exact .expired c before after passed plain

theorem onBus_custody (hone : AtMostOne (g.held id)) (frame : Frame) :
    Custody id now looked g (g.onBus frame).1 (g.onBus frame).2 := by
  unfold onBus
  split
  · exact .calm hone rfl plain_nil not_affirming_nil
  · rename_i message _
    have hservice : ∀ o ∈ (if g.config.route then
        [(⟨⟨.routingIndication, message⟩, g.group⟩ : Outgoing)] else []),
          o.packet.service = .routingIndication := by
      intro o ho
      split at ho
      · rw [List.mem_singleton.1 ho]
      · exact absurd ho List.not_mem_nil
    exact .map hone (f := (·.offer message)) (fun _ => rfl) (fun _ => Or.inl rfl)
      (filter_map_of_id (f := (·.offer message)) (fun _ => rfl) g.channels)
      (plain_of_service (by decide) rfl hservice)
      (not_affirming_of_service (by decide) hservice)

theorem expire_custody (hone : AtMostOne (g.held id)) (now : Nat) :
    Custody id now looked g (g.expire now) [] := by
  have hheld : (g.expire now).held id = (g.held id).filter fun c => !c.isExpired now :=
    held_expire g now
  obtain hnone | ⟨c, hc⟩ := hone
  · rw [hnone] at hheld
    exact .absent hnone hheld plain_nil
  · rw [hc] at hheld
    by_cases hpassed : c.expires ≤ now
    · rw [List.filter_cons_of_neg (by simp [isExpired, hpassed])] at hheld
      exact .expired c hc hheld hpassed plain_nil
    · rw [List.filter_cons_of_pos (by simpa [isExpired] using hpassed)] at hheld
      exact .kept c c hc hheld rfl (Or.inl rfl) (fun h => absurd h not_affirming_nil) plain_nil

theorem pumpChannels_custody (hone : AtMostOne (g.held id)) (now : Nat) :
    Custody id now looked g (g.pumpChannels now).1 (g.pumpChannels now).2 := by
  have hservice : ∀ o ∈ (g.pumpChannels now).2, o.packet.service = .tunnelRequest := by
    intro o ho
    obtain ⟨c, message, rfl⟩ := pumpChannels_sent now o ho
    rfl
  exact .map hone (fun c => (pump_control c _ now).1) (fun c => Or.inl (pump_control c _ now).2)
    (held_pumpChannels g now) (plain_of_service (by decide) rfl hservice)
    (not_affirming_of_service (by decide) hservice)

/-- **Whatever a gateway does**, for who has a channel it is one of these five things, and it looks
at the datagrams that wait in their order. -/
theorem perform_custody (hone : AtMostOne (g.held id)) (d : Doing) :
    Custody id now (d.rest g).1 g (g.perform (d.act now)).1
        (datagramsOf (g.perform (d.act now)).2) ∧
      (g.perform (d.act now)).1.received = (d.rest g).2 := by
  cases d with
  | hear frame => exact ⟨.calm hone rfl plain_nil not_affirming_nil, rfl⟩
  | look =>
    cases hfront : g.received with
    | nil =>
      have hrest : Doing.rest .look g = (none, []) := by
        rw [Doing.rest, hfront]
        rfl
      simp only [Doing.act, perform_look_nil hfront, hrest]
      exact ⟨.calm hone rfl plain_nil not_affirming_nil, hfront⟩
    | cons p later =>
      have hrest : Doing.rest .look g = (some p.packet, later) := by
        rw [Doing.rest, hfront]
        rfl
      have hcustody : Custody id now (some p.packet) (g.withWaiting later g.heard)
          ((g.withWaiting later g.heard).onPacket now p).1
          (datagramsOf ((g.withWaiting later g.heard).onPacket now p).2) :=
        onPacket_custody (g := g.withWaiting later g.heard) hone p
      simp only [Doing.act, perform_look_cons hfront, hrest]
      exact ⟨hcustody.of_withWaiting, by rw [onPacket_withWaiting]; rfl⟩
  | listen =>
    cases hfront : g.heard with
    | nil =>
      simp only [Doing.act, perform_listen_nil hfront]
      exact ⟨.calm hone rfl plain_nil not_affirming_nil, rfl⟩
    | cons f later =>
      simp only [Doing.act, perform_listen_cons hfront, onlySending, datagramsOf_sending]
      exact ⟨(onBus_custody (g := g.withWaiting g.received later) hone f).of_withWaiting,
        by rw [onBus_withWaiting]; rfl⟩
  | expire => exact ⟨expire_custody hone now, rfl⟩
  | pump =>
    simp only [Doing.act, perform, onlySending, datagramsOf_sending]
    exact ⟨pumpChannels_custody hone now, rfl⟩

end Gateway
end KnxBus
