import KnxBus.Proofs.Gateway.Chronicle
import KnxBus.Proofs.Gateway.Table

/-!
# Requests to a gateway

Anybody can send a gateway requests, on any channel, under any number and with anything in them.
What the gateway makes of one depends on three things only: whether the channel is open, how the
number of the request stands to the number that the channel expects, and what the message in it is
(`Gateway.Treats`).

## What a message yields

Only the message under the expected number is looked at, and the first octet of it decides
(`GatewayChannel.Yields`).  What is to be sent (`0x11`) goes to the bus and is confirmed, if the
confirmation can be written; what has been received (`0x29`) goes to the bus; anything else that can
be understood is taken and left.  What cannot be understood is refused, and still takes its number.
-/

namespace KnxBus

theorem MessageCode.ofOctet_eq_request_iff (code : UInt8) :
    ofOctet code = request ↔ code = 0x11 := by
  unfold ofOctet
  split <;> simp_all

theorem MessageCode.ofOctet_eq_indication_iff (code : UInt8) :
    ofOctet code = indication ↔ code = 0x29 := by
  unfold ofOctet
  split <;> simp_all

/-- A message bears its code in front. -/
theorem Cemi.code_of_decode {b : Octets} {m : Cemi} (h : decode b = .ok m) :
    ∃ code, b.head? = some code ∧ m.code = .ofOctet code := by
  unfold decode at h
  split at h
  · rename_i code information rest
    refine ⟨code, rfl, ?_⟩
    split at h
    · cases h
    · split at h
      · cases h
        rfl
      · cases h
  · cases h

/-- So it does when it is written. -/
theorem Cemi.head_of_toOctets {m : Cemi} {b : Octets} (h : m.toOctets = .ok b) :
    b.head? = some m.code.octet := by
  obtain ⟨-, -, rfl⟩ := writes_iff.1 (Encoding.toOctets_eq_ok_iff.1 h).1
  rfl

namespace GatewayChannel

/-! ## What comes of a request -/

/-- What comes of a message under the expected number. -/
structure Yield where
  /-- What the client is told. -/
  status : UInt8
  /-- What goes to the bus. -/
  forwarded : List Frame
  /-- What joins the queue of the channel. -/
  confirmed : List Octets
  deriving DecidableEq, Repr

/-- What a message yields. -/
inductive Yields (message : Octets) : Yield → Prop where
  /-- It cannot be understood. -/
  | refused {cause : DecodeError} (decode_eq : Cemi.decode message = .error cause) :
    Yields message ⟨0x29, [], []⟩
  /-- A frame to be sent goes to the bus, and that it has been sent is confirmed. -/
  | sent {m : Cemi} {confirmation : Octets} (decode_eq : Cemi.decode message = .ok m)
    (code_eq : message.head? = some 0x11)
    (confirmation_eq : (Cemi.mk .confirmation m.frame).toOctets = .ok confirmation)
    (confirms : confirmation.head? = some 0x2e) : Yields message ⟨0x00, [m.frame], [confirmation]⟩
  /-- The confirmation may be impossible to write. -/
  | unconfirmed {m : Cemi} {cause : EncodeError} (decode_eq : Cemi.decode message = .ok m)
    (code_eq : message.head? = some 0x11)
    (confirmation_eq : (Cemi.mk .confirmation m.frame).toOctets = .error cause) :
    Yields message ⟨0x00, [m.frame], []⟩
  /-- A frame that has been received goes to the bus. -/
  | indicated {m : Cemi} (decode_eq : Cemi.decode message = .ok m)
    (code_eq : message.head? = some 0x29) : Yields message ⟨0x00, [m.frame], []⟩
  /-- Anything else is taken and left. -/
  | left {m : Cemi} (decode_eq : Cemi.decode message = .ok m)
    (code_ne : message.head? ≠ some 0x11) (code_ne' : message.head? ≠ some 0x29) :
    Yields message ⟨0x00, [], []⟩

/-- What the channel makes of a message. -/
def yield (message : Octets) : Yield :=
  match Cemi.decode message with
  | .ok m => ⟨Status.ok, busFrame m, confirmation m⟩
  | .error _ => ⟨Status.tunnellingLayer, [], []⟩

theorem yields_yield (message : Octets) : Yields message (yield message) := by
  unfold yield
  cases hdecode : Cemi.decode message with
  | error cause => exact .refused hdecode
  | ok m =>
    obtain ⟨code, hhead, hcode⟩ := Cemi.code_of_decode hdecode
    have hrequest : m.code = .request ↔ message.head? = some 0x11 := by
      rw [hcode, hhead, MessageCode.ofOctet_eq_request_iff, Option.some_inj]
    have hindication : m.code = .indication ↔ message.head? = some 0x29 := by
      rw [hcode, hhead, MessageCode.ofOctet_eq_indication_iff, Option.some_inj]
    unfold busFrame confirmation
    cases hm : m.code with
    | request =>
      cases hwritten : (Cemi.mk .confirmation m.frame).toOctets with
      | ok octets =>
        simp only [hm, hwritten]
        exact .sent hdecode (hrequest.1 hm) hwritten (Cemi.head_of_toOctets hwritten)
      | error cause =>
        simp only [hm, hwritten]
        exact .unconfirmed hdecode (hrequest.1 hm) hwritten
    | indication =>
      simp only [hm]
      exact .indicated hdecode (hindication.1 hm)
    | _ =>
      simp only [hm]
      refine .left hdecode (fun h => ?_) fun h => ?_
      · cases hm.symm.trans (hrequest.2 h)
      · cases hm.symm.trans (hindication.2 h)

/-- A message yields one thing. -/
theorem Yields.eq {message : Octets} {y y' : Yield} (h : Yields message y)
    (h' : Yields message y') : y = y' := by
  cases h <;> cases h' <;> simp_all

theorem yields_iff {message : Octets} {y : Yield} : Yields message y ↔ y = yield message :=
  ⟨fun h => h.eq (yields_yield message), fun h => h ▸ yields_yield message⟩

/-- The channel when the request that it expects has come. -/
def accepting (c : GatewayChannel) (now timeout : Nat) (confirmed : List Octets) : GatewayChannel :=
  { c with
    receiveNo := c.receiveNo + 1
    expires := now + timeout
    queue := c.queue ++ confirmed }

variable {c : GatewayChannel} {q : TunnelRequest}

theorem onRequest_expected (h : q.sequence = c.receiveNo) (now timeout : Nat) :
    c.onRequest now timeout q =
      ⟨c.accepting now timeout (yield q.message).confirmed, (yield q.message).forwarded,
        [c.acknowledge q.sequence (yield q.message).status]⟩ := by
  have hnot : q.sequence + 1 ≠ c.receiveNo := by
    rw [h]
    intro hsame
    have hvalue := congrArg UInt8.toNat hsame
    rw [UInt8.toNat_add] at hvalue
    have hlt := c.receiveNo.toNat_lt
    have hone : (1 : UInt8).toNat = 1 := rfl
    omega
  rw [onRequest, if_neg hnot, if_neg (not_not_intro h), accepting, yield]
  cases Cemi.decode q.message with
  | ok m => rfl
  | error cause => rw [List.append_nil]

theorem onRequest_previous (h : q.sequence + 1 = c.receiveNo) (now timeout : Nat) :
    c.onRequest now timeout q = ⟨c, [], [c.acknowledge q.sequence Status.ok]⟩ := by
  rw [onRequest, if_pos h]

theorem onRequest_other (h : q.sequence ≠ c.receiveNo) (h' : q.sequence + 1 ≠ c.receiveNo)
    (now timeout : Nat) : c.onRequest now timeout q = ⟨c, [], []⟩ := by
  rw [onRequest, if_neg h', if_pos h]

end GatewayChannel

/-! ## Requests that can be read -/

/-- A request can be read from its datagram if there are two octets of message. -/
theorem TunnelRequest.ofPacket_toPacket_iff (q : TunnelRequest) :
    TunnelRequest.ofPacket q.toPacket = .ok q ↔ 2 ≤ q.message.length := by
  have hread : TunnelRequest.ofPacket q.toPacket =
      if q.message.length < 2 then .error .endOfInput else .ok q := by
    by_cases hshort : q.message.length < 2
    · rw [if_pos hshort]
      simp only [TunnelRequest.ofPacket, TunnelRequest.toPacket, Packet.expect, if_true, hshort]
      rfl
    · rw [if_neg hshort]
      simp only [TunnelRequest.ofPacket, TunnelRequest.toPacket, Packet.expect, if_true, hshort]
      rfl
  rw [hread]
  constructor
  · intro h
    by_contra hshort
    rw [if_pos (by omega)] at h
    cases h
  · intro h
    rw [if_neg (by omega)]

theorem TunnelRequest.service_of_ofPacket {p : Packet} {q : TunnelRequest}
    (h : TunnelRequest.ofPacket p = .ok q) : p.service = .tunnelRequest :=
  Decidable.by_contra fun hne => Gateway.not_request_of_service hne q h

namespace Gateway
open GatewayChannel

variable {g : Gateway} {id : UInt8}

/-! ## Channels are open only where they are offered -/

/-- There are no channels where none are offered. -/
def OnlyOffered (g : Gateway) : Prop := g.config.tunnel = false → g.channels = []

theorem onPacket_of_not_offered (h : g.config.tunnel = false) (now : Nat) (p : Received) :
    (g.onPacket now p).1 = g := by
  unfold onPacket
  simp only [h]
  split
  · split <;> rfl
  · split <;> rfl
  · split <;> rfl
  all_goals rfl

theorem OnlyOffered.perform (h : g.OnlyOffered) (a : Act) : (g.perform a).1.OnlyOffered := by
  intro hoff
  rw [(perform_setup a g).1.config_eq] at hoff
  have hnone := h hoff
  cases a with
  | hear f => exact hnone
  | look now =>
    unfold Gateway.perform
    simp only
    split
    · exact hnone
    · rename_i p later _
      rw [onPacket_of_not_offered (g := { g with received := later }) hoff]
      exact hnone
  | listen =>
    unfold Gateway.perform
    simp only
    split
    · exact hnone
    · rename_i f later _
      obtain ⟨channels, heq, hlength⟩ := onBus_table f { g with heard := later }
      rw [onlySending, heq]
      rw [hnone] at hlength
      exact List.eq_nil_of_length_eq_zero hlength
  | expire now =>
    simp only [Gateway.perform, Gateway.expire, publish, hnone, List.filter_nil]
  | pump now =>
    simp only [Gateway.perform, onlySending, pumpChannels, hnone, List.map_nil]
  | finish => rfl

/-! ## What becomes of a request -/

/-- A channel that is the only one of its number is put in its own place. -/
theorem update_same {c : GatewayChannel} (h : g.held c.id = [c]) :
    (g.update c.id fun _ => c) = g := by
  have hsame : g.channels.map (fun c' => if c'.id = c.id then c else c') = g.channels := by
    refine (List.map_congr_left fun c' hc' => ?_).trans (List.map_id _)
    split
    · rename_i hid
      have hmem : c' ∈ g.held c.id := List.mem_filter.2 ⟨hc', beq_iff_eq.2 hid⟩
      rw [h, List.mem_singleton] at hmem
      rw [hmem]
      rfl
    · rfl
  rw [update, hsame]

/-- A channel is put in the place of the only one of its number. -/
theorem held_put {c c' : GatewayChannel} (hid : c'.id = c.id) (h : g.held c.id = [c]) :
    (g.update c.id fun _ => c').held c.id = [c'] := by
  have hkeeps : ∀ c₀ : GatewayChannel, c₀.id = c.id → c'.id = c₀.id :=
    fun c₀ hc₀ => hid.trans hc₀.symm
  rw [held_update (f := fun _ => c') hkeeps, if_pos rfl, h, List.map_singleton]

/-- The acknowledgement of a request, as it goes to the client of a channel. -/
def acknowledging (c : GatewayChannel) (sequence status : UInt8) : GatewayAction :=
  .datagram ⟨(TunnelAck.mk c.id sequence status).toPacket, c.data⟩

/-- **What a gateway makes of a datagram that is to be a request.** -/
structure Treats (g : Gateway) (now : Nat) (p : Received) : Prop where
  /-- If it cannot be read, it gets no answer and changes nothing. -/
  unreadable : p.packet.service = .tunnelRequest →
    (∀ q, TunnelRequest.ofPacket p.packet ≠ .ok q) → g.onPacket now p = (g, [])
  /-- If no such channel is open, neither. -/
  closed : ∀ q, TunnelRequest.ofPacket p.packet = .ok q → q.channel ∉ g.ids →
    g.onPacket now p = (g, [])
  /-- The number that is expected: what the message yields goes to the bus and joins the queue, the
  channel expects the next number and goes on for a while, and the client gets one answer. -/
  expected : ∀ q c, TunnelRequest.ofPacket p.packet = .ok q → c ∈ g.channels → q.channel = c.id →
    q.sequence = c.receiveNo → ∃ y, Yields q.message y ∧
    g.onPacket now p =
      (g.update c.id fun _ =>
        { c with
          receiveNo := c.receiveNo + 1
          expires := now + g.config.channelTimeout
          queue := c.queue ++ y.confirmed },
        y.forwarded.map .forward ++ [acknowledging c q.sequence y.status])
  /-- The number before that: it is acknowledged as good, and nothing changes. -/
  previous : ∀ q c, TunnelRequest.ofPacket p.packet = .ok q → c ∈ g.channels → q.channel = c.id →
    q.sequence + 1 = c.receiveNo →
    g.onPacket now p = (g, [acknowledging c q.sequence 0x00])
  /-- Any other number: there is no answer, and nothing changes. -/
  other : ∀ q c, TunnelRequest.ofPacket p.packet = .ok q → c ∈ g.channels → q.channel = c.id →
    q.sequence ≠ c.receiveNo → q.sequence + 1 ≠ c.receiveNo → g.onPacket now p = (g, [])

theorem onPacket_of_request {p : Received} (hservice : p.packet.service = .tunnelRequest)
    (htunnel : g.config.tunnel = true) (now : Nat) :
    g.onPacket now p = g.onTunnelRequest now p.packet := by
  unfold onPacket
  simp only [hservice, htunnel, if_true]

/-- A request that cannot be read, or that comes where nothing is offered, is ignored. -/
theorem onPacket_ignores {p : Received} (hservice : p.packet.service = .tunnelRequest)
    (h : g.config.tunnel = false ∨ (∀ q, TunnelRequest.ofPacket p.packet ≠ .ok q) ∨
      ∃ q, TunnelRequest.ofPacket p.packet = .ok q ∧ g.held q.channel = []) (now : Nat) :
    g.onPacket now p = (g, []) := by
  by_cases htunnel : g.config.tunnel = true
  · rw [onPacket_of_request hservice htunnel, onTunnelRequest]
    rcases h with hoff | hunreadable | ⟨q, hq, hnone⟩
    · rw [htunnel] at hoff
      cases hoff
    · split
      · rfl
      · rename_i q hq
        exact absurd hq (hunreadable q)
    · rw [hq]
      simp only [channel?_eq, hnone, List.head?_nil]
  · unfold onPacket
    simp only [hservice, htunnel]
    rfl

/-- A request reaches the channel that it names. -/
theorem onPacket_reaches {p : Received} {q : TunnelRequest} {c : GatewayChannel}
    (hq : TunnelRequest.ofPacket p.packet = .ok q) (hc : g.held q.channel = [c])
    (htunnel : g.config.tunnel = true) (now : Nat) :
    g.onPacket now p =
      (g.update c.id fun _ => (c.onRequest now g.config.channelTimeout q).channel,
        (c.onRequest now g.config.channelTimeout q).frames.map .forward ++
          sending (c.onRequest now g.config.channelTimeout q).acks) := by
  rw [onPacket_of_request (TunnelRequest.service_of_ofPacket hq) htunnel, onTunnelRequest, hq]
  simp only [channel?_eq, hc, List.head?_cons]

theorem tunnel_of_held (h : g.OnlyOffered) {c : GatewayChannel} (hc : c ∈ g.channels) :
    g.config.tunnel = true := by
  by_contra hoff
  rw [h (Bool.eq_false_iff.2 hoff)] at hc
  exact absurd hc List.not_mem_nil

theorem treats (h : g.Orderly) (hoffered : g.OnlyOffered) (now : Nat) (p : Received) :
    g.Treats now p := by
  have hreaches : ∀ q c, TunnelRequest.ofPacket p.packet = .ok q → c ∈ g.channels →
      q.channel = c.id →
      g.held c.id = [c] ∧ g.onPacket now p =
        (g.update c.id fun _ => (c.onRequest now g.config.channelTimeout q).channel,
          (c.onRequest now g.config.channelTimeout q).frames.map .forward ++
            sending (c.onRequest now g.config.channelTimeout q).acks) := by
    intro q c hq hc hid
    have hheld := h.held_id hc
    exact ⟨hheld, onPacket_reaches hq (hid ▸ hheld) (tunnel_of_held hoffered hc) now⟩
  constructor
  case unreadable =>
    intro hservice hunreadable
    exact onPacket_ignores hservice (Or.inr (Or.inl hunreadable)) now
  case closed =>
    intro q hq hclosed
    rw [mem_ids_iff, ne_eq, Decidable.not_not] at hclosed
    exact onPacket_ignores (TunnelRequest.service_of_ofPacket hq)
      (Or.inr (Or.inr ⟨q, hq, hclosed⟩)) now
  case expected =>
    intro q c hq hc hid hnext
    refine ⟨yield q.message, yields_yield q.message, ?_⟩
    rw [(hreaches q c hq hc hid).2, onRequest_expected hnext]
    rfl
  case previous =>
    intro q c hq hc hid hbefore
    obtain ⟨hheld, hlook⟩ := hreaches q c hq hc hid
    rw [hlook, onRequest_previous hbefore, update_same hheld]
    rfl
  case other =>
    intro q c hq hc hid hnext hbefore
    obtain ⟨hheld, hlook⟩ := hreaches q c hq hc hid
    rw [hlook, onRequest_other hnext hbefore, update_same hheld]
    rfl

/-- A request is expected, or it changes nothing and nothing goes to the bus. -/
theorem request_outcome (h : g.Orderly) (hoffered : g.OnlyOffered) {p : Received}
    (hservice : p.packet.service = .tunnelRequest) (now : Nat) :
    (∃ q c, TunnelRequest.ofPacket p.packet = .ok q ∧ c ∈ g.channels ∧ q.channel = c.id ∧
      q.sequence = c.receiveNo ∧
      g.onPacket now p =
        (g.update c.id fun _ => c.accepting now g.config.channelTimeout (yield q.message).confirmed,
          (yield q.message).forwarded.map .forward ++
            [acknowledging c q.sequence (yield q.message).status])) ∨
    ((g.onPacket now p).1 = g ∧ forwardsOf (g.onPacket now p).2 = [] ∧
      ∀ q c, TunnelRequest.ofPacket p.packet = .ok q → c ∈ g.channels → q.channel = c.id →
        q.sequence ≠ c.receiveNo) := by
  have htreats := treats h hoffered now p
  by_cases hreadable : ∃ q, TunnelRequest.ofPacket p.packet = .ok q
  · obtain ⟨q, hq⟩ := hreadable
    by_cases hopen : q.channel ∈ g.ids
    · obtain ⟨c, hc, hid⟩ := List.mem_map.1 hopen
      have honly : ∀ q' c', TunnelRequest.ofPacket p.packet = .ok q' → c' ∈ g.channels →
          q'.channel = c'.id → q' = q ∧ c' = c := by
        intro q' c' hq' hc' hid'
        rw [hq] at hq'
        cases hq'
        have hmem : c' ∈ g.held c.id :=
          List.mem_filter.2 ⟨hc', beq_iff_eq.2 (hid'.symm.trans hid.symm)⟩
        rw [h.held_id hc] at hmem
        exact ⟨rfl, List.mem_singleton.1 hmem⟩
      by_cases hnext : q.sequence = c.receiveNo
      · obtain ⟨y, hy, hlook⟩ := htreats.expected q c hq hc hid.symm hnext
        rw [yields_iff.1 hy] at hlook
        exact Or.inl ⟨q, c, hq, hc, hid.symm, hnext, hlook⟩
      · have hnot : ∀ q' c', TunnelRequest.ofPacket p.packet = .ok q' → c' ∈ g.channels →
            q'.channel = c'.id → q'.sequence ≠ c'.receiveNo := by
          intro q' c' hq' hc' hid'
          obtain ⟨rfl, rfl⟩ := honly q' c' hq' hc' hid'
          exact hnext
        by_cases hbefore : q.sequence + 1 = c.receiveNo
        · rw [htreats.previous q c hq hc hid.symm hbefore]
          exact Or.inr ⟨rfl, rfl, hnot⟩
        · rw [htreats.other q c hq hc hid.symm hnext hbefore]
          exact Or.inr ⟨rfl, rfl, hnot⟩
    · rw [htreats.closed q hq hopen]
      refine Or.inr ⟨rfl, rfl, fun q' c' hq' hc' hid' => ?_⟩
      rw [hq] at hq'
      cases hq'
      exact absurd (List.mem_map.2 ⟨c', hc', hid'.symm⟩) hopen
  · have hunreadable : ∀ q, TunnelRequest.ofPacket p.packet ≠ .ok q :=
      fun q hq => hreadable ⟨q, hq⟩
    rw [htreats.unreadable hservice hunreadable]
    exact Or.inr ⟨rfl, rfl, fun q _ hq => absurd hq (hunreadable q)⟩

end Gateway
end KnxBus
