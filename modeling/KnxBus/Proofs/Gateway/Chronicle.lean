import KnxBus.Proofs.Gateway.Outcomes
import KnxBus.Proofs.Run
import KnxBus.Proofs.Window

/-!
# The chronicle of a channel

A gateway does not remember which requests a channel has accepted, what it has given to the bus for
it, or how many of its own requests were acknowledged.  A `GatewayChronicle` is a gateway together
with the past of one channel, given by its number.  When a channel is opened under this number, its
past is empty; when it ends, the past stays as it was until the number is given out again.

For the client of the channel there are five things that can happen while the channel is open
(`GatewayChronicle.Effect`).

## Giving up

A channel that has sent a frame often enough gives it up, but does not move its number on.  The
chronicle counts the frames given up since the last acknowledgement.  As long as there are none and
no frame is under way, the channel is *settled*: nothing that it has sent since then can still be on
the way.
-/

namespace KnxBus

/-- A gateway together with the past of one channel. -/
structure GatewayChronicle where
  /-- The gateway. -/
  gateway : Gateway
  /-- The requests that the channel has accepted, oldest first. -/
  accepted : List TunnelRequest
  /-- The frames that were given to the bus because of requests on the channel, oldest first. -/
  forwarded : List Frame
  /-- How many requests of the channel have been acknowledged. -/
  acked : Nat
  /-- How many frames the channel has given up since then. -/
  abandoned : Nat
  deriving DecidableEq, Repr

namespace GatewayChronicle

/-- The request on a channel that a datagram carries. -/
def requestFor (id : UInt8) (p : Packet) : List TunnelRequest :=
  match TunnelRequest.ofPacket p with
  | .ok q => if q.channel = id then [q] else []
  | .error _ => []

/-- The datagram that a gateway is about to look at. -/
def front (a : Gateway.Act) (g : Gateway) : List Packet :=
  match a with
  | .look _ => (g.received.take 1).map (·.packet)
  | _ => []

/-- What the gateway has become and what it has done enters into the chronicle, together with what
can be seen from it.  A request has been accepted if it was looked at and the expected number has
moved on; whatever goes to the bus while a request is looked at goes there because of it.  A frame
has been given up if the queue has become shorter without an acknowledgement. -/
def noting (id : UInt8) (packets : List Packet) (g : Gateway) (actions : List GatewayAction)
    (r : GatewayChronicle) : GatewayChronicle :=
  match r.gateway.held id, g.held id with
  | c :: _, c' :: _ =>
    { gateway := g
      accepted :=
        if c'.receiveNo = c.receiveNo then r.accepted
        else r.accepted ++ packets.flatMap (requestFor id)
      forwarded :=
        if packets.flatMap (requestFor id) = [] then r.forwarded
        else r.forwarded ++ forwardsOf actions
      acked := if c'.sendNo = c.sendNo then r.acked else r.acked + 1
      abandoned :=
        if c'.sendNo ≠ c.sendNo then 0
        else if c'.queue.length < c.queue.length then r.abandoned + 1
        else r.abandoned }
  | [], _ :: _ => ⟨g, [], [], 0, 0⟩
  | _, [] => { r with gateway := g }

/-- One thing happens at the gateway; what it does comes out. -/
def act (id : UInt8) (a : Gateway.Act) (r : GatewayChronicle) :
    GatewayChronicle × List GatewayAction :=
  (r.noting id (front a r.gateway) (r.gateway.perform a).1 (r.gateway.perform a).2,
    (r.gateway.perform a).2)

/-- Datagrams have come in. -/
def hear (packets : List Received) (r : GatewayChronicle) : GatewayChronicle :=
  { r with gateway := { r.gateway with received := r.gateway.received ++ packets } }

/-- The datagrams that the gateway has not looked at. -/
def waiting (r : GatewayChronicle) : List Packet := r.gateway.received.map (·.packet)

/-! ## Agreement of the channel with its past -/

/-- A channel agrees with its past. -/
structure Agrees (id : UInt8) (r : GatewayChronicle) (c : GatewayChannel) : Prop where
  /-- The number under way counts the requests acknowledged. -/
  sendNo_eq : c.sendNo = octetNo r.acked
  /-- The expected number counts the requests accepted. -/
  receiveNo_eq : c.receiveNo = octetNo r.accepted.length
  /-- What is under way is in the queue. -/
  busy : c.attempts ≠ 0 → c.queue ≠ []
  /-- The requests accepted were for this channel and bore consecutive numbers. -/
  numbers : ∀ i q, r.accepted[i]? = some q → q.channel = id ∧ q.sequence = octetNo i

/-- The channel, if there is one, agrees with its past. -/
structure Sound (id : UInt8) (r : GatewayChronicle) : Prop where
  /-- The number has been given out once at most. -/
  one : GatewayChannel.AtMostOne (r.gateway.held id)
  /-- Whoever has it agrees with the past. -/
  agrees : ∀ c, r.gateway.held id = [c] → r.Agrees id c

/-- Nothing that the channel has sent since the last acknowledgement can be on the way. -/
def Settled (id : UInt8) (r : GatewayChronicle) : Prop :=
  r.abandoned = 0 ∧ ∃ c, r.gateway.held id = [c] ∧ c.attempts = 0

/-- What happens at a gateway while a channel is open, as it matters to the client. -/
inductive Effect (id : UInt8) (r r' : GatewayChronicle) (sent : List Outgoing) : Prop where
  /-- Nothing; perhaps a frame is given up or the channel ends. -/
  | quiet (accepted : r'.accepted = r.accepted) (forwarded : r'.forwarded = r.forwarded)
      (acked : r'.acked = r.acked) (waiting : r'.waiting.Sublist r.waiting)
      (settled : r'.Settled id → r.Settled id)
      (requests : requestsOn id (traffic sent) = []) (acks : acksOn id (traffic sent) = [])
  /-- The front of the queue is sent, for the first time or again. -/
  | sends (message : Octets) (accepted : r'.accepted = r.accepted)
      (forwarded : r'.forwarded = r.forwarded) (acked : r'.acked = r.acked)
      (waiting : r'.waiting.Sublist r.waiting) (settled : ¬ r'.Settled id)
      (requests : (requestsOn id (traffic sent)).Sublist [(octetNo r.acked, message)])
      (acks : acksOn id (traffic sent) = [])
  /-- The request that is expected is accepted, and acknowledged in one way or the other. -/
  | takes (p : Packet) (later : List Packet) (q : TunnelRequest)
      (front : r.waiting = p :: later)
      (numbered : p.requestOn? id = some (octetNo r.accepted.length, q.message))
      (accepted : r'.accepted = r.accepted ++ [q])
      (forwarded : r'.forwarded = r.forwarded ++ GatewayChannel.broughtBy q.message)
      (acked : r'.acked = r.acked) (waiting : r'.waiting = later)
      (settled : r'.Settled id → r.Settled id)
      (requests : requestsOn id (traffic sent) = [])
      (acks : (acksOn id (traffic sent)).Sublist [octetNo r.accepted.length])
  /-- The request before that is acknowledged once more. -/
  | repeats (p : Packet) (later : List Packet) (n : UInt8) (message : Octets)
      (front : r.waiting = p :: later) (numbered : p.requestOn? id = some (n, message))
      (before : n + 1 = octetNo r.accepted.length)
      (accepted : r'.accepted = r.accepted) (forwarded : r'.forwarded = r.forwarded)
      (acked : r'.acked = r.acked) (waiting : r'.waiting = later)
      (settled : r'.Settled id → r.Settled id)
      (requests : requestsOn id (traffic sent) = []) (acks : (acksOn id (traffic sent)).Sublist [n])
  /-- The request under way is acknowledged. -/
  | acknowledged (p : Packet) (later : List Packet) (front : r.waiting = p :: later)
      (confirms : p.ackOn? id = some (octetNo r.acked))
      (accepted : r'.accepted = r.accepted) (forwarded : r'.forwarded = r.forwarded)
      (acked : r'.acked = r.acked + 1) (waiting : r'.waiting = later)
      (requests : requestsOn id (traffic sent) = []) (acks : acksOn id (traffic sent) = [])

/-! ## The chronicle after something has happened -/

open GatewayChannel

variable {id : UInt8} {r : GatewayChronicle} {c c' : GatewayChannel} {g : Gateway}
  {packets : List Packet} {actions : List GatewayAction}

theorem noting_of_held (hc : r.gateway.held id = [c]) (hc' : g.held id = [c']) :
    r.noting id packets g actions =
      { gateway := g
        accepted :=
          if c'.receiveNo = c.receiveNo then r.accepted
          else r.accepted ++ packets.flatMap (requestFor id)
        forwarded :=
          if packets.flatMap (requestFor id) = [] then r.forwarded
          else r.forwarded ++ forwardsOf actions
        acked := if c'.sendNo = c.sendNo then r.acked else r.acked + 1
        abandoned :=
          if c'.sendNo ≠ c.sendNo then 0
          else if c'.queue.length < c.queue.length then r.abandoned + 1
          else r.abandoned } := by
  rw [noting, hc, hc']

theorem noting_gateway (id : UInt8) (packets : List Packet) (g : Gateway)
    (actions : List GatewayAction) (r : GatewayChronicle) :
    (r.noting id packets g actions).gateway = g := by
  unfold noting
  split <;> rfl

theorem noting_of_gone (hc' : g.held id = []) :
    r.noting id packets g actions = { r with gateway := g } := by
  rw [noting, hc']
  cases r.gateway.held id <;> rfl

/-- If nothing has moved and nothing was given to the bus, the past is the same. -/
theorem noting_unmoved (hc : r.gateway.held id = [c]) (hc' : g.held id = [c'])
    (hu : c.Unmoved c')
    (hforward : packets.flatMap (requestFor id) = [] ∨ forwardsOf actions = []) :
    r.noting id packets g actions = { r with gateway := g } := by
  have hlength : ¬ c'.queue.length < c.queue.length := Nat.not_lt.2 hu.queue_prefix.length_le
  rw [noting_of_held hc hc', if_pos hu.receiveNo_eq, if_pos hu.sendNo_eq,
    if_neg (not_not_intro hu.sendNo_eq), if_neg hlength]
  rcases hforward with hnone | hnone
  · rw [if_pos hnone]
  · rw [hnone, List.append_nil, ite_self]

/-- A channel is settled only if it was, unless it has sent or was acknowledged. -/
theorem settled_of_held {r' : GatewayChronicle} (hc : r.gateway.held id = [c])
    (hc' : r'.gateway.held id = [c']) (habandoned : r'.abandoned = r.abandoned)
    (hattempts : c'.attempts = c.attempts) : r'.Settled id → r.Settled id := by
  rintro ⟨hnone, c'', hc'', hidle⟩
  rw [hc'] at hc''
  cases hc''
  exact ⟨habandoned.symm.trans hnone, c, hc, hattempts.symm.trans hidle⟩

theorem Agrees.unmoved (h : r.Agrees id c) (hu : c.Unmoved c') :
    Agrees id { r with gateway := g } c' where
  sendNo_eq := hu.sendNo_eq.trans h.sendNo_eq
  receiveNo_eq := hu.receiveNo_eq.trans h.receiveNo_eq
  busy := fun hattempts hnil => by
    rw [hu.attempts_eq] at hattempts
    have hprefix := hu.queue_prefix
    rw [hnil, List.prefix_nil] at hprefix
    exact h.busy hattempts hprefix
  numbers := h.numbers

/-- One channel agrees with what has been noted, so the whole chronicle does. -/
theorem sound_of_held {r' : GatewayChronicle} (hc : r'.gateway.held id = [c])
    (h : r'.Agrees id c) : r'.Sound id := by
  refine ⟨Or.inr ⟨c, hc⟩, fun c' hc' => ?_⟩
  rw [hc] at hc'
  cases hc'
  exact h

theorem apart_sound (h : r.Sound id) (hapart : Apart (r.gateway.held id) (g.held id))
    (hforward : packets.flatMap (requestFor id) = [] ∨ forwardsOf actions = []) :
    (r.noting id packets g actions).Sound id := by
  cases hapart with
  | gone hgone =>
    rw [noting_of_gone hgone]
    refine ⟨Or.inl hgone, fun c hc => ?_⟩
    rw [hgone] at hc
    cases hc
  | opened c hnone hc hsend hreceive hattempts _ _ =>
    have hnoting : r.noting id packets g actions = ⟨g, [], [], 0, 0⟩ := by rw [noting, hnone, hc]
    rw [hnoting]
    refine sound_of_held hc ⟨hsend, hreceive, fun h => absurd hattempts h, fun i q hq => ?_⟩
    cases hq
  | kept c c' hc hc' hu =>
    rw [noting_unmoved hc hc' hu hforward]
    exact sound_of_held hc' ((h.agrees c hc).unmoved hu)

/-- What is not meant for the channel does not concern it. -/
theorem apart_effect (hc : r.gateway.held id = [c]) {sent : List Outgoing}
    (hapart : Apart (r.gateway.held id) (g.held id))
    (hforward : packets.flatMap (requestFor id) = [] ∨ forwardsOf actions = [])
    (hwaiting : (g.received.map (·.packet)).Sublist r.waiting)
    (hsilent : ∀ o ∈ sent, o.IsSilentOn id) :
    Effect id r (r.noting id packets g actions) sent := by
  have hrequests := requestsOn_traffic_silent hsilent
  have hacks := acksOn_traffic_silent hsilent
  cases hapart with
  | gone hgone =>
    rw [noting_of_gone hgone]
    refine Effect.quiet rfl rfl rfl hwaiting ?_ hrequests hacks
    rintro ⟨-, c, hc, -⟩
    rw [hgone] at hc
    cases hc
  | opened c hnone =>
    rw [hnone] at hc
    cases hc
  | kept c c' hc hc' hu =>
    rw [noting_unmoved hc hc' hu hforward]
    exact Effect.quiet rfl rfl rfl hwaiting (settled_of_held hc hc' rfl hu.attempts_eq) hrequests
      hacks

/-! ## What is meant for the channel -/

theorem requestFor_of_ofPacket {p : Packet} {q : TunnelRequest}
    (hq : TunnelRequest.ofPacket p = .ok q) (hid : q.channel = id) : requestFor id p = [q] := by
  rw [requestFor, hq]
  exact if_pos hid

theorem requestOn?_of_ofPacket {p : Packet} {q : TunnelRequest}
    (hq : TunnelRequest.ofPacket p = .ok q) (hid : q.channel = id) :
    p.requestOn? id = some (q.sequence, q.message) := by
  rw [Packet.requestOn?, hq]
  exact if_pos hid

/-- A request that is accepted enters into the chronicle, and so does what it brings to the bus. -/
theorem noting_accepted (h : r.Agrees id c) (hc : r.gateway.held id = [c]) {now : Nat}
    {more : List Octets} (hc' : g.held id =
      [{ c with receiveNo := c.receiveNo + 1, expires := now, queue := c.queue ++ more }])
    {p : Packet} {q : TunnelRequest} (hq : TunnelRequest.ofPacket p = .ok q) (hid : q.channel = id)
    (hforwarded : forwardsOf actions = broughtBy q.message) :
    r.noting id [p] g actions =
      { r with
        gateway := g
        accepted := r.accepted ++ [q]
        forwarded := r.forwarded ++ broughtBy q.message } := by
  have hrequest : [p].flatMap (requestFor id) = [q] := by
    rw [List.flatMap_singleton, requestFor_of_ofPacket hq hid]
  have hmoved : c.receiveNo + 1 ≠ c.receiveNo := by
    rw [h.receiveNo_eq, ← octetNo_succ]
    exact alternates_octetNo _
  have hlength : ¬ (c.queue ++ more).length < c.queue.length := by
    rw [List.length_append]
    exact Nat.not_lt.2 (Nat.le_add_right _ _)
  rw [noting_of_held hc hc', hrequest, hforwarded]
  simp only [if_neg hmoved, if_neg (List.cons_ne_nil q []), if_true, ne_eq, not_true, if_false,
    if_neg hlength]

/-- The request that was expected continues the numbers. -/
theorem Agrees.accepted (h : r.Agrees id c) {now : Nat} {more : List Octets} {q : TunnelRequest}
    (hid : q.channel = id) (hnext : q.sequence = c.receiveNo) (frames : List Frame) :
    Agrees id { r with gateway := g, accepted := r.accepted ++ [q], forwarded := frames }
      { c with receiveNo := c.receiveNo + 1, expires := now, queue := c.queue ++ more } where
  sendNo_eq := h.sendNo_eq
  receiveNo_eq := by
    simp only
    rw [h.receiveNo_eq, List.length_append, List.length_singleton, octetNo_succ]
  busy := fun hattempts hnil => h.busy hattempts (List.append_eq_nil_iff.1 hnil).1
  numbers := by
    intro i q' hq'
    rw [h.receiveNo_eq] at hnext
    rcases Nat.lt_trichotomy i r.accepted.length with hlt | rfl | hgt
    · simp only [List.getElem?_append_left hlt] at hq'
      exact h.numbers i q' hq'
    · simp only [List.getElem?_concat_length] at hq'
      cases hq'
      exact ⟨hid, hnext⟩
    · rw [List.getElem?_eq_none] at hq'
      · cases hq'
      · rw [List.length_append, List.length_singleton]
        exact hgt

/-- A request reaches the channel. -/
theorem request_effect (h : r.Sound id) (hc : r.gateway.held id = [c]) {p : Packet}
    {later : List Packet} (hfront : r.waiting = p :: later)
    (hwaiting : g.received.map (·.packet) = later) {q : TunnelRequest}
    (hq : TunnelRequest.ofPacket p = .ok q) (hid : q.channel = id) {now timeout : Nat}
    (hheld : g.held id = [(c.onRequest now timeout q).channel])
    (hactions : actions = (c.onRequest now timeout q).frames.map .forward ++
      Gateway.sending (c.onRequest now timeout q).acks) :
    (r.noting id [p] g actions).Sound id ∧
      Effect id r (r.noting id [p] g actions) (datagramsOf actions) := by
  have hagrees := h.agrees c hc
  have hcid : c.id = id := Gateway.id_of_held (by rw [hc]; exact List.mem_singleton_self c)
  have hnumbered := requestOn?_of_ofPacket hq hid
  have hsent : datagramsOf actions = (c.onRequest now timeout q).acks := by
    rw [hactions, datagramsOf_append, datagramsOf_forward, datagramsOf_sending, List.nil_append]
  have hforwarded : forwardsOf actions = (c.onRequest now timeout q).frames := by
    rw [hactions, forwardsOf_append, forwardsOf_forward, forwardsOf_sending, List.append_nil]
  have hacks : ∀ status, (acksOn id (traffic [c.acknowledge q.sequence status])).Sublist
      [q.sequence] := by
    intro status
    rw [← hcid]
    exact acksOn_ack c.data ⟨c.id, q.sequence, status⟩
  have hrequests : ∀ status, requestsOn id (traffic [c.acknowledge q.sequence status]) = [] :=
    fun status => requestsOn_ack id c.data ⟨c.id, q.sequence, status⟩
  rw [hsent]
  obtain ⟨hbefore, heq⟩ | heq | ⟨hnext, more, status, heq, -⟩ := c.onRequest_cases now timeout q
  · rw [heq] at hheld hforwarded ⊢
    rw [noting_unmoved hc hheld (Unmoved.refl c) (Or.inr hforwarded)]
    rw [hagrees.receiveNo_eq] at hbefore
    exact ⟨sound_of_held hheld (hagrees.unmoved (Unmoved.refl c)),
      Effect.repeats p later _ _ hfront hnumbered hbefore rfl rfl rfl hwaiting
        (settled_of_held hc hheld rfl rfl) (hrequests _) (hacks _)⟩
  · have hapart : Apart (r.gateway.held id) (g.held id) := by
      rw [heq] at hheld
      exact Apart.kept c c hc hheld (Unmoved.refl c)
    have hsub : (g.received.map (·.packet)).Sublist r.waiting := by
      rw [hwaiting, hfront]
      exact List.sublist_cons_self p later
    rw [heq] at hforwarded ⊢
    exact ⟨apart_sound h hapart (Or.inr hforwarded),
      apart_effect hc hapart (Or.inr hforwarded) hsub fun o ho => absurd ho List.not_mem_nil⟩
  · rw [heq] at hheld hforwarded ⊢
    rw [noting_accepted hagrees hc hheld hq hid hforwarded]
    refine ⟨sound_of_held hheld (hagrees.accepted hid hnext _), ?_⟩
    have hnumber : q.sequence = octetNo r.accepted.length := hnext.trans hagrees.receiveNo_eq
    rw [hnumber] at hnumbered
    refine Effect.takes p later q hfront hnumbered rfl rfl rfl hwaiting
      (settled_of_held hc hheld rfl rfl) (hrequests status) ?_
    rw [← hnumber]
    exact hacks status

/-- An acknowledgement reaches the channel. -/
theorem ack_effect (h : r.Sound id) (hc : r.gateway.held id = [c]) {p : Packet}
    {later : List Packet} (hfront : r.waiting = p :: later)
    (hwaiting : g.received.map (·.packet) = later) {a : TunnelAck}
    (ha : TunnelAck.ofPacket p = .ok a) (hid : a.channel = id)
    (hheld : g.held id = [c.onAck a]) :
    (r.noting id [p] g []).Sound id ∧ Effect id r (r.noting id [p] g []) [] := by
  have hagrees := h.agrees c hc
  have hforward : [p].flatMap (requestFor id) = [] ∨ forwardsOf [] = [] := Or.inr rfl
  have hsub : (g.received.map (·.packet)).Sublist r.waiting := by
    rw [hwaiting, hfront]
    exact List.sublist_cons_self p later
  by_cases hexpected : a.sequence = c.sendNo ∧ a.status = Status.ok ∧ c.attempts ≠ 0
  · have hmoved : c.sendNo + 1 ≠ c.sendNo := by
      rw [hagrees.sendNo_eq, ← octetNo_succ]
      exact alternates_octetNo _
    have hconfirms : p.ackOn? id = some (octetNo r.acked) := by
      rw [Packet.ackOn?, ha]
      simp only [if_pos hid]
      rw [hexpected.1, hagrees.sendNo_eq]
    rw [onAck, if_pos hexpected] at hheld
    have hnoting : r.noting id [p] g [] =
        { r with gateway := g, acked := r.acked + 1, abandoned := 0 } := by
      rw [noting_of_held hc hheld]
      simp only [advance, if_true, forwardsOf_nil, List.append_nil, ite_self, ne_eq, hmoved,
        not_false_eq_true, if_false]
    rw [hnoting]
    refine ⟨sound_of_held hheld ⟨?_, hagrees.receiveNo_eq, fun hne => absurd rfl hne,
      hagrees.numbers⟩, Effect.acknowledged p later hfront hconfirms rfl rfl rfl hwaiting rfl rfl⟩
    simp only
    rw [hagrees.sendNo_eq, octetNo_succ]
  · rw [onAck, if_neg hexpected] at hheld
    have hapart : Apart (r.gateway.held id) (g.held id) :=
      Apart.kept c c hc hheld (Unmoved.refl c)
    exact ⟨apart_sound h hapart hforward,
      apart_effect hc hapart hforward hsub fun o ho => absurd ho List.not_mem_nil⟩

/-- The channel sends by itself, or gives up. -/
theorem pump_effect (h : r.Sound id) (hc : r.gateway.held id = [c]) (now : Nat) :
    (r.act id (.pump now)).1.Sound id ∧
      Effect id r (r.act id (.pump now)).1 (datagramsOf (r.act id (.pump now)).2) := by
  have hagrees := h.agrees c hc
  obtain ⟨g, hg⟩ : ∃ g, (r.gateway.pumpChannels now).1 = g := ⟨_, rfl⟩
  obtain ⟨sent, hsent⟩ : ∃ sent, (r.gateway.pumpChannels now).2 = sent := ⟨_, rfl⟩
  have hact : r.act id (.pump now) =
      (r.noting id [] g (Gateway.sending sent), Gateway.sending sent) := by
    rw [← hg, ← hsent]
    rfl
  have hheld : g.held id = [(c.pump r.gateway.config now).1] := by
    rw [← hg, Gateway.held_pumpChannels, hc]
    rfl
  have hrequests : requestsOn id (traffic sent) =
      requestsOn id (traffic (c.pump r.gateway.config now).2) := by
    rw [← hsent, Gateway.requestsOn_pumpChannels, hc]
    exact List.flatMap_singleton _ _
  have hacks : acksOn id (traffic sent) = [] := by
    rw [← hsent]
    exact Gateway.acksOn_pumpChannels now
  have hwaiting : (g.received.map (·.packet)).Sublist r.waiting := by
    rw [← hg]
    exact List.Sublist.refl _
  have hforward : ([] : List Packet).flatMap (requestFor id) = [] ∨
      forwardsOf (Gateway.sending sent) = [] := Or.inl rfl
  rw [hact, datagramsOf_sending]
  obtain heq | ⟨hqueue, heq⟩ | ⟨message, hqueue, heq⟩ :=
    pump_cases hagrees.busy r.gateway.config now
  · rw [heq] at hheld hrequests
    rw [noting_unmoved hc hheld (Unmoved.refl c) hforward]
    refine ⟨sound_of_held hheld (hagrees.unmoved (Unmoved.refl c)),
      Effect.quiet rfl rfl rfl hwaiting (settled_of_held hc hheld rfl rfl) hrequests hacks⟩
  · rw [heq] at hheld hrequests
    have hshorter : (c.queue.drop 1).length < c.queue.length := by
      have hpos := List.length_pos_iff.2 hqueue
      rw [List.length_drop]
      omega
    have hnoting : r.noting id [] g (Gateway.sending sent) =
        { r with gateway := g, abandoned := r.abandoned + 1 } := by
      rw [noting_of_held hc hheld]
      simp only [advance, if_true, List.flatMap_nil, ne_eq, not_true, if_false, hshorter]
    rw [hnoting]
    refine ⟨sound_of_held hheld ⟨hagrees.sendNo_eq, hagrees.receiveNo_eq, fun hne => absurd rfl hne,
      hagrees.numbers⟩, Effect.quiet rfl rfl rfl hwaiting ?_ hrequests hacks⟩
    rintro ⟨habandoned, -⟩
    cases habandoned
  · rw [heq] at hheld hrequests
    have hcid : c.id = id := Gateway.id_of_held (by rw [hc]; exact List.mem_singleton_self c)
    have hnoting : r.noting id [] g (Gateway.sending sent) = { r with gateway := g } := by
      rw [noting_of_held hc hheld]
      simp only [if_true, List.flatMap_nil, ne_eq, not_true, if_false, Nat.lt_irrefl]
    rw [hnoting]
    refine ⟨sound_of_held hheld ⟨hagrees.sendNo_eq, hagrees.receiveNo_eq, fun _ => hqueue,
      hagrees.numbers⟩, Effect.sends message rfl rfl rfl hwaiting ?_ ?_ hacks⟩
    · rintro ⟨-, c', hc', hattempts⟩
      rw [hheld] at hc'
      cases hc'
      cases hattempts
    · rw [hrequests, ← hcid, ← hagrees.sendNo_eq]
      exact requestsOn_request c.data ⟨c.id, c.sendNo, message⟩

/-! ## Everything that happens -/

theorem look_effect (h : r.Sound id) {p : Received} {later : List Received}
    (hfront : r.gateway.received = p :: later) (now : Nat) :
    (r.act id (.look now)).1.Sound id ∧
      ∀ c, r.gateway.held id = [c] →
        Effect id r (r.act id (.look now)).1 (datagramsOf (r.act id (.look now)).2) := by
  obtain ⟨g₀, hg₀⟩ : ∃ g₀, r.gateway.withWaiting later r.gateway.heard = g₀ := ⟨_, rfl⟩
  have hheld₀ : g₀.held id = r.gateway.held id := by
    rw [← hg₀]
    rfl
  have hact : r.act id (.look now) =
      (r.noting id [p.packet] (g₀.onPacket now p).1 (g₀.onPacket now p).2,
        (g₀.onPacket now p).2) := by
    rw [act, front, Gateway.perform, hfront, ← hg₀]
    rfl
  have hwaiting₀ : r.waiting = p.packet :: later.map (·.packet) := by
    rw [waiting, hfront, List.map_cons]
  have hwaiting : (g₀.onPacket now p).1.received.map (·.packet) = later.map (·.packet) := by
    rw [← hg₀, Gateway.onPacket_withWaiting]
    rfl
  have hone : AtMostOne (g₀.held id) := by
    rw [hheld₀]
    exact h.one
  rw [hact]
  obtain ⟨q, c, hq, hid, hc, hc', hactions⟩ | ⟨a, c, ha, hid, hc, hc', hactions⟩ |
    ⟨hapart, hsilent, hforward⟩ := Gateway.onPacket_cases hone now p
  · rw [hheld₀] at hc
    obtain ⟨hsound, heffect⟩ := request_effect h hc hwaiting₀ hwaiting hq hid hc' hactions
    exact ⟨hsound, fun _ _ => heffect⟩
  · rw [hheld₀] at hc
    obtain ⟨hsound, heffect⟩ := ack_effect h hc hwaiting₀ hwaiting ha hid hc'
    rw [hactions]
    exact ⟨hsound, fun _ _ => heffect⟩
  · rw [hheld₀] at hapart
    have hnone : [p.packet].flatMap (requestFor id) = [] ∨
        forwardsOf (g₀.onPacket now p).2 = [] := by
      rw [List.flatMap_singleton, requestFor]
      cases hq : TunnelRequest.ofPacket p.packet with
      | error cause => exact Or.inl rfl
      | ok q =>
        by_cases hid : q.channel = id
        · exact Or.inr (hforward q hq hid)
        · exact Or.inl (if_neg hid)
    refine ⟨apart_sound h hapart hnone, fun c hc => apart_effect hc hapart hnone ?_ hsilent⟩
    rw [hwaiting, hwaiting₀]
    exact List.sublist_cons_self _ _

/-- Where no datagram is looked at, none is in front. -/
theorem front_eq_nil {a : Gateway.Act} (h : ∀ now, a = .look now → g.received = []) :
    front a g = [] := by
  cases a with
  | look now =>
    rw [front, h now rfl]
    rfl
  | _ => rfl

/-- **What a gateway does is one of the five things** that matter to the client of a channel while
the channel is open, and at all times the channel agrees with its past. -/
theorem act_effect (h : r.Sound id) (a : Gateway.Act) :
    (r.act id a).1.Sound id ∧
      ∀ c, r.gateway.held id = [c] →
        Effect id r (r.act id a).1 (datagramsOf (r.act id a).2) := by
  obtain ⟨now, p, later, rfl, hfront, -⟩ | ⟨now, rfl⟩ |
    ⟨hnone, hapart, hwaiting, out, hout, hasides⟩ := Gateway.perform_cases h.one a
  · exact look_effect h hfront now
  · obtain hnone | ⟨c, hc⟩ := h.one
    · have hgone : (r.gateway.pumpChannels now).1.held id = [] := by
        rw [Gateway.held_pumpChannels, hnone]
        rfl
      refine ⟨apart_sound h (Apart.gone hgone) (Or.inl rfl), fun c hc => ?_⟩
      rw [hnone] at hc
      cases hc
    · obtain ⟨hsound, heffect⟩ := pump_effect h hc now
      exact ⟨hsound, fun _ _ => heffect⟩
  · have hact : r.act id a =
        (r.noting id [] (r.gateway.perform a).1 (Gateway.sending out), Gateway.sending out) := by
      rw [act, front_eq_nil hnone, hout]
    rw [hact]
    refine ⟨apart_sound h hapart (Or.inl rfl), fun c hc => ?_⟩
    refine apart_effect hc hapart (Or.inl rfl) ?_ (Gateway.silent_of_asides hasides)
    rw [hwaiting]
    exact List.Sublist.refl r.waiting

theorem hear_sound (h : r.Sound id) (packets : List Received) : (r.hear packets).Sound id :=
  ⟨h.one, fun c hc => ⟨(h.agrees c hc).sendNo_eq, (h.agrees c hc).receiveNo_eq,
    (h.agrees c hc).busy, (h.agrees c hc).numbers⟩⟩

/-! ## Runs -/

/-- What happens to a gateway. -/
inductive Event where
  /-- Datagrams come in. -/
  | hear (packets : List Received)
  /-- Anything else. -/
  | act (a : Gateway.Act)

/-- One thing happens to a gateway. -/
def step (id : UInt8) (e : Event) (r : GatewayChronicle) : GatewayChronicle × List GatewayAction :=
  match e with
  | .hear packets => (r.hear packets, [])
  | .act a => r.act id a

/-- Things happen to a gateway one after the other. -/
def run (id : UInt8) (events : List Event) (r : GatewayChronicle) :
    GatewayChronicle × List GatewayAction :=
  runWith (step id) events r

/-- A gateway without channels. -/
def start (g : Gateway) : GatewayChronicle := ⟨g.withoutChannels, [], [], 0, 0⟩

theorem step_sound (h : r.Sound id) (e : Event) : (r.step id e).1.Sound id := by
  cases e with
  | hear packets => exact hear_sound h packets
  | act a => exact (act_effect h a).1

theorem run_sound (h : r.Sound id) (events : List Event) : (run id events r).1.Sound id :=
  runWith_invariant (step id) (Sound id) (fun e _ h => step_sound h e) events h

theorem start_sound (id : UInt8) (g : Gateway) : (start g).Sound id :=
  ⟨Or.inl rfl, fun _ hc => absurd hc (List.cons_ne_nil _ _).symm⟩

end GatewayChronicle
end KnxBus
