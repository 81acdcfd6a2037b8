import Mathlib.Data.List.Nodup
import KnxBus.Proofs.Acknowledgement
import KnxBus.Proofs.Gateway.Sending

/-!
# The table of channels

The numbers in the table are distinct and start at one, the count that others see is right, and no
frame is sent more often than it may be (`Orderly`).  A client that asks for a channel gets the
lowest number that is free.  It is turned away if there is none, and any other request for a channel
is answered without the table being touched.

## Who can touch a channel

A datagram that is about a channel names it.  Every handler that gets such a datagram changes the
table with one of two operations, `update` and `dismiss`, and applies it to the number that was
named.  Neither reaches a channel of another number (`others_update`, `others_dismiss`), so it does
not matter what the handlers do.
-/

namespace KnxBus

/-- The channel that a datagram is about. -/
def Packet.channel? (p : Packet) : Option UInt8 :=
  match p.service with
  | .stateRequest => (ChannelRequest.ofPacket p .stateRequest).toOption.map (·.channel)
  | .disconnectRequest => (ChannelRequest.ofPacket p .disconnectRequest).toOption.map (·.channel)
  | .tunnelRequest => (TunnelRequest.ofPacket p).toOption.map (·.channel)
  | .tunnelResponse => (TunnelAck.ofPacket p).toOption.map (·.channel)
  | _ => none

namespace Gateway
open GatewayChannel

variable {g : Gateway} {id : UInt8}

/-! ## Numbers -/

/-- The numbers that are in use. -/
def ids (g : Gateway) : List UInt8 := g.channels.map (·.id)

theorem mem_ids_iff : id ∈ g.ids ↔ g.held id ≠ [] := by
  constructor
  · intro h hnone
    obtain ⟨c, hc, hid⟩ := List.mem_map.1 h
    have hmem : c ∈ g.held id := List.mem_filter.2 ⟨hc, beq_iff_eq.2 hid⟩
    rw [hnone] at hmem
    exact absurd hmem List.not_mem_nil
  · intro h
    obtain ⟨c, hc⟩ := List.exists_mem_of_ne_nil _ h
    exact List.mem_map.2 ⟨c, (List.mem_filter.1 hc).1, id_of_held hc⟩

/-- If each number is held once at most, the numbers are distinct. -/
theorem ids_nodup (h : ∀ id, AtMostOne (g.held id)) : g.ids.Nodup := by
  rw [List.nodup_iff_count_le_one]
  intro id
  have hcount : g.ids.count id = (g.held id).length := by
    rw [ids, List.count, List.countP_map, List.countP_eq_length_filter]
    rfl
  rw [hcount]
  obtain hnone | ⟨c, hc⟩ := h id
  · rw [hnone]
    exact Nat.zero_le 1
  · rw [hc]
    exact Nat.le_refl 1

/-- A channel of an orderly table is the only one of its number. -/
theorem Orderly.held_id (h : g.Orderly) {c : GatewayChannel} (hc : c ∈ g.channels) :
    g.held c.id = [c] := by
  have hmem : c ∈ g.held c.id := List.mem_filter.2 ⟨hc, beq_self_eq_true c.id⟩
  obtain hnone | ⟨c', hc'⟩ := h.one c.id
  · rw [hnone] at hmem
    exact absurd hmem List.not_mem_nil
  · rw [hc'] at hmem ⊢
    rw [List.mem_singleton.1 hmem]

theorem Orderly.ids_bounds (h : g.Orderly) (hid : id ∈ g.ids) : 1 ≤ id.toNat ∧ id.toNat ≤ 255 := by
  constructor
  · refine Nat.pos_of_ne_zero fun hzero => ?_
    have heq : id = 0 := UInt8.toNat_inj.1 hzero
    rw [heq, mem_ids_iff] at hid
    exact hid h.numbered
  · have hlt := id.toNat_lt
    omega

/-- The number is the lowest one that is not in use. -/
structure IsLowestFree (id : UInt8) (g : Gateway) : Prop where
  ne_zero : id ≠ 0
  free : id ∉ g.ids
  lower_used : ∀ lower, lower ≠ 0 → lower < id → lower ∈ g.ids

theorem isLowestFree_of_freeId? (h : g.freeId? = some id) : IsLowestFree id g := by
  obtain ⟨hne, hfree, hlower⟩ := freeId?_eq_some h
  refine ⟨hne, ?_, fun lower hzero hlt => mem_ids_iff.2 (hlower lower hzero hlt)⟩
  intro hmem
  exact mem_ids_iff.1 hmem hfree

/-! ## Asking for a channel -/

/-- A datagram asks for a tunnel on the link layer, and the gateway offers it and knows by which
address of its own it can be reached where the answer is wanted. -/
structure AsksForChannel (g : Gateway) (p : Received) (request : ConnectRequest)
    (own : Endpoint) : Prop where
  offered : g.config.tunnel = true
  reads : ConnectRequest.ofPacket p.packet = .ok request
  kind : request.isLinkLayerTunnel = true
  faces : g.facing? (replyTo request.control p.sender) = some own

/-- A channel that is granted. -/
def grantedChannel (g : Gateway) (id : UInt8) (request : ConnectRequest) (sender : Endpoint)
    (now : Nat) : GatewayChannel :=
  .fresh id (replyTo request.control sender) (replyTo request.data sender) now
    g.config.channelTimeout

/-- The actions are a single answer to a request for a channel. -/
def Answers (actions : List GatewayAction) (target : Endpoint) (response : ConnectResponse) :
    Prop :=
  ∃ answer, actions = [.datagram ⟨answer, target⟩] ∧ ConnectResponse.ofPacket answer = .ok response

/-- The answer of a gateway can be read by its client. -/
theorem answers_connectAnswer (target own : Endpoint) (channel : UInt8) {status : UInt8}
    (h : status = Status.ok ∨ status = Status.noMoreConnections) :
    Answers (sending (connectAnswer target own channel status)) target
      ⟨channel, status, own, [0x04, 0x00, 0x00]⟩ := by
  have hread : ∀ hi lo, ConnectResponse.ofPacket ⟨.connectResponse,
        [channel, status, 8, 1] ++ own.ip.octets ++ [hi, lo] ++ [4, 0x04, 0x00, 0x00]⟩ =
      .ok ⟨channel, status, ⟨own.ip, Octets.word hi lo⟩, [0x04, 0x00, 0x00]⟩ := by
    intro hi lo
    rcases h with rfl | rfl <;> rfl
  refine ⟨_, rfl, (hread _ _).trans ?_⟩
  rw [Octets.word_ofWord own.port]

theorem service_of_connectRequest {p : Packet} {request : ConnectRequest}
    (h : ConnectRequest.ofPacket p = .ok request) : p.service = .connectRequest := by
  by_contra hne
  rw [ConnectRequest.ofPacket, Packet.expect, if_neg hne] at h
  cases h

theorem onPacket_connect {p : Received} (hservice : p.packet.service = .connectRequest)
    (htunnel : g.config.tunnel = true) (now : Nat) :
    g.onPacket now p = onlySending (g.onConnect now p.packet p.sender) := by
  unfold onPacket
  simp only [hservice, htunnel, if_true]

/-- Who asks for a channel gets the lowest number that is free, or is told that none is. -/
theorem onPacket_asking {p : Received} {request : ConnectRequest} {own : Endpoint}
    (h : g.AsksForChannel p request own) (now : Nat) :
    (∃ id, IsLowestFree id g ∧
      (g.onPacket now p).1.channels =
        g.channels ++ [g.grantedChannel id request p.sender now] ∧
      Answers (g.onPacket now p).2 (replyTo request.control p.sender)
        ⟨id, Status.ok, own, [0x04, 0x00, 0x00]⟩) ∨
    ((∀ id, id ≠ 0 → id ∈ g.ids) ∧ (g.onPacket now p).1 = g ∧
      Answers (g.onPacket now p).2 (replyTo request.control p.sender)
        ⟨0, Status.noMoreConnections, own, [0x04, 0x00, 0x00]⟩) := by
  rw [onPacket_connect (service_of_connectRequest h.reads) h.offered, onConnect, h.reads]
  simp only [h.faces, h.kind, Bool.not_true, Bool.false_eq_true, if_false, onlySending]
  cases hfree : g.freeId? with
  | none =>
    right
    refine ⟨fun id hne => ?_, rfl, answers_connectAnswer _ _ _ (Or.inr rfl)⟩
    exact mem_ids_iff.2 (freeId?_eq_none hfree id hne)
  | some id =>
    left
    exact ⟨id, isLowestFree_of_freeId? hfree, rfl, answers_connectAnswer _ _ _ (Or.inl rfl)⟩

/-- Any other request for a channel leaves the gateway as it is. -/
theorem onPacket_not_asking {p : Received} (hservice : p.packet.service = .connectRequest)
    (h : ∀ request own, ¬ g.AsksForChannel p request own) (now : Nat) :
    (g.onPacket now p).1 = g := by
  by_cases htunnel : g.config.tunnel = true
  · rw [onPacket_connect hservice htunnel]
    simp only [onlySending]
    unfold onConnect
    split
    · rfl
    · rename_i request hreads
      simp only
      split
      · rfl
      · rename_i own hfaces
        split
        · rfl
        · rename_i hkind
          rw [Bool.not_eq_true', Bool.not_eq_false] at hkind
          exact absurd ⟨htunnel, hreads, hkind, hfaces⟩ (h request own)
  · unfold onPacket
    simp only [hservice, htunnel]
    rfl

/-! ## The other channels -/

/-- The channels but the one with a number. -/
def others (id : UInt8) (g : Gateway) : List GatewayChannel := g.channels.filter fun c => c.id ≠ id

theorem others_update {f : GatewayChannel → GatewayChannel} (hf : ∀ c, c.id = id → (f c).id = id)
    (g : Gateway) : (g.update id f).others id = g.others id := by
  rw [others, others, update]
  simp only
  induction g.channels with
  | nil => rfl
  | cons c l ih =>
    by_cases hid : c.id = id
    · have hkept : (f c).id = id := hf c hid
      rw [List.map_cons, if_pos hid, List.filter_cons_of_neg (by simp [hkept]),
        List.filter_cons_of_neg (by simp [hid]), ih]
    · rw [List.map_cons, if_neg hid, List.filter_cons_of_pos (by simp [hid]),
        List.filter_cons_of_pos (by simp [hid]), ih]

theorem others_dismiss (id : UInt8) (g : Gateway) : (g.dismiss id).others id = g.others id := by
  rw [others, others, dismiss, publish]
  simp only [List.filter_filter, Bool.and_self]

theorem toOption_map_eq_some {α β ε : Type} {f : α → β} {r : Except ε α} {b : β}
    (h : r.toOption.map f = some b) : ∃ a, r = .ok a ∧ f a = b := by
  cases r with
  | error cause => cases h
  | ok a => exact ⟨a, rfl, Option.some.inj h⟩

/-- A datagram that is about a channel leaves all others as they are. -/
theorem onPacket_others {p : Received} (h : p.packet.channel? = some id) (now : Nat) :
    (g.onPacket now p).1.others id = g.others id := by
  unfold Packet.channel? at h
  unfold onPacket
  simp only
  split at h
  · rename_i hservice
    obtain ⟨request, hreads, rfl⟩ := toOption_map_eq_some h
    simp only [hservice, onlySending, onState, hreads]
    split
    · exact others_update (f := fun c => c.refresh now g.config.channelTimeout) (fun c hid => hid) g
    · rfl
  · rename_i hservice
    obtain ⟨request, hreads, rfl⟩ := toOption_map_eq_some h
    simp only [hservice, onlySending, onDisconnect, hreads]
    split
    · exact others_dismiss _ g
    · rfl
  · rename_i hservice
    obtain ⟨request, hreads, rfl⟩ := toOption_map_eq_some h
    simp only [hservice, onTunnelRequest, hreads]
    split
    · split
      · rfl
      · rename_i c hc
        rw [channel?_eq] at hc
        have hid : c.id = request.channel := id_of_held (List.mem_of_head? hc)
        simp only
        rw [hid]
        refine others_update (fun _ _ => ?_) g
        exact (onRequest_id c now _ request).trans hid
    · rfl
  · rename_i hservice
    obtain ⟨ack, hreads, rfl⟩ := toOption_map_eq_some h
    simp only [hservice, onTunnelAck, hreads]
    split
    · refine others_update (fun c hid => ?_) g
      exact (onAck_id c ack).trans hid
    · rfl
  · cases h

/-! ## The table at all times -/

/-- **The table of channels is in order in every run**, also in the middle of a turn (`acts` are the
parts of the turn so far).  The numbers are distinct and from one to 255, the count that others see
is the number of channels, a frame that is under way is in its queue and has not been sent more
often than it may be.  Who asks for a channel gets the lowest number that is not in use, or is
turned away if all are; any other request for a channel changes nothing; and a datagram about one
channel leaves all others as they are. -/
theorem table_in_order {host : Host} {inUse : List UInt16} {config : GatewayConfig} {g₀ : Gateway}
    (h : bind host inUse config = .ok g₀) (registrations : List Nat) (events : List Event)
    (acts : List Act) :
    let g := (runWith perform acts ((g₀.registered registrations).run events).1).1
    g.ids.Nodup ∧ (∀ id ∈ g.ids, 1 ≤ id.toNat ∧ id.toNat ≤ 255) ∧
    g.shownCount = g.channels.length ∧
    (∀ c ∈ g.channels, 0 < c.attempts → c.queue ≠ []) ∧
    (∀ c ∈ g.channels, c.attempts ≤ config.sendAttempts) ∧
    ∀ (now : Nat) (p : Received),
      (∀ request own, g.AsksForChannel p request own →
        (∃ id, IsLowestFree id g ∧
          (g.onPacket now p).1.channels =
            g.channels ++ [g.grantedChannel id request p.sender now] ∧
          Answers (g.onPacket now p).2 (replyTo request.control p.sender)
            ⟨id, Status.ok, own, [0x04, 0x00, 0x00]⟩) ∨
        ((∀ id, id ≠ 0 → id ∈ g.ids) ∧ (g.onPacket now p).1 = g ∧
          Answers (g.onPacket now p).2 (replyTo request.control p.sender)
            ⟨0, Status.noMoreConnections, own, [0x04, 0x00, 0x00]⟩)) ∧
      (p.packet.service = .connectRequest → (∀ request own, ¬ g.AsksForChannel p request own) →
        (g.onPacket now p).1 = g) ∧
      ∀ id, p.packet.channel? = some id → (g.onPacket now p).1.others id = g.others id := by
  intro g
  have horderly : g.Orderly :=
    runWith_invariant perform Orderly (fun a _ h => h.perform a) acts
      ((orderly_of_bind h registrations).run events)
  have hconfig : g.config = config :=
    runWith_invariant perform (fun g' => g'.config = config)
      (fun a g' h => (perform_setup a g').1.config_eq.trans h) acts
      ((run_config events (g₀.registered registrations)).trans (channels_of_bind h).2.2.1)
  refine ⟨ids_nodup horderly.one, fun id hid => horderly.ids_bounds hid, horderly.shown,
    fun c hc hbusy => ?_, fun c hc => ?_, fun now p => ⟨fun request own hasks => ?_,
      fun hservice hnot => ?_, fun id hid => ?_⟩⟩
  · exact horderly.busy c.id c (horderly.held_id hc) (Nat.pos_iff_ne_zero.1 hbusy)
  · rw [← hconfig]
    exact horderly.limited c.id c (horderly.held_id hc)
  · exact onPacket_asking hasks now
  · exact onPacket_not_asking hservice hnot now
  · exact onPacket_others hid now

/-! ## Two clients -/

/-- A gateway that is bound on its host. -/
theorem bind_tunnellingGateway :
    bind tunnellingGateway.host [] tunnellingGateway.config = .ok tunnellingGateway := rfl

/-- A request for a channel, as it arrives. -/
def askingOctets : Octets :=
  [0x06, 0x10, 0x02, 0x05, 0x00, 0x1a, 0x08, 0x01, 10, 0, 0, 2, 0xc3, 0x50,
    0x08, 0x01, 10, 0, 0, 2, 0xc3, 0x50, 0x04, 0x04, 0x02, 0x00]

/-- Two clients ask for channels. -/
def twoClients : List Event :=
  [.arrive (.octets askingOctets asker), .arrive (.octets askingOctets asker), .takeIn 0, .turn 0]

/-- What a third client sends: it asks for a channel, or for something that is not offered, or it
closes the first channel. -/
def thirdClient : Received × Received × Received :=
  (⟨⟨.connectRequest, askingOctets.drop 6⟩, asker⟩, ⟨⟨.connectRequest, []⟩, asker⟩,
    ⟨⟨.disconnectRequest, [1, 0, 8, 1, 10, 0, 0, 2, 0xc3, 0x50]⟩, asker⟩)

theorem table_in_order_twoClients :
    let g := (runWith perform [] ((tunnellingGateway.registered [1, 2, 3]).run twoClients).1).1
    (g.ids = [1, 2] ∧ g.ids.Nodup ∧ g.shownCount = g.channels.length) ∧
      (∃ id, IsLowestFree id g ∧ (g.onPacket 0 thirdClient.1).1.ids = [1, 2, id]) ∧
      (g.onPacket 0 thirdClient.2.1).1 = g ∧
      (g.onPacket 0 thirdClient.2.2).1.others 1 = g.others 1 ∧ (g.others 1).length = 1 := by
  intro g
  obtain ⟨hnodup, -, hshown, -, -, hpackets⟩ :=
    table_in_order bind_tunnellingGateway [1, 2, 3] twoClients []
  have hids : g.ids = [1, 2] := by decide +kernel
  refine ⟨⟨hids, hnodup, hshown⟩, ?_, ?_, ?_, by decide +kernel⟩
  · have hasks : g.AsksForChannel thirdClient.1 (.tunnel asker asker) ⟨⟨10, 0, 0, 1⟩, 3671⟩ :=
      ⟨by decide +kernel, by decide +kernel, by decide +kernel, by decide +kernel⟩
    obtain ⟨id, hlowest, hchannels, -⟩ | ⟨hfull, -, -⟩ := (hpackets 0 thirdClient.1).1 _ _ hasks
    · refine ⟨id, hlowest, ?_⟩
      rw [ids, hchannels, List.map_append]
      exact congrArg (· ++ [id]) hids
    · have hused := hfull 3 (by decide)
      rw [hids] at hused
      exact absurd hused (by decide)
  · refine (hpackets 0 thirdClient.2.1).2.1 rfl fun request own hasks => ?_
    have hunreadable : (ConnectRequest.ofPacket thirdClient.2.1.packet).toOption = none := rfl
    rw [hasks.reads] at hunreadable
    cases hunreadable
  · exact (hpackets 0 thirdClient.2.2).2.2 1 (by decide +kernel)

end Gateway
end KnxBus
