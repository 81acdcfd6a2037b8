import KnxBus.Proofs.Cemi
import KnxBus.Proofs.Gateway.Chronicle

/-!
# What joins the queue of a channel

Two kinds of messages join the queue of a channel: indications of frames that come from the bus, and
confirmations of what its client has sent.  A message says which of the two it is, and an indication
says which frame it indicates (`indicated?`).  So the frames can be read off the queue: they are
those that come from the bus while the channel is open, in this order (`queue_perform`).

A message is sent while it is in front, and no other is (`front_of_sent`).
-/

namespace KnxBus

/-- The frame that a message indicates. -/
def indicated? (message : Octets) : Option Frame :=
  match Cemi.decode message with
  | .ok ⟨.indication, f⟩ => some f
  | _ => none

/-- The indication of a frame indicates it. -/
theorem indicated?_indication {f : Frame} {message : Octets}
    (h : (Cemi.mk .indication f).toOctets = .ok message) :
    indicated? message = some f.validated := by
  rw [indicated?, Cemi.decode_of_toOctets h]
  rfl

/-- A confirmation indicates nothing. -/
theorem indicated?_confirmation {f : Frame} {message : Octets}
    (h : (Cemi.mk .confirmation f).toOctets = .ok message) : indicated? message = none := by
  rw [indicated?, Cemi.decode_of_toOctets h]
  rfl

namespace GatewayChannel

/-- The confirmations of a message indicate nothing. -/
theorem indicated_confirmation (m : Cemi) : (confirmation m).filterMap indicated? = [] := by
  unfold confirmation
  split
  · split
    · rename_i message hwritten
      rw [List.filterMap_cons_none (indicated?_confirmation hwritten)]
      rfl
    · rfl
  · rfl

/-- What a client sends brings confirmations to its queue, and nothing else. -/
theorem onRequest_queue (c : GatewayChannel) (now timeout : Nat) (q : TunnelRequest) :
    ∃ more, (c.onRequest now timeout q).channel.queue = c.queue ++ more ∧
      more.filterMap indicated? = [] := by
  have hsame : ∃ more, c.queue = c.queue ++ more ∧ more.filterMap indicated? = [] :=
    ⟨[], (List.append_nil _).symm, rfl⟩
  unfold onRequest
  split
  · exact hsame
  · split
    · exact hsame
    · simp only
      split
      · exact ⟨_, rfl, indicated_confirmation _⟩
      · exact hsame

theorem onAck_queue (c : GatewayChannel) (a : TunnelAck) :
    (c.onAck a).queue = c.queue ∨ (c.onAck a).queue = c.queue.drop 1 := by
  unfold onAck
  split
  · exact Or.inr rfl
  · exact Or.inl rfl

end GatewayChannel

namespace Gateway
open GatewayChannel

/-! ## Indications -/

/-- The indication of a frame, if it can be written. -/
def indication? (f : Frame) : Option Octets := (Cemi.mk .indication f).toOctets.toOption

/-- The indications of frames, in order. -/
def indications (frames : List Frame) : List Octets := frames.filterMap indication?

/-- Every channel is offered messages, in order. -/
def spread (messages : List Octets) (g : Gateway) : Gateway :=
  { g with channels := g.channels.map fun c => { c with queue := c.queue ++ messages } }

/-- The datagrams by which messages are routed. -/
def routed (messages : List Octets) (g : Gateway) : List Outgoing :=
  if g.config.route then messages.map fun m => ⟨⟨.routingIndication, m⟩, g.group⟩ else []

theorem spread_nil (g : Gateway) : g.spread [] = g := by
  have hsame : ∀ c : GatewayChannel, { c with queue := c.queue ++ [] } = c := fun c => by
    rw [List.append_nil]
  simp only [spread, hsame, List.map_id']

theorem spread_spread (a b : List Octets) (g : Gateway) :
    (g.spread a).spread b = g.spread (a ++ b) := by
  simp only [spread, List.map_map, Function.comp_def, List.append_assoc]

/-- A frame from the bus is offered to every channel and routed. -/
theorem onBus_eq (f : Frame) (g : Gateway) :
    g.onBus f = (g.spread (indications [f]), g.routed (indications [f])) := by
  unfold onBus
  split
  · rename_i cause hwritten
    have hnone : indications [f] = [] := by
      rw [indications, List.filterMap_cons_none (by rw [indication?, hwritten]; rfl)]
      rfl
    rw [hnone, spread_nil, routed]
    split <;> rfl
  · rename_i message hwritten
    have hsome : indications [f] = [message] := by
      rw [indications, List.filterMap_cons_some (by rw [indication?, hwritten]; rfl)]
      rfl
    rw [hsome]
    rfl

/-- So are several, in order. -/
theorem onBusFrames_eq (frames : List Frame) (g : Gateway) :
    onBusFrames frames g = (g.spread (indications frames), g.routed (indications frames)) := by
  induction frames generalizing g with
  | nil =>
    have hnil : indications [] = [] := rfl
    rw [hnil, spread_nil, routed]
    split <;> rfl
  | cons f later ih =>
    have hcons : indications (f :: later) = indications [f] ++ indications later := by
      rw [indications, ← List.singleton_append, List.filterMap_append]
      rfl
    have hrouted : (g.spread (indications [f])).routed (indications later) =
        g.routed (indications later) := rfl
    rw [onBusFrames, onBus_eq]
    simp only [ih, spread_spread, hcons, hrouted, Prod.mk.injEq, true_and]
    unfold routed
    split
    · rw [List.map_append]
    · rfl

/-- What the indications of frames indicate are these frames. -/
theorem indicated_indications (frames : List Frame) :
    (indications frames).filterMap indicated? =
      (frames.filter fun f => (indication? f).isSome).map Frame.validated := by
  induction frames with
  | nil => rfl
  | cons f later ih =>
    cases hwritten : (Cemi.mk .indication f).toOctets with
    | error cause =>
      have hnone : indication? f = none := by rw [indication?, hwritten]; rfl
      rw [indications, List.filterMap_cons_none hnone,
        List.filter_cons_of_neg (by rw [hnone]; exact Bool.false_ne_true)]
      exact ih
    | ok message =>
      have hsome : indication? f = some message := by rw [indication?, hwritten]; rfl
      rw [indications, List.filterMap_cons_some hsome,
        List.filterMap_cons_some (indicated?_indication hwritten),
        List.filter_cons_of_pos (by rw [hsome]; rfl), List.map_cons]
      exact congrArg _ ih

theorem held_spread {id : UInt8} (messages : List Octets) (g : Gateway) :
    (g.spread messages).held id =
      (g.held id).map fun c => { c with queue := c.queue ++ messages } :=
  filter_map_of_id (f := fun c => { c with queue := c.queue ++ messages }) (fun _ => rfl) g.channels

/-! ## What joins -/

/-- A queue goes on: frames have joined it, perhaps with confirmations, or its front has left. -/
def QueueGoesOn (frames : List Frame) (c c' : GatewayChannel) : Prop :=
  (∃ more, c'.queue = c.queue ++ more ∧ more.filterMap indicated? = frames.map Frame.validated) ∨
    (c'.queue = c.queue.drop 1 ∧ frames = [])

theorem QueueGoesOn.of_eq {c c' : GatewayChannel} (h : c'.queue = c.queue) :
    QueueGoesOn [] c c' :=
  Or.inl ⟨[], by rw [h, List.append_nil], rfl⟩

/-- The frames that a part of a turn puts into queues: the one that is next from the bus, if it can
be written. -/
def offeredBy (a : Act) (g : Gateway) : List Frame :=
  match a with
  | .listen => (g.heard.take 1).filter fun f => (indication? f).isSome
  | _ => []

variable {g : Gateway} {id : UInt8} {c c' : GatewayChannel}

theorem eq_of_held (hc : g.held id = [c]) (hc' : g.held id = [c']) : c' = c := by
  rw [hc] at hc'
  cases hc'
  rfl

theorem goesOn_of_update {id' : UInt8} {f : GatewayChannel → GatewayChannel}
    (hf : ∀ c, c.id = id' → (f c).id = c.id) (hc : g.held id = [c])
    (hc' : (g.update id' f).held id = [c']) (h : QueueGoesOn [] c (f c)) :
    QueueGoesOn [] c c' := by
  rw [held_update hf] at hc'
  split at hc'
  · rw [hc, List.map_singleton] at hc'
    cases hc'
    exact h
  · rw [eq_of_held hc hc']
    exact .of_eq rfl

theorem goesOn_of_onConnect {now : Nat} {p : Packet} {sender : Endpoint} (hc : g.held id = [c])
    (hc' : (g.onConnect now p sender).1.held id = [c']) : QueueGoesOn [] c c' := by
  have hsame : g.held id = [c'] → QueueGoesOn [] c c' := by
    intro h
    rw [eq_of_held hc h]
    exact .of_eq rfl
  unfold onConnect at hc'
  split at hc'
  · exact hsame hc'
  · simp only at hc'
    split at hc'
    · exact hsame hc'
    · split at hc'
      · exact hsame hc'
      · split at hc'
        · exact hsame hc'
        · rw [held_openChannel, hc, List.singleton_append] at hc'
          obtain ⟨rfl, -⟩ := List.cons.inj hc'
          exact .of_eq rfl

/-- A datagram that is looked at brings confirmations, or takes the front away. -/
theorem goesOn_of_onPacket {now : Nat} {p : Received} (hc : g.held id = [c])
    (hc' : (g.onPacket now p).1.held id = [c']) : QueueGoesOn [] c c' := by
  have hsame : g.held id = [c'] → QueueGoesOn [] c c' := by
    intro h
    rw [eq_of_held hc h]
    exact .of_eq rfl
  unfold onPacket at hc'
  simp only at hc'
  split at hc'
  · split at hc' <;> exact hsame hc'
  · split at hc' <;> exact hsame hc'
  · split at hc' <;> exact hsame hc'
  · split at hc'
    · exact goesOn_of_onConnect hc hc'
    · exact hsame hc'
  · split at hc'
    · unfold onlySending onState at hc'
      split at hc'
      · exact hsame hc'
      · rename_i request _
        exact goesOn_of_update (f := (·.refresh now g.config.channelTimeout)) (fun _ _ => rfl) hc
          hc' (.of_eq rfl)
    · exact hsame hc'
  · split at hc'
    · unfold onlySending onDisconnect at hc'
      split at hc'
      · exact hsame hc'
      · simp only [held_dismiss] at hc'
        split at hc'
        · cases hc'
        · exact hsame hc'
    · exact hsame hc'
  · split at hc'
    · unfold onTunnelRequest at hc'
      split at hc'
      · exact hsame hc'
      · rename_i q _
        split at hc'
        · exact hsame hc'
        · rename_i c₀ hc₀
          have hid : c₀.id = id → c₀ = c := by
            intro hid
            have hmem : c₀ ∈ g.held id := by
              refine List.mem_filter.2 ⟨List.mem_of_find?_eq_some hc₀, beq_iff_eq.2 hid⟩
            rw [hc] at hmem
            exact List.mem_singleton.1 hmem
          have hkeeps : ∀ c₁ : GatewayChannel, c₁.id = c₀.id →
              (c₀.onRequest now g.config.channelTimeout q).channel.id = c₁.id := by
            intro c₁ hc₁
            rw [onRequest_id, hc₁]
          simp only at hc'
          rw [held_update (f := fun _ => (c₀.onRequest now g.config.channelTimeout q).channel)
            hkeeps] at hc'
          split at hc'
          · rename_i heq
            rw [hc, List.map_singleton, hid heq] at hc'
            cases hc'
            exact Or.inl (onRequest_queue c now _ q)
          · exact hsame hc'
    · exact hsame hc'
  · split at hc'
    · unfold onTunnelAck at hc'
      split at hc'
      · exact hsame hc'
      · rename_i a _
        refine goesOn_of_update (fun c₀ _ => onAck_id c₀ a) hc hc' ?_
        rcases onAck_queue c a with h | h
        · exact .of_eq h
        · exact Or.inr ⟨h, rfl⟩
    · exact hsame hc'
  · exact hsame hc'

/-- **What joins the queue of an open channel** are the frames from the bus and confirmations. -/
theorem queue_perform (a : Act) (hc : g.held id = [c]) (hc' : (g.perform a).1.held id = [c']) :
    QueueGoesOn (g.offeredBy a) c c' := by
  cases a with
  | hear f =>
    rw [eq_of_held hc hc']
    exact .of_eq rfl
  | look now =>
    cases hfront : g.received with
    | nil =>
      rw [perform_look_nil hfront] at hc'
      rw [eq_of_held hc hc']
      exact .of_eq rfl
    | cons p later =>
      rw [perform_look_cons hfront] at hc'
      exact goesOn_of_onPacket (g := g.withWaiting later g.heard) hc hc'
  | listen =>
    cases hfront : g.heard with
    | nil =>
      rw [perform_listen_nil hfront] at hc'
      rw [offeredBy, hfront, eq_of_held hc hc']
      exact .of_eq rfl
    | cons f later =>
      have hheld : ((g.withWaiting g.received later).spread (indications [f])).held id = [c'] := by
        rw [perform_listen_cons hfront, onBus_eq] at hc'
        exact hc'
      have hbefore : (g.withWaiting g.received later).held id = [c] := hc
      rw [held_spread, hbefore, List.map_singleton] at hheld
      cases hheld
      refine Or.inl ⟨_, rfl, ?_⟩
      rw [indicated_indications, offeredBy, hfront, List.take_succ_cons, List.take_zero]
  | expire now =>
    have hheld : (g.held id).filter (fun c => !c.isExpired now) = [c'] :=
      (held_expire g now).symm.trans hc'
    have hmem : c' ∈ g.held id :=
      (List.filter_sublist).subset (hheld ▸ List.mem_singleton_self c')
    rw [hc, List.mem_singleton] at hmem
    rw [hmem]
    exact .of_eq rfl
  | pump now =>
    have hheld : (g.held id).map (fun c => (c.pump g.config now).1) = [c'] :=
      (held_pumpChannels g now).symm.trans hc'
    rw [hc, List.map_singleton] at hheld
    cases hheld
    cases c.pump_outcome g.config now with
    | rests _ eq =>
      rw [eq]
      exact .of_eq rfl
    | givesUp _ _ eq =>
      rw [eq]
      exact Or.inr ⟨rfl, rfl⟩
    | sends _ _ _ _ _ eq =>
      rw [eq]
      exact .of_eq rfl
    | idles _ _ eq =>
      rw [eq]
      exact .of_eq rfl
  | finish => cases hc'

/-- Whatever ends a channel puts nothing into queues. -/
theorem offeredBy_of_gone (a : Act) (hc : g.held id = [c]) (hgone : (g.perform a).1.held id = []) :
    g.offeredBy a = [] := by
  cases a with
  | listen =>
    cases hfront : g.heard with
    | nil =>
      rw [offeredBy, hfront]
      rfl
    | cons f later =>
      have hheld : ((g.withWaiting g.received later).spread (indications [f])).held id = [] := by
        rw [perform_listen_cons hfront, onBus_eq] at hgone
        exact hgone
      have hbefore : (g.withWaiting g.received later).held id = [c] := hc
      rw [held_spread, hbefore] at hheld
      cases hheld
  | _ => rfl

/-- What a channel answers to a request is no request. -/
theorem requestsOn_acks {c : GatewayChannel} {sequence : UInt8} {acks : List Outgoing}
    (h : ∀ o ∈ acks, ∃ status, o = c.acknowledge sequence status) {x : UInt8 × Octets} :
    x ∉ requestsOn id (traffic acks) := by
  have hcanonical : ∀ o ∈ acks, o.packet.IsCanonical := by
    intro o ho
    obtain ⟨status, rfl⟩ := h o ho
    rfl
  intro hx
  have hmem := (requestsOn_traffic_sublist hcanonical).subset hx
  obtain ⟨p, hp, hpx⟩ := List.mem_filterMap.1 hmem
  obtain ⟨o, ho, rfl⟩ := List.mem_map.1 hp
  obtain ⟨status, rfl⟩ := h o ho
  cases hpx

/-- What is sent on a channel is the front of its queue. -/
theorem front_of_sent (hc : g.held id = [c]) (a : Act) {n : UInt8} {message : Octets}
    (h : (n, message) ∈ requestsOn id (traffic (datagramsOf (g.perform a).2))) :
    ∃ rest, c.queue = message :: rest := by
  have hone : AtMostOne (g.held id) := Or.inr ⟨c, hc⟩
  have hsilent : ∀ {out : List Outgoing}, (∀ o ∈ out, o.IsSilentOn id) →
      (n, message) ∉ requestsOn id (traffic out) := by
    intro out hout hmem
    rw [requestsOn_traffic_silent hout] at hmem
    exact absurd hmem List.not_mem_nil
  obtain ⟨now, p, later, rfl, hfront, hperform⟩ | ⟨now, rfl⟩ |
    ⟨-, -, -, out, hout, hasides⟩ := perform_cases hone a
  · rw [hperform] at h
    obtain ⟨q, c₁, -, -, -, -, heq⟩ | ⟨_, _, -, -, -, -, heq⟩ | ⟨-, hquiet, -⟩ :=
      onPacket_cases (g := g.withWaiting later g.heard) hone now p
    · rw [heq, datagramsOf_append, datagramsOf_forward, datagramsOf_sending, List.nil_append] at h
      exact absurd h (requestsOn_acks (onRequest_acks c₁ now _ q))
    · rw [heq] at h
      cases h
    · exact absurd h (hsilent hquiet)
  · have hsent : (g.perform (.pump now)).2 = sending (g.pumpChannels now).2 := rfl
    rw [hsent, datagramsOf_sending, requestsOn_pumpChannels, hc, List.flatMap_singleton] at h
    cases c.pump_outcome g.config now with
    | rests _ eq =>
      rw [eq] at h
      cases h
    | givesUp _ _ eq =>
      rw [eq] at h
      cases h
    | sends message' rest _ _ queue_eq eq =>
      have hid : c.id = id := id_of_held (by rw [hc]; exact List.mem_singleton_self c)
      rw [eq, ← hid] at h
      have hmem := (requestsOn_request c.data ⟨c.id, c.sendNo, message'⟩).subset h
      obtain ⟨-, rfl⟩ := Prod.mk.inj (List.mem_singleton.1 hmem)
      exact ⟨rest, queue_eq⟩
    | idles _ _ eq =>
      rw [eq] at h
      cases h
  · rw [hout, datagramsOf_sending] at h
    exact absurd h (hsilent fun o ho => (hasides o ho).silentOn id)

end Gateway

end KnxBus
