import KnxBus.Proofs.Gateway.Parts

/-!
# What a gateway does to one channel

Whatever happens at a gateway, for a given channel it is one of a few things.  A request that bears
its number reaches it, or an acknowledgement does; its timer makes it send; or it is none of these.
Then the channel is opened or ends or is left as it was, but for its deadline and for messages that
join its queue (`GatewayChannel.Apart`), and nothing is sent that concerns its counters.
-/

namespace KnxBus

/-! ## What comes out -/

/-- The datagrams among actions. -/
def datagramsOf (actions : List GatewayAction) : List Outgoing :=
  actions.filterMap fun
    | .datagram out => some out
    | .forward _ => none

/-- The frames given to the bus among actions. -/
def forwardsOf (actions : List GatewayAction) : List Frame :=
  actions.filterMap fun
    | .datagram _ => none
    | .forward frame => some frame

@[simp] theorem forwardsOf_nil : forwardsOf [] = [] := rfl

@[simp] theorem datagramsOf_append (a b : List GatewayAction) :
    datagramsOf (a ++ b) = datagramsOf a ++ datagramsOf b :=
  List.filterMap_append

@[simp] theorem forwardsOf_append (a b : List GatewayAction) :
    forwardsOf (a ++ b) = forwardsOf a ++ forwardsOf b :=
  List.filterMap_append

@[simp] theorem datagramsOf_sending (out : List Outgoing) :
    datagramsOf (Gateway.sending out) = out := by
  rw [datagramsOf, Gateway.sending, List.filterMap_map]
  exact List.filterMap_some

@[simp] theorem forwardsOf_sending (out : List Outgoing) :
    forwardsOf (Gateway.sending out) = [] := by
  rw [forwardsOf, Gateway.sending, List.filterMap_map]
  exact List.filterMap_eq_nil_iff.2 fun _ _ => rfl

@[simp] theorem datagramsOf_forward (frames : List Frame) :
    datagramsOf (frames.map .forward) = [] := by
  rw [datagramsOf, List.filterMap_map]
  exact List.filterMap_eq_nil_iff.2 fun _ _ => rfl

@[simp] theorem forwardsOf_forward (frames : List Frame) :
    forwardsOf (frames.map .forward) = frames := by
  rw [forwardsOf, List.filterMap_map]
  exact List.filterMap_some

/-! ## A channel that is left alone -/

namespace GatewayChannel

/-- A channel has done nothing towards its client, and at most its queue has grown. -/
structure Undisturbed (c c' : GatewayChannel) : Prop where
  id_eq : c'.id = c.id
  data_eq : c'.data = c.data
  sendNo_eq : c'.sendNo = c.sendNo
  attempts_eq : c'.attempts = c.attempts
  sentAt_eq : c'.sentAt = c.sentAt
  queue_prefix : c.queue <+: c'.queue

/-- The counters of a channel are where they were, and at most its queue has grown. -/
structure Unmoved (c c' : GatewayChannel) : Prop extends Undisturbed c c' where
  receiveNo_eq : c'.receiveNo = c.receiveNo

theorem Undisturbed.refl (c : GatewayChannel) : Undisturbed c c :=
  ⟨rfl, rfl, rfl, rfl, rfl, List.prefix_refl _⟩

theorem Undisturbed.trans {c c' c'' : GatewayChannel} (h : Undisturbed c c')
    (h' : Undisturbed c' c'') : Undisturbed c c'' :=
  ⟨h'.id_eq.trans h.id_eq, h'.data_eq.trans h.data_eq, h'.sendNo_eq.trans h.sendNo_eq,
    h'.attempts_eq.trans h.attempts_eq, h'.sentAt_eq.trans h.sentAt_eq,
    h.queue_prefix.trans h'.queue_prefix⟩

theorem Unmoved.refl (c : GatewayChannel) : Unmoved c c := ⟨Undisturbed.refl c, rfl⟩

/-- What becomes of the channel with a number when nothing happens that is meant for it. -/
inductive Apart (before after : List GatewayChannel) : Prop where
  /-- There is no such channel, or it has ended. -/
  | gone (h' : after = [])
  /-- It has just been opened. -/
  | opened (c : GatewayChannel) (h : before = []) (h' : after = [c]) (sendNo_eq : c.sendNo = 0)
      (receiveNo_eq : c.receiveNo = 0) (attempts_eq : c.attempts = 0) (queue_eq : c.queue = [])
      (id_ne : c.id ≠ 0)
  /-- It goes on. -/
  | kept (c c' : GatewayChannel) (h : before = [c]) (h' : after = [c']) (unmoved : c.Unmoved c')

/-- There is one channel with a number at most. -/
def AtMostOne (l : List GatewayChannel) : Prop := l = [] ∨ ∃ c, l = [c]

theorem Apart.refl {l : List GatewayChannel} (h : AtMostOne l) : Apart l l := by
  obtain rfl | ⟨c, rfl⟩ := h
  · exact Apart.gone rfl
  · exact Apart.kept c c rfl rfl (Unmoved.refl c)

/-- All channels with the number are changed alike. -/
theorem Apart.map {l : List GatewayChannel} (h : AtMostOne l) {f : GatewayChannel → GatewayChannel}
    (hf : ∀ c, Unmoved c (f c)) : Apart l (l.map f) := by
  obtain rfl | ⟨c, rfl⟩ := h
  · exact Apart.gone rfl
  · exact Apart.kept c (f c) rfl rfl (hf c)

/-- A channel may end. -/
theorem Apart.filter {l : List GatewayChannel} (h : AtMostOne l) (p : GatewayChannel → Bool) :
    Apart l (l.filter p) := by
  obtain rfl | ⟨c, rfl⟩ := h
  · exact Apart.gone rfl
  · cases hp : p c with
    | false => exact Apart.gone (by simp [hp])
    | true => exact Apart.kept c c rfl (by simp [hp]) (Unmoved.refl c)

/-! ## What is meant for a channel -/

/-- The frame that a request brings to the bus. -/
def broughtBy (message : Octets) : List Frame :=
  match Cemi.decode message with
  | .ok m => busFrame m
  | .error _ => []

/-- What may come of a request: it is acknowledged once more, or ignored, or accepted.  A request
that is accepted is acknowledged as good exactly if it can be understood. -/
theorem onRequest_cases (c : GatewayChannel) (now timeout : Nat) (q : TunnelRequest) :
    (q.sequence + 1 = c.receiveNo ∧
      c.onRequest now timeout q = ⟨c, [], [c.acknowledge q.sequence Status.ok]⟩) ∨
    c.onRequest now timeout q = ⟨c, [], []⟩ ∨
    (q.sequence = c.receiveNo ∧ ∃ more status,
      c.onRequest now timeout q =
        ⟨{ c with
            receiveNo := c.receiveNo + 1
            expires := now + timeout
            queue := c.queue ++ more },
          broughtBy q.message, [c.acknowledge q.sequence status]⟩ ∧
      (status = Status.ok ↔ ∃ m, Cemi.decode q.message = .ok m)) := by
  unfold onRequest broughtBy
  split
  · rename_i hbefore
    exact Or.inl ⟨hbefore, rfl⟩
  · split
    · exact Or.inr (Or.inl rfl)
    · rename_i hnext
      refine Or.inr (Or.inr ⟨Decidable.not_not.1 hnext, ?_⟩)
      cases Cemi.decode q.message with
      | ok m => exact ⟨confirmation m, Status.ok, rfl, iff_of_true rfl ⟨m, rfl⟩⟩
      | error cause =>
        refine ⟨[], Status.tunnellingLayer, by rw [List.append_nil], iff_of_false (by decide) ?_⟩
        rintro ⟨m, hm⟩
        cases hm

/-- How the timer of a channel can end, with the channel afterwards and what it has sent. -/
inductive Pumped (config : GatewayConfig) (now : Nat) (c : GatewayChannel)
    (done : GatewayChannel × List Outgoing) : Prop where
  /-- Nothing is due. -/
  | rests (early : c.isSendDue config.sendRetry now = false) (eq : done = (c, []))
  /-- The front of the queue has been sent often enough. -/
  | givesUp (due : c.isSendDue config.sendRetry now = true)
      (spent : config.sendAttempts < c.attempts + 1) (eq : done = (c.advance, []))
  /-- The front of the queue is sent, for the first time or again. -/
  | sends (message : Octets) (rest : List Octets) (due : c.isSendDue config.sendRetry now = true)
      (left : c.attempts + 1 ≤ config.sendAttempts) (queue_eq : c.queue = message :: rest)
      (eq : done = ({ c with attempts := c.attempts + 1, sentAt := now }, [c.request message]))
  /-- Something was under way, and yet nothing is there to be sent. -/
  | idles (queue_eq : c.queue = []) (busy : c.attempts ≠ 0)
      (eq : done = ({ c with attempts := 0 }, []))

/-- A front that is not under way is due if there is one. -/
theorem isSendDue_of_idle {c : GatewayChannel} (h : c.attempts = 0) (retry now : Nat) :
    c.isSendDue retry now = true ↔ c.queue ≠ [] := by
  rw [isSendDue, if_pos h]
  cases c.queue <;> simp

/-- A front that is under way is due when its time is over. -/
theorem isSendDue_of_busy {c : GatewayChannel} (h : c.attempts ≠ 0) (retry now : Nat) :
    c.isSendDue retry now = true ↔ c.sentAt + retry ≤ now := by
  rw [isSendDue, if_neg h, decide_eq_true_iff]

theorem pump_outcome (c : GatewayChannel) (config : GatewayConfig) (now : Nat) :
    Pumped config now c (c.pump config now) := by
  unfold pump
  split
  · rename_i hearly
    exact .rests (by simpa using hearly) rfl
  · rename_i hdue
    rw [Bool.not_eq_true', Bool.not_eq_false] at hdue
    split
    · rename_i hspent
      exact .givesUp hdue hspent rfl
    · rename_i hleft
      split
      · rename_i hqueue
        refine .idles hqueue (fun hattempts => ?_) rfl
        exact (isSendDue_of_idle hattempts _ _).1 hdue hqueue
      · rename_i message rest hqueue
        exact .sends message rest hdue (Nat.not_lt.1 hleft) hqueue rfl

/-- What may come of the timer: nothing, or the front of the queue is given up, or it is sent. -/
theorem pump_cases {c : GatewayChannel} (hbusy : c.attempts ≠ 0 → c.queue ≠ [])
    (config : GatewayConfig) (now : Nat) :
    c.pump config now = (c, []) ∨
    (c.queue ≠ [] ∧ c.pump config now = (c.advance, [])) ∨
    ∃ message, c.queue ≠ [] ∧ c.pump config now =
      ({ c with attempts := c.attempts + 1, sentAt := now }, [c.request message]) := by
  cases c.pump_outcome config now with
  | rests _ eq => exact Or.inl eq
  | givesUp due _ eq =>
    refine Or.inr (Or.inl ⟨?_, eq⟩)
    by_cases hattempts : c.attempts = 0
    · exact (isSendDue_of_idle hattempts _ _).1 due
    · exact hbusy hattempts
  | sends message rest _ _ queue_eq eq =>
    exact Or.inr (Or.inr ⟨message, queue_eq ▸ List.cons_ne_nil message rest, eq⟩)
  | idles queue_eq busy _ => exact absurd queue_eq (hbusy busy)

end GatewayChannel

/-! ## Datagrams -/

namespace Gateway
open GatewayChannel

variable {id : UInt8} {g : Gateway}

/-- Nothing is sent that concerns the counters of a channel. -/
def Silent (id : UInt8) (actions : List GatewayAction) : Prop :=
  ∀ o ∈ datagramsOf actions, o.IsSilentOn id

theorem silent_nil : Silent id [] := fun _ ho => absurd ho List.not_mem_nil

theorem silent_forward (frames : List Frame) : Silent id (frames.map .forward) := by
  rw [Silent, datagramsOf_forward]
  exact fun _ ho => absurd ho List.not_mem_nil

theorem silent_of_asides {out : List Outgoing} (h : ∀ o ∈ out, o.IsAside) :
    Silent id (sending out) := by
  rw [Silent, datagramsOf_sending]
  exact fun o ho => (h o ho).silentOn id

theorem onSearch_asides (p : Packet) (sender : Endpoint) :
    ∀ o ∈ g.onSearch p sender, o.IsAside := by
  unfold onSearch
  split
  · exact fun o ho => absurd ho List.not_mem_nil
  · simp only
    split
    · exact fun o ho => absurd ho List.not_mem_nil
    · exact Outgoing.ofBuilt_asides (by decide) _ _ _

theorem onDescription_asides (p : Packet) (sender : Endpoint) :
    ∀ o ∈ g.onDescription p sender, o.IsAside := by
  unfold onDescription
  split
  · exact fun o ho => absurd ho List.not_mem_nil
  · exact Outgoing.ofBuilt_asides (by decide) _ _ _

theorem connectAnswer_asides (target own : Endpoint) (channel status : UInt8) :
    ∀ o ∈ connectAnswer target own channel status, o.IsAside :=
  Outgoing.ofBuilt_asides (by decide) _ _ _

theorem channelAnswer_asides (request : ChannelRequest) (sender : Endpoint) {service : Service}
    (h : service.IsAside) : ∀ o ∈ g.channelAnswer request sender service, o.IsAside := by
  intro o ho
  rw [List.mem_singleton.1 ho]
  exact h

/-- A channel is opened under a number that no other has. -/
theorem openChannel_apart (hone : AtMostOne (g.held id)) {id' : UInt8} (hfree : g.held id' = [])
    (hid' : id' ≠ 0) (control data : Endpoint) (now timeout : Nat) :
    Apart (g.held id) ((g.openChannel (.fresh id' control data now timeout)).held id) := by
  have hid : (GatewayChannel.fresh id' control data now timeout).id = id' := rfl
  rw [held_openChannel, hid]
  split
  · rename_i heq
    rw [heq] at hfree
    rw [hfree]
    exact Apart.opened _ rfl rfl rfl rfl rfl rfl hid'
  · rw [List.append_nil]
    exact Apart.refl hone

theorem onConnect_apart (hone : AtMostOne (g.held id)) (now : Nat) (p : Packet)
    (sender : Endpoint) :
    Apart (g.held id) ((g.onConnect now p sender).1.held id) ∧
      ∀ o ∈ (g.onConnect now p sender).2, o.IsAside := by
  have hnothing : ∀ o ∈ ([] : List Outgoing), o.IsAside := fun o ho => absurd ho List.not_mem_nil
  unfold onConnect
  split
  · exact ⟨Apart.refl hone, hnothing⟩
  · simp only
    split
    · exact ⟨Apart.refl hone, hnothing⟩
    · split
      · exact ⟨Apart.refl hone, connectAnswer_asides _ _ _ _⟩
      · split
        · exact ⟨Apart.refl hone, connectAnswer_asides _ _ _ _⟩
        · rename_i id' hfree
          exact ⟨openChannel_apart hone (held_of_freeId? hfree) (freeId?_eq_some hfree).1 _ _ _ _,
            connectAnswer_asides _ _ _ _⟩

/-- A sign of life moves the deadline of a channel and nothing else. -/
theorem onState_apart (hone : AtMostOne (g.held id)) (now : Nat) (p : Packet) (sender : Endpoint) :
    Apart (g.held id) ((g.onState now p sender).1.held id) ∧
      ∀ o ∈ (g.onState now p sender).2, o.IsAside := by
  unfold onState
  split
  · exact ⟨Apart.refl hone, fun o ho => absurd ho List.not_mem_nil⟩
  · refine ⟨?_, channelAnswer_asides _ _ (by decide)⟩
    simp only
    rw [held_update (f := fun c => c.refresh now g.config.channelTimeout) fun _ _ => rfl]
    split
    · exact Apart.map hone fun c => ⟨⟨rfl, rfl, rfl, rfl, rfl, List.prefix_refl _⟩, rfl⟩
    · exact Apart.refl hone

theorem onDisconnect_apart (hone : AtMostOne (g.held id)) (p : Packet) (sender : Endpoint) :
    Apart (g.held id) ((g.onDisconnect p sender).1.held id) ∧
      ∀ o ∈ (g.onDisconnect p sender).2, o.IsAside := by
  unfold onDisconnect
  split
  · exact ⟨Apart.refl hone, fun o ho => absurd ho List.not_mem_nil⟩
  · refine ⟨?_, channelAnswer_asides _ _ (by decide)⟩
    simp only
    rw [held_dismiss]
    split
    · exact Apart.gone rfl
    · exact Apart.refl hone

theorem onRequest_id (c : GatewayChannel) (now timeout : Nat) (q : TunnelRequest) :
    (c.onRequest now timeout q).channel.id = c.id := by
  obtain ⟨-, heq⟩ | heq | ⟨-, more, status, heq, -⟩ := c.onRequest_cases now timeout q
  · rw [heq]
  · rw [heq]
  · rw [heq]

theorem onAck_id (c : GatewayChannel) (a : TunnelAck) : (c.onAck a).id = c.id := by
  unfold GatewayChannel.onAck
  split <;> rfl

/-- What a channel answers to a request goes to its own client, under its own number. -/
theorem onRequest_acks (c : GatewayChannel) (now timeout : Nat) (q : TunnelRequest) :
    ∀ o ∈ (c.onRequest now timeout q).acks, ∃ status, o = c.acknowledge q.sequence status := by
  intro o ho
  obtain ⟨-, heq⟩ | heq | ⟨-, more, status, heq, -⟩ := c.onRequest_cases now timeout q
  · rw [heq] at ho
    exact ⟨_, List.mem_singleton.1 ho⟩
  · rw [heq] at ho
    exact absurd ho List.not_mem_nil
  · rw [heq] at ho
    exact ⟨_, List.mem_singleton.1 ho⟩

/-- A request reaches the channel that it names, and no other. -/
theorem onTunnelRequest_cases (hone : AtMostOne (g.held id)) (now : Nat) (p : Packet) :
    (∃ q c, TunnelRequest.ofPacket p = .ok q ∧ q.channel = id ∧ g.held id = [c] ∧
      (g.onTunnelRequest now p).1.held id =
        [(c.onRequest now g.config.channelTimeout q).channel] ∧
      (g.onTunnelRequest now p).2 =
        (c.onRequest now g.config.channelTimeout q).frames.map .forward ++
          sending (c.onRequest now g.config.channelTimeout q).acks) ∨
    (Apart (g.held id) ((g.onTunnelRequest now p).1.held id) ∧
      Silent id (g.onTunnelRequest now p).2 ∧
      ∀ q, TunnelRequest.ofPacket p = .ok q → q.channel = id →
        forwardsOf (g.onTunnelRequest now p).2 = []) := by
  unfold onTunnelRequest
  split
  · exact Or.inr ⟨Apart.refl hone, silent_nil, fun _ _ _ => rfl⟩
  · rename_i q hq
    split
    · exact Or.inr ⟨Apart.refl hone, silent_nil, fun _ _ _ => rfl⟩
    · rename_i c hc
      rw [channel?_eq] at hc
      have hmem := List.mem_of_head? hc
      have hid : c.id = q.channel := id_of_held hmem
      have hheld : (g.update c.id fun _ =>
            (c.onRequest now g.config.channelTimeout q).channel).held id =
          if c.id = id then
            (g.held id).map fun _ => (c.onRequest now g.config.channelTimeout q).channel
          else g.held id :=
        held_update (fun c' hc' => (onRequest_id c now _ q).trans hc'.symm) g
      simp only
      rw [hheld]
      by_cases heq : c.id = id
      · have hself : g.held id = [c] := by
          rw [← hid, heq] at hmem
          obtain hnil | ⟨c', hc'⟩ := hone
          · rw [hnil] at hmem
            exact absurd hmem List.not_mem_nil
          · rw [hc'] at hmem ⊢
            rw [List.mem_singleton.1 hmem]
        exact Or.inl ⟨q, c, hq, hid.symm.trans heq, hself, by rw [if_pos heq, hself]; rfl, rfl⟩
      · rw [if_neg heq]
        refine Or.inr ⟨Apart.refl hone, fun o ho => ?_, fun q' hq' hid' => ?_⟩
        · rw [datagramsOf_append, datagramsOf_forward, List.nil_append, datagramsOf_sending] at ho
          obtain ⟨status, rfl⟩ := onRequest_acks c now _ q o ho
          exact ack_silentOn id c.data ⟨c.id, q.sequence, status⟩ heq
        · rw [hq] at hq'
          cases hq'
          exact absurd (hid.trans hid') heq

/-- An acknowledgement reaches the channel that it names, and no other. -/
theorem onTunnelAck_cases (hone : AtMostOne (g.held id)) (p : Packet) :
    (∃ a c, TunnelAck.ofPacket p = .ok a ∧ a.channel = id ∧ g.held id = [c] ∧
      (g.onTunnelAck p).held id = [c.onAck a]) ∨
    Apart (g.held id) ((g.onTunnelAck p).held id) := by
  unfold onTunnelAck
  split
  · exact Or.inr (Apart.refl hone)
  · rename_i a ha
    rw [held_update fun c _ => onAck_id c a]
    split
    · rename_i heq
      obtain hnil | ⟨c, hc⟩ := hone
      · rw [hnil]
        exact Or.inr (Apart.gone rfl)
      · exact Or.inl ⟨a, c, ha, heq, hc, by rw [hc]; rfl⟩
    · exact Or.inr (Apart.refl hone)

theorem not_request_of_service {p : Packet} (h : p.service ≠ .tunnelRequest) (q : TunnelRequest) :
    TunnelRequest.ofPacket p ≠ .ok q := by
  intro hq
  rw [TunnelRequest.ofPacket, Packet.expect, if_neg h] at hq
  cases hq

/-- What may come of a datagram, for one channel. -/
theorem onPacket_cases (hone : AtMostOne (g.held id)) (now : Nat) (p : Received) :
    (∃ q c, TunnelRequest.ofPacket p.packet = .ok q ∧ q.channel = id ∧ g.held id = [c] ∧
      (g.onPacket now p).1.held id = [(c.onRequest now g.config.channelTimeout q).channel] ∧
      (g.onPacket now p).2 =
        (c.onRequest now g.config.channelTimeout q).frames.map .forward ++
          sending (c.onRequest now g.config.channelTimeout q).acks) ∨
    (∃ a c, TunnelAck.ofPacket p.packet = .ok a ∧ a.channel = id ∧ g.held id = [c] ∧
      (g.onPacket now p).1.held id = [c.onAck a] ∧ (g.onPacket now p).2 = []) ∨
    (Apart (g.held id) ((g.onPacket now p).1.held id) ∧ Silent id (g.onPacket now p).2 ∧
      ∀ q, TunnelRequest.ofPacket p.packet = .ok q → q.channel = id →
        forwardsOf (g.onPacket now p).2 = []) := by
  have hnothing : Apart (g.held id) (g.held id) ∧ Silent id [] ∧
      ∀ q, TunnelRequest.ofPacket p.packet = .ok q → q.channel = id → forwardsOf [] = [] :=
    ⟨Apart.refl hone, silent_nil, fun _ _ _ => rfl⟩
  have hsending : ∀ {out : List Outgoing} {after : List GatewayChannel},
      Apart (g.held id) after → (∀ o ∈ out, o.IsAside) →
      Apart (g.held id) after ∧ Silent id (sending out) ∧
        ∀ q, TunnelRequest.ofPacket p.packet = .ok q → q.channel = id →
          forwardsOf (sending out) = [] :=
    fun hapart hasides => ⟨hapart, silent_of_asides hasides, fun _ _ _ => forwardsOf_sending _⟩
  unfold onPacket
  simp only
  split
  · split
    · exact Or.inr (Or.inr (hsending (Apart.refl hone) (onSearch_asides _ _)))
    · exact Or.inr (Or.inr hnothing)
  · split
    · exact Or.inr (Or.inr (hsending (Apart.refl hone) (onDescription_asides _ _)))
    · exact Or.inr (Or.inr hnothing)
  · rename_i hservice
    split
    · refine Or.inr (Or.inr ⟨Apart.refl hone, silent_forward _, fun q hq _ => ?_⟩)
      exact absurd hq (not_request_of_service (by rw [hservice]; exact fun h => by cases h) q)
    · exact Or.inr (Or.inr hnothing)
  · split
    · obtain ⟨hapart, hasides⟩ := onConnect_apart hone now p.packet p.sender
      exact Or.inr (Or.inr (hsending hapart hasides))
    · exact Or.inr (Or.inr hnothing)
  · split
    · obtain ⟨hapart, hasides⟩ := onState_apart hone now p.packet p.sender
      exact Or.inr (Or.inr (hsending hapart hasides))
    · exact Or.inr (Or.inr hnothing)
  · split
    · obtain ⟨hapart, hasides⟩ := onDisconnect_apart hone p.packet p.sender
      exact Or.inr (Or.inr (hsending hapart hasides))
    · exact Or.inr (Or.inr hnothing)
  · split
    · rcases onTunnelRequest_cases hone now p.packet with h | h
      · exact Or.inl h
      · exact Or.inr (Or.inr h)
    · exact Or.inr (Or.inr hnothing)
  · split
    · rcases onTunnelAck_cases hone p.packet with ⟨a, c, ha, hid, hc, hc'⟩ | h
      · exact Or.inr (Or.inl ⟨a, c, ha, hid, hc, hc', rfl⟩)
      · exact Or.inr (Or.inr ⟨h, silent_nil, fun _ _ _ => rfl⟩)
    · exact Or.inr (Or.inr hnothing)
  · exact Or.inr (Or.inr hnothing)

/-! ## The bus, the timers and the end -/

theorem onBus_apart (hone : AtMostOne (g.held id)) (f : Frame) :
    Apart (g.held id) ((g.onBus f).1.held id) ∧ ∀ o ∈ (g.onBus f).2, o.IsAside := by
  unfold onBus
  split
  · exact ⟨Apart.refl hone, fun o ho => absurd ho List.not_mem_nil⟩
  · rename_i message _
    refine ⟨?_, fun o ho => ?_⟩
    · simp only [held]
      rw [filter_map_of_id (f := (·.offer message)) fun _ => rfl]
      exact Apart.map hone fun c => ⟨⟨rfl, rfl, rfl, rfl, rfl, List.prefix_append _ _⟩, rfl⟩
    · simp only at ho
      split at ho
      · rw [List.mem_singleton.1 ho]
        exact show Service.IsAside .routingIndication by decide
      · exact absurd ho List.not_mem_nil

theorem finish_asides : ∀ o ∈ g.finish.2, o.IsAside := by
  intro o ho
  obtain ⟨c, -, hc⟩ := List.mem_flatMap.1 ho
  unfold farewell at hc
  split at hc
  · exact absurd hc List.not_mem_nil
  · exact Outgoing.ofBuilt_asides (by decide) _ _ _ o hc

/-- What a channel sends by itself is one request at most. -/
theorem pump_sent (c : GatewayChannel) (config : GatewayConfig) (now : Nat) :
    ∀ o ∈ (c.pump config now).2, ∃ message, o = c.request message := by
  unfold GatewayChannel.pump
  split
  · exact fun o ho => absurd ho List.not_mem_nil
  · split
    · exact fun o ho => absurd ho List.not_mem_nil
    · split
      · exact fun o ho => absurd ho List.not_mem_nil
      · exact fun o ho => ⟨_, List.mem_singleton.1 ho⟩

/-- When channels send by themselves, they send requests. -/
theorem pumpChannels_sent (now : Nat) :
    ∀ o ∈ (g.pumpChannels now).2, ∃ c message, o = GatewayChannel.request c message := by
  intro o ho
  obtain ⟨x, hx, hox⟩ := List.mem_flatMap.1 ho
  obtain ⟨c, -, rfl⟩ := List.mem_map.1 hx
  exact ⟨c, pump_sent c g.config now o hox⟩

theorem acksOn_pumpChannels (now : Nat) : acksOn id (traffic (g.pumpChannels now).2) = [] := by
  have hnone : acksOn id ((g.pumpChannels now).2.map (·.packet)) = [] := by
    refine List.filterMap_eq_nil_iff.2 fun p hp => ?_
    obtain ⟨o, ho, rfl⟩ := List.mem_map.1 hp
    obtain ⟨c, message, rfl⟩ := pumpChannels_sent now o ho
    rfl
  rw [← List.sublist_nil, ← hnone]
  refine acksOn_traffic_sublist fun o ho => ?_
  obtain ⟨c, message, rfl⟩ := pumpChannels_sent now o ho
  rfl

/-- Of the requests sent, those on a channel are the ones that it has sent itself. -/
theorem requestsOn_pumpChannels (now : Nat) :
    requestsOn id (traffic (g.pumpChannels now).2) =
      (g.held id).flatMap fun c => requestsOn id (traffic (c.pump g.config now).2) := by
  rw [pumpChannels, held]
  simp only
  induction g.channels with
  | nil => rfl
  | cons c l ih =>
    rw [List.map_cons, List.flatMap_cons, traffic_append, requestsOn_append, ih]
    by_cases hid : c.id = id
    · rw [List.filter_cons_of_pos (by rw [hid]; exact beq_self_eq_true id), List.flatMap_cons]
    · rw [List.filter_cons_of_neg (by rw [beq_iff_eq]; exact hid)]
      have hsilent : requestsOn id (traffic (c.pump g.config now).2) = [] := by
        refine requestsOn_traffic_silent fun o ho => ?_
        obtain ⟨message, rfl⟩ := pump_sent c g.config now o ho
        exact request_silentOn id c.data ⟨c.id, c.sendNo, message⟩ hid
      rw [hsilent, List.nil_append]

/-! ## Everything that happens -/

/-- Whatever a gateway does, it looks at a datagram, or lets the channels send, or does nothing that
is meant for one of them. -/
theorem perform_cases (hone : AtMostOne (g.held id)) (a : Act) :
    (∃ now p later, a = .look now ∧ g.received = p :: later ∧
      g.perform a = (g.withWaiting later g.heard).onPacket now p) ∨
    (∃ now, a = .pump now) ∨
    ((∀ now, a = .look now → g.received = []) ∧ Apart (g.held id) ((g.perform a).1.held id) ∧
      (g.perform a).1.received = g.received ∧
      ∃ out, (g.perform a).2 = sending out ∧ ∀ o ∈ out, o.IsAside) := by
  have hnothing : ∃ out, ([] : List GatewayAction) = sending out ∧ ∀ o ∈ out, o.IsAside :=
    ⟨[], rfl, fun o ho => absurd ho List.not_mem_nil⟩
  cases a with
  | hear f =>
    exact Or.inr (Or.inr ⟨fun _ h => (by cases h), Apart.refl hone, rfl, hnothing⟩)
  | look now =>
    cases hfront : g.received with
    | nil =>
      rw [perform_look_nil hfront]
      exact Or.inr (Or.inr ⟨fun _ _ => rfl, Apart.refl hone, hfront, hnothing⟩)
    | cons p later =>
      exact Or.inl ⟨now, p, later, rfl, rfl, perform_look_cons hfront now⟩
  | listen =>
    refine Or.inr (Or.inr ⟨fun _ h => (by cases h), ?_⟩)
    cases hfront : g.heard with
    | nil =>
      rw [perform_listen_nil hfront]
      exact ⟨Apart.refl hone, rfl, hnothing⟩
    | cons f later =>
      obtain ⟨g₀, hg₀⟩ : ∃ g₀, g.withWaiting g.received later = g₀ := ⟨_, rfl⟩
      have hheld₀ : g₀.held id = g.held id := by
        rw [← hg₀]
        rfl
      have hperform : g.perform .listen = ((g₀.onBus f).1, sending (g₀.onBus f).2) := by
        rw [perform_listen_cons hfront, hg₀]
        rfl
      have hreceived : (g₀.onBus f).1.received = g.received := by
        rw [← hg₀, onBus_withWaiting]
        rfl
      obtain ⟨hapart, hasides⟩ := onBus_apart (hheld₀ ▸ hone) f
      rw [hheld₀] at hapart
      rw [hperform]
      exact ⟨hapart, hreceived, _, rfl, hasides⟩
  | expire now =>
    refine Or.inr (Or.inr ⟨fun _ h => (by cases h), ?_, rfl, hnothing⟩)
    have hheld : (g.perform (.expire now)).1.held id =
        (g.held id).filter fun c => !c.isExpired now := held_expire g now
    rw [hheld]
    exact Apart.filter hone _
  | pump now => exact Or.inr (Or.inl ⟨now, rfl⟩)
  | finish =>
    exact Or.inr (Or.inr ⟨fun _ h => (by cases h), Apart.gone rfl, rfl, _, rfl, finish_asides⟩)

end Gateway
end KnxBus
