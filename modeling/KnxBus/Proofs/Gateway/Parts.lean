import KnxBus.Gateway
import KnxBus.Proofs.Datagram
import KnxBus.Proofs.Run

/-!
# The parts of a turn of a gateway

A turn of a gateway looks at one datagram after the other, then at the frames from the bus, ends
silent channels and lets the others send.  Here each part is described as it concerns one channel,
given by its number.

The channels are a list.  All that is said about a channel is said about the part of this list that
has its number (`Gateway.held`), which is empty or has one element.  Every operation on the table
carries over to this part, and that is what the first section is about.
-/

namespace KnxBus
namespace Gateway

/-! ## The channels with a number -/

/-- The channels with a number; there is one at most. -/
def held (id : UInt8) (g : Gateway) : List GatewayChannel := g.channels.filter fun c => c.id == id

variable {id : UInt8}

theorem id_of_held {g : Gateway} {c : GatewayChannel} (h : c ∈ g.held id) : c.id = id :=
  beq_iff_eq.1 (List.mem_filter.1 h).2

theorem channel?_eq (id : UInt8) (g : Gateway) : g.channel? id = (g.held id).head? :=
  List.head?_filter.symm

/-- What is done to every channel alike. -/
theorem filter_map_of_id {f : GatewayChannel → GatewayChannel} (hf : ∀ c, (f c).id = c.id)
    (l : List GatewayChannel) :
    (l.map f).filter (fun c => c.id == id) = (l.filter fun c => c.id == id).map f := by
  rw [List.filter_map]
  congr 2
  funext c
  exact congrArg (· == id) (hf c)

theorem held_update {f : GatewayChannel → GatewayChannel} {id' : UInt8}
    (hf : ∀ c, c.id = id' → (f c).id = c.id) (g : Gateway) :
    (g.update id' f).held id = if id' = id then (g.held id).map f else g.held id := by
  have hkeeps : ∀ c : GatewayChannel, (if c.id = id' then f c else c).id = c.id := by
    intro c
    split
    · rename_i h
      exact hf c h
    · rfl
  rw [held, update, filter_map_of_id hkeeps]
  split
  · rename_i heq
    refine List.map_congr_left fun c hc => ?_
    rw [if_pos ((id_of_held hc).trans heq.symm)]
  · rename_i hne
    refine (List.map_congr_left fun c hc => ?_).trans (List.map_id _)
    rw [if_neg fun h => hne (h.symm.trans (id_of_held hc))]
    rfl

theorem held_openChannel (g : Gateway) (c : GatewayChannel) :
    (g.openChannel c).held id = g.held id ++ if c.id = id then [c] else [] := by
  rw [held, openChannel, publish, List.filter_append]
  congr 1
  simp only [List.filter_cons, List.filter_nil, beq_iff_eq]

theorem held_dismiss (g : Gateway) (id' : UInt8) :
    (g.dismiss id').held id = if id' = id then [] else g.held id := by
  rw [held, dismiss, publish, List.filter_filter]
  split
  · rename_i heq
    refine List.filter_eq_nil_iff.2 fun c _ h => ?_
    simp only [Bool.and_eq_true, beq_iff_eq, decide_eq_true_eq] at h
    exact h.2 (h.1.trans heq.symm)
  · rename_i hne
    refine List.filter_congr fun c _ => ?_
    by_cases hc : c.id = id
    · simp [hc, Ne.symm hne]
    · simp [hc]

theorem held_expire (g : Gateway) (now : Nat) :
    (g.expire now).held id = (g.held id).filter fun c => !c.isExpired now := by
  rw [held, held, expire, publish, List.filter_filter, List.filter_filter]
  exact List.filter_congr fun c _ => Bool.and_comm _ _

theorem pump_id (c : GatewayChannel) (config : GatewayConfig) (now : Nat) :
    (c.pump config now).1.id = c.id := by
  unfold GatewayChannel.pump
  split
  · rfl
  · split
    · rfl
    · split <;> rfl

theorem held_pumpChannels (g : Gateway) (now : Nat) :
    (g.pumpChannels now).1.held id = (g.held id).map fun c => (c.pump g.config now).1 := by
  rw [held, pumpChannels]
  simp only [List.map_map]
  exact filter_map_of_id (fun c => pump_id c g.config now) g.channels

theorem isNone_channel?_iff {g : Gateway} : (g.channel? id).isNone = true ↔ g.held id = [] := by
  rw [channel?_eq, Option.isNone_iff_eq_none, List.head?_eq_none_iff]

/-- The number that is given out is the lowest one that is free. -/
theorem freeId?_eq_some {g : Gateway} (h : g.freeId? = some id) :
    id ≠ 0 ∧ g.held id = [] ∧ ∀ lower, lower ≠ 0 → lower < id → g.held lower ≠ [] := by
  rw [freeId?, List.find?_map] at h
  obtain ⟨n, hn, rfl⟩ := Option.map_eq_some_iff.1 h
  obtain ⟨hfree, hmem, hlower⟩ := List.find?_range_eq_some.1 hn
  have hlt : n < 255 := List.mem_range.1 hmem
  have hvalue : (UInt8.ofNat (n + 1)).toNat = n + 1 := by
    rw [UInt8.toNat_ofNat']
    omega
  refine ⟨fun hzero => ?_, isNone_channel?_iff.1 hfree, fun lower hne hlt' => ?_⟩
  · rw [hzero] at hvalue
    cases hvalue
  · have hpos : 0 < lower.toNat := Nat.pos_of_ne_zero fun h => hne (UInt8.toNat_inj.1 h)
    have hbelow : lower.toNat < n + 1 := hvalue ▸ UInt8.lt_iff_toNat_lt.1 hlt'
    have hsame : UInt8.ofNat (lower.toNat - 1 + 1) = lower := by
      rw [Nat.sub_add_cancel hpos, UInt8.ofNat_toNat]
    have htaken := hlower (lower.toNat - 1) (by omega)
    rw [Function.comp_apply, hsame, Bool.not_eq_true', ← Bool.not_eq_true, isNone_channel?_iff]
      at htaken
    exact htaken

/-- No number is given out only if all are taken. -/
theorem freeId?_eq_none {g : Gateway} (h : g.freeId? = none) : ∀ n, n ≠ 0 → g.held n ≠ [] := by
  intro n hne
  rw [freeId?, List.find?_eq_none] at h
  have hpos : 0 < n.toNat := Nat.pos_of_ne_zero fun h => hne (UInt8.toNat_inj.1 h)
  have hlt := n.toNat_lt
  have hmem : n ∈ (List.range 255).map fun k => UInt8.ofNat (k + 1) := by
    refine List.mem_map.2 ⟨n.toNat - 1, List.mem_range.2 (by omega), ?_⟩
    rw [Nat.sub_add_cancel hpos, UInt8.ofNat_toNat]
  have htaken := h n hmem
  rw [isNone_channel?_iff] at htaken
  exact htaken

theorem held_of_freeId? {g : Gateway} (h : g.freeId? = some id) : g.held id = [] :=
  (freeId?_eq_some h).2.1

/-! ## Acts -/

/-- What happens at a gateway, arrivals of datagrams apart. -/
inductive Act where
  /-- A frame comes from the bus. -/
  | hear (frame : Frame)
  /-- The gateway looks at a datagram. -/
  | look (now : Nat)
  /-- The gateway looks at a frame from the bus. -/
  | listen
  /-- Silent channels end. -/
  | expire (now : Nat)
  /-- Each channel sends, if it can. -/
  | pump (now : Nat)
  /-- The gateway ends. -/
  | finish

/-- One thing happens at a gateway; what it does comes out. -/
def perform (a : Act) (g : Gateway) : Gateway × List GatewayAction :=
  match a with
  | .hear frame => (g.deliver frame, [])
  | .look now =>
    match g.received with
    | [] => (g, [])
    | p :: later => { g with received := later }.onPacket now p
  | .listen =>
    match g.heard with
    | [] => (g, [])
    | frame :: later => onlySending ({ g with heard := later }.onBus frame)
  | .expire now => (g.expire now, [])
  | .pump now => onlySending (g.pumpChannels now)
  | .finish => onlySending g.finish

/-! ## Turns -/

/-- The gateway with other datagrams and other frames to be looked at. -/
def withWaiting (packets : List Received) (frames : List Frame) (g : Gateway) : Gateway :=
  { g with received := packets, heard := frames }

section

variable {g : Gateway}

theorem perform_look_nil (h : g.received = []) (now : Nat) : g.perform (.look now) = (g, []) := by
  rw [perform, h]

theorem perform_look_cons {p : Received} {later : List Received} (h : g.received = p :: later)
    (now : Nat) :
    g.perform (.look now) = (g.withWaiting later g.heard).onPacket now p := by
  rw [perform, h]
  rfl

theorem perform_listen_nil (h : g.heard = []) : g.perform .listen = (g, []) := by
  rw [perform, h]

theorem perform_listen_cons {f : Frame} {later : List Frame} (h : g.heard = f :: later) :
    g.perform .listen = onlySending ((g.withWaiting g.received later).onBus f) := by
  rw [perform, h]
  rfl

end

section
variable (now : Nat) (p : Received) (packets : List Received) (frames : List Frame)
  (g : Gateway)

theorem onConnect_withWaiting :
    (g.withWaiting packets frames).onConnect now p.packet p.sender =
      ((g.onConnect now p.packet p.sender).1.withWaiting packets frames,
        (g.onConnect now p.packet p.sender).2) := by
  unfold onConnect
  simp only [withWaiting, facing?, freeId?, channel?]
  split
  · rfl
  · split
    · rfl
    · split
      · rfl
      · split <;> rfl

theorem onTunnelRequest_withWaiting :
    (g.withWaiting packets frames).onTunnelRequest now p.packet =
      ((g.onTunnelRequest now p.packet).1.withWaiting packets frames,
        (g.onTunnelRequest now p.packet).2) := by
  unfold onTunnelRequest
  simp only [withWaiting, channel?]
  split
  · rfl
  · split <;> rfl

/-- A datagram that is looked at does not touch those behind it. -/
theorem onPacket_withWaiting :
    (g.withWaiting packets frames).onPacket now p =
      ((g.onPacket now p).1.withWaiting packets frames, (g.onPacket now p).2) := by
  have hconfig : (g.withWaiting packets frames).config = g.config := rfl
  unfold onPacket
  simp only [hconfig]
  split
  · cases g.config.discover <;> rfl
  · cases g.config.discover <;> rfl
  · cases g.config.route <;> rfl
  · cases g.config.tunnel with
    | false => rfl
    | true =>
      simp only [if_true, onlySending, onConnect_withWaiting]
  · cases g.config.tunnel with
    | false => rfl
    | true =>
      simp only [if_true, onlySending, onState]
      split <;> rfl
  · cases g.config.tunnel with
    | false => rfl
    | true =>
      simp only [if_true, onlySending, onDisconnect]
      split <;> rfl
  · cases g.config.tunnel with
    | false => rfl
    | true =>
      simp only [if_true, onTunnelRequest_withWaiting]
  · cases g.config.tunnel with
    | false => rfl
    | true =>
      simp only [if_true, onTunnelAck]
      split <;> rfl
  · rfl

theorem onPacket_heard : (g.onPacket now p).1.heard = g.heard := by
  have hsame : g.withWaiting g.received g.heard = g := rfl
  have hpair := onPacket_withWaiting now p g.received g.heard g
  rw [hsame] at hpair
  rw [hpair]
  rfl

theorem onBus_withWaiting (f : Frame) :
    (g.withWaiting packets frames).onBus f =
      ((g.onBus f).1.withWaiting packets frames, (g.onBus f).2) := by
  unfold onBus
  split <;> rfl

end

theorem onPackets_eq_run (now : Nat) (packets : List Received) (g : Gateway)
    (h : g.received = packets) :
    onPackets now packets (g.withWaiting [] g.heard) =
      runWith perform (List.replicate packets.length (.look now)) g := by
  induction packets generalizing g with
  | nil =>
    have hsame : g.withWaiting [] g.heard = g := by
      rw [← h]
      rfl
    rw [hsame]
    rfl
  | cons p later ih =>
    have hlook : perform (.look now) g =
        ((g.onPacket now p).1.withWaiting later g.heard, (g.onPacket now p).2) :=
      (perform_look_cons h now).trans (onPacket_withWaiting now p later g.heard g)
    have hrest := ih ((g.onPacket now p).1.withWaiting later g.heard) rfl
    rw [List.length_cons, List.replicate_succ, runWith, hlook, onPackets, onPacket_withWaiting]
    simp only
    rw [← hrest]
    rfl

theorem onBusFrames_eq_run (frames : List Frame) (g : Gateway) (h : g.heard = frames) :
    onlySending (onBusFrames frames (g.withWaiting g.received [])) =
      runWith perform (List.replicate frames.length .listen) g := by
  induction frames generalizing g with
  | nil =>
    have hsame : g.withWaiting g.received [] = g := by
      rw [← h]
      rfl
    rw [hsame]
    rfl
  | cons f later ih =>
    have hlisten : perform .listen g =
        ((g.onBus f).1.withWaiting g.received later, sending (g.onBus f).2) :=
      (perform_listen_cons h).trans
        (congrArg onlySending (onBus_withWaiting g.received later g f))
    have hrest := ih ((g.onBus f).1.withWaiting g.received later) rfl
    rw [List.length_cons, List.replicate_succ, runWith, hlisten, onBusFrames, onBus_withWaiting]
    simp only
    rw [← hrest, onlySending, sending, List.map_append]
    rfl

theorem onPackets_heard (now : Nat) (packets : List Received) (g : Gateway) :
    (onPackets now packets g).1.heard = g.heard := by
  induction packets generalizing g with
  | nil => rfl
  | cons p later ih => exact (ih _).trans (onPacket_heard now p g)

/-- **A whole turn is a run of its parts.** -/
theorem work_eq_run (now : Nat) (g : Gateway) :
    g.work now =
      runWith perform (List.replicate g.received.length (.look now) ++
        (List.replicate g.heard.length .listen ++ [.expire now, .pump now])) g := by
  have hlooks := onPackets_eq_run now g.received g rfl
  obtain ⟨g₁, hg₁⟩ : ∃ g₁, (onPackets now g.received (g.withWaiting [] g.heard)).1 = g₁ := ⟨_, rfl⟩
  have hheard : g₁.heard = g.heard := by
    rw [← hg₁]
    exact onPackets_heard now g.received _
  have hlistens := onBusFrames_eq_run g.heard g₁ hheard
  have hwork : g.work now =
      ((((onBusFrames g₁.heard (g₁.withWaiting g₁.received [])).1.expire now).pumpChannels now).1,
        (onPackets now g.received (g.withWaiting [] g.heard)).2 ++
          sending (onBusFrames g₁.heard (g₁.withWaiting g₁.received [])).2 ++
          sending
            (((onBusFrames g₁.heard (g₁.withWaiting g₁.received [])).1.expire now).pumpChannels
              now).2) := by
    rw [← hg₁]
    rfl
  rw [hwork, hheard, runWith_append, runWith_append, ← hlooks, hg₁, ← hlistens]
  simp only [runWith, perform, onlySending, List.nil_append, List.append_nil, List.append_assoc]

/-! ## Beginnings -/

/-- The gateway before anybody has a channel. -/
def withoutChannels (g : Gateway) : Gateway := { g with channels := [] }

/-- A gateway starts without channels. -/
theorem withoutChannels_of_bind {host : Host} {inUse : List UInt16} {config : GatewayConfig}
    {g : Gateway} (h : bind host inUse config = .ok g) : g.withoutChannels = g := by
  unfold bind at h
  split at h
  · cases h
  · split at h
    · cases h
    · cases h
      rfl

/-- A gateway that has just opened a channel, with nothing to look at. -/
def granting (id : UInt8) (control data : Endpoint) (now : Nat) (g : Gateway) : Gateway :=
  { g with channels := g.channels.filter fun c => c.id ≠ id, received := [] }.openChannel
    (.fresh id control data now g.config.channelTimeout)

/-- A request for a channel brings the gateway there. -/
theorem onConnect_granting {g : Gateway} {p : Packet} {request : ConnectRequest} {own : Endpoint}
    {sender : Endpoint} (hp : ConnectRequest.ofPacket p = .ok request)
    (hown : g.facing? (replyTo request.control sender) = some own)
    (hkind : request.isLinkLayerTunnel = true) (hfree : g.freeId? = some id)
    (hreceived : g.received = []) (now : Nat) :
    (g.onConnect now p sender).1 =
      g.granting id (replyTo request.control sender) (replyTo request.data sender) now := by
  have hsame : g.channels.filter (fun c => c.id ≠ id) = g.channels := by
    refine List.filter_eq_self.2 fun c hc => decide_eq_true fun hid => ?_
    have hmem : c ∈ g.held id := List.mem_filter.2 ⟨hc, beq_iff_eq.2 hid⟩
    rw [held_of_freeId? hfree] at hmem
    exact absurd hmem List.not_mem_nil
  rw [onConnect, hp]
  simp only [hown, hkind, hfree, Bool.not_true, Bool.false_eq_true, if_false]
  rw [granting, hsame, ← hreceived]

theorem held_granting (id : UInt8) (control data : Endpoint) (now : Nat) (g : Gateway) :
    (g.granting id control data now).held id =
      [.fresh id control data now g.config.channelTimeout] := by
  have hnone : (g.channels.filter fun c => c.id ≠ id).filter (fun c => c.id == id) = [] := by
    refine List.filter_eq_nil_iff.2 fun c hc h => ?_
    exact of_decide_eq_true (List.mem_filter.1 hc).2 (beq_iff_eq.1 h)
  rw [granting, held_openChannel, held]
  simp only [hnone, List.nil_append]
  exact if_pos rfl

end Gateway
end KnxBus
