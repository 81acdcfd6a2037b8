import KnxBus.Proofs.Tunnel.Entitlement

/-!
# Whose channel it is

A client that is connected believes that a channel of the gateway is its own.  It is, at all times,
if every client gives up before its channel is over; whatever is lost on the way
(`Neighbourhood.channels_are_owned`).

Three things could go wrong.  The gateway may have ended the channel without the client knowing, and
may have given its number to somebody else; the client may take a grant that has been overtaken in
the same way; and a message that closes a channel may reach the gateway when the number is somebody
else's already.  None of them happens, since every client is entitled to what it believes
(`Tunnel.Tenant`), and whatever the gateway or another client does leaves it so
(`Neighbourhood.Sound`).
-/

namespace KnxBus

/-! ## All together -/

/-- Whatever the gateway sends arrives as it is sent. -/
theorem Gateway.Custody.canonical {id : UInt8} {now : Nat} {looked : Option Packet}
    {g g' : Gateway} {sent : List Outgoing} (h : Custody id now looked g g' sent) :
    ∀ o ∈ sent, o.packet.IsCanonical := by
  intro o ho
  cases h with
  | absent _ _ plain => exact (plain o ho).1
  | kept _ _ _ _ _ _ _ plain => exact (plain o ho).1
  | opened _ _ _ _ _ told =>
    obtain rfl | ⟨p, hp, rfl⟩ := told
    · exact absurd ho List.not_mem_nil
    · rw [List.mem_singleton.1 ho]
      exact hp
  | closed _ _ _ _ _ _ plain => exact (plain o ho).1
  | expired _ _ _ _ plain => exact (plain o ho).1

/-- So does whatever a client sends. -/
theorem Tunnel.Stay.canonical {now : Nat} {looked : Option Packet} {t t' : Tunnel}
    {sent : List Outgoing} (h : Stay now looked t t' sent) : ∀ o ∈ sent, o.packet.IsCanonical := by
  intro o ho
  cases h with
  | away _ _ _ mild => exact (mild o ho).1
  | granted _ _ _ _ _ _ _ _ _ _ mild => exact (mild o ho).1
  | same _ _ _ _ _ _ mild => exact (mild o ho).1
  | affirmed _ _ _ _ _ _ _ mild => exact (mild o ho).1
  | beaten _ _ _ _ _ _ _ mild => exact (mild o ho).1
  | left _ _ _ _ told =>
    obtain hmild | ⟨o', rfl, hcanonical, -⟩ := told
    · exact (hmild o ho).1
    · rw [List.mem_singleton.1 ho]
      exact hcanonical

theorem Tunnel.finish_canonical (t : Tunnel) : ∀ o ∈ t.finish.2, o.packet.IsCanonical := by
  intro o ho
  obtain hmild | ⟨s, o', -, heq, hcanonical, -⟩ := t.finish_told
  · exact (hmild o ho).1
  · rw [heq] at ho
    rw [List.mem_singleton.1 ho]
    exact hcanonical

namespace Neighbourhood

/-- All clients are right in what they believe, and no two are at the same place. -/
structure Sound (n : Neighbourhood) : Prop where
  gateway : ∀ id, n.gateway.Guarded n.now id
  clients : ∀ t ∈ n.clients, t.Tenant n.now n.gateway n.log
  distinct : (n.clients.map (·.own)).Nodup

variable {n : Neighbourhood}

theorem Sound.doGateway (h : n.Sound) (d : Gateway.Doing) (fates : List Bool) :
    (n.step (.gateway d fates)).Sound := by
  have hperform : ∀ id, Gateway.Custody id n.now (d.rest n.gateway).1 n.gateway
      (n.gateway.perform (d.act n.now)).1 (datagramsOf (n.gateway.perform (d.act n.now)).2) ∧
      (n.gateway.perform (d.act n.now)).1.received = (d.rest n.gateway).2 :=
    fun id => Gateway.perform_custody (h.gateway id).one d
  have hcustody := fun id => (hperform id).1
  have hrest : (d.rest n.gateway).1.toList ++
      (n.gateway.perform (d.act n.now)).1.received.map (·.packet) =
        n.gateway.received.map (·.packet) := by
    rw [(hperform 0).2]
    exact d.rest_eq n.gateway
  have hconfig := (Gateway.perform_setup (d.act n.now) n.gateway).1.config_eq
  refine ⟨fun id => (h.gateway id).gateway (hcustody id) hrest hconfig, fun t' ht' => ?_, ?_⟩
  · obtain ⟨t, ht, rfl⟩ := List.mem_map.1 ht'
    exact (h.clients t ht).gateway h.gateway hcustody hrest hconfig
      (Gateway.hears (hcustody 0).canonical fates)
  · have howns : (n.step (.gateway d fates)).clients.map (·.own) = n.clients.map (·.own) := by
      simp only [step, List.map_map]
      rfl
    rw [howns]
    exact h.distinct

theorem Sound.doClient (h : n.Sound) (own : Endpoint) (d : Tunnel.Doing) (fates : List Bool) :
    (n.step (.client own d fates)).Sound := by
  unfold step
  simp only
  split
  · exact h
  · rename_i t hfound
    obtain ⟨ht, rfl⟩ := client?_eq_some hfound
    have htenant := h.clients t ht
    obtain ⟨hstay, hreceived⟩ : Tunnel.Stay n.now (d.rest t).1 t (t.perform (d.act n.now)).1
        (t.perform (d.act n.now)).2 ∧ (t.perform (d.act n.now)).1.received = (d.rest t).2 :=
      Tunnel.perform_stay htenant.requesting d
    have hrest : (d.rest t).1.toList ++ (t.perform (d.act n.now)).1.received.map (·.packet) =
        t.received.map (·.packet) := by
      rw [hreceived]
      exact d.rest_eq t
    obtain ⟨hconfig, hown⟩ := Tunnel.perform_setup (d.act n.now) t
    have hextra := Tunnel.heardBy_sublist (g := n.gateway) (t := t) hstay.canonical fates
    have hgivesUp : ∀ id, Packet.closingsAmong id
        ((t.heardBy n.gateway (carried fates (t.perform (d.act n.now)).2)).map (·.packet)) ≤
          t.claims id := fun id =>
      Nat.le_trans hextra.countP_le
        (Nat.le_trans (Nat.le_add_left _ _) (hstay.claims_le hrest id))
    refine ⟨fun id => htenant.guarded_hear (h.gateway id) (hgivesUp id), fun t' ht' => ?_, ?_⟩
    · obtain ⟨t₂, ht₂, rfl⟩ := List.mem_map.1 ht'
      split
      · exact htenant.client hstay hrest hconfig hown
          (Tunnel.perform_requesting htenant.requesting d) hextra
      · rename_i hne
        refine ((h.clients t₂ ht₂).beside htenant h.gateway (Ne.symm hne) hgivesUp).append ?_
        intro id e he
        obtain ⟨hnews, hother⟩ := Tunnel.not_about_of_entries e he
        exact ⟨hnews id, hother (Ne.symm hne)⟩
    · have howns : (n.clients.map fun t₂ =>
          if t₂.own = t.own then (t.perform (d.act n.now)).1 else t₂).map (·.own) =
            n.clients.map (·.own) := by
        rw [List.map_map]
        refine List.map_congr_left fun t₂ _ => ?_
        rw [Function.comp_apply]
        split
        · rename_i heq
          exact hown.trans heq.symm
        · rfl
      rw [howns]
      exact h.distinct

theorem Sound.doLeave (h : n.Sound) (own : Endpoint) (fates : List Bool) :
    (n.step (.leave own fates)).Sound := by
  unfold step
  simp only
  split
  · exact h
  · rename_i t hfound
    obtain ⟨ht, rfl⟩ := client?_eq_some hfound
    have htenant := h.clients t ht
    have hextra := Tunnel.heardBy_sublist (g := n.gateway) (t := t) t.finish_canonical fates
    have hgivesUp : ∀ id, Packet.closingsAmong id
        ((t.heardBy n.gateway (carried fates t.finish.2)).map (·.packet)) ≤ t.claims id :=
      fun id => Nat.le_trans hextra.countP_le (t.finish_claims id)
    refine ⟨fun id => htenant.guarded_hear (h.gateway id) (hgivesUp id), fun t₂ ht₂ => ?_, ?_⟩
    · obtain ⟨hmem, hne⟩ := List.mem_filter.1 ht₂
      exact (h.clients t₂ hmem).beside htenant h.gateway (Ne.symm (of_decide_eq_true hne)) hgivesUp
    · exact h.distinct.sublist (List.filter_sublist.map _)

theorem Sound.doJoin (h : n.Sound) (host : Host) (inUse : List UInt16) (target : Endpoint)
    (config : TunnelConfig) : (n.step (.join host inUse target config)).Sound := by
  unfold step
  simp only
  split
  · exact h
  · rename_i t hconnect
    split
    · rename_i hmay
      obtain ⟨houtlasted, hfree⟩ := hmay
      refine ⟨h.gateway, fun t₂ ht₂ => ?_, ?_⟩
      · obtain ht₂ | ht₂ := List.mem_append.1 ht₂
        · refine (h.clients t₂ ht₂).append fun id e he => ?_
          rw [List.mem_singleton.1 he]
          exact ⟨fun heq => hfree t₂ ht₂ heq.symm, fun hfalse => hfalse⟩
        · rw [List.mem_singleton.1 ht₂]
          exact Tunnel.tenant_of_connect hconnect houtlasted h.gateway _
      · rw [List.map_append, List.nodup_append]
        refine ⟨h.distinct, List.nodup_singleton _, fun own hown own' hown' heq => ?_⟩
        obtain ⟨t₂, ht₂, rfl⟩ := List.mem_map.1 hown
        rw [List.map_singleton, List.mem_singleton] at hown'
        exact hfree t₂ ht₂ (heq.trans hown')
    · exact h

theorem Sound.doTick (h : n.Sound) : (n.step .tick).Sound := by
  unfold step
  simp only
  split
  · rename_i hcalm
    exact ⟨fun id => (h.gateway id).succ hcalm.1,
      fun t ht => (h.clients t ht).succ (hcalm.2 t ht), h.distinct⟩
  · exact h

/-- Nobody is ever wrong, whatever happens. -/
theorem Sound.step (h : n.Sound) (m : Move) : (n.step m).Sound := by
  cases m with
  | gateway d fates => exact h.doGateway d fates
  | client own d fates => exact h.doClient own d fates
  | leave own fates => exact h.doLeave own fates
  | join host inUse target config => exact h.doJoin host inUse target config
  | tick => exact h.doTick

theorem start_sound {host : Host} {inUse : List UInt16} {config : GatewayConfig} {g₀ : Gateway}
    (h : Gateway.bind host inUse config = .ok g₀) (registrations : List Nat) (now : Nat) :
    (start now (g₀.registered registrations)).Sound := by
  refine ⟨fun id => ?_, fun t ht => absurd ht List.not_mem_nil, List.nodup_nil⟩
  have hreceived : (g₀.registered registrations).received = [] := by
    show g₀.received = []
    exact Gateway.received_of_bind h
  refine Gateway.guarded_of_none (Gateway.held_of_bind h registrations id) ?_
  show (g₀.registered registrations).closings id = 0
  rw [Gateway.closings, hreceived]
  rfl

/-- **What a client believes to have it has**, in every state that a gateway and its clients can
come to, whatever datagrams are lost.  A client shows the channel of its session.  The table of the
gateway has one channel with this number; it is that of the client, and it was opened for the
connection that the client has made last.  So no other client believes to have it. -/
theorem channels_are_owned {host : Host} {inUse : List UInt16} {config : GatewayConfig}
    {g₀ : Gateway} (h : Gateway.bind host inUse config = .ok g₀) (registrations : List Nat)
    (now : Nat) (moves : List Move) :
    let n := (start now (g₀.registered registrations)).run moves
    ∀ t ∈ n.clients, t.channel? = t.session?.map (·.channel) ∧
      ∀ id, t.channel? = some id →
        (∃ c, n.gateway.held id = [c] ∧ c.control = t.own) ∧
        ChannelEvent.ConnectedLast t.own id n.log ∧
        ∀ t' ∈ n.clients, t'.channel? = some id → t' = t := by
  intro n t ht
  have hsound : n.Sound :=
    run_invariant Sound (fun m _ h => h.step m) moves (start_sound h registrations now)
  have howner : ∀ t ∈ n.clients, ∀ id, t.channel? = some id →
      ∃ c, n.gateway.held id = [c] ∧ c.control = t.own := by
    intro t ht id hid
    have htenant := hsound.clients t ht
    obtain ⟨s, hs, rfl⟩ := Option.map_eq_some_iff.1 (htenant.shown.symm.trans hid)
    have hclaim := Tunnel.claims_pos_of_session hs
    obtain ⟨c, hc, -⟩ := (htenant.entitled s.channel).one_of_claim (hsound.gateway _) hclaim
    exact ⟨c, hc, (htenant.entitled s.channel).owned hclaim c (hc ▸ List.mem_singleton_self c)⟩
  have htenant := hsound.clients t ht
  refine ⟨htenant.shown, fun id hid => ⟨howner t ht id hid, ?_, fun t' ht' hid' => ?_⟩⟩
  · obtain ⟨s, hs, rfl⟩ := Option.map_eq_some_iff.1 (htenant.shown.symm.trans hid)
    exact (htenant.believes s hs).connected
  · obtain ⟨c, hc, hown⟩ := howner t ht id hid
    obtain ⟨c', hc', hown'⟩ := howner t' ht' id hid'
    have hsame : c' = c := List.singleton_inj.1 (hc'.symm.trans hc)
    rw [hsame] at hown'
    exact List.inj_on_of_nodup_map hsound.distinct ht' ht (hown'.symm.trans hown)

/-- The usual client gives up before a channel of the usual gateway is over. -/
example : TunnelConfig.usual.Outlasted GatewayConfig.usual.channelTimeout := by decide

/-! ## A number that is given out twice -/

/-- A gateway whose channels do not last long. -/
def hastyGateway : Gateway :=
  { tunnellingGateway with config := { tunnellingGateway.config with channelTimeout := 8 } }

theorem bind_hastyGateway :
    Gateway.bind hastyGateway.host [] hastyGateway.config = .ok hastyGateway := rfl

/-- Where two clients are. -/
def places : Endpoint × Endpoint := (⟨⟨10, 0, 0, 2⟩, 50000⟩, ⟨⟨10, 0, 0, 3⟩, 50000⟩)

/-- A client that gives up in time. -/
def joining (ip : Ipv4) : Move :=
  .join ⟨ip, [], []⟩ [] ⟨⟨10, 0, 0, 1⟩, 3671⟩
    { TunnelConfig.usual with
      heartbeatInterval := 3
      heartbeatTimeout := 2
      heartbeatFailures := 2 }

/-- A client is connected.  All its heartbeats are lost, and so is the message by which it gives its
channel up.  The channel ends, and its number goes to a second client. -/
def changeOfHands : List Move :=
  [joining places.1.ip, .client places.1 .timers [true], .gateway .look [true],
    .client places.1 .look [], .tick, .tick, .tick, .client places.1 .timers [], .tick, .tick,
    .client places.1 .timers [], .tick, .tick, .client places.1 .timers [false], .tick,
    joining places.2.ip, .gateway .expire [], .client places.2 .timers [true],
    .gateway .look [true], .client places.2 .look []]

theorem channels_are_owned_changeOfHands :
    let n := (start 0 (hastyGateway.registered [1, 2, 3])).run changeOfHands
    n.clients.map (fun t => (t.own, t.channel?)) = [(places.1, none), (places.2, some 1)] ∧
      n.gateway.channels.map (fun c => (c.id, c.control)) = [(1, places.2)] ∧
      n.log = [.joined places.1, .opened 1 places.1, .connected places.1 1, .joined places.2,
        .ended 1, .opened 1 places.2, .connected places.2 1] ∧
      ∃ t ∈ n.clients, t.channel? = some 1 ∧ ChannelEvent.ConnectedLast t.own 1 n.log := by
  intro n
  have hclients : n.clients.map (fun t => (t.own, t.channel?)) =
      [(places.1, none), (places.2, some 1)] := by decide +kernel
  refine ⟨hclients, by decide +kernel, by decide +kernel, ?_⟩
  have hmem : (places.2, some 1) ∈ n.clients.map fun t => (t.own, t.channel?) := by
    rw [hclients]
    exact List.mem_cons_of_mem _ List.mem_cons_self
  obtain ⟨t, ht, heq⟩ := List.mem_map.1 hmem
  have hchannel : t.channel? = some 1 := congrArg Prod.snd heq
  have howned := (channels_are_owned bind_hastyGateway [1, 2, 3] 0 changeOfHands t ht).2 1 hchannel
  exact ⟨t, ht, hchannel, howned.2.1⟩

end Neighbourhood
end KnxBus
