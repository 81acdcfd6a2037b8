import KnxBus.Proofs.Tunnel.Neighbourhood

/-!
# What entitles a client to a channel

Claims of clients and messages that close a channel are counted together.  For each number there are
no more of them than there are channels with this number, that is one at most
(`Tunnel.Entitled.counted`).  What a client does cannot add to them (`Tunnel.Stay.claims_le`), and
the gateway adds a claim only where it opens a channel.

It remains that a channel does not end as long as there is a claim (`Tunnel.Tenant.alive`), and this
is a matter of time.  A grant and an affirmation come with the whole time of the channel, and are
looked at in the same instant.  From then on the client gives up before this time is over
(`Tunnel.Believes.lasting`).

Here the gateway is taken by itself (`Gateway.Guarded`), and one client beside it (`Tunnel.Tenant`).
-/

namespace KnxBus

/-! ## The gateway by itself -/

namespace Gateway
open GatewayChannel

section
variable {id : UInt8} {g g' : Gateway}

/-- How many messages wait that close a channel. -/
def closings (id : UInt8) (g : Gateway) : Nat :=
  Packet.closingsAmong id (g.received.map (·.packet))

/-- A message that closes a channel waits only if there is such a channel and it is not over, and no
channel has more than its whole time before it. -/
structure Guarded (now : Nat) (g : Gateway) (id : UInt8) : Prop where
  /-- There is one channel with the number at most. -/
  one : AtMostOne (g.held id)
  /-- Each such message has a channel of its own. -/
  counted : g.closings id ≤ (g.held id).length
  /-- The channel is not over. -/
  live : 0 < g.closings id → ∀ c ∈ g.held id, now < c.expires
  /-- Before it is its whole time at most. -/
  bounded : ∀ c ∈ g.held id, c.expires ≤ g.wholeTime now

variable {now : Nat} {looked : Option Packet} {sent : List Outgoing}

theorem guarded_of_none (hnone : g.held id = []) (hquiet : g.closings id = 0) : g.Guarded now id :=
  ⟨Or.inl hnone, hquiet ▸ Nat.zero_le _, fun hpos => absurd hpos (hquiet ▸ Nat.lt_irrefl 0),
    fun _ hc => absurd (hnone ▸ hc) List.not_mem_nil⟩

theorem guarded_of_one {c : GatewayChannel} (hone : g.held id = [c]) (hcounted : g.closings id ≤ 1)
    (hlive : 0 < g.closings id → now < c.expires) (hbounded : c.expires ≤ g.wholeTime now) :
    g.Guarded now id := by
  have heq : ∀ d ∈ g.held id, d = c := fun d hd => List.mem_singleton.1 (hone ▸ hd)
  refine ⟨Or.inr ⟨c, hone⟩, by rw [hone]; exact hcounted, fun hpos d hd => ?_, fun d hd => ?_⟩
  · rw [heq d hd]
    exact hlive hpos
  · rw [heq d hd]
    exact hbounded

/-- What the gateway has looked at no longer waits. -/
theorem closings_of_rest
    (hrest : looked.toList ++ g'.received.map (·.packet) = g.received.map (·.packet)) (id : UInt8) :
    Packet.closingsAmong id looked.toList + g'.closings id = g.closings id := by
  rw [closings, closings, ← hrest, Packet.closingsAmong_append]

theorem Guarded.gateway (h : g.Guarded now id) (hcustody : Custody id now looked g g' sent)
    (hrest : looked.toList ++ g'.received.map (·.packet) = g.received.map (·.packet))
    (hconfig : g'.config = g.config) : g'.Guarded now id := by
  have hwhole := wholeTime_of_config hconfig now
  have hsum := closings_of_rest hrest id
  have hcounted := h.counted
  cases hcustody with
  | absent before after =>
    rw [before, List.length_nil] at hcounted
    exact guarded_of_none after (by omega)
  | kept c c' before after _ expires_eq =>
    have hmem : c ∈ g.held id := before ▸ List.mem_singleton_self c
    have hbounded := h.bounded c hmem
    rw [before, List.length_singleton] at hcounted
    refine guarded_of_one after (by omega) (fun hpos => ?_) (by omega)
    have hlive := h.live (by omega) c hmem
    omega
  | opened _ before after expires_eq =>
    rw [before, List.length_nil] at hcounted
    exact guarded_of_one after (by omega) (fun hpos => by omega) (by omega)
  | closed c p before after looked_eq closes =>
    rw [looked_eq, Option.toList_some, Packet.closingsAmong_singleton closes] at hsum
    rw [before, List.length_singleton] at hcounted
    exact guarded_of_none after (by omega)
  | expired c before after passed =>
    refine guarded_of_none after (Nat.eq_zero_of_not_pos fun hpos => ?_)
    have hlive := h.live (by omega) c (before ▸ List.mem_singleton_self c)
    omega

/-- Time passes when nothing waits. -/
theorem Guarded.succ (h : g.Guarded now id) (hreceived : g.received = []) :
    g.Guarded (now + 1) id := by
  refine ⟨h.one, h.counted, fun hpos => ?_, fun c hc => ?_⟩
  · rw [closings, hreceived] at hpos
    exact absurd hpos (Nat.lt_irrefl 0)
  · have hbounded := h.bounded c hc
    rw [wholeTime] at hbounded ⊢
    omega

end
end Gateway

/-! ## A client by itself -/

namespace Tunnel
open ChannelEvent

/-- A client is entitled to what it lays claim to. -/
structure Entitled (now : Nat) (g : Gateway) (log : List ChannelEvent) (t : Tunnel) (id : UInt8) :
    Prop where
  /-- Claims and messages that close the channel are no more than there are channels. -/
  counted : t.claims id + g.closings id ≤ (g.held id).length
  /-- The channel belongs to the client. -/
  owned : 0 < t.claims id → ∀ c ∈ g.held id, c.control = t.own
  /-- While a grant or an affirmation waits, the channel has its whole time before it. -/
  told : (∃ p ∈ t.received.map (·.packet), p.Grants id ∨ p.Affirms id) →
    ∀ c ∈ g.held id, g.wholeTime now ≤ c.expires
  /-- While a grant waits, nothing has happened since the channel was opened. -/
  granted : (∃ p ∈ t.received.map (·.packet), p.Grants id) → OpenedLast t.own id log

/-- A client may well believe in its session. -/
structure Believes (now : Nat) (g : Gateway) (log : List ChannelEvent) (t : Tunnel)
    (s : TunnelSession) : Prop where
  /-- The timers of the session are in order. -/
  timed : s.Timed t.config now
  /-- The client gives the session up before the channel is over. -/
  lasting : ∀ c ∈ g.held s.channel, s.lastsUntil t.config now < c.expires
  /-- It has got the channel as the log says. -/
  connected : ConnectedLast t.own s.channel log

/-- A client that is right in what it believes. -/
structure Tenant (now : Nat) (g : Gateway) (log : List ChannelEvent) (t : Tunnel) : Prop where
  /-- It gives up before a channel is over. -/
  outlasted : t.config.Outlasted g.config.channelTimeout
  /-- What it repeats is a request, which closes nothing. -/
  requesting : t.Requesting
  /-- It shows the channel of its session. -/
  shown : t.channel? = t.session?.map (·.channel)
  /-- It is entitled to all that it lays claim to. -/
  entitled : ∀ id, t.Entitled now g log id
  /-- It may believe in its session. -/
  believes : ∀ s, t.session? = some s → t.Believes now g log s

section
variable {id : UInt8} {now : Nat} {g g' : Gateway} {log more : List ChannelEvent}
  {s : TunnelSession} {t t' t₂ : Tunnel} {looked : Option Packet} {sent : List Outgoing}
  {extra : List Received}

theorem claims_hear (packets : List Received) (t : Tunnel) (id : UInt8) :
    (t.hear packets).claims id = t.claims id +
      Packet.grantsAmong id (packets.map (·.packet)) := by
  have hsession : (t.hear packets).session? = t.session? := rfl
  rw [claims, claims, hsession, waiting_hear, Packet.grantsAmong_append]
  omega

theorem Entitled.one_of_claim (h : t.Entitled now g log id) (hg : g.Guarded now id)
    (hclaim : 0 < t.claims id) : ∃ c, g.held id = [c] ∧ g.closings id = 0 := by
  have hcounted := h.counted
  obtain hnone | ⟨c, hc⟩ := hg.one
  · rw [hnone, List.length_nil] at hcounted
    omega
  · rw [hc, List.length_singleton] at hcounted
    exact ⟨c, hc, by omega⟩

/-- **A channel does not end while a client lays claim to it.** -/
theorem Tenant.alive (h : t.Tenant now g log) (hclaim : 0 < t.claims id) :
    ∀ c ∈ g.held id, now < c.expires := by
  intro c hc
  obtain ⟨p, hp, hgrants⟩ | ⟨s, hs, rfl⟩ := of_claims_pos hclaim
  · have htold := (h.entitled id).told ⟨p, hp, Or.inl hgrants⟩ c hc
    have hlasts := h.outlasted.lasts
    rw [Gateway.wholeTime] at htold
    omega
  · have hlasting := (h.believes s hs).lasting c hc
    have hle := s.le_lastsUntil t.config now
    omega

theorem entitled_of_none (hclaims : t.claims id = 0) (hquiet : g.closings id = 0)
    (hnone : g.held id = []) : t.Entitled now g log id := by
  refine ⟨by omega, fun hpos => by omega, fun _ c hc => ?_, fun ⟨p, hp, hgrants⟩ => ?_⟩
  · exact absurd (hnone ▸ hc) List.not_mem_nil
  · have hpos := claims_pos_of_grant hp hgrants
    omega

/-! ### When the gateway does something -/

theorem Hears.not_grants (h : t.Hears sent extra) (hplain : Gateway.Plain id sent) :
    ∀ p ∈ extra.map (·.packet), ¬ p.Grants id := by
  intro p hp
  obtain ⟨o, ho, rfl⟩ := h.exists_sent hp
  exact (hplain o ho).2

theorem Hears.claims (h : t.Hears sent extra) (hplain : Gateway.Plain id sent) :
    (t.hear extra).claims id = t.claims id := by
  rw [claims_hear, Packet.grantsAmong_eq_zero_iff.2 (h.not_grants hplain), Nat.add_zero]

/-- A channel with a claim goes on. -/
theorem Tenant.kept (h : t.Tenant now g log) (hg : g.Guarded now id)
    (hcustody : Gateway.Custody id now looked g g' sent)
    (hrest : looked.toList ++ g'.received.map (·.packet) = g.received.map (·.packet))
    (hclaim : 0 < t.claims id) :
    ∃ c c', g.held id = [c] ∧ g'.held id = [c'] ∧
      (c'.expires = c.expires ∨ c'.expires = g.wholeTime now) := by
  obtain ⟨d, hd, hquiet⟩ := (h.entitled id).one_of_claim hg hclaim
  have hsum := Gateway.closings_of_rest hrest id
  cases hcustody with
  | absent before => rw [before] at hd; cases hd
  | kept c c' before after _ expires_eq => exact ⟨c, c', before, after, expires_eq⟩
  | opened _ before => rw [before] at hd; cases hd
  | closed c p before after looked_eq closes =>
    -- the message that closes it would be counted beside the claim
    rw [looked_eq, Option.toList_some, Packet.closingsAmong_singleton closes] at hsum
    omega
  | expired c before after passed =>
    have halive := h.alive hclaim c (before ▸ List.mem_singleton_self c)
    omega

theorem Tenant.entitled_kept (h : t.Tenant now g log) {c c' : GatewayChannel}
    (hbefore : g.held id = [c]) (hafter : g'.held id = [c']) (hcontrol : c'.control = c.control)
    (hexpires : c'.expires = c.expires ∨ c'.expires = g.wholeTime now)
    (haffirmed : Gateway.Affirming id sent → c'.expires = g.wholeTime now)
    (hplain : Gateway.Plain id sent) (hclosings : g'.closings id ≤ g.closings id)
    (hwhole : g'.wholeTime now = g.wholeTime now) (hhears : t.Hears sent extra) :
    (t.hear extra).Entitled now g' (log ++ g.entries g') id := by
  have hentitled := h.entitled id
  have hcounted := hentitled.counted
  have hmem : c ∈ g.held id := hbefore ▸ List.mem_singleton_self c
  have heq : ∀ d ∈ g'.held id, d = c' := fun d hd => List.mem_singleton.1 (hafter ▸ hd)
  rw [hbefore, List.length_singleton] at hcounted
  refine ⟨?_, fun hpos d hd => ?_, ?_, ?_⟩
  · rw [hhears.claims hplain, hafter, List.length_singleton]
    omega
  · rw [hhears.claims hplain] at hpos
    rw [heq d hd, hcontrol]
    exact hentitled.owned hpos c hmem
  · rintro ⟨p, hp, htells⟩ d hd
    rw [heq d hd, hwhole]
    rw [waiting_hear] at hp
    obtain hp | hp := List.mem_append.1 hp
    · have htold := hentitled.told ⟨p, hp, htells⟩ c hmem
      omega
    · obtain ⟨o, ho, rfl⟩ := hhears.exists_sent hp
      obtain hgrants | haffirms := htells
      · exact absurd hgrants (hplain o ho).2
      · exact Nat.le_of_eq (haffirmed ⟨o, ho, haffirms⟩).symm
  · rintro ⟨p, hp, hgrants⟩
    rw [waiting_hear] at hp
    obtain hp | hp := List.mem_append.1 hp
    · have hopened := hentitled.granted ⟨p, hp, hgrants⟩
      exact hopened.append fun e he => (Gateway.not_about_of_entries hbefore hafter e he).1
    · exact absurd hgrants (hhears.not_grants hplain p hp)

theorem Tenant.entitled_opened (h : t.Tenant now g log) {c : GatewayChannel}
    (hbefore : g.held id = []) (hafter : g'.held id = [c])
    (hexpires : c.expires = g.wholeTime now) (hchannels : g'.channels = g.channels ++ [c])
    (htold : sent = [] ∨ ∃ p : Packet, p.IsCanonical ∧ sent = [⟨p, c.control⟩])
    (hclosings : g'.closings id ≤ g.closings id) (hwhole : g'.wholeTime now = g.wholeTime now)
    (hhears : t.Hears sent extra) : (t.hear extra).Entitled now g' (log ++ g.entries g') id := by
  have hcounted := (h.entitled id).counted
  have heq : ∀ d ∈ g'.held id, d = c := fun d hd => List.mem_singleton.1 (hafter ▸ hd)
  have hid : c.id = id := Gateway.id_of_held (hafter ▸ List.mem_singleton_self c)
  rw [hbefore, List.length_nil] at hcounted
  have hclaims : (t.hear extra).claims id = Packet.grantsAmong id (extra.map (·.packet)) := by
    rw [claims_hear]
    omega
  have hnew := hhears.of_told htold
  have howner : 0 < (t.hear extra).claims id → c.control = t.own := by
    intro hpos
    rw [hclaims] at hpos
    obtain hnone | ⟨hown, -⟩ := hnew
    · rw [hnone] at hpos
      exact absurd hpos (Nat.lt_irrefl 0)
    · exact hown
  refine ⟨?_, fun hpos d hd => (heq d hd).symm ▸ howner hpos, fun _ d hd => ?_, ?_⟩
  · have hone : Packet.grantsAmong id (extra.map (·.packet)) ≤ 1 := by
      obtain hnone | ⟨-, p, hp⟩ := hnew
      · rw [hnone]
        exact Nat.zero_le _
      · rw [hp]
        exact List.countP_le_length
    rw [hclaims, hafter, List.length_singleton]
    omega
  · rw [heq d hd]
    exact Nat.le_of_eq (hwhole.trans hexpires.symm)
  · rintro ⟨p, hp, hgrants⟩
    have hown := howner (claims_pos_of_grant hp hgrants)
    rw [Gateway.entries_of_opened hid hbefore hchannels, hown]
    exact ⟨log, [], rfl, fun e he => absurd he List.not_mem_nil⟩

theorem Tenant.entitled_gateway (h : t.Tenant now g log) (hg : g.Guarded now id)
    (hcustody : Gateway.Custody id now looked g g' sent)
    (hrest : looked.toList ++ g'.received.map (·.packet) = g.received.map (·.packet))
    (hconfig : g'.config = g.config) (hhears : t.Hears sent extra) :
    (t.hear extra).Entitled now g' (log ++ g.entries g') id := by
  have hwhole := Gateway.wholeTime_of_config hconfig now
  have hsum := Gateway.closings_of_rest hrest id
  have hcounted := (h.entitled id).counted
  cases hcustody with
  | absent before after plain =>
    rw [before, List.length_nil] at hcounted
    exact entitled_of_none ((hhears.claims plain).trans (by omega)) (by omega) after
  | kept c c' before after control_eq expires_eq affirmed plain =>
    exact h.entitled_kept before after control_eq expires_eq affirmed plain (by omega) hwhole hhears
  | opened c before after expires_eq channels_eq told =>
    exact h.entitled_opened before after expires_eq channels_eq told (by omega) hwhole hhears
  | closed c p before after looked_eq closes plain =>
    rw [looked_eq, Option.toList_some, Packet.closingsAmong_singleton closes] at hsum
    rw [before, List.length_singleton] at hcounted
    exact entitled_of_none ((hhears.claims plain).trans (by omega)) (by omega) after
  | expired c before after passed plain =>
    have hmem : c ∈ g.held id := before ▸ List.mem_singleton_self c
    have hclaims : t.claims id = 0 := Nat.eq_zero_of_not_pos fun hpos => by
      have halive := h.alive hpos c hmem
      omega
    have hquiet : g.closings id = 0 := Nat.eq_zero_of_not_pos fun hpos => by
      have hlive := hg.live hpos c hmem
      omega
    exact entitled_of_none ((hhears.claims plain).trans hclaims) (by omega) after

/-- The gateway does something: the client stays right in what it believes. -/
theorem Tenant.gateway (h : t.Tenant now g log) (hg : ∀ id, g.Guarded now id)
    (hcustody : ∀ id, Gateway.Custody id now looked g g' sent)
    (hrest : looked.toList ++ g'.received.map (·.packet) = g.received.map (·.packet))
    (hconfig : g'.config = g.config) (hhears : t.Hears sent extra) :
    (t.hear extra).Tenant now g' (log ++ g.entries g') := by
  refine ⟨by rw [hconfig]; exact h.outlasted, h.requesting, h.shown, fun id =>
    h.entitled_gateway (hg id) (hcustody id) hrest hconfig hhears, fun s hs => ?_⟩
  have hbelieves := h.believes s hs
  obtain ⟨c, c', hbefore, hafter, hexpires⟩ :=
    h.kept (hg s.channel) (hcustody s.channel) hrest (claims_pos_of_session hs)
  have hmem : c ∈ g.held s.channel := hbefore ▸ List.mem_singleton_self c
  refine ⟨hbelieves.timed, fun d hd => ?_, hbelieves.connected.append
    (Gateway.not_about_of_entries hbefore hafter)⟩
  have hlasting := hbelieves.lasting c hmem
  have hbounded := (hg s.channel).bounded c hmem
  have heq : d = c' := List.mem_singleton.1 (hafter ▸ hd)
  rw [heq]
  show s.lastsUntil t.config now < c'.expires
  omega

/-! ### When a client does something -/

theorem closings_hear (packets : List Received) (g : Gateway) (id : UInt8) :
    (g.hear packets).closings id =
      g.closings id + Packet.closingsAmong id (packets.map (·.packet)) := by
  rw [Gateway.closings, Gateway.closings, Gateway.waiting_hear, Packet.closingsAmong_append]

/-- The gateway hears of a client no more than it has a claim to give up. -/
theorem Tenant.guarded_hear (h : t.Tenant now g log) (hg : g.Guarded now id)
    (hextra : Packet.closingsAmong id (extra.map (·.packet)) ≤ t.claims id) :
    (g.hear extra).Guarded now id := by
  have hcounted := (h.entitled id).counted
  have hheld : (g.hear extra).held id = g.held id := rfl
  refine ⟨hg.one, ?_, fun hpos c hc => ?_, hg.bounded⟩
  · rw [closings_hear, hheld]
    omega
  · rw [closings_hear] at hpos
    by_cases hquiet : 0 < g.closings id
    · exact hg.live hquiet c hc
    · exact h.alive (by omega) c hc

/-- A grant and an affirmation give a client the time that it needs. -/
theorem Tenant.lasting_of_told (h : t.Tenant now g log) {p : Packet}
    (hp : p ∈ t.received.map (·.packet)) (htells : p.Grants s.channel ∨ p.Affirms s.channel)
    (hquiet : s.heartbeatDeadline = none)
    (hsoon : s.heartbeatAt ≤ now + t.config.heartbeatInterval) :
    ∀ c ∈ g.held s.channel, s.lastsUntil t.config now < c.expires := by
  intro c hc
  have htold := (h.entitled s.channel).told ⟨p, hp, htells⟩ c hc
  have hlasts := h.outlasted.lasts
  have hbound := TunnelSession.lastsUntil_of_none hquiet hsoon
  rw [Gateway.wholeTime] at htold
  omega

theorem Stay.believes (hstay : Stay now looked t t' sent) (h : t.Tenant now g log)
    (hrest : looked.toList ++ t'.received.map (·.packet) = t.received.map (·.packet))
    (hconfig : t'.config = t.config) (hown : t'.own = t.own) (hs : t'.session? = some s) :
    t'.Believes now g (log ++ t.entries t') s := by
  have hlooked : ∀ p, looked = some p → p ∈ t.received.map (·.packet) := by
    rintro p rfl
    rw [← hrest]
    exact List.mem_cons_self
  cases hstay with
  | away _ after => rw [after] at hs; cases hs
  | left _ _ after => rw [after] at hs; cases hs
  | granted s' p before after looked_eq grants heartbeatAt_eq heartbeatDeadline_eq failures_eq =>
    rw [after] at hs
    cases hs
    have hsoon : s.heartbeatAt ≤ now + t.config.heartbeatInterval := Nat.le_of_eq heartbeatAt_eq
    have hp := hlooked p looked_eq
    have hentries : t.entries t' = [.connected t.own s.channel] := by rw [entries, before, after]
    refine ⟨⟨hconfig ▸ hsoon, fun _ => failures_eq⟩, ?_, ?_⟩
    · rw [hconfig]
      exact h.lasting_of_told hp (Or.inl grants) heartbeatDeadline_eq hsoon
    · rw [hentries, hown]
      exact ⟨log, [], rfl, (h.entitled s.channel).granted ⟨p, hp, grants⟩,
        fun e he => absurd he List.not_mem_nil⟩
  | same s₀ s' before after same =>
    rw [after] at hs
    cases hs
    have hbelieves := h.believes s₀ before
    refine ⟨hconfig ▸ same.timed hbelieves.timed, ?_, ?_⟩
    · rw [hconfig, same.channel_eq, same.lastsUntil_eq]
      exact hbelieves.lasting
    · rw [entries_of_session before, List.append_nil, hown, same.channel_eq]
      exact hbelieves.connected
  | affirmed s₀ p before after looked_eq affirms =>
    rw [after] at hs
    cases hs
    have hbelieves := h.believes s₀ before
    have hsoon := hbelieves.timed.soon
    refine ⟨⟨hconfig ▸ hsoon, fun _ => rfl⟩, ?_, ?_⟩
    · rw [hconfig]
      exact h.lasting_of_told (hlooked p looked_eq) (Or.inr affirms) rfl hsoon
    · rw [entries_of_session before, List.append_nil, hown]
      exact hbelieves.connected
  | beaten s₀ s' before after due beat =>
    rw [after] at hs
    cases hs
    have hbelieves := h.believes s₀ before
    have hchannel : s.channel = s₀.channel := beat.channel_eq
    refine ⟨hconfig ▸ beat.timed (TunnelSession.timed_beaten now), fun c hc => ?_, ?_⟩
    · rw [hchannel] at hc
      rw [hconfig, beat.lastsUntil_eq]
      have hle := TunnelSession.lastsUntil_beaten h.outlasted.gives_up hbelieves.timed due
      exact Nat.lt_of_le_of_lt hle (hbelieves.lasting c hc)
    · rw [entries_of_session before, List.append_nil, hown, hchannel]
      exact hbelieves.connected

theorem Stay.shown (hstay : Stay now looked t t' sent)
    (h : t.channel? = t.session?.map (·.channel)) : t'.channel? = t'.session?.map (·.channel) := by
  cases hstay with
  | away before after shown => rw [shown, h, before, after]
  | granted s' p before after _ _ _ _ _ shown => rw [shown, after]; rfl
  | same s s' before after same shown =>
    rw [shown, h, before, after, Option.map_some, Option.map_some, same.channel_eq]
  | affirmed s p before after _ _ shown => rw [shown, h, before, after]; rfl
  | beaten s s' before after _ beat shown =>
    have hchannel : s'.channel = s.channel := beat.channel_eq
    rw [shown, h, before, after, Option.map_some, Option.map_some, hchannel]
  | left s before after shown => rw [shown, after]; rfl

/-- The client does something, and the gateway hears of it, or not. -/
theorem Tenant.client (h : t.Tenant now g log) (hstay : Stay now looked t t' sent)
    (hrest : looked.toList ++ t'.received.map (·.packet) = t.received.map (·.packet))
    (hconfig : t'.config = t.config) (hown : t'.own = t.own) (hrequesting : t'.Requesting)
    (hextra : (extra.map (·.packet)).Sublist (sent.map (·.packet))) :
    t'.Tenant now (g.hear extra) (log ++ t.entries t') := by
  have hwaiting : ∀ p ∈ t'.received.map (·.packet), p ∈ t.received.map (·.packet) := by
    intro p hp
    rw [← hrest]
    exact List.mem_append_right _ hp
  refine ⟨hconfig ▸ h.outlasted, hrequesting, hstay.shown h.shown, fun id => ?_, fun s hs => ?_⟩
  · have hentitled := h.entitled id
    have hcounted := hentitled.counted
    have hclaims := hstay.claims_le hrest id
    have hclosings : Packet.closingsAmong id (extra.map (·.packet)) ≤
        Packet.closingsAmong id (sent.map (·.packet)) := hextra.countP_le
    have hheld : (g.hear extra).held id = g.held id := rfl
    refine ⟨?_, fun hpos c hc => ?_, ?_, ?_⟩
    · rw [closings_hear, hheld]
      omega
    · rw [hown]
      exact hentitled.owned (by omega) c hc
    · rintro ⟨p, hp, htells⟩ c hc
      exact hentitled.told ⟨p, hwaiting p hp, htells⟩ c hc
    · rintro ⟨p, hp, hgrants⟩
      rw [hown]
      exact (hentitled.granted ⟨p, hwaiting p hp, hgrants⟩).append fun e he =>
        (not_about_of_entries e he).1 id
  · have hbelieves := hstay.believes h hrest hconfig hown hs
    exact ⟨hbelieves.timed, hbelieves.lasting, hbelieves.connected⟩

/-- Others do things that are not about this client. -/
theorem Tenant.append (h : t.Tenant now g log)
    (hmore : ∀ id, ∀ e ∈ more, ¬ e.IsAbout t.own id ∧ ¬ e.IsConnect t.own) :
    t.Tenant now g (log ++ more) := by
  refine ⟨h.outlasted, h.requesting, h.shown, fun id => ?_, fun s hs => ?_⟩
  · have hentitled := h.entitled id
    refine ⟨hentitled.counted, hentitled.owned, hentitled.told, fun hwaits => ?_⟩
    exact (hentitled.granted hwaits).append fun e he => (hmore id e he).1
  · have hbelieves := h.believes s hs
    exact ⟨hbelieves.timed, hbelieves.lasting, hbelieves.connected.append (hmore s.channel)⟩

/-- Another client gives up channels that it has a claim to, and they are none of this one. -/
theorem Tenant.beside (h₂ : t₂.Tenant now g log) (h : t.Tenant now g log)
    (hg : ∀ id, g.Guarded now id) (hne : t.own ≠ t₂.own)
    (hextra : ∀ id, Packet.closingsAmong id (extra.map (·.packet)) ≤ t.claims id) :
    t₂.Tenant now (g.hear extra) log := by
  refine ⟨h₂.outlasted, h₂.requesting, h₂.shown, fun id => ?_, fun s hs => ?_⟩
  · have hentitled := h₂.entitled id
    refine ⟨?_, hentitled.owned, hentitled.told, hentitled.granted⟩
    have hcounted := (h.entitled id).counted
    have hcounted₂ := hentitled.counted
    have hclosings := hextra id
    have hheld : (g.hear extra).held id = g.held id := rfl
    rw [closings_hear, hheld]
    by_cases hclaim : 0 < t.claims id
    · -- a channel is that of one client, so the other one has no claim to it
      have hnone : t₂.claims id = 0 := Nat.eq_zero_of_not_pos fun hclaim₂ => by
        obtain ⟨c, hc, -⟩ := (h.entitled id).one_of_claim (hg id) hclaim
        have hmem : c ∈ g.held id := hc ▸ List.mem_singleton_self c
        exact hne (((h.entitled id).owned hclaim c hmem).symm.trans
          (hentitled.owned hclaim₂ c hmem))
      omega
    · omega
  · have hbelieves := h₂.believes s hs
    exact ⟨hbelieves.timed, hbelieves.lasting, hbelieves.connected⟩

/-- Time passes while the client is calm. -/
theorem Tenant.succ (h : t.Tenant now g log) (hcalm : t.IsCalm now) :
    t.Tenant (now + 1) g log := by
  have hnothing : ∀ p, p ∉ t.received.map (·.packet) := by
    rw [hcalm.1]
    exact fun _ => List.not_mem_nil
  refine ⟨h.outlasted, h.requesting, h.shown, fun id => ?_, fun s hs => ?_⟩
  · have hentitled := h.entitled id
    exact ⟨hentitled.counted, hentitled.owned, fun ⟨p, hp, _⟩ => absurd hp (hnothing p),
      hentitled.granted⟩
  · have hbelieves := h.believes s hs
    refine ⟨hbelieves.timed.succ, fun c hc => ?_, hbelieves.connected⟩
    rw [TunnelSession.lastsUntil_succ (hcalm.2 s hs)]
    exact hbelieves.lasting c hc

/-- A client that comes believes nothing. -/
theorem tenant_of_connect {host : Host} {inUse : List UInt16} {target : Endpoint}
    {config : TunnelConfig} (hconnect : connect host inUse target config now = .ok t)
    (houtlasted : config.Outlasted g.config.channelTimeout) (hg : ∀ id, g.Guarded now id)
    (log : List ChannelEvent) : t.Tenant now g log := by
  obtain ⟨own, rfl⟩ := eq_fresh_of_connect hconnect
  refine ⟨houtlasted, fun s hs => ?_, rfl, fun id => ?_, fun s hs => ?_⟩
  · cases hs
  · have hcounted := (hg id).counted
    have hnone : (fresh own target config now).claims id = 0 := rfl
    exact ⟨by omega, fun hpos => by omega, fun ⟨p, hp, _⟩ => absurd hp List.not_mem_nil,
      fun ⟨p, hp, _⟩ => absurd hp List.not_mem_nil⟩
  · cases hs

end
end Tunnel

end KnxBus
