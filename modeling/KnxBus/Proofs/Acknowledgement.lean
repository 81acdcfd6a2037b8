import KnxBus.Proofs.Connection.Effects
import KnxBus.Proofs.Gateway.Chronicle

/-!
# What is acknowledged was accepted

A connection and a channel of a gateway both acknowledge what they accept, and acknowledge once more
what bears the number before the one that they expect.  The second rule is for a sender whose
acknowledgement was lost: what bears that number is what was accepted last.

There is no last one at the beginning.  The number before the first is the greatest there is, and
what bears it is acknowledged although nothing has been accepted.  A channel also forgets how it has
answered: a request that it could not understand is refused the first time and acknowledged as good
the second time.  `acknowledged_was_accepted` says that there is nothing else, whatever comes in.
-/

namespace KnxBus

/-! ## Connections -/

namespace Chronicle

variable {r : Chronicle}

/-- A unit that was accepted was delivered. -/
theorem mem_pushed (h : r.Sound) {s : UInt8} {apdu : Octets} (hmem : (s, apdu) ∈ r.accepted) :
    apdu ∈ r.pushed := by
  rw [h.pushed_eq]
  exact List.mem_map_of_mem hmem

/-- Every number up to the expected one was borne by a unit that was accepted. -/
theorem exists_accepted (h : r.Sound) {i : Nat} (hi : i < r.accepted.length) :
    ∃ apdu, (fourBitNo i, apdu) ∈ r.accepted := by
  have hnumber : (r.accepted.map Prod.fst)[i]? = some (fourBitNo i) := by
    rw [h.numbers_eq, List.getElem?_map, List.getElem?_range hi]
    rfl
  obtain ⟨⟨s, apdu⟩, hx, rfl⟩ := List.mem_map.1 (List.mem_of_getElem? hnumber)
  exact ⟨apdu, hx⟩

/-- What a connection acknowledges it has accepted, or nothing has been accepted at all. -/
theorem accepted_of_ack (h : r.Sound) (e : Event) {s : UInt8} (hs : s ∈ acksOf (r.step e).2) :
    (∃ apdu, (s, apdu) ∈ (r.step e).1.accepted) ∨ (s = 15 ∧ (r.step e).1.accepted = []) := by
  cases e with
  | hear f => exact absurd hs List.not_mem_nil
  | act a =>
    have hstep : r.step (.act a) = r.act a := rfl
    rw [hstep] at hs ⊢
    cases (act_effect h a).2 with
    | quiet queued acked accepted incoming data acks =>
      rw [acks] at hs
      exact absurd hs List.not_mem_nil
    | sends apdu queued acked accepted incoming carried data acks =>
      rw [acks] at hs
      exact absurd hs List.not_mem_nil
    | takes f later apdu queued acked front numbered accepted incoming data acks =>
      rw [accepted, List.mem_singleton.1 (acks.subset hs)]
      exact Or.inl ⟨apdu, List.mem_append_right _ (List.mem_singleton_self _)⟩
    | repeats f later apdu queued acked accepted front numbered incoming data acks =>
      rw [accepted, List.mem_singleton.1 (acks.subset hs)]
      cases hlength : r.accepted.length with
      | zero => exact Or.inr ⟨by decide, List.length_eq_zero_iff.1 hlength⟩
      | succ i =>
        rw [previousNo_fourBitNo_succ]
        exact Or.inl (exists_accepted h (by omega))
    | acknowledged f later queued acked accepted front confirms incoming data acks =>
      rw [acks] at hs
      exact absurd hs List.not_mem_nil

end Chronicle

/-! ## Channels -/

/-- The message that a request carries can be understood. -/
def TunnelRequest.IsReadable (q : TunnelRequest) : Prop := ∃ m, Cemi.decode q.message = .ok m

namespace Gateway

variable {id : UInt8} {g : Gateway}

theorem ackOn?_of_ofPacket {p : Packet} {a : TunnelAck} (ha : TunnelAck.ofPacket p = .ok a) :
    p.ackOn? a.channel = some a.sequence := by
  rw [Packet.ackOn?, ha]
  exact if_pos rfl

/-- A gateway acknowledges nothing but the request that it looks at. -/
theorem source_of_ack (hone : GatewayChannel.AtMostOne (g.held id)) (a : Act) {o : Outgoing}
    (ho : o ∈ datagramsOf (g.perform a).2) {s status : UInt8}
    (hack : TunnelAck.ofPacket o.packet = .ok ⟨id, s, status⟩) :
    ∃ now p later q c, a = .look now ∧ g.received = p :: later ∧
      TunnelRequest.ofPacket p.packet = .ok q ∧ q.channel = id ∧ g.held id = [c] ∧
      (g.perform a).1.held id = [(c.onRequest now g.config.channelTimeout q).channel] ∧
      forwardsOf (g.perform a).2 = (c.onRequest now g.config.channelTimeout q).frames ∧
      o ∈ (c.onRequest now g.config.channelTimeout q).acks := by
  have hsome : o.packet.ackOn? id = some s := ackOn?_of_ofPacket hack
  have hloud : ¬ o.IsSilentOn id := by
    intro hsilent
    rw [hsilent.ack_none] at hsome
    cases hsome
  obtain ⟨now, p, later, rfl, hfront, hperform⟩ | ⟨now, rfl⟩ | ⟨-, -, -, out, hout, hasides⟩ :=
    perform_cases hone a
  · rw [hperform] at ho ⊢
    obtain ⟨q, c, hq, hid, hc, hc', hactions⟩ | ⟨b, c, -, -, -, -, hactions⟩ | ⟨-, hsilent, -⟩ :=
      onPacket_cases (g := g.withWaiting later g.heard) hone now p
    · refine ⟨now, p, later, q, c, rfl, hfront, hq, hid, hc, hc', ?_, ?_⟩
      · rw [hactions, forwardsOf_append, forwardsOf_forward, forwardsOf_sending, List.append_nil]
        rfl
      · rw [hactions, datagramsOf_append, datagramsOf_forward, datagramsOf_sending,
          List.nil_append] at ho
        exact ho
    · rw [hactions] at ho
      exact absurd ho List.not_mem_nil
    · exact absurd (hsilent o ho) hloud
  · have hsent : datagramsOf (g.perform (.pump now)).2 = (g.pumpChannels now).2 :=
      datagramsOf_sending _
    rw [hsent] at ho
    obtain ⟨c, message, rfl⟩ := pumpChannels_sent now o ho
    cases hsome
  · rw [hout, datagramsOf_sending] at ho
    exact absurd ((hasides o ho).silentOn id) hloud

end Gateway

namespace GatewayChronicle

variable {id : UInt8} {r : GatewayChronicle}

/-- What bears the number before the expected one is the request accepted last, if there is one. -/
theorem last_accepted {c : GatewayChannel} (h : r.Agrees id c) {s : UInt8}
    (hs : s + 1 = c.receiveNo) :
    (s = 255 ∧ r.accepted = []) ∨ ∃ q, r.accepted.getLast? = some q ∧ q.sequence = s := by
  rw [h.receiveNo_eq] at hs
  rcases List.eq_nil_or_concat r.accepted with hnil | ⟨l, q, hconcat⟩
  · rw [hnil] at hs
    exact Or.inl ⟨(UInt8.add_left_inj 1).1 (hs.trans (by decide)), hnil⟩
  · rw [List.concat_eq_append] at hconcat
    have hq : r.accepted[l.length]? = some q := by
      rw [hconcat]
      exact List.getElem?_concat_length
    refine Or.inr ⟨q, by rw [hconcat]; exact List.getLast?_concat, ?_⟩
    rw [hconcat, List.length_append, List.length_singleton, octetNo_succ] at hs
    rw [(h.numbers _ q hq).2]
    exact ((UInt8.add_left_inj 1).1 hs).symm

/-- What a channel acknowledges as good it has accepted and understood, or nothing has been accepted
at all, or what was accepted last could not be understood. -/
theorem accepted_of_ack (h : r.Sound id) (a : Gateway.Act) {o : Outgoing}
    (ho : o ∈ datagramsOf (r.act id a).2) {s : UInt8}
    (hack : TunnelAck.ofPacket o.packet = .ok ⟨id, s, Status.ok⟩) :
    (∃ q ∈ (r.act id a).1.accepted, q.sequence = s ∧ q.IsReadable) ∨
      (s = 255 ∧ (r.act id a).1.accepted = []) ∨
      ∃ q, (r.act id a).1.accepted.getLast? = some q ∧ q.sequence = s ∧ ¬ q.IsReadable := by
  obtain ⟨now, p, later, q, c, rfl, hfront, hq, hid, hc, hc', hforwarded, hmem⟩ :=
    Gateway.source_of_ack h.one a ho hack
  have hagrees := h.agrees c hc
  have hact : (r.act id (.look now)).1 = r.noting id [p.packet] (r.gateway.perform (.look now)).1
      (r.gateway.perform (.look now)).2 := by
    rw [act, front, hfront]
    rfl
  rw [hact]
  obtain ⟨hbefore, heq⟩ | heq | ⟨hnext, more, status, heq, hstatus⟩ :=
    c.onRequest_cases now r.gateway.config.channelTimeout q
  · rw [heq] at hc' hforwarded hmem
    rw [noting_unmoved hc hc' (GatewayChannel.Unmoved.refl c) (Or.inr hforwarded)]
    rw [List.mem_singleton.1 hmem] at hack
    cases hack
    rcases last_accepted hagrees hbefore with hnone | ⟨q', hlast, hsequence⟩
    · exact Or.inr (Or.inl hnone)
    · by_cases hreadable : q'.IsReadable
      · exact Or.inl ⟨q', List.mem_of_getLast? hlast, hsequence, hreadable⟩
      · exact Or.inr (Or.inr ⟨q', hlast, hsequence, hreadable⟩)
  · rw [heq] at hmem
    exact absurd hmem List.not_mem_nil
  · rw [heq] at hc' hforwarded hmem
    rw [noting_accepted hagrees hc hc' hq hid hforwarded]
    rw [List.mem_singleton.1 hmem] at hack
    cases hack
    refine Or.inl ⟨q, List.mem_append_right _ (List.mem_singleton_self q), rfl, ?_⟩
    exact hstatus.1 rfl

end GatewayChronicle

/-! ## Both -/

/-- **What is acknowledged was accepted, but for three things.**  Take any run of a connection from
its beginning.  If it acknowledges a number, it has delivered a unit that came under this number,
unless the number is the greatest one and nothing has been delivered yet.  Take any run of a gateway
that has no channels at first.  If a channel acknowledges a number as good, it has accepted a
request under this number that could be understood, unless the number is the greatest one and
nothing has been accepted since the channel was opened, or the request accepted last bears this
number and could not be understood. -/
theorem acknowledged_was_accepted (config : ConnectionConfig) (peer : IndividualAddress)
    (registration now : Nat) (events : List Chronicle.Event) (e : Chronicle.Event) (s : UInt8)
    (id : UInt8) (g : Gateway) (turns : List GatewayChronicle.Event) (a : Gateway.Act)
    (o : Outgoing) (n : UInt8) :
    let r := (Chronicle.run events (.start (.start config peer registration now))).1
    let c := (GatewayChronicle.run id turns (.start g)).1
    (s ∈ acksOf (r.step e).2 →
      (∃ apdu, (s, apdu) ∈ (r.step e).1.accepted ∧ apdu ∈ (r.step e).1.pushed) ∨
        (s = 15 ∧ (r.step e).1.accepted = [])) ∧
    (o ∈ datagramsOf (c.act id a).2 → TunnelAck.ofPacket o.packet = .ok ⟨id, n, Status.ok⟩ →
      (∃ q ∈ (c.act id a).1.accepted, q.sequence = n ∧ q.IsReadable) ∨
        (n = 255 ∧ (c.act id a).1.accepted = []) ∨
        ∃ q, (c.act id a).1.accepted.getLast? = some q ∧ q.sequence = n ∧ ¬ q.IsReadable) := by
  intro r c
  constructor
  · intro hs
    have hsound : r.Sound :=
      Chronicle.run_sound (Chronicle.start_sound config peer registration now) events
    rcases Chronicle.accepted_of_ack hsound e hs with ⟨apdu, hmem⟩ | hnone
    · exact Or.inl ⟨apdu, hmem, Chronicle.mem_pushed (Chronicle.step_sound hsound e) hmem⟩
    · exact Or.inr hnone
  · intro ho hack
    have hsound : c.Sound id :=
      GatewayChronicle.run_sound (GatewayChronicle.start_sound id g) turns
    exact GatewayChronicle.accepted_of_ack hsound a ho hack

/-! ## First messages -/

/-- A frame that brings a unit under a number. -/
def unitFrame (sequence : UInt8) : Frame :=
  .addressed (.individual ⟨1⟩) [(0x40 : UInt8) ||| sequence <<< 2, 0x80]

/-- A connection that has just been opened has heard a frame. -/
def firstHeard (sequence : UInt8) : Chronicle :=
  (Chronicle.run [.hear (unitFrame sequence)] (.start (.start .usual ⟨2⟩ 0 0))).1

/-- The connection looks at what it has heard. -/
def lookAtUnit : Chronicle.Event := .act (.look (fun _ => true) 0)

/-- A gateway that offers channels. -/
def tunnellingGateway : Gateway :=
  { config := { GatewayConfig.usual with tunnel := true }
    host := ⟨⟨10, 0, 0, 1⟩, [], []⟩
    socket := .bound 3671 (.allBut (.v4 ⟨⟨10, 0, 0, 1⟩, 3671⟩))
    registrations := []
    received := []
    heard := []
    channels := []
    shownCount := 0
    stopping := false
    isEnded := false }

/-- Who asks for a channel. -/
def asker : Endpoint := ⟨⟨10, 0, 0, 2⟩, 50000⟩

/-- A channel is opened, and requests come in on it; the last has not been looked at. -/
def requesting (requests : List (UInt8 × Octets)) : List GatewayChronicle.Event :=
  .hear ((ConnectRequest.tunnel asker asker).toPacket.toOption.toList.map (⟨·, asker⟩)) ::
    requests.flatMap fun q =>
      [.act (.look 0), .hear [⟨(TunnelRequest.mk 1 q.1 q.2).toPacket, asker⟩]]

/-- The gateway after these events. -/
def requested (requests : List (UInt8 × Octets)) : GatewayChronicle :=
  (GatewayChronicle.run 1 (requesting requests) (.start tunnellingGateway)).1

/-- A message that asks for a frame to be sent. -/
def sendingRequest : Octets := [0x11, 0, 0xbc, 0xe0, 0, 0, 8, 1, 1, 0, 0x80]

theorem acknowledged_was_accepted_first :
    ((∃ apdu, (0, apdu) ∈ ((firstHeard 0).step lookAtUnit).1.accepted ∧
          apdu ∈ ((firstHeard 0).step lookAtUnit).1.pushed) ∨
        ((0 : UInt8) = 15 ∧ ((firstHeard 0).step lookAtUnit).1.accepted = [])) ∧
      ((∃ q ∈ ((requested [(0, sendingRequest)]).act 1 (.look 0)).1.accepted,
          q.sequence = 0 ∧ q.IsReadable) ∨
        ((0 : UInt8) = 255 ∧ ((requested [(0, sendingRequest)]).act 1 (.look 0)).1.accepted = []) ∨
        ∃ q, ((requested [(0, sendingRequest)]).act 1 (.look 0)).1.accepted.getLast? = some q ∧
          q.sequence = 0 ∧ ¬ q.IsReadable) :=
  have h := acknowledged_was_accepted .usual ⟨2⟩ 0 0 [.hear (unitFrame 0)] lookAtUnit 0 1
    tunnellingGateway (requesting [(0, sendingRequest)]) (.look 0)
    ⟨(TunnelAck.mk 1 0 Status.ok).toPacket, asker⟩ 0
  ⟨h.1 (by decide +kernel), h.2 (by decide +kernel) rfl⟩

/-- What the gateway acknowledges when it looks at the next datagram. -/
def answered (r : GatewayChronicle) : List TunnelAck :=
  (datagramsOf (r.act 1 (.look 0)).2).filterMap fun o => (TunnelAck.ofPacket o.packet).toOption

/-- The first unit bears the greatest number, or the first request does; or the first request is
refused and comes again.  Each time something is acknowledged that was not accepted. -/
theorem acknowledged_without_acceptance :
    (acksOf ((firstHeard 15).step lookAtUnit).2 = [15] ∧
        ((firstHeard 15).step lookAtUnit).1.accepted = []) ∧
      (answered (requested [(255, [0, 0])]) = [⟨1, 255, Status.ok⟩] ∧
        ((requested [(255, [0, 0])]).act 1 (.look 0)).1.accepted = []) ∧
      answered (requested [(0, [0, 0])]) = [⟨1, 0, Status.tunnellingLayer⟩] ∧
      answered (requested [(0, [0, 0]), (0, [0, 0])]) = [⟨1, 0, Status.ok⟩] ∧
      ((requested [(0, [0, 0]), (0, [0, 0])]).act 1 (.look 0)).1.accepted = [⟨1, 0, [0, 0]⟩] ∧
      (Cemi.decode [0, 0]).toOption = none := by
  decide +kernel

end KnxBus
