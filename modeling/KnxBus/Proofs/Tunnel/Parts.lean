import KnxBus.Medium.Tunnel
import KnxBus.Proofs.Datagram
import KnxBus.Proofs.Run

/-!
# The parts of a turn of a client

A turn of a client of a gateway looks at one datagram after the other, then at the timers, then
sends the next frame.  Here is what each of these parts can come to while there is a session.  Most
of what a client does leaves the counters of the session alone, such as heartbeats and the end of
the session; what does not is one of four things, and there is a formula for each.
-/

namespace KnxBus
namespace Tunnel

/-! ## Acts -/

/-- What happens at a client, arrivals apart. -/
inductive Act where
  /-- A frame is queued. -/
  | send (frame : Frame)
  /-- Others take what was heard, or change what is reported. -/
  | attend (inbox : List Lpdu) (mode : MonitorMode)
  /-- The client looks at a datagram. -/
  | look (now : Nat)
  /-- The client looks at its timers. -/
  | timers (now : Nat)
  /-- The client sends the next frame, if it can. -/
  | next (now : Nat)
  /-- The client ends. -/
  | finish

/-- One thing happens at a client; the datagrams that it sends come out. -/
def perform (a : Act) (t : Tunnel) : Tunnel × List Outgoing :=
  match a with
  | .send frame => (t.send frame, [])
  | .attend inbox mode => ({ t with inbox := inbox, mode := mode }, [])
  | .look now =>
    match t.received with
    | [] => (t, [])
    | p :: later => { t with received := later }.onPacket now p
  | .timers now => t.onTimers now
  | .next now => t.sendNext now
  | .finish => t.finish

/-! ## Turns -/

/-- The client with other datagrams to be looked at. -/
def withReceived (packets : List Received) (t : Tunnel) : Tunnel := { t with received := packets }

theorem perform_look_nil {t : Tunnel} (h : t.received = []) (now : Nat) :
    t.perform (.look now) = (t, []) := by
  rw [perform, h]

theorem perform_look_cons {t : Tunnel} {p : Received} {later : List Received}
    (h : t.received = p :: later) (now : Nat) :
    t.perform (.look now) = (t.withReceived later).onPacket now p := by
  rw [perform, h]
  rfl

/-- A datagram that is looked at does not touch those behind it. -/
theorem onPacket_withReceived (now : Nat) (p : Received) (packets : List Received) (t : Tunnel) :
    (t.withReceived packets).onPacket now p =
      ((t.onPacket now p).1.withReceived packets, (t.onPacket now p).2) := by
  unfold onPacket
  split
  · unfold onConnectResponse
    simp only [withReceived]
    split
    · split <;> rfl
    · rfl
  · unfold onStateResponse
    simp only [withReceived]
    split
    · split <;> rfl
    · rfl
  · unfold onTunnelRequest
    simp only [withReceived]
    split
    · split <;> rfl
    · rfl
  · unfold onTunnelAck
    simp only [withReceived]
    split
    · split <;> rfl
    · rfl
  · unfold onDisconnectRequest
    simp only [withReceived]
    split
    · split <;> rfl
    · rfl
  · rfl

/-- A datagram that is looked at does not wait any more. -/
theorem received_look (now : Nat) (t : Tunnel) :
    (t.perform (.look now)).1.received = t.received.tail := by
  cases h : t.received with
  | nil =>
    rw [perform_look_nil h]
    exact h
  | cons p later =>
    rw [perform_look_cons h, onPacket_withReceived]
    rfl

theorem received_looks (n now : Nat) (t : Tunnel) :
    (runWith perform (List.replicate n (.look now)) t).1.received = t.received.drop n := by
  induction n generalizing t with
  | zero => rfl
  | succ n ih =>
    rw [List.replicate_succ, runWith]
    simp only
    rw [ih, received_look, List.drop_tail]

theorem onPackets_eq_run (now : Nat) (packets : List Received) (t : Tunnel)
    (h : t.received = packets) :
    onPackets now packets (t.withReceived []) =
      runWith perform (List.replicate packets.length (.look now)) t := by
  induction packets generalizing t with
  | nil =>
    have hsame : t.withReceived [] = t := by
      rw [← h]
      rfl
    rw [hsame]
    rfl
  | cons p later ih =>
    have hlook : perform (.look now) t =
        ((t.onPacket now p).1.withReceived later, (t.onPacket now p).2) :=
      (perform_look_cons h now).trans (onPacket_withReceived now p later t)
    have hrest := ih ((t.onPacket now p).1.withReceived later) rfl
    rw [List.length_cons, List.replicate_succ, runWith, hlook, onPackets, onPacket_withReceived]
    simp only
    rw [← hrest]
    rfl

/-- **A whole turn is a run of its parts.** -/
theorem turn_eq_run (now : Nat) (t : Tunnel) :
    t.turn now =
      runWith perform
        (List.replicate t.received.length (.look now) ++ [.timers now, .next now]) t := by
  have hlooks := onPackets_eq_run now t.received t rfl
  rw [runWith_append, ← hlooks, turn]
  simp only [runWith, List.append_nil, ← List.append_assoc]
  rfl

/-! ## What leaves the counters alone -/

/-- The counters of a session are where they were, if the session goes on. -/
structure Unmoved (s : TunnelSession) (t t' : Tunnel) : Prop where
  /-- The datagrams that wait are the same. -/
  received_eq : t'.received = t.received
  /-- A client that shows a session has one. -/
  stays : t'.isConnected = true → ∃ s', t'.link = .connected s'
  /-- The numbers are the same. -/
  counters : ∀ s', t'.link = .connected s' →
    s'.channel = s.channel ∧ s'.sendNo = s.sendNo ∧ s'.receiveNo = s.receiveNo
  /-- The outstanding request is the same, or given up with the session. -/
  pending : ∀ s', t'.link = .connected s' →
    s'.pending.map (·.packet) = s.pending.map (·.packet) ∨
      s'.pending = none ∧ t'.isConnected = false

section
variable {s : TunnelSession} {t : Tunnel}

theorem Unmoved.refl (h : t.link = .connected s) : Unmoved s t t := by
  refine ⟨rfl, fun _ => ⟨s, h⟩, fun s' hs' => ?_, fun s' hs' => ?_⟩
  · rw [h] at hs'
    cases hs'
    exact ⟨rfl, rfl, rfl⟩
  · rw [h] at hs'
    cases hs'
    exact Or.inl rfl

/-- The session has ended. -/
theorem unmoved_reset (retryAt : Nat) : Unmoved s t (t.reset retryAt) := by
  refine ⟨rfl, fun h => ?_, fun s' hs' => ?_, fun s' hs' => ?_⟩
  · cases h
  · cases hs'
  · cases hs'

theorem disconnectRequest_asides (t : Tunnel) (channel : UInt8) :
    ∀ o ∈ t.disconnectRequest channel, o.IsAside :=
  Outgoing.ofBuilt_asides (by decide) _ _ _

theorem heartbeat_asides (t : Tunnel) (channel : UInt8) : ∀ o ∈ t.heartbeat channel, o.IsAside :=
  Outgoing.ofBuilt_asides (by decide) _ _ _

/-! ## What the parts come to -/

/-- A session whose counters, as a list of what can be seen of them, are those of another one. -/
theorem unmoved_of_link {t' : Tunnel} {s' : TunnelSession} (hlink : t'.link = .connected s')
    (hreceived : t'.received = t.received)
    (hcounters : s'.channel = s.channel ∧ s'.sendNo = s.sendNo ∧ s'.receiveNo = s.receiveNo)
    (hpending : s'.pending.map (·.packet) = s.pending.map (·.packet)) : Unmoved s t t' := by
  refine ⟨hreceived, fun _ => ⟨s', hlink⟩, fun s'' h => ?_, fun s'' h => ?_⟩
  · rw [hlink] at h
    cases h
    exact hcounters
  · rw [hlink] at h
    cases h
    exact Or.inl hpending

/-- The request that is expected is taken and acknowledged. -/
theorem onPacket_expected (hlink : t.link = .connected s) (now : Nat) {p : Received}
    {message : Octets} (hexpected : p.packet.requestOn? s.channel = some (s.receiveNo, message)) :
    t.onPacket now p =
      ({ t with
          link := .connected { s with receiveNo := s.receiveNo + 1 }
          inbox := t.inbox ++ report t.mode message },
        [⟨(TunnelAck.mk s.channel s.receiveNo Status.ok).toPacket, s.data⟩]) := by
  have hservice : p.packet.service = .tunnelRequest := Decidable.byContradiction fun hother => by
    rw [requestOn?_eq_none_of_service hother] at hexpected
    cases hexpected
  have hrequest : t.onPacket now p = t.onTunnelRequest p.packet := by rw [onPacket, hservice]
  rw [hrequest, onTunnelRequest, hlink]
  unfold Packet.requestOn? at hexpected
  cases hof : TunnelRequest.ofPacket p.packet with
  | error cause =>
    rw [hof] at hexpected
    cases hexpected
  | ok request =>
    rw [hof] at hexpected
    simp only at hexpected ⊢
    split at hexpected
    · rename_i hchannel
      obtain ⟨hsequence, hmessage⟩ := Prod.mk.inj (Option.some.inj hexpected)
      rw [if_pos ⟨hchannel, hsequence⟩, hchannel, hsequence, hmessage]
    · cases hexpected

/-- What may come of a datagram. -/
theorem onPacket_cases (hlink : t.link = .connected s) (now : Nat) (p : Received) :
    (∃ message, p.packet.requestOn? s.channel = some (s.receiveNo, message) ∧
      t.onPacket now p =
        ({ t with
            link := .connected { s with receiveNo := s.receiveNo + 1 }
            inbox := t.inbox ++ report t.mode message },
          [⟨(TunnelAck.mk s.channel s.receiveNo Status.ok).toPacket, s.data⟩])) ∨
    (p.packet.ackOn? s.channel = some s.sendNo ∧ s.pending.isSome = true ∧
      t.onPacket now p =
        ({ t with
            link := .connected { s with sendNo := s.sendNo + 1, pending := none }
            inFlight := false }, [])) ∨
    (Unmoved s t (t.onPacket now p).1 ∧ ∀ o ∈ (t.onPacket now p).2, o.IsAside) := by
  have hnothing : ∀ o ∈ ([] : List Outgoing), o.IsAside := fun o ho => absurd ho List.not_mem_nil
  by_cases hexpected : ∃ message, p.packet.requestOn? s.channel = some (s.receiveNo, message)
  · obtain ⟨message, hexpected⟩ := hexpected
    exact Or.inl ⟨message, hexpected, onPacket_expected hlink now hexpected⟩
  unfold onPacket
  split
  · refine Or.inr (Or.inr ⟨?_, hnothing⟩)
    have hsame : t.onConnectResponse now p.packet p.sender = t := by
      rw [onConnectResponse, hlink]
    rw [hsame]
    exact Unmoved.refl hlink
  · refine Or.inr (Or.inr ⟨?_, hnothing⟩)
    unfold onStateResponse
    rw [hlink]
    cases ChannelResponse.ofPacket p.packet .stateResponse with
    | error cause => exact Unmoved.refl hlink
    | ok response =>
      simp only
      split
      · exact unmoved_of_link rfl rfl ⟨rfl, rfl, rfl⟩ rfl
      · exact Unmoved.refl hlink
  · unfold onTunnelRequest
    rw [hlink]
    cases hof : TunnelRequest.ofPacket p.packet with
    | error cause => exact Or.inr (Or.inr ⟨Unmoved.refl hlink, hnothing⟩)
    | ok request =>
      have hother : ¬ (request.channel = s.channel ∧ request.sequence = s.receiveNo) := by
        rintro ⟨hchannel, hsequence⟩
        refine hexpected ⟨request.message, ?_⟩
        rw [Packet.requestOn?, hof]
        simp only
        rw [if_pos hchannel, hsequence]
      simp only
      rw [if_neg hother]
      exact Or.inr (Or.inr ⟨Unmoved.refl hlink, hnothing⟩)
  · unfold onTunnelAck Packet.ackOn?
    rw [hlink]
    cases TunnelAck.ofPacket p.packet with
    | error cause => exact Or.inr (Or.inr ⟨Unmoved.refl hlink, hnothing⟩)
    | ok ack =>
      simp only
      by_cases hnext : ack.channel = s.channel ∧ ack.sequence = s.sendNo ∧ s.pending.isSome
      · obtain ⟨hchannel, hsequence, hpending⟩ := hnext
        refine Or.inr (Or.inl ⟨?_, hpending, ?_⟩)
        · rw [if_pos hchannel, hsequence]
        · rw [if_pos ⟨hchannel, hsequence, hpending⟩]
      · rw [if_neg hnext]
        exact Or.inr (Or.inr ⟨Unmoved.refl hlink, hnothing⟩)
  · refine Or.inr (Or.inr ?_)
    unfold onDisconnectRequest
    rw [hlink]
    cases ChannelRequest.ofPacket p.packet .disconnectRequest with
    | error cause => exact ⟨Unmoved.refl hlink, hnothing⟩
    | ok request =>
      simp only
      split
      · refine ⟨unmoved_reset _, fun o ho => ?_⟩
        rw [List.mem_singleton.1 ho]
        exact show Service.IsAside .disconnectResponse by decide
      · exact ⟨Unmoved.refl hlink, hnothing⟩
  · exact Or.inr (Or.inr ⟨Unmoved.refl hlink, hnothing⟩)

/-- Only a request that is expected is heard. -/
theorem onPacket_inbox (hlink : t.link = .connected s) {p : Received}
    (hother : ∀ message, p.packet.requestOn? s.channel ≠ some (s.receiveNo, message)) (now : Nat) :
    (t.onPacket now p).1.inbox = t.inbox := by
  unfold onPacket
  split
  · rw [onConnectResponse, hlink]
  · rw [onStateResponse, hlink]
    simp only
    split
    · split <;> rfl
    · rfl
  · rw [onTunnelRequest, hlink]
    cases hof : TunnelRequest.ofPacket p.packet with
    | error cause => rfl
    | ok request =>
      have hnot : ¬ (request.channel = s.channel ∧ request.sequence = s.receiveNo) := by
        rintro ⟨hchannel, hsequence⟩
        refine hother request.message ?_
        rw [Packet.requestOn?, hof]
        simp only
        rw [if_pos hchannel, hsequence]
      simp only
      rw [if_neg hnot]
  · rw [onTunnelAck, hlink]
    simp only
    split
    · split <;> rfl
    · rfl
  · rw [onDisconnectRequest, hlink]
    split
    · split <;> rfl
    · rfl
  · rfl

theorem resent_pending (now : Nat) :
    (resent s now).pending.map (·.packet) = s.pending.map (·.packet) := by
  unfold resent
  cases s.pending <;> rfl

/-- What may come of the timers: the outstanding request is sent once more, or nothing but asides
are sent. -/
theorem onTimers_cases (hlink : t.link = .connected s) (now : Nat) :
    Unmoved s t (t.onTimers now).1 ∧
      ∃ again asides, (t.onTimers now).2 = again ++ asides ∧ (∀ o ∈ asides, o.IsAside) ∧
        (again = [] ∨ ∃ p, s.pending = some p ∧ again = [⟨p.packet, s.data⟩]) := by
  have htimers : t.onTimers now = t.onSessionTimers s now := by rw [onTimers, hlink]
  rw [htimers, onSessionTimers]
  simp only
  split
  · exact ⟨unmoved_reset _, [], _, rfl, disconnectRequest_asides t s.channel, Or.inl rfl⟩
  · refine ⟨unmoved_of_link rfl rfl ?_ ?_, _, _, rfl, ?_, ?_⟩
    · split <;> split <;> exact ⟨rfl, rfl, rfl⟩
    · split <;> split
      · exact resent_pending now
      · rfl
      · exact resent_pending now
      · rfl
    · split
      · exact heartbeat_asides t s.channel
      · exact fun o ho => absurd ho List.not_mem_nil
    · split
      · cases hp : s.pending with
        | none => exact Or.inl rfl
        | some p => exact Or.inr ⟨p, rfl, rfl⟩
      · exact Or.inl rfl

/-- What may come of sending: the next frame becomes the outstanding request, or nothing is sent. -/
theorem sendNext_cases (hlink : t.link = .connected s) (now : Nat) :
    (∃ frame rest message, t.outbox = frame :: rest ∧ s.pending = none ∧
      (Cemi.mk .request frame).toOctets = .ok message ∧
      t.sendNext now =
        ({ t with
            outbox := rest
            inFlight := true
            link := .connected
              { s with
                pending :=
                  some ⟨(TunnelRequest.mk s.channel s.sendNo message).toPacket, now, 1⟩ } },
          [⟨(TunnelRequest.mk s.channel s.sendNo message).toPacket, s.data⟩])) ∨
    (Unmoved s t (t.sendNext now).1 ∧ (t.sendNext now).2 = []) := by
  unfold sendNext
  rw [hlink]
  cases hout : t.outbox with
  | nil =>
    simp only
    split
    · exact Or.inr ⟨Unmoved.refl hlink, rfl⟩
    · exact Or.inr ⟨unmoved_of_link rfl rfl ⟨rfl, rfl, rfl⟩ rfl, rfl⟩
  | cons frame rest =>
    simp only
    cases hp : s.pending with
    | some p => exact Or.inr ⟨Unmoved.refl hlink, rfl⟩
    | none =>
      cases hm : (Cemi.mk .request frame).toOctets with
      | error cause => exact Or.inr ⟨unmoved_of_link rfl rfl ⟨rfl, rfl, rfl⟩ rfl, rfl⟩
      | ok message => exact Or.inl ⟨frame, rest, message, rfl, rfl, hm, rfl⟩

/-- What comes of the end. -/
theorem finish_cases (hlink : t.link = .connected s) :
    Unmoved s t t.finish.1 ∧ ∀ o ∈ t.finish.2, o.IsAside := by
  have hfinish : t.finish =
      ({ t with
          isConnected := false
          inFlight := false
          link := .connected { s with pending := none } }, t.disconnectRequest s.channel) := by
    rw [finish, hlink]
  rw [hfinish]
  refine ⟨⟨rfl, fun h => ?_, fun s' hs' => ?_, fun s' hs' => ?_⟩, disconnectRequest_asides t _⟩
  · cases h
  · cases hs'
    exact ⟨rfl, rfl, rfl⟩
  · cases hs'
    exact Or.inr ⟨rfl, rfl⟩

end

/-! ## Beginnings -/

/-- A client that has just been granted a channel, with nothing to look at. -/
def granted (channel : UInt8) (data : Endpoint) (now : Nat) (t : Tunnel) : Tunnel :=
  { t with
    received := []
    lastChannel := channel
    isConnected := true
    link := .connected
      { channel := channel
        data := data
        sendNo := 0
        receiveNo := 0
        pending := none
        heartbeatAt := now + t.config.heartbeatInterval
        heartbeatDeadline := none
        failures := 0 } }

/-- The answer to a request for a channel brings the client there. -/
theorem onConnectResponse_granted {t : Tunnel} {deadline : Nat}
    (hlink : t.link = .connecting deadline) {p : Packet} {response : ConnectResponse}
    (hp : ConnectResponse.ofPacket p = .ok response)
    (hok : response.status = Status.ok) (hreceived : t.received = []) (now : Nat)
    (sender : Endpoint) :
    ∃ t' : Tunnel, t'.config = t.config ∧ t'.outbox = t.outbox ∧ t.onConnectResponse now p sender =
      t'.granted response.channel (dataEndpoint response sender) now := by
  refine ⟨{ t with
    address := response.assignedAddress?.getD t.address
    socket :=
      { t.socket with
        filter := .peers [.v4 t.gateway, .v4 (dataEndpoint response sender)] } }, rfl, rfl, ?_⟩
  rw [onConnectResponse, hlink, hp]
  simp only
  rw [if_neg (not_not_intro hok), granted, hreceived]

end Tunnel
end KnxBus
