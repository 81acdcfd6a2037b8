import KnxBus.Proofs.Tunnel.Tenancy

/-!
# Where a client stands with its gateway

A client without a session waits for the time at which it asks for a channel, or for the answer to
that; a client with a session waits for the time of its next heartbeat, or for the answer to that.
Each of these waits has a deadline of its own, and it is set in several places.  This is the list of
them: a part of a turn does one of nine things (`Tunnel.Standing`).

Three kinds of datagrams belong to it, by which the client asks for a channel, asks whether it is
still there, and gives it up.  The list says for each part exactly which of them are sent
(`Tunnel.Told`).
-/

namespace KnxBus
namespace Tunnel

/-- The datagrams of a service, in order. -/
def withService (service : Service) (sent : List Outgoing) : List Outgoing :=
  sent.filter fun o => o.packet.service = service

@[simp] theorem withService_nil (service : Service) : withService service [] = [] := rfl

@[simp] theorem withService_append (service : Service) (a b : List Outgoing) :
    withService service (a ++ b) = withService service a ++ withService service b :=
  List.filter_append a b

/-- What a client says to the gateway about its channel: it asks for one, it asks about the one that
it has, and it gives it up. -/
structure Told (asked beats ended sent : List Outgoing) : Prop where
  asked_eq : withService .connectRequest sent = asked
  beats_eq : withService .stateRequest sent = beats
  ended_eq : withService .disconnectRequest sent = ended

theorem Told.nil : Told [] [] [] [] := ⟨rfl, rfl, rfl⟩

theorem Told.append {asked asked' beats beats' ended ended' sent sent' : List Outgoing}
    (h : Told asked beats ended sent) (h' : Told asked' beats' ended' sent') :
    Told (asked ++ asked') (beats ++ beats') (ended ++ ended') (sent ++ sent') where
  asked_eq := by rw [withService_append, h.asked_eq, h'.asked_eq]
  beats_eq := by rw [withService_append, h.beats_eq, h'.beats_eq]
  ended_eq := by rw [withService_append, h.ended_eq, h'.ended_eq]

/-- What a part of a turn does to where a client stands, when it may be looking at a datagram. -/
inductive Standing (now : Nat) (d : Doing) (looked : Option Packet) (t t' : Tunnel)
    (sent : List Outgoing) : Prop where
  /-- There is no session, and nothing happens. -/
  | apart (before : t.session? = none) (after : t'.link = t.link) (told : Told [] [] [] sent)
  /-- It is time to ask for a channel. -/
  | asks (o : Outgoing) (timers : d = .timers) (before : t.session? = none)
      (due : t.nextDeadline ≤ now)
      (after : t'.link = .connecting (now + t.config.reconnectInterval))
      (told : Told [o] [] [] sent)
  /-- The gateway refuses. -/
  | refused (before : t.session? = none)
      (after : t'.link = .disconnected (now + t.config.reconnectInterval))
      (told : Told [] [] [] sent)
  /-- The gateway grants a channel. -/
  | granted (s' : TunnelSession) (before : t.session? = none) (after : t'.session? = some s')
      (heartbeatDeadline_eq : s'.heartbeatDeadline = none) (failures_eq : s'.failures = 0)
      (told : Told [] [] [] sent)
  /-- The session goes on. -/
  | goesOn (s s' : TunnelSession) (before : t.session? = some s) (after : t'.session? = some s')
      (same : s.SameBeat s')
      (early : d = .timers → heartbeatDue t.config s now = .nothing)
      (silent : d = .look → ∀ p, looked = some p → ¬ p.Affirms s.channel)
      (told : Told [] [] [] sent)
  /-- The gateway affirms the channel. -/
  | affirmed (s : TunnelSession) (p : Packet) (look : d = .look) (before : t.session? = some s)
      (after : t'.session? = some { s with failures := 0, heartbeatDeadline := none })
      (looked_eq : looked = some p) (affirms : p.Affirms s.channel) (told : Told [] [] [] sent)
  /-- A heartbeat is sent. -/
  | beats (s s' : TunnelSession) (o : Outgoing) (timers : d = .timers)
      (before : t.session? = some s) (after : t'.session? = some s')
      (due : heartbeatDue t.config s now = .again)
      (beat : (Tunnel.beaten t.config s now).SameBeat s') (told : Told [] [o] [] sent)
  /-- The gateway closes the channel. -/
  | closed (s : TunnelSession) (p : Packet) (look : d = .look) (before : t.session? = some s)
      (after : t'.link = .disconnected (now + t.config.reconnectInterval))
      (looked_eq : looked = some p) (closes : p.Closes s.channel) (told : Told [] [] [] sent)
  /-- The client gives up. -/
  | gaveUp (s : TunnelSession) (o : Outgoing) (timers : d = .timers)
      (before : t.session? = some s)
      (due : pendingDue t.config s now = .giveUp ∨ heartbeatDue t.config s now = .giveUp)
      (after : t'.link = .disconnected (now + t.config.reconnectInterval))
      (closes : o.packet.Closes s.channel) (destination_eq : o.destination = t.gateway)
      (told : Told [] [] [o] sent)

section
variable {now : Nat} {d : Doing} {looked : Option Packet} {s : TunnelSession} {t t' : Tunnel}
  {sent : List Outgoing}

/-- Nothing happens to the link. -/
theorem Standing.calm (hlink : t'.link = t.link) (hearly : d ≠ .timers)
    (hsilent : d = .look → ∀ s p, t.session? = some s → looked = some p → ¬ p.Affirms s.channel)
    (htold : Told [] [] [] sent) : Standing now d looked t t' sent := by
  have hsession : t'.session? = t.session? := by rw [session?, session?, hlink]
  cases hs : t.session? with
  | none => exact .apart hs hlink htold
  | some s =>
    exact .goesOn s s hs (hsession.trans hs) (.refl s) (fun h => absurd h hearly)
      (fun hlook p => hsilent hlook s p hs) htold

/-- It does not matter what else is waiting. -/
theorem Standing.of_withReceived {packets : List Received}
    (h : Standing now d looked (t.withReceived packets) t' sent) :
    Standing now d looked t t' sent := by
  cases h with
  | apart before after told => exact .apart before after told
  | asks o timers before due after told => exact .asks o timers before due after told
  | refused before after told => exact .refused before after told
  | granted s' before after heartbeatDeadline_eq failures_eq told =>
    exact .granted s' before after heartbeatDeadline_eq failures_eq told
  | goesOn s s' before after same early silent told =>
    exact .goesOn s s' before after same early silent told
  | affirmed s p look before after looked_eq affirms told =>
    exact .affirmed s p look before after looked_eq affirms told
  | beats s s' o timers before after due beat told =>
    exact .beats s s' o timers before after due beat told
  | closed s p look before after looked_eq closes told =>
    exact .closed s p look before after looked_eq closes told
  | gaveUp s o timers before due after closes destination_eq told =>
    exact .gaveUp s o timers before due after closes destination_eq told

/-! ### Datagrams -/

/-- A datagram of another service affirms nothing. -/
theorem silent_of_service {p : Packet} (h : p.service ≠ .stateResponse) :
    Doing.look = .look → ∀ (s : TunnelSession) (q : Packet), t.session? = some s →
      some p = some q → ¬ q.Affirms s.channel := by
  rintro - s q - heq
  rw [← Option.some.inj heq]
  exact Packet.not_affirms_of_service h

theorem onConnectResponse_standing {p : Packet} (hservice : p.service = .connectResponse)
    (sender : Endpoint) :
    Standing now .look (some p) t (t.onConnectResponse now p sender) [] := by
  have hsilent := silent_of_service (t := t) (p := p) (by rw [hservice]; decide)
  unfold onConnectResponse
  split
  · rename_i deadline response hlink _
    have hnone : t.session? = none := by rw [session?, hlink]
    split
    · exact .refused hnone rfl .nil
    · exact .granted _ hnone rfl rfl rfl .nil
  · exact .calm rfl (by decide) hsilent .nil

theorem onStateResponse_standing (p : Packet) :
    Standing now .look (some p) t (t.onStateResponse p) [] := by
  unfold onStateResponse
  split
  · rename_i s response hlink hreads
    have hsession := session?_eq_some_iff.2 hlink
    split
    · rename_i hgood
      have haffirms := ChannelResponse.affirms_of_ofPacket hreads hgood.2
      rw [hgood.1] at haffirms
      exact .affirmed s p rfl hsession rfl rfl haffirms .nil
    · rename_i hbad
      refine .goesOn s s hsession hsession (.refl s) (fun h => by cases h) ?_ .nil
      rintro - q heq haffirms
      rw [← Option.some.inj heq] at haffirms
      rw [ChannelResponse.ofPacket_of_affirms haffirms] at hreads
      cases hreads
      exact hbad ⟨rfl, rfl⟩
  · rename_i hnot
    refine .calm rfl (by decide) ?_ .nil
    rintro - s q hsession heq haffirms
    rw [← Option.some.inj heq] at haffirms
    exact hnot s _ (session?_eq_some_iff.1 hsession) (ChannelResponse.ofPacket_of_affirms haffirms)

theorem onTunnelRequest_standing {p : Packet} (hservice : p.service = .tunnelRequest) :
    Standing now .look (some p) t (t.onTunnelRequest p).1 (t.onTunnelRequest p).2 := by
  have hsilent := silent_of_service (t := t) (p := p) (by rw [hservice]; decide)
  unfold onTunnelRequest
  split
  · rename_i s request hlink _
    have hsession := session?_eq_some_iff.2 hlink
    split
    · exact .goesOn s _ hsession rfl ⟨rfl, rfl, rfl, rfl⟩ (fun h => by cases h)
        (fun hlook q => hsilent hlook s q hsession) ⟨rfl, rfl, rfl⟩
    · exact .calm rfl (by decide) hsilent .nil
  · exact .calm rfl (by decide) hsilent .nil

theorem onTunnelAck_standing {p : Packet} (hservice : p.service = .tunnelResponse) :
    Standing now .look (some p) t (t.onTunnelAck p) [] := by
  have hsilent := silent_of_service (t := t) (p := p) (by rw [hservice]; decide)
  unfold onTunnelAck
  split
  · rename_i s ack hlink _
    have hsession := session?_eq_some_iff.2 hlink
    split
    · exact .goesOn s _ hsession rfl ⟨rfl, rfl, rfl, rfl⟩ (fun h => by cases h)
        (fun hlook q => hsilent hlook s q hsession) .nil
    · exact .calm rfl (by decide) hsilent .nil
  · exact .calm rfl (by decide) hsilent .nil

theorem onDisconnectRequest_standing {p : Packet} (hservice : p.service = .disconnectRequest)
    (sender : Endpoint) :
    Standing now .look (some p) t (t.onDisconnectRequest now p sender).1
      (t.onDisconnectRequest now p sender).2 := by
  have hsilent := silent_of_service (t := t) (p := p) (by rw [hservice]; decide)
  unfold onDisconnectRequest
  split
  · rename_i s request hlink hreads
    split
    · rename_i hchannel
      have hcloses := ChannelRequest.closes_of_ofPacket hreads
      rw [hchannel] at hcloses
      exact .closed s p rfl (session?_eq_some_iff.2 hlink) rfl rfl hcloses ⟨rfl, rfl, rfl⟩
    · exact .calm rfl (by decide) hsilent .nil
  · exact .calm rfl (by decide) hsilent .nil

theorem onPacket_standing (p : Received) :
    Standing now .look (some p.packet) t (t.onPacket now p).1 (t.onPacket now p).2 := by
  unfold onPacket
  split
  · rename_i hservice
    exact onConnectResponse_standing hservice p.sender
  · exact onStateResponse_standing p.packet
  · rename_i hservice
    exact onTunnelRequest_standing hservice
  · rename_i hservice
    exact onTunnelAck_standing hservice
  · rename_i hservice
    exact onDisconnectRequest_standing hservice p.sender
  · rename_i hnot _ _ _
    exact .calm rfl (by decide) (silent_of_service hnot) .nil

/-! ### Timers -/

/-- To ask for a channel is to send one request. -/
theorem requestChannel_told (t : Tunnel) (now : Nat) :
    ∃ o, (t.requestChannel now).2 = [o] ∧ o.destination = t.gateway ∧
      Told [o] [] [] (t.requestChannel now).2 := by
  obtain ⟨p, hp⟩ : ∃ p, (ConnectRequest.tunnel t.own t.own).toPacket = .ok p := ⟨_, rfl⟩
  obtain ⟨hservice, -, -⟩ := Packet.build_eq_ok_iff.1 hp
  have hsent : (t.requestChannel now).2 = [⟨p, t.gateway⟩] := by
    rw [requestChannel, hp]
    rfl
  rw [hsent]
  refine ⟨_, rfl, rfl, ?_⟩
  constructor <;> simp [withService, hservice]

/-- To ask about a channel is to send one request. -/
theorem heartbeat_told (t : Tunnel) (channel : UInt8) :
    ∃ o, Told [] [o] [] (t.heartbeat channel) :=
  ⟨_, rfl, rfl, rfl⟩

/-- To give a channel up is to send one request. -/
theorem ending_told (t : Tunnel) (channel : UInt8) :
    ∃ o, o.packet.Closes channel ∧ o.destination = t.gateway ∧
      Told [] [] [o] (t.disconnectRequest channel) :=
  ⟨_, ⟨rfl, rfl⟩, rfl, rfl, rfl, rfl⟩

/-- A client without a session asks for a channel when it is time, and not before. -/
theorem onTimers_of_away (h : t.session? = none) (now : Nat) :
    t.onTimers now = if now < t.nextDeadline then (t, []) else t.requestChannel now := by
  unfold onTimers nextDeadline
  split
  · rfl
  · rfl
  · rename_i s hlink
    rw [session?_eq_some_iff.2 hlink] at h
    cases h

/-- The outstanding frame is sent once more, or not. -/
theorem resends_told (hrequesting : t.Requesting) (hsession : t.session? = some s) :
    Told [] [] [] (if pendingDue t.config s now = .again then
      s.pending.toList.map fun p => ⟨p.packet, s.data⟩ else []) := by
  split
  · cases hp : s.pending with
    | none => exact .nil
    | some q =>
      have hservice := hrequesting s hsession q hp
      constructor <;> simp [withService, hservice]
  · exact .nil

theorem onSessionTimers_standing (hlink : t.link = .connected s) (hrequesting : t.Requesting) :
    Standing now .timers looked t (t.onSessionTimers s now).1 (t.onSessionTimers s now).2 := by
  have hsession := session?_eq_some_iff.2 hlink
  have hresends : Told [] [] [] (if pendingDue t.config s now = .again then
      s.pending.toList.map fun p => ⟨p.packet, s.data⟩ else []) := resends_told hrequesting hsession
  unfold onSessionTimers
  simp only
  split
  · rename_i hdue
    obtain ⟨o, hcloses, hdestination, htold⟩ := ending_told t s.channel
    exact .gaveUp s o rfl hsession hdue rfl hcloses hdestination htold
  · rename_i hgoes
    by_cases hbeat : heartbeatDue t.config s now = .again
    · obtain ⟨o, htold⟩ := heartbeat_told t s.channel
      rw [if_pos hbeat, if_pos hbeat]
      refine .beats s _ o rfl hsession rfl hbeat ?_ (hresends.append htold)
      split <;> exact ⟨rfl, rfl, rfl, rfl⟩
    · rw [if_neg hbeat, if_neg hbeat, List.append_nil]
      refine .goesOn s _ hsession rfl ?_ (fun _ => ?_) (fun h => by cases h) hresends
      · split <;> exact ⟨rfl, rfl, rfl, rfl⟩
      · cases hdue : heartbeatDue t.config s now with
        | nothing => rfl
        | again => exact absurd hdue hbeat
        | giveUp => exact absurd (Or.inr hdue) hgoes

theorem onTimers_standing (hrequesting : t.Requesting) :
    Standing now .timers looked t (t.onTimers now).1 (t.onTimers now).2 := by
  cases hsession : t.session? with
  | none =>
    rw [onTimers_of_away hsession]
    split
    · exact .apart hsession rfl .nil
    · rename_i hdue
      obtain ⟨o, -, -, htold⟩ := requestChannel_told t now
      exact .asks o rfl hsession (Nat.le_of_not_lt hdue) rfl htold
  | some s =>
    have hlink := session?_eq_some_iff.1 hsession
    have htimers : t.onTimers now = t.onSessionTimers s now := by rw [onTimers, hlink]
    rw [htimers]
    exact onSessionTimers_standing hlink hrequesting

/-! ### All parts -/

theorem sendNext_standing :
    Standing now .next looked t (t.sendNext now).1 (t.sendNext now).2 := by
  have hsilent : Doing.next = .look → ∀ s p, t.session? = some s → looked = some p →
      ¬ p.Affirms s.channel := fun h => by cases h
  unfold sendNext
  split
  · rename_i s frame rest hlink _
    have hsession := session?_eq_some_iff.2 hlink
    split
    · exact .calm rfl (by decide) hsilent .nil
    · split
      · exact .calm rfl (by decide) hsilent .nil
      · exact .goesOn s _ hsession rfl ⟨rfl, rfl, rfl, rfl⟩ (fun h => by cases h)
          (fun h => by cases h) ⟨rfl, rfl, rfl⟩
  · split
    · exact .calm rfl (by decide) hsilent .nil
    · exact .calm rfl (by decide) hsilent .nil
  · exact .calm rfl (by decide) hsilent .nil

/-- **Whatever a client does**, for where it stands with its gateway it is one of these nine
things. -/
theorem perform_standing (hrequesting : t.Requesting) (d : Doing) :
    Standing now d (d.rest t).1 t (t.perform (d.act now)).1 (t.perform (d.act now)).2 := by
  cases d with
  | send frame => exact .calm rfl (by simp) (fun h => by cases h) .nil
  | attend inbox mode => exact .calm rfl (by simp) (fun h => by cases h) .nil
  | timers => exact onTimers_standing hrequesting
  | next => exact sendNext_standing
  | look =>
    cases hfront : t.received with
    | nil =>
      have hrest : (Doing.rest .look t).1 = none := by
        rw [Doing.rest, hfront]
        rfl
      simp only [Doing.act, perform_look_nil hfront, hrest]
      exact .calm rfl (by decide) (fun _ s p _ h => by cases h) .nil
    | cons p later =>
      have hrest : (Doing.rest .look t).1 = some p.packet := by
        rw [Doing.rest, hfront]
        rfl
      simp only [Doing.act, perform_look_cons hfront, hrest]
      exact (onPacket_standing p).of_withReceived

theorem finish_requesting (h : t.Requesting) : t.finish.1.Requesting := by
  intro s hs q hq
  unfold finish at hs
  simp only at hs
  split at hs
  · cases session?_eq_some_iff.1 hs
    cases hq
  · exact h s hs q hq

/-- A client that ends gives up the channel of its session, if it has one. -/
theorem finish_ends (hsession : t.session? = some s) :
    ∃ o, o.packet.Closes s.channel ∧ o.destination = t.gateway ∧ Told [] [] [o] t.finish.2 := by
  have hfinish : t.finish.2 = t.disconnectRequest s.channel := by
    rw [finish, session?_eq_some_iff.1 hsession]
  rw [hfinish]
  exact ending_told t s.channel

theorem finish_of_away (hsession : t.session? = none) : t.finish.2 = [] := by
  unfold finish
  simp only
  split
  · rename_i s hlink
    rw [session?_eq_some_iff.2 hlink] at hsession
    cases hsession
  · rfl

end
end Tunnel
end KnxBus
