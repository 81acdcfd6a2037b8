import KnxBus.Proofs.Tunnel.Loop

/-!
# How a client sends

For the frames that a client is given, a part of a turn can do one of eight things
(`Tunnel.Course`).  There is no session before and after; a session begins or ends; it goes on
without a move; the outstanding frame is sent once more or acknowledged; the next frame is sent, or
dropped since it cannot be written.  A frame leaves the queue in the last two cases only, and
requests are sent only where the client sends the outstanding frame.  All that is said about the
frames of a client over all its sessions follows from this one list.

Whatever a client does, it stays at its place and keeps its gateway and its limits
(`Tunnel.SameSetup`).
-/

namespace KnxBus
namespace Tunnel

/-! ## What a part of a turn does to the frames -/

/-- The requests that carry frames, among datagrams. -/
def requestsAmong (sent : List Outgoing) : List Outgoing :=
  sent.filter fun o => o.packet.service = .tunnelRequest

@[simp] theorem requestsAmong_nil : requestsAmong [] = [] := rfl

@[simp] theorem requestsAmong_append (a b : List Outgoing) :
    requestsAmong (a ++ b) = requestsAmong a ++ requestsAmong b :=
  List.filter_append a b

theorem requestsAmong_asides {sent : List Outgoing} (h : ∀ o ∈ sent, o.IsAside) :
    requestsAmong sent = [] :=
  List.filter_eq_nil_iff.2 fun o ho heq => (h o ho).2.1 (of_decide_eq_true heq)

/-- A session is on the same channel, and its next frame has the same number. -/
structure SameNumber (s s' : TunnelSession) : Prop where
  channel_eq : s'.channel = s.channel
  data_eq : s'.data = s.data
  sendNo_eq : s'.sendNo = s.sendNo

theorem SameNumber.refl (s : TunnelSession) : SameNumber s s := ⟨rfl, rfl, rfl⟩

/-- What a client does to the frames that it was given, when it may be looking at a datagram. -/
inductive Course (looked : Option Packet) (t t' : Tunnel) (sent : List Outgoing) : Prop where
  /-- There is no session. -/
  | apart (before : t.session? = none) (after : t'.session? = none)
      (outbox_eq : t'.outbox = t.outbox) (connected_eq : t'.isConnected = t.isConnected)
      (inFlight_eq : t'.inFlight = t.inFlight) (quiet : requestsAmong sent = [])
  /-- A session begins. -/
  | opened (s' : TunnelSession) (before : t.session? = none) (after : t'.session? = some s')
      (sendNo_eq : s'.sendNo = 0) (pending_eq : s'.pending = none)
      (outbox_eq : t'.outbox = t.outbox) (connected : t'.isConnected = true)
      (inFlight_eq : t'.inFlight = t.inFlight) (quiet : requestsAmong sent = [])
  /-- The session goes on, and its frames are where they were. -/
  | kept (s s' : TunnelSession) (before : t.session? = some s) (after : t'.session? = some s')
      (same : SameNumber s s') (pending_eq : s'.pending = s.pending)
      (outbox_eq : t'.outbox = t.outbox) (connected_eq : t'.isConnected = t.isConnected)
      (inFlight_eq : t'.inFlight = t.inFlight ∨ t'.inFlight = false ∧ s.pending = none)
      (quiet : requestsAmong sent = [])
  /-- The outstanding frame is sent once more. -/
  | resent (now : Nat) (s s' : TunnelSession) (p : PendingRequest) (asides : List Outgoing)
      (before : t.session? = some s) (after : t'.session? = some s') (same : SameNumber s s')
      (busy : s.pending = some p) (left : p.attempts < t.config.sendAttempts)
      (pending_eq : s'.pending = some { p with sentAt := now, attempts := p.attempts + 1 })
      (outbox_eq : t'.outbox = t.outbox) (connected_eq : t'.isConnected = t.isConnected)
      (inFlight_eq : t'.inFlight = t.inFlight)
      (sent_eq : sent = ⟨p.packet, s.data⟩ :: asides) (quiet : requestsAmong asides = [])
  /-- The client looks at the acknowledgement of the outstanding frame. -/
  | acknowledged (s s' : TunnelSession) (p : PendingRequest) (answer : Packet) (status : UInt8)
      (before : t.session? = some s) (after : t'.session? = some s')
      (looked_eq : looked = some answer)
      (reads : TunnelAck.ofPacket answer = .ok ⟨s.channel, s.sendNo, status⟩)
      (busy : s.pending = some p)
      (eq : s' = { s with sendNo := s.sendNo + 1, pending := none })
      (outbox_eq : t'.outbox = t.outbox) (connected_eq : t'.isConnected = t.isConnected)
      (inFlight_eq : t'.inFlight = false) (quiet : requestsAmong sent = [])
  /-- The next frame is sent. -/
  | posted (now : Nat) (s : TunnelSession) (frame : Frame) (rest : List Frame) (message : Octets)
      (before : t.session? = some s) (idle : s.pending = none) (queue : t.outbox = frame :: rest)
      (writes : (Cemi.mk .request frame).toOctets = .ok message)
      (after : t'.session? = some
        { s with pending := some ⟨(TunnelRequest.mk s.channel s.sendNo message).toPacket, now, 1⟩ })
      (outbox_eq : t'.outbox = rest) (connected_eq : t'.isConnected = t.isConnected)
      (inFlight_eq : t'.inFlight = true)
      (sent_eq : sent = [⟨(TunnelRequest.mk s.channel s.sendNo message).toPacket, s.data⟩])
  /-- The next frame cannot be written. -/
  | dropped (s : TunnelSession) (frame : Frame) (rest : List Frame) (cause : EncodeError)
      (before : t.session? = some s) (idle : s.pending = none) (queue : t.outbox = frame :: rest)
      (fails : (Cemi.mk .request frame).toOctets = .error cause) (after : t'.session? = some s)
      (outbox_eq : t'.outbox = rest) (connected_eq : t'.isConnected = t.isConnected)
      (inFlight_eq : t'.inFlight = false) (sent_eq : sent = [])
  /-- The session ends. -/
  | ended (s : TunnelSession) (before : t.session? = some s) (after : t'.session? = none)
      (outbox_eq : t'.outbox = t.outbox) (connected : t'.isConnected = false)
      (inFlight_eq : t'.inFlight = false) (quiet : requestsAmong sent = [])

section
variable {looked : Option Packet} {s : TunnelSession} {t t' : Tunnel} {sent : List Outgoing}

theorem session?_eq_some_iff : t.session? = some s ↔ t.link = .connected s := by
  unfold session?
  split
  · rename_i s' hlink
    rw [hlink]
    constructor
    · intro h
      cases h
      rfl
    · intro h
      cases h
      rfl
  · rename_i hnot
    constructor
    · intro h
      cases h
    · intro h
      exact absurd h (hnot s)

/-- Nothing happens. -/
theorem Course.same (hlink : t'.link = t.link) (houtbox : t'.outbox = t.outbox)
    (hconnected : t'.isConnected = t.isConnected) (hinFlight : t'.inFlight = t.inFlight)
    (hquiet : requestsAmong sent = []) : Course looked t t' sent := by
  have hsession : t'.session? = t.session? := by rw [session?, session?, hlink]
  cases hs : t.session? with
  | none => exact .apart hs (hsession.trans hs) houtbox hconnected hinFlight hquiet
  | some s =>
    exact .kept s s hs (hsession.trans hs) (SameNumber.refl s) rfl houtbox hconnected
      (Or.inl hinFlight) hquiet

theorem Course.refl (hquiet : requestsAmong sent = []) : Course looked t t sent :=
  .same rfl rfl rfl rfl hquiet

/-- It does not matter what else is waiting. -/
theorem Course.of_withReceived {packets : List Received}
    (h : Course looked (t.withReceived packets) t' sent) : Course looked t t' sent := by
  cases h with
  | apart before after outbox_eq connected_eq inFlight_eq quiet =>
    exact .apart before after outbox_eq connected_eq inFlight_eq quiet
  | opened s' before after sendNo_eq pending_eq outbox_eq connected inFlight_eq quiet =>
    exact .opened s' before after sendNo_eq pending_eq outbox_eq connected inFlight_eq quiet
  | kept s s' before after same pending_eq outbox_eq connected_eq inFlight_eq quiet =>
    exact .kept s s' before after same pending_eq outbox_eq connected_eq inFlight_eq quiet
  | resent now s s' p asides before after same busy left pending_eq outbox_eq connected_eq
      inFlight_eq sent_eq quiet =>
    exact .resent now s s' p asides before after same busy left pending_eq outbox_eq connected_eq
      inFlight_eq sent_eq quiet
  | acknowledged s s' p answer status before after looked_eq reads busy eq outbox_eq connected_eq
      inFlight_eq quiet =>
    exact .acknowledged s s' p answer status before after looked_eq reads busy eq outbox_eq
      connected_eq inFlight_eq quiet
  | posted now s frame rest message before idle queue writes after outbox_eq connected_eq
      inFlight_eq sent_eq =>
    exact .posted now s frame rest message before idle queue writes after outbox_eq connected_eq
      inFlight_eq sent_eq
  | dropped s frame rest cause before idle queue fails after outbox_eq connected_eq inFlight_eq
      sent_eq =>
    exact .dropped s frame rest cause before idle queue fails after outbox_eq connected_eq
      inFlight_eq sent_eq
  | ended s before after outbox_eq connected inFlight_eq quiet =>
    exact .ended s before after outbox_eq connected inFlight_eq quiet

/-! ### Datagrams -/

theorem onConnectResponse_course (now : Nat) (p : Packet) (sender : Endpoint) :
    Course looked t (t.onConnectResponse now p sender) [] := by
  unfold onConnectResponse
  split
  · rename_i deadline response hlink _
    have hnone : t.session? = none := by rw [session?, hlink]
    split
    · exact .apart hnone rfl rfl rfl rfl rfl
    · exact .opened _ hnone rfl rfl rfl rfl rfl rfl rfl
  · exact .refl rfl

theorem onStateResponse_course (p : Packet) : Course looked t (t.onStateResponse p) [] := by
  unfold onStateResponse
  split
  · rename_i s response hlink _
    split
    · exact .kept s _ (session?_eq_some_iff.2 hlink) rfl ⟨rfl, rfl, rfl⟩ rfl rfl rfl (Or.inl rfl)
        rfl
    · exact .refl rfl
  · exact .refl rfl

theorem onTunnelRequest_course (p : Packet) :
    Course looked t (t.onTunnelRequest p).1 (t.onTunnelRequest p).2 := by
  unfold onTunnelRequest
  split
  · rename_i s request hlink _
    split
    · exact .kept s _ (session?_eq_some_iff.2 hlink) rfl ⟨rfl, rfl, rfl⟩ rfl rfl rfl (Or.inl rfl)
        rfl
    · exact .refl rfl
  · exact .refl rfl

theorem onTunnelAck_course (p : Packet) : Course (some p) t (t.onTunnelAck p) [] := by
  unfold onTunnelAck
  split
  · rename_i s ack hlink hack
    split
    · rename_i hexpected
      obtain ⟨hchannel, hsequence, hpending⟩ := hexpected
      obtain ⟨q, hq⟩ := Option.isSome_iff_exists.1 hpending
      have hreads : TunnelAck.ofPacket p = .ok ⟨s.channel, s.sendNo, ack.status⟩ := by
        rw [hack, ← hchannel, ← hsequence]
      exact .acknowledged s _ q p ack.status (session?_eq_some_iff.2 hlink) rfl rfl hreads hq rfl
        rfl rfl rfl rfl
    · exact .refl rfl
  · exact .refl rfl

theorem onDisconnectRequest_course (now : Nat) (p : Packet) (sender : Endpoint) :
    Course looked t (t.onDisconnectRequest now p sender).1
      (t.onDisconnectRequest now p sender).2 := by
  unfold onDisconnectRequest
  split
  · rename_i s request hlink _
    split
    · exact .ended s (session?_eq_some_iff.2 hlink) rfl rfl rfl rfl rfl
    · exact .refl rfl
  · exact .refl rfl

theorem onPacket_course (now : Nat) (p : Received) :
    Course (some p.packet) t (t.onPacket now p).1 (t.onPacket now p).2 := by
  unfold onPacket
  split
  · exact onConnectResponse_course now p.packet p.sender
  · exact onStateResponse_course p.packet
  · exact onTunnelRequest_course p.packet
  · exact onTunnelAck_course p.packet
  · exact onDisconnectRequest_course now p.packet p.sender
  · exact .refl rfl

/-! ### Timers -/

theorem pendingDue_eq_again {config : TunnelConfig} {now : Nat}
    (h : pendingDue config s now = .again) :
    ∃ p, s.pending = some p ∧ p.attempts < config.sendAttempts := by
  unfold pendingDue at h
  split at h
  · cases h
  · rename_i p hp
    split at h
    · cases h
    · split at h
      · cases h
      · rename_i hleft
        exact ⟨p, hp, Nat.not_le.1 hleft⟩

/-- A heartbeat does not concern the frames. -/
theorem beaten_same (config : TunnelConfig) (now : Nat) (due : Due) :
    SameNumber s (if due = .again then beaten config s now else s) ∧
      (if due = .again then beaten config s now else s).pending = s.pending := by
  split
  · exact ⟨⟨rfl, rfl, rfl⟩, rfl⟩
  · exact ⟨SameNumber.refl s, rfl⟩

theorem onSessionTimers_course (hlink : t.link = .connected s) (now : Nat) :
    Course looked t (t.onSessionTimers s now).1 (t.onSessionTimers s now).2 := by
  have hsession := session?_eq_some_iff.2 hlink
  have hbeat : ∀ due : Due,
      requestsAmong (if due = .again then t.heartbeat s.channel else []) = [] := by
    intro due
    split
    · exact requestsAmong_asides (heartbeat_asides t s.channel)
    · rfl
  unfold onSessionTimers
  simp only
  split
  · exact .ended s hsession rfl rfl rfl rfl
      (requestsAmong_asides (disconnectRequest_asides t s.channel))
  · by_cases hagain : pendingDue t.config s now = .again
    · obtain ⟨p, hp, hleft⟩ := pendingDue_eq_again hagain
      obtain ⟨hsame, hpending⟩ :=
        beaten_same (s := resent s now) t.config now (heartbeatDue t.config s now)
      have hresent : (resent s now).pending =
          some { p with sentAt := now, attempts := p.attempts + 1 } := by
        rw [resent, hp]
        rfl
      simp only [if_pos hagain]
      refine .resent now s _ p _ hsession rfl ⟨hsame.channel_eq, hsame.data_eq, hsame.sendNo_eq⟩ hp
        hleft (hpending.trans hresent) rfl rfl rfl ?_ (hbeat (heartbeatDue t.config s now))
      rw [hp]
      rfl
    · obtain ⟨hsame, hpending⟩ :=
        beaten_same (s := s) t.config now (heartbeatDue t.config s now)
      simp only [if_neg hagain, List.nil_append]
      exact .kept s _ hsession rfl hsame hpending rfl rfl (Or.inl rfl) (hbeat _)

theorem requestChannel_asides (t : Tunnel) (now : Nat) :
    ∀ o ∈ (t.requestChannel now).2, o.IsAside := by
  unfold requestChannel ConnectRequest.toPacket
  simp only
  exact Outgoing.ofBuilt_asides (by decide) _ _ _

theorem onTimers_course (now : Nat) : Course looked t (t.onTimers now).1 (t.onTimers now).2 := by
  have hask : t.session? = none →
      Course looked t (t.requestChannel now).1 (t.requestChannel now).2 :=
    fun hnone => .apart hnone rfl rfl rfl rfl (requestsAmong_asides (requestChannel_asides t now))
  unfold onTimers
  split
  · rename_i time hlink
    split
    · exact .refl rfl
    · exact hask (by rw [session?, hlink])
  · rename_i time hlink
    split
    · exact .refl rfl
    · exact hask (by rw [session?, hlink])
  · rename_i s hlink
    exact onSessionTimers_course hlink now

/-! ### The next frame -/

theorem sendNext_course (now : Nat) : Course looked t (t.sendNext now).1 (t.sendNext now).2 := by
  unfold sendNext
  split
  · rename_i s frame rest hlink hqueue
    have hsession := session?_eq_some_iff.2 hlink
    split
    · exact .refl rfl
    · rename_i hidle
      rw [Bool.not_eq_true, Option.isSome_eq_false_iff, Option.isNone_iff_eq_none] at hidle
      split
      · rename_i cause hfails
        exact .dropped s frame rest cause hsession hidle hqueue hfails hsession rfl rfl rfl rfl
      · rename_i message hwrites
        exact .posted now s frame rest message hsession hidle hqueue hwrites rfl rfl rfl rfl rfl
  · rename_i s hlink hqueue
    have hsession := session?_eq_some_iff.2 hlink
    split
    · exact .refl rfl
    · rename_i hidle
      rw [Bool.not_eq_true, Option.isSome_eq_false_iff, Option.isNone_iff_eq_none] at hidle
      exact .kept s s hsession hsession (SameNumber.refl s) rfl rfl rfl (Or.inr ⟨rfl, hidle⟩) rfl
  · exact .refl rfl

/-! ### All parts -/

/-- The datagram that a client looks at. -/
def lookedAt (a : Act) (t : Tunnel) : Option Packet :=
  match a with
  | .look _ => t.received.head?.map (·.packet)
  | _ => none

/-- **Whatever a client does in a turn**, for the frames that it was given it is one of these eight
things. -/
theorem perform_course {a : Act} (hsend : ∀ frame, a ≠ .send frame) (hends : a.ends = false)
    (t : Tunnel) : Course (lookedAt a t) t (t.perform a).1 (t.perform a).2 := by
  cases a with
  | send frame => exact absurd rfl (hsend frame)
  | finish => cases hends
  | attend inbox mode => exact .same rfl rfl rfl rfl rfl
  | look now =>
    cases hfront : t.received with
    | nil =>
      rw [perform_look_nil hfront]
      exact .refl rfl
    | cons p later =>
      have hlooked : lookedAt (.look now) t = some p.packet := by
        rw [lookedAt, hfront]
        rfl
      rw [perform_look_cons hfront, hlooked]
      exact (onPacket_course now p).of_withReceived
  | timers now => exact onTimers_course now
  | next now => exact sendNext_course now

/-- A client stays as it was set up. -/
structure SameSetup (t t' : Tunnel) : Prop where
  config_eq : t'.config = t.config
  own_eq : t'.own = t.own
  gateway_eq : t'.gateway = t.gateway

theorem SameSetup.refl (t : Tunnel) : SameSetup t t := ⟨rfl, rfl, rfl⟩

theorem onPacket_setup (now : Nat) (p : Received) (t : Tunnel) :
    SameSetup t (t.onPacket now p).1 := by
  unfold onPacket
  split
  · unfold onConnectResponse
    simp only
    split
    · split <;> exact ⟨rfl, rfl, rfl⟩
    · exact .refl t
  · unfold onStateResponse
    simp only
    split
    · split <;> exact ⟨rfl, rfl, rfl⟩
    · exact .refl t
  · unfold onTunnelRequest
    split
    · split <;> exact ⟨rfl, rfl, rfl⟩
    · exact .refl t
  · unfold onTunnelAck
    simp only
    split
    · split <;> exact ⟨rfl, rfl, rfl⟩
    · exact .refl t
  · unfold onDisconnectRequest
    split
    · split <;> exact ⟨rfl, rfl, rfl⟩
    · exact .refl t
  · exact .refl t

theorem onTimers_setup (now : Nat) (t : Tunnel) : SameSetup t (t.onTimers now).1 := by
  unfold onTimers
  split
  · split <;> exact ⟨rfl, rfl, rfl⟩
  · split <;> exact ⟨rfl, rfl, rfl⟩
  · unfold onSessionTimers
    simp only
    split <;> exact ⟨rfl, rfl, rfl⟩

theorem sendNext_setup (now : Nat) (t : Tunnel) : SameSetup t (t.sendNext now).1 := by
  unfold sendNext
  split
  · split
    · exact .refl t
    · split <;> exact ⟨rfl, rfl, rfl⟩
  · split <;> exact ⟨rfl, rfl, rfl⟩
  · exact .refl t

/-- Whatever a client does, it stays as it was set up. -/
theorem perform_setup (a : Act) (t : Tunnel) : SameSetup t (t.perform a).1 := by
  cases a with
  | send frame => exact ⟨rfl, rfl, rfl⟩
  | attend inbox mode => exact ⟨rfl, rfl, rfl⟩
  | look now =>
    unfold perform
    simp only
    split
    · exact .refl t
    · rename_i p later _
      obtain ⟨hconfig, hown, hgateway⟩ := onPacket_setup now p { t with received := later }
      exact ⟨hconfig, hown, hgateway⟩
  | timers now => exact onTimers_setup now t
  | next now => exact sendNext_setup now t
  | finish =>
    unfold perform finish
    simp only
    split <;> exact ⟨rfl, rfl, rfl⟩

end

/-! ## Beginnings -/

/-- A client that has just been opened. -/
def fresh (own gateway : Endpoint) (config : TunnelConfig) (now : Nat) : Tunnel :=
  { config := config
    gateway := gateway
    own := own
    socket := .bound own.port (.peers [.v4 gateway])
    link := .disconnected now
    received := []
    outbox := []
    inbox := []
    mode := .off
    address := .unset
    isConnected := false
    lastChannel := 0
    inFlight := false }

theorem eq_fresh_of_connect {host : Host} {inUse : List UInt16} {gateway : Endpoint}
    {config : TunnelConfig} {now : Nat} {t : Tunnel}
    (h : connect host inUse gateway config now = .ok t) :
    ∃ own, t = fresh own gateway config now := by
  unfold connect at h
  cases hport : UdpSocket.claim inUse config.localPort with
  | error cause =>
    rw [hport] at h
    cases h
  | ok port =>
    rw [hport] at h
    cases hsource : host.sourceFor? gateway.ip with
    | none =>
      rw [hsource] at h
      cases h
    | some source =>
      rw [hsource] at h
      cases h
      exact ⟨⟨source, port⟩, rfl⟩

end Tunnel
end KnxBus
