import KnxBus.Proofs.Handshake
import KnxBus.Proofs.Tunnel.Sending

/-!
# How long a client believes to have a channel

A client believes to have a channel while it has a session.  For that a part of a turn can do one of
six things (`Tunnel.Stay`).  There is no session before and after; one begins with a grant; it goes
on as it is; the gateway has affirmed it; a heartbeat is sent; or it ends, and the gateway may be
told.

## The patience of a client

A session does not last for ever without an answer.  If no heartbeat is outstanding, the next one
follows in time and may stay unanswered as often as the client allows; if some are outstanding, only
the others are left.  The time at which the session ends at the latest (`lastsUntil`) is therefore
known at any time.  Sending a heartbeat does not move it.  A grant and an answer do, to a time that
is bounded by the interval and the patience of the client.
-/

namespace KnxBus

/-- How long a client goes on without an answer, counted from its next heartbeat. -/
def TunnelConfig.patience (config : TunnelConfig) : Nat :=
  config.heartbeatFailures * config.heartbeatTimeout

/-- The client gives up before a channel of a gateway is over that was affirmed last. -/
structure TunnelConfig.Outlasted (config : TunnelConfig) (channelTimeout : Nat) : Prop where
  /-- The client does give up. -/
  gives_up : 1 ≤ config.heartbeatFailures
  /-- The channel lasts longer than the client believes in it. -/
  lasts : config.heartbeatInterval + config.patience < channelTimeout

instance (config : TunnelConfig) (channelTimeout : Nat) :
    Decidable (config.Outlasted channelTimeout) :=
  decidable_of_iff (1 ≤ config.heartbeatFailures ∧
    config.heartbeatInterval + config.patience < channelTimeout)
    ⟨fun h => ⟨h.1, h.2⟩, fun h => ⟨h.1, h.2⟩⟩

namespace TunnelSession

/-- When the session ends at the latest if nothing is heard from the gateway. -/
def lastsUntil (config : TunnelConfig) (s : TunnelSession) (now : Nat) : Nat :=
  match s.heartbeatDeadline with
  | some deadline =>
    max deadline now + (config.heartbeatFailures - 1 - s.failures) * config.heartbeatTimeout
  | none => max s.heartbeatAt now + config.patience

/-- The timers of a session are in order. -/
structure Timed (config : TunnelConfig) (s : TunnelSession) (now : Nat) : Prop where
  /-- The next heartbeat is due after an interval at the latest. -/
  soon : s.heartbeatAt ≤ now + config.heartbeatInterval
  /-- No failures are counted if no heartbeat is outstanding. -/
  fresh : s.heartbeatDeadline = none → s.failures = 0

/-- The heartbeats of two sessions are the same. -/
structure SameBeat (s s' : TunnelSession) : Prop where
  channel_eq : s'.channel = s.channel
  heartbeatAt_eq : s'.heartbeatAt = s.heartbeatAt
  heartbeatDeadline_eq : s'.heartbeatDeadline = s.heartbeatDeadline
  failures_eq : s'.failures = s.failures

variable {config : TunnelConfig} {s s' : TunnelSession} {now : Nat}

theorem SameBeat.refl (s : TunnelSession) : SameBeat s s := ⟨rfl, rfl, rfl, rfl⟩

theorem SameBeat.lastsUntil_eq (h : SameBeat s s') :
    s'.lastsUntil config now = s.lastsUntil config now := by
  rw [lastsUntil, lastsUntil, h.heartbeatAt_eq, h.heartbeatDeadline_eq, h.failures_eq]

theorem SameBeat.timed (h : SameBeat s s') (htimed : s.Timed config now) : s'.Timed config now :=
  ⟨h.heartbeatAt_eq ▸ htimed.soon, by
    rw [h.heartbeatDeadline_eq, h.failures_eq]
    exact htimed.fresh⟩

theorem le_lastsUntil (config : TunnelConfig) (s : TunnelSession) (now : Nat) :
    now ≤ s.lastsUntil config now := by
  unfold lastsUntil
  split
  · exact Nat.le_trans (Nat.le_max_right _ _) (Nat.le_add_right _ _)
  · exact Nat.le_trans (Nat.le_max_right _ _) (Nat.le_add_right _ _)

/-- Without an outstanding heartbeat a session lasts for an interval and the patience of the client
at most. -/
theorem lastsUntil_of_none (h : s.heartbeatDeadline = none)
    (hsoon : s.heartbeatAt ≤ now + config.heartbeatInterval) :
    s.lastsUntil config now ≤ now + (config.heartbeatInterval + config.patience) := by
  rw [lastsUntil, h]
  simp only
  omega

/-- A heartbeat does not prolong a session. -/
theorem lastsUntil_beaten (hgives : 1 ≤ config.heartbeatFailures) (htimed : s.Timed config now)
    (hdue : Tunnel.heartbeatDue config s now = .again) :
    (Tunnel.beaten config s now).lastsUntil config now ≤ s.lastsUntil config now := by
  cases hdeadline : s.heartbeatDeadline with
  | none =>
    -- the first heartbeat: what it takes to wait for its answer is a part of the patience
    have hpatience : config.heartbeatTimeout +
        (config.heartbeatFailures - 1) * config.heartbeatTimeout = config.patience := by
      rw [TunnelConfig.patience, Nat.add_comm, ← Nat.succ_mul]
      congr 1
      omega
    simp only [lastsUntil, Tunnel.beaten, hdeadline, Option.isSome_none, Bool.false_eq_true,
      if_false, htimed.fresh hdeadline, Nat.sub_zero]
    omega
  | some deadline =>
    rw [Tunnel.heartbeatDue, hdeadline] at hdue
    simp only at hdue
    split at hdue
    · cases hdue
    · split at hdue
      · cases hdue
      · rename_i hleft
        -- one of the heartbeats that are left is used up
        have hone : config.heartbeatTimeout +
            (config.heartbeatFailures - 1 - (s.failures + 1)) * config.heartbeatTimeout =
              (config.heartbeatFailures - 1 - s.failures) * config.heartbeatTimeout := by
          rw [Nat.add_comm, ← Nat.succ_mul]
          congr 1
          omega
        simp only [lastsUntil, Tunnel.beaten, hdeadline, Option.isSome_some, if_true]
        omega

/-- Time passes while no heartbeat is due. -/
theorem lastsUntil_succ (hquiet : Tunnel.heartbeatDue config s now = .nothing) :
    s.lastsUntil config (now + 1) = s.lastsUntil config now := by
  unfold Tunnel.heartbeatDue at hquiet
  unfold lastsUntil
  cases hdeadline : s.heartbeatDeadline with
  | none =>
    rw [hdeadline] at hquiet
    simp only at hquiet ⊢
    split at hquiet
    · omega
    · cases hquiet
  | some deadline =>
    rw [hdeadline] at hquiet
    simp only at hquiet ⊢
    split at hquiet
    · omega
    · split at hquiet <;> cases hquiet

theorem timed_beaten (now : Nat) : (Tunnel.beaten config s now).Timed config now :=
  ⟨Nat.le_refl _, fun h => by cases h⟩

theorem Timed.succ (h : s.Timed config now) : s.Timed config (now + 1) :=
  ⟨Nat.le_trans h.soon (by omega), h.fresh⟩

end TunnelSession

namespace Tunnel

/-- The datagrams arrive as they are sent, and none of them closes a channel. -/
def Mild (sent : List Outgoing) : Prop :=
  ∀ o ∈ sent, o.packet.IsCanonical ∧ ∀ id, ¬ o.packet.Closes id

/-- What a part of a turn does to what a client believes to have, when it may be looking at a
datagram. -/
inductive Stay (now : Nat) (looked : Option Packet) (t t' : Tunnel) (sent : List Outgoing) :
    Prop where
  /-- There is no session. -/
  | away (before : t.session? = none) (after : t'.session? = none)
      (shown : t'.channel? = t.channel?) (mild : Mild sent)
  /-- A session begins with a grant. -/
  | granted (s' : TunnelSession) (p : Packet) (before : t.session? = none)
      (after : t'.session? = some s') (looked_eq : looked = some p) (grants : p.Grants s'.channel)
      (heartbeatAt_eq : s'.heartbeatAt = now + t.config.heartbeatInterval)
      (heartbeatDeadline_eq : s'.heartbeatDeadline = none) (failures_eq : s'.failures = 0)
      (shown : t'.channel? = some s'.channel) (mild : Mild sent)
  /-- The session goes on as it is. -/
  | same (s s' : TunnelSession) (before : t.session? = some s) (after : t'.session? = some s')
      (same : s.SameBeat s') (shown : t'.channel? = t.channel?) (mild : Mild sent)
  /-- The gateway has affirmed it. -/
  | affirmed (s : TunnelSession) (p : Packet) (before : t.session? = some s)
      (after : t'.session? = some { s with failures := 0, heartbeatDeadline := none })
      (looked_eq : looked = some p) (affirms : p.Affirms s.channel)
      (shown : t'.channel? = t.channel?) (mild : Mild sent)
  /-- A heartbeat is sent. -/
  | beaten (s s' : TunnelSession) (before : t.session? = some s) (after : t'.session? = some s')
      (due : heartbeatDue t.config s now = .again)
      (beat : (Tunnel.beaten t.config s now).SameBeat s') (shown : t'.channel? = t.channel?)
      (mild : Mild sent)
  /-- The session ends, and the gateway may be told. -/
  | left (s : TunnelSession) (before : t.session? = some s) (after : t'.session? = none)
      (shown : t'.channel? = none)
      (told : Mild sent ∨ ∃ o, sent = [o] ∧ o.packet.IsCanonical ∧
        ∀ id, o.packet.Closes id → id = s.channel)

section
variable {now : Nat} {looked : Option Packet} {s : TunnelSession} {t t' : Tunnel}
  {sent : List Outgoing}

theorem mild_nil : Mild [] := fun _ ho => absurd ho List.not_mem_nil

/-- A message of another service closes nothing. -/
theorem mild_singleton {o : Outgoing} (hcloses : o.packet.service ≠ .disconnectRequest)
    (hcanonical : o.packet.IsCanonical) : Mild [o] := by
  intro o' ho
  rw [List.mem_singleton.1 ho]
  exact ⟨hcanonical, fun _ => Packet.not_closes_of_service hcloses⟩

theorem mild_ofBuilt {service : Service} (hcloses : service ≠ .disconnectRequest)
    (hcanonical : Service.ofWord service.word = service) (target : Endpoint) (body : Encoding)
    (length : Nat) : Mild (Outgoing.ofBuilt target (Packet.build service body length)) := by
  cases hp : Packet.build service body length with
  | error cause => exact mild_nil
  | ok p =>
    obtain ⟨hservice, -, -⟩ := Packet.build_eq_ok_iff.1 hp
    exact mild_singleton (fun h => hcloses (hservice.symm.trans h))
      (by rw [Packet.IsCanonical, hservice]; exact hcanonical)

theorem Mild.append {sent' : List Outgoing} (h : Mild sent) (h' : Mild sent') :
    Mild (sent ++ sent') := fun o ho => (List.mem_append.1 ho).elim (h o) (h' o)

/-- Nothing happens to the session. -/
theorem Stay.calm (hlink : t'.link = t.link) (hshown : t'.channel? = t.channel?)
    (hmild : Mild sent) : Stay now looked t t' sent := by
  have hsession : t'.session? = t.session? := by rw [session?, session?, hlink]
  cases hs : t.session? with
  | none => exact .away hs (hsession.trans hs) hshown hmild
  | some s => exact .same s s hs (hsession.trans hs) (.refl s) hshown hmild

/-! ### Datagrams -/

theorem onConnectResponse_stay (p : Packet) (sender : Endpoint) :
    Stay now (some p) t (t.onConnectResponse now p sender) [] := by
  unfold onConnectResponse
  split
  · rename_i deadline response hlink hreads
    have hnone : t.session? = none := by rw [session?, hlink]
    split
    · exact .away hnone rfl rfl mild_nil
    · rename_i hok
      have hgrants := ConnectResponse.grants_of_ofPacket hreads (Decidable.not_not.1 hok)
      exact .granted _ p hnone rfl rfl hgrants rfl rfl rfl rfl mild_nil
  · exact .calm rfl rfl mild_nil

theorem onStateResponse_stay (p : Packet) : Stay now (some p) t (t.onStateResponse p) [] := by
  unfold onStateResponse
  split
  · rename_i s response hlink hreads
    split
    · rename_i hgood
      have haffirms := ChannelResponse.affirms_of_ofPacket hreads hgood.2
      rw [hgood.1] at haffirms
      exact .affirmed s p (session?_eq_some_iff.2 hlink) rfl rfl haffirms rfl mild_nil
    · exact .calm rfl rfl mild_nil
  · exact .calm rfl rfl mild_nil

theorem onTunnelRequest_stay (p : Packet) :
    Stay now looked t (t.onTunnelRequest p).1 (t.onTunnelRequest p).2 := by
  unfold onTunnelRequest
  split
  · rename_i s request hlink _
    split
    · refine .same s _ (session?_eq_some_iff.2 hlink) rfl ⟨rfl, rfl, rfl, rfl⟩ rfl ?_
      exact mild_singleton (fun h => by cases h) rfl
    · exact .calm rfl rfl mild_nil
  · exact .calm rfl rfl mild_nil

theorem onTunnelAck_stay (p : Packet) : Stay now looked t (t.onTunnelAck p) [] := by
  unfold onTunnelAck
  split
  · rename_i s ack hlink _
    split
    · exact .same s _ (session?_eq_some_iff.2 hlink) rfl ⟨rfl, rfl, rfl, rfl⟩ rfl mild_nil
    · exact .calm rfl rfl mild_nil
  · exact .calm rfl rfl mild_nil

theorem onDisconnectRequest_stay (p : Packet) (sender : Endpoint) :
    Stay now looked t (t.onDisconnectRequest now p sender).1
      (t.onDisconnectRequest now p sender).2 := by
  unfold onDisconnectRequest
  split
  · rename_i s request hlink _
    split
    · refine .left s (session?_eq_some_iff.2 hlink) rfl rfl (Or.inl ?_)
      exact mild_singleton (fun h => by cases h) rfl
    · exact .calm rfl rfl mild_nil
  · exact .calm rfl rfl mild_nil

theorem onPacket_stay (p : Received) :
    Stay now (some p.packet) t (t.onPacket now p).1 (t.onPacket now p).2 := by
  unfold onPacket
  split
  · exact onConnectResponse_stay p.packet p.sender
  · exact onStateResponse_stay p.packet
  · exact onTunnelRequest_stay p.packet
  · exact onTunnelAck_stay p.packet
  · exact onDisconnectRequest_stay p.packet p.sender
  · exact .calm rfl rfl mild_nil

/-! ### Timers -/

/-- Who gives a channel up closes that channel, and no other. -/
theorem disconnectRequest_told (t : Tunnel) (channel : UInt8) :
    Mild (t.disconnectRequest channel) ∨ ∃ o, t.disconnectRequest channel = [o] ∧
      o.packet.IsCanonical ∧ ∀ id, o.packet.Closes id → id = channel := by
  unfold disconnectRequest
  cases hp : (ChannelRequest.mk channel t.own).toPacket .disconnectRequest with
  | error cause => exact Or.inl mild_nil
  | ok p =>
    obtain ⟨hservice, hbody⟩ := ChannelRequest.body_of_toPacket hp
    refine Or.inr ⟨_, rfl, by rw [Packet.IsCanonical, hservice]; rfl, fun id hcloses => ?_⟩
    exact Packet.Closes.id_eq ⟨hservice, hbody⟩ hcloses

/-- The outstanding frame of a client is a request. -/
def Requesting (t : Tunnel) : Prop :=
  ∀ s, t.session? = some s → ∀ q, s.pending = some q → q.packet.service = .tunnelRequest

theorem onSessionTimers_stay (hlink : t.link = .connected s) (hrequesting : t.Requesting) :
    Stay now looked t (t.onSessionTimers s now).1 (t.onSessionTimers s now).2 := by
  have hsession := session?_eq_some_iff.2 hlink
  unfold onSessionTimers
  simp only
  split
  · exact .left s hsession rfl rfl (disconnectRequest_told t s.channel)
  · have hmild : Mild ((if pendingDue t.config s now = .again then
          s.pending.toList.map fun p => ⟨p.packet, s.data⟩ else []) ++
        if heartbeatDue t.config s now = .again then t.heartbeat s.channel else []) := by
      refine Mild.append ?_ ?_
      · split
        · cases hp : s.pending with
          | none => exact mild_nil
          | some q =>
            have hservice := hrequesting s hsession q hp
            exact mild_singleton (fun h => by rw [hservice] at h; cases h)
              (by rw [Packet.IsCanonical, hservice]; rfl)
        · exact mild_nil
      · split
        · exact mild_ofBuilt (by decide) rfl _ _ _
        · exact mild_nil
    by_cases hbeat : heartbeatDue t.config s now = .again
    · refine .beaten s _ hsession rfl hbeat ?_ rfl hmild
      rw [if_pos hbeat]
      split <;> exact ⟨rfl, rfl, rfl, rfl⟩
    · refine .same s _ hsession rfl ?_ rfl hmild
      rw [if_neg hbeat]
      split <;> exact ⟨rfl, rfl, rfl, rfl⟩

theorem requestChannel_mild (t : Tunnel) (now : Nat) : Mild (t.requestChannel now).2 := by
  unfold requestChannel ConnectRequest.toPacket
  simp only
  exact mild_ofBuilt (by decide) rfl _ _ _

theorem onTimers_stay (hrequesting : t.Requesting) :
    Stay now looked t (t.onTimers now).1 (t.onTimers now).2 := by
  have hask : t.session? = none →
      Stay now looked t (t.requestChannel now).1 (t.requestChannel now).2 :=
    fun hnone => .away hnone rfl rfl (requestChannel_mild t now)
  unfold onTimers
  split
  · rename_i time hlink
    split
    · exact .calm rfl rfl mild_nil
    · exact hask (by rw [session?, hlink])
  · rename_i time hlink
    split
    · exact .calm rfl rfl mild_nil
    · exact hask (by rw [session?, hlink])
  · rename_i s hlink
    exact onSessionTimers_stay hlink hrequesting

theorem sendNext_stay : Stay now looked t (t.sendNext now).1 (t.sendNext now).2 := by
  unfold sendNext
  split
  · rename_i s frame rest hlink _
    have hsession := session?_eq_some_iff.2 hlink
    split
    · exact .calm rfl rfl mild_nil
    · split
      · exact .calm rfl rfl mild_nil
      · exact .same s _ hsession rfl ⟨rfl, rfl, rfl, rfl⟩ rfl
          (mild_singleton (fun h => by cases h) rfl)
  · split
    · exact .calm rfl rfl mild_nil
    · exact .calm rfl rfl mild_nil
  · exact .calm rfl rfl mild_nil

/-! ### All parts -/

/-- What a client does at a time, other than to end. -/
inductive Doing where
  /-- It is given a frame. -/
  | send (frame : Frame)
  /-- Others take what was heard, or change what is reported. -/
  | attend (inbox : List Lpdu) (mode : MonitorMode)
  /-- It looks at a datagram. -/
  | look
  /-- It looks at its timers. -/
  | timers
  /-- It sends the next frame, if it can. -/
  | next
  deriving DecidableEq, Repr

/-- What is done, at a time. -/
def Doing.act (now : Nat) : Doing → Act
  | send frame => .send frame
  | attend inbox mode => .attend inbox mode
  | look => .look now
  | timers => .timers now
  | next => .next now

/-- The parts of a turn. -/
def turnDoings (t : Tunnel) : List Doing :=
  List.replicate t.received.length .look ++ [.timers, .next]

theorem map_turnDoings (t : Tunnel) (now : Nat) :
    t.turnDoings.map (Doing.act now) = t.turnActs now := by
  rw [turnDoings, List.map_append, List.map_replicate]
  rfl

/-- The datagram that is looked at, and those that wait behind it. -/
def Doing.rest (d : Doing) (t : Tunnel) : Option Packet × List Received :=
  match d with
  | look => frontOf t.received
  | _ => (none, t.received)

theorem Doing.rest_eq (d : Doing) (t : Tunnel) :
    (d.rest t).1.toList ++ (d.rest t).2.map (·.packet) = t.received.map (·.packet) := by
  cases d with
  | look => exact frontOf_eq t.received
  | send frame => rfl
  | attend inbox mode => rfl
  | timers => rfl
  | next => rfl

/-- It does not matter what else is waiting. -/
theorem Stay.of_withReceived {packets : List Received}
    (h : Stay now looked (t.withReceived packets) t' sent) : Stay now looked t t' sent := by
  cases h with
  | away before after shown mild => exact .away before after shown mild
  | granted s' p before after looked_eq grants heartbeatAt_eq heartbeatDeadline_eq failures_eq shown
      mild =>
    exact .granted s' p before after looked_eq grants heartbeatAt_eq heartbeatDeadline_eq
      failures_eq shown mild
  | same s s' before after same shown mild => exact .same s s' before after same shown mild
  | affirmed s p before after looked_eq affirms shown mild =>
    exact .affirmed s p before after looked_eq affirms shown mild
  | beaten s s' before after due beat shown mild =>
    exact .beaten s s' before after due beat shown mild
  | left s before after shown told => exact .left s before after shown told

theorem onTimers_received (t : Tunnel) (now : Nat) :
    (t.onTimers now).1.received = t.received := by
  unfold onTimers
  split
  · split <;> rfl
  · split <;> rfl
  · unfold onSessionTimers
    simp only
    split <;> rfl

theorem sendNext_received (t : Tunnel) (now : Nat) :
    (t.sendNext now).1.received = t.received := by
  unfold sendNext
  split
  · split
    · rfl
    · split <;> rfl
  · split <;> rfl
  · rfl

/-- **Whatever a client does**, for what it believes to have it is one of these six things, and it
looks at the datagrams that wait in their order. -/
theorem perform_stay (hrequesting : t.Requesting) (d : Doing) :
    Stay now (d.rest t).1 t (t.perform (d.act now)).1 (t.perform (d.act now)).2 ∧
      (t.perform (d.act now)).1.received = (d.rest t).2 := by
  cases d with
  | send frame => exact ⟨.calm rfl rfl mild_nil, rfl⟩
  | attend inbox mode => exact ⟨.calm rfl rfl mild_nil, rfl⟩
  | timers => exact ⟨onTimers_stay hrequesting, onTimers_received t now⟩
  | next => exact ⟨sendNext_stay, sendNext_received t now⟩
  | look =>
    cases hfront : t.received with
    | nil =>
      have hrest : Doing.rest .look t = (none, []) := by
        rw [Doing.rest, hfront]
        rfl
      simp only [Doing.act, perform_look_nil hfront, hrest]
      exact ⟨.calm rfl rfl mild_nil, hfront⟩
    | cons p later =>
      have hrest : Doing.rest .look t = (some p.packet, later) := by
        rw [Doing.rest, hfront]
        rfl
      simp only [Doing.act, perform_look_cons hfront, hrest]
      exact ⟨(onPacket_stay p).of_withReceived, by rw [onPacket_withReceived]; rfl⟩

/-- The outstanding frame stays a request. -/
theorem Course.requesting (h : Course looked t t' sent) (hrequesting : t.Requesting) :
    t'.Requesting := by
  intro s' hs' q hq
  cases h with
  | apart before after => rw [after] at hs'; cases hs'
  | ended s before after => rw [after] at hs'; cases hs'
  | opened s before after _ pending_eq =>
    rw [after] at hs'
    cases hs'
    rw [pending_eq] at hq
    cases hq
  | kept s s₁ before after same pending_eq =>
    rw [after] at hs'
    cases hs'
    rw [pending_eq] at hq
    exact hrequesting s before q hq
  | resent now s s₁ p asides before after same busy left pending_eq =>
    rw [after] at hs'
    cases hs'
    rw [pending_eq] at hq
    cases hq
    exact hrequesting s before p busy
  | acknowledged s s₁ p answer status before after looked_eq reads busy eq =>
    rw [after] at hs'
    cases hs'
    rw [eq] at hq
    cases hq
  | posted now s frame rest message before idle queue writes after =>
    rw [after] at hs'
    cases hs'
    cases hq
    rfl
  | dropped s frame rest cause before idle queue fails after =>
    rw [after] at hs'
    cases hs'
    exact hrequesting _ before q hq

theorem perform_requesting (hrequesting : t.Requesting) (d : Doing) :
    (t.perform (d.act now)).1.Requesting := by
  cases d with
  | send frame => exact hrequesting
  | attend inbox mode => exact hrequesting
  | look => exact (perform_course (fun _ h => by cases h) rfl t).requesting hrequesting
  | timers => exact (perform_course (fun _ h => by cases h) rfl t).requesting hrequesting
  | next => exact (perform_course (fun _ h => by cases h) rfl t).requesting hrequesting

end

/-- A client that ends tells the gateway at most that its channel is given up. -/
theorem finish_told (t : Tunnel) :
    Mild t.finish.2 ∨ ∃ s o, t.session? = some s ∧ t.finish.2 = [o] ∧ o.packet.IsCanonical ∧
      ∀ id, o.packet.Closes id → id = s.channel := by
  unfold finish
  simp only
  split
  · rename_i s hlink
    obtain hmild | ⟨o, ho, hcanonical, hcloses⟩ := disconnectRequest_told t s.channel
    · exact Or.inl hmild
    · exact Or.inr ⟨s, o, session?_eq_some_iff.2 hlink, ho, hcanonical, hcloses⟩
  · exact Or.inl mild_nil

/-! ## What a client lays claim to

A client lays claim to the channel of its session, and to every channel whose grant it has not
looked at yet.  Claims come from the gateway only.  What a client does turns one claim into another,
gives it up, or turns it into a message that closes the channel (`Stay.claims_le`).
-/

/-- How often a client lays claim to a channel. -/
def claims (id : UInt8) (t : Tunnel) : Nat :=
  Packet.grantsAmong id (t.received.map (·.packet)) +
    if t.session?.map (·.channel) = some id then 1 else 0

section
variable {id : UInt8} {s : TunnelSession} {t t' : Tunnel} {sent : List Outgoing}

theorem claims_pos_of_session (h : t.session? = some s) : 0 < t.claims s.channel := by
  rw [claims, h, Option.map_some, if_pos rfl]
  exact Nat.succ_pos _

theorem claims_pos_of_grant {p : Packet} (hp : p ∈ t.received.map (·.packet))
    (h : p.Grants id) : 0 < t.claims id :=
  Nat.lt_of_lt_of_le (Packet.grantsAmong_pos_iff.2 ⟨p, hp, h⟩) (Nat.le_add_right _ _)

/-- A claim is a grant or a session. -/
theorem of_claims_pos (h : 0 < t.claims id) :
    (∃ p ∈ t.received.map (·.packet), p.Grants id) ∨ ∃ s, t.session? = some s ∧ s.channel = id := by
  by_cases hgrants : 0 < Packet.grantsAmong id (t.received.map (·.packet))
  · exact Or.inl (Packet.grantsAmong_pos_iff.1 hgrants)
  · rw [claims] at h
    split at h
    · rename_i hsession
      exact Or.inr (Option.map_eq_some_iff.1 hsession)
    · omega

theorem Mild.closings (h : Mild sent) (id : UInt8) :
    Packet.closingsAmong id (sent.map (·.packet)) = 0 := by
  refine Packet.closingsAmong_eq_zero_iff.2 fun p hp => ?_
  obtain ⟨o, ho, rfl⟩ := List.mem_map.1 hp
  exact (h o ho).2 id

/-- Who gives a channel up closes at most that one. -/
theorem closings_of_told {channel : UInt8} (h : Mild sent ∨ ∃ o, sent = [o] ∧
      o.packet.IsCanonical ∧ ∀ id, o.packet.Closes id → id = channel) (id : UInt8) :
    Packet.closingsAmong id (sent.map (·.packet)) ≤ if some channel = some id then 1 else 0 := by
  obtain hmild | ⟨o, rfl, -, hcloses⟩ := h
  · rw [hmild.closings]
    exact Nat.zero_le _
  · split
    · exact List.countP_le_length
    · rename_i hne
      refine Nat.le_of_eq (Packet.closingsAmong_eq_zero_iff.2 fun p hp h => hne ?_)
      rw [List.mem_singleton.1 hp] at h
      rw [hcloses id h]

/-- **Claims are not made up.**  What a client lays claim to, and what it closes, it had a claim to
before. -/
theorem Stay.claims_le {now : Nat} {looked : Option Packet} (h : Stay now looked t t' sent)
    (hrest : looked.toList ++ t'.received.map (·.packet) = t.received.map (·.packet))
    (id : UInt8) :
    t'.claims id + Packet.closingsAmong id (sent.map (·.packet)) ≤ t.claims id := by
  have hgrants := congrArg (Packet.grantsAmong id) hrest
  rw [Packet.grantsAmong_append] at hgrants
  unfold claims
  cases h with
  | away before after _ mild =>
    rw [before, after, mild.closings]
    omega
  | granted s' p before after looked_eq grants _ _ _ _ mild =>
    rw [looked_eq, Option.toList_some, Packet.grantsAmong_singleton grants] at hgrants
    rw [before, after, mild.closings]
    simp only [Option.map_some, Option.map_none, Option.some.injEq, reduceCtorEq, if_false]
    omega
  | same s s' before after same _ mild =>
    rw [before, after, mild.closings, Option.map_some, Option.map_some, same.channel_eq]
    omega
  | affirmed s p before after _ _ _ mild =>
    rw [before, after, mild.closings]
    simp only [Option.map_some]
    omega
  | beaten s s' before after _ beat _ mild =>
    have hchannel : s'.channel = s.channel := beat.channel_eq
    rw [before, after, mild.closings, Option.map_some, Option.map_some, hchannel]
    omega
  | left s before after _ told =>
    have hclosings := closings_of_told told id
    rw [before, after, Option.map_some, Option.map_none, if_neg (fun h => by cases h)]
    omega

/-- A client that ends closes no channel that it has no claim to. -/
theorem finish_claims (t : Tunnel) (id : UInt8) :
    Packet.closingsAmong id (t.finish.2.map (·.packet)) ≤ t.claims id := by
  obtain hmild | ⟨s, o, hsession, ho, hcanonical, hcloses⟩ := finish_told t
  · rw [hmild.closings]
    exact Nat.zero_le _
  · have hclosings := closings_of_told (Or.inr ⟨o, ho, hcanonical, hcloses⟩) id
    rw [claims, hsession, Option.map_some]
    omega

end
end Tunnel
end KnxBus
