import KnxBus.Proofs.Tunnel.Posting
import KnxBus.Proofs.Tunnel.Silence
import KnxBus.Proofs.Tunnel.Standing

/-!
# A client, a clock and a logbook

A clock goes forward, anything may arrive at any time, and the client may take the parts of its turns
at any time: `Vigil.run` is such a run.  Beside the client it is written down

* which requests for a channel it has sent, and when (`Logbook.asked`);
* what is known of the heartbeats since the gateway has affirmed the channel last (`Silence`);
* how each session has ended (`Ending`), with what is known of its heartbeats then, and with the
  requests by which the client has given up a channel then.

A part of a turn does one of nine things to where the client stands (`Standing`), so a move does one
of them or none (`Vigil.Stepped`).  The next request for a channel is due at a time that is set
whenever a request is sent or refused and whenever a session ends, always to one interval ahead
(`Vigil.Asking`).  As long as a session goes on, its heartbeats are as the account has it
(`Vigil.watched_listen`).
-/

namespace KnxBus
namespace Tunnel

/-! ## Runs over time -/

/-- A client and its loop, at a time. -/
structure Vigil where
  /-- The time. -/
  now : Nat
  /-- The client and its loop. -/
  loop : Loop
  deriving DecidableEq, Repr

/-- Why a session has ended. -/
inductive Cause where
  /-- The gateway has closed the channel. -/
  | closed
  /-- The client has given up, since the outstanding frame has been sent often enough, or since
  heartbeats have not been answered, or both. -/
  | gaveUp (forFrame forHeartbeats : Bool)
  /-- The client has been stopped. -/
  | stopped
  deriving DecidableEq, Repr

/-- How a session has ended. -/
structure Ending where
  /-- The number of the channel. -/
  channel : UInt8
  /-- When it was. -/
  time : Nat
  /-- Why it was. -/
  cause : Cause
  /-- What is known of the heartbeats then. -/
  silence : Silence
  /-- The requests by which the client has given up a channel then. -/
  farewells : List Outgoing
  deriving DecidableEq, Repr

/-- A session ends as it should. -/
structure Ending.Proper (config : TunnelConfig) (gateway : Endpoint) (e : Ending) : Prop where
  /-- The client gives up for a reason. -/
  reason : ∀ forFrame forHeartbeats, e.cause = .gaveUp forFrame forHeartbeats →
    forFrame = true ∨ forHeartbeats = true
  /-- If it does so for its heartbeats, as many of them as it allows have been missed in a row, the
  last one just now. -/
  unanswered : 1 ≤ config.heartbeatFailures → ∀ forFrame, e.cause = .gaveUp forFrame true →
    e.silence.rounds.length = config.heartbeatFailures ∧
      InRow config.heartbeatTimeout e.silence.rounds ∧
      ∃ r, e.silence.rounds.getLast? = some r ∧ r.missedAt = e.time
  /-- Nothing that was looked at since the first of them was sent affirms the channel. -/
  silent : ∀ p ∈ e.silence.heard, ¬ p.Affirms e.channel
  /-- If the client ends the session, it gives up the channel, once. -/
  told : e.cause ≠ .closed → ∃ o, e.farewells = [o] ∧ o.packet.Closes e.channel ∧
    o.destination = gateway
  /-- If the gateway ends the session, it has closed the channel, and the client gives up none. -/
  closed : e.cause = .closed → e.farewells = [] ∧
    ∃ p, e.silence.heard.getLast? = some p ∧ p.Closes e.channel

/-- What is written down beside a client about its channels. -/
structure Logbook where
  /-- All datagrams that it has sent, oldest first. -/
  sent : List Outgoing
  /-- The requests for a channel, oldest first, each with the time. -/
  asked : List (Nat × Outgoing)
  /-- What is known of the heartbeats of the session. -/
  silence : Silence
  /-- How sessions have ended, oldest first. -/
  endings : List Ending
  deriving DecidableEq, Repr

/-- The ends of sessions are in the books as they should be. -/
structure Logbook.Recorded (config : TunnelConfig) (gateway : Endpoint) (b : Logbook) : Prop where
  /-- Channels are given up when sessions end, and at no other time. -/
  log : withService .disconnectRequest b.sent = b.endings.flatMap (·.farewells)
  /-- Sessions have ended as they should. -/
  proper : ∀ e ∈ b.endings, e.Proper config gateway

namespace Vigil

/-- What may happen: time passes, or something happens at this time. -/
inductive Move where
  /-- Time passes. -/
  | wait (span : Nat)
  /-- Something happens at the socket. -/
  | arrive (a : Arrival)
  /-- What has arrived there is taken in. -/
  | takeIn
  /-- The client does something. -/
  | act (d : Doing)
  /-- The client is told to stop. -/
  | stop
  deriving DecidableEq, Repr

/-- One thing happens, or time passes; the datagrams that the client sends come out. -/
def step (m : Move) (v : Vigil) : Vigil × List Outgoing :=
  match m with
  | .wait span => ({ v with now := v.now + span }, [])
  | .arrive a => (⟨v.now, (v.loop.step (.arrive a)).1⟩, (v.loop.step (.arrive a)).2)
  | .takeIn => (⟨v.now, (v.loop.step (.takeIn v.now)).1⟩, (v.loop.step (.takeIn v.now)).2)
  | .act d => (⟨v.now, (v.loop.perform (d.act v.now)).1⟩, (v.loop.perform (d.act v.now)).2)
  | .stop => (⟨v.now, (v.loop.step .stop).1⟩, (v.loop.step .stop).2)

/-- What becomes known of the heartbeats of a session. -/
def listen (m : Move) (v : Vigil) (s : TunnelSession) (sent : List Outgoing) (x : Silence) :
    Silence :=
  match m with
  | .act .look =>
    match (Doing.rest .look v.loop.tunnel).1 with
    | some p => x.hear s.channel p
    | none => x
  | .act .timers =>
    let missed := x.miss v.loop.tunnel.config.heartbeatTimeout v.now
    if withService .stateRequest sent = [] then missed else missed.beat v.now
  | _ => x

/-- Why a session ends. -/
def causeOf (m : Move) (v : Vigil) (s : TunnelSession) : Cause :=
  match m with
  | .stop => .stopped
  | .act .timers =>
    .gaveUp (pendingDue v.loop.tunnel.config s v.now = .giveUp)
      (heartbeatDue v.loop.tunnel.config s v.now = .giveUp)
  | _ => .closed

/-- What has happened enters into the books. -/
def note (m : Move) (v v' : Vigil) (sent : List Outgoing) (b : Logbook) : Logbook where
  sent := b.sent ++ sent
  asked := b.asked ++ (withService .connectRequest sent).map fun o => (v.now, o)
  silence :=
    match v.loop.session? with
    | some s => v.listen m s sent b.silence
    | none => .broken
  endings :=
    match v.loop.session?, v'.loop.session? with
    | some s, none =>
      b.endings ++ [⟨s.channel, v.now, v.causeOf m s, v.listen m s sent b.silence,
        withService .disconnectRequest sent⟩]
    | _, _ => b.endings

/-- Things happen one after the other, and enter into the books. -/
def run (moves : List Move) (b : Vigil × Logbook) : (Vigil × Logbook) × List Outgoing :=
  runWith (noted step note) moves b

/-- A client is opened. -/
def start (t : Tunnel) (now : Nat) : Vigil × Logbook :=
  (⟨now, .running t⟩, ⟨[], [], .broken, []⟩)

/-! ## One move -/

section
variable {m : Move} {v v' : Vigil} {sent : List Outgoing} {b : Logbook}

/-- What may come of a move. -/
inductive Stepped (m : Move) (v v' : Vigil) (sent : List Outgoing) : Prop where
  /-- The client does nothing: time passes, something arrives, or its loop is over. -/
  | rests (now_le : v.now ≤ v'.now) (isOver_eq : v'.loop.isOver = v.loop.isOver)
      (same : ∃ socket received, v'.loop.tunnel =
        { v.loop.tunnel with socket := socket, received := received })
      (silent : sent = [])
      (unheard : ∀ s x, v.loop.session? = some s → v.listen m s sent x = x)
  /-- The client does something. -/
  | works (d : Doing) (t : Tunnel) (move : m = .act d) (before : v = ⟨v.now, .running t⟩)
      (after : v' = ⟨v.now, .running (t.perform (d.act v.now)).1⟩)
      (sent_eq : sent = (t.perform (d.act v.now)).2)
  /-- The client ends. -/
  | stops (t : Tunnel) (move : m = .stop) (before : v = ⟨v.now, .running t⟩)
      (after : v' = ⟨v.now, t.finish.1, true⟩) (sent_eq : sent = t.finish.2)

theorem step_stepped (m : Move) (v : Vigil) : Stepped m v (v.step m).1 (v.step m).2 := by
  obtain ⟨now, loop⟩ := v
  cases hover : loop.isOver with
  | true =>
    have hsession : loop.session? = none := by rw [Loop.session?, hover, if_pos rfl]
    have hstep (e : Event) : loop.step e = (loop, []) := by
      unfold Loop.step
      exact if_pos hover
    have hperform (a : Act) : loop.perform a = (loop, []) := if_pos hover
    have hrests (now' : Nat) (hle : now ≤ now') : Stepped m ⟨now, loop⟩ ⟨now', loop⟩ [] :=
      .rests hle rfl ⟨_, _, rfl⟩ rfl fun s _ hs => by cases hsession.symm.trans hs
    cases m with
    | wait span => exact hrests (now + span) (Nat.le_add_right now span)
    | arrive a => simpa only [step, hstep] using hrests now (Nat.le_refl now)
    | takeIn => simpa only [step, hstep] using hrests now (Nat.le_refl now)
    | act d => simpa only [step, hperform] using hrests now (Nat.le_refl now)
    | stop => simpa only [step, hstep] using hrests now (Nat.le_refl now)
  | false =>
    have hrunning := Loop.running_of_not_over hover
    generalize loop.tunnel = t at hrunning
    subst hrunning
    cases m with
    | wait span =>
      exact .rests (Nat.le_add_right now span) rfl ⟨_, _, rfl⟩ rfl fun _ _ _ => rfl
    | arrive a => exact .rests (Nat.le_refl now) rfl ⟨_, _, rfl⟩ rfl fun _ _ _ => rfl
    | takeIn => exact .rests (Nat.le_refl now) rfl ⟨_, _, rfl⟩ rfl fun _ _ _ => rfl
    | act d =>
      have hends : (d.act now).ends = false := by cases d <;> rfl
      have hstep : step (.act d) ⟨now, .running t⟩ =
          (⟨now, .running (t.perform (d.act now)).1⟩, (t.perform (d.act now)).2) := by
        rw [step, Loop.perform, hends]
        rfl
      rw [hstep]
      exact .works d t rfl rfl rfl rfl
    | stop => exact .stops t rfl rfl rfl rfl

/-- Before there is a session nothing can end. -/
theorem note_endings_of_none (hbefore : v.loop.session? = none) :
    (note m v v' sent b).endings = b.endings := by
  rw [note, hbefore]

theorem note_endings_of_some {s' : TunnelSession} (hafter : v'.loop.session? = some s') :
    (note m v v' sent b).endings = b.endings := by
  rw [note, hafter]
  cases v.loop.session? <;> rfl

theorem note_endings_of_ended {s : TunnelSession} (hbefore : v.loop.session? = some s)
    (hafter : v'.loop.session? = none) :
    (note m v v' sent b).endings = b.endings ++ [⟨s.channel, v.now, v.causeOf m s,
      v.listen m s sent b.silence, withService .disconnectRequest sent⟩] := by
  rw [note, hbefore, hafter]

theorem note_silence_of_none (hbefore : v.loop.session? = none) :
    (note m v v' sent b).silence = .broken := by
  rw [note, hbefore]

theorem note_silence_of_some {s : TunnelSession} (hbefore : v.loop.session? = some s) :
    (note m v v' sent b).silence = v.listen m s sent b.silence := by
  rw [note, hbefore]

end

/-! ## Asking for a channel -/

/-- Requests for a channel are an interval apart, and the next one is due after an interval at the
latest. -/
structure Asking (config : TunnelConfig) (v : Vigil) (b : Logbook) : Prop where
  /-- The books hold all requests. -/
  log : withService .connectRequest b.sent = b.asked.map Prod.snd
  /-- They are an interval apart. -/
  spaced : b.asked.Pairwise fun x y => x.1 + config.reconnectInterval ≤ y.1
  /-- None has been sent in the future. -/
  le_now : ∀ x ∈ b.asked, x.1 ≤ v.now
  /-- The next one is due an interval after each of them, and after an interval at the latest. -/
  next : v.loop.isOver = false → v.loop.session? = none →
    (∀ x ∈ b.asked, x.1 + config.reconnectInterval ≤ v.loop.tunnel.nextDeadline) ∧
      v.loop.tunnel.nextDeadline ≤ v.now + config.reconnectInterval

section
variable {config : TunnelConfig} {m : Move} {v v' : Vigil} {sent : List Outgoing} {b : Logbook}

/-- The client asks for nothing.  If it is without a session afterwards, the next request is due
when it was, or after an interval. -/
theorem Asking.quiet (h : Asking config v b) (hnow : v.now ≤ v'.now)
    (hasked : withService .connectRequest sent = [])
    (hnext : v'.loop.isOver = false → v'.loop.session? = none →
      (v.loop.isOver = false ∧ v.loop.session? = none ∧
          v'.loop.tunnel.nextDeadline = v.loop.tunnel.nextDeadline) ∨
        v'.loop.tunnel.nextDeadline = v.now + config.reconnectInterval) :
    Asking config v' (note m v v' sent b) := by
  have hsame : (note m v v' sent b).asked = b.asked := by
    rw [note, hasked, List.map_nil, List.append_nil]
  refine ⟨?_, ?_, fun x hx => ?_, fun hover hsession => ?_⟩
  · rw [hsame, ← h.log, note, withService_append, hasked, List.append_nil]
  · rw [hsame]
    exact h.spaced
  · rw [hsame] at hx
    exact Nat.le_trans (h.le_now x hx) hnow
  · rw [hsame]
    rcases hnext hover hsession with ⟨hover', hsession', hdeadline⟩ | hdeadline
    · obtain ⟨hlate, hsoon⟩ := h.next hover' hsession'
      rw [hdeadline]
      exact ⟨hlate, Nat.le_trans hsoon (Nat.add_le_add_right hnow _)⟩
    · rw [hdeadline]
      exact ⟨fun x hx => Nat.add_le_add_right (h.le_now x hx) _, Nat.add_le_add_right hnow _⟩

/-- The client asks for a channel when it is time. -/
theorem Asking.asks (h : Asking config v b) (hnow : v'.now = v.now) {o : Outgoing}
    (hasked : withService .connectRequest sent = [o]) (hover : v.loop.isOver = false)
    (hsession : v.loop.session? = none) (hdue : v.loop.tunnel.nextDeadline ≤ v.now)
    (hnext : v'.loop.tunnel.nextDeadline = v.now + config.reconnectInterval) :
    Asking config v' (note m v v' sent b) := by
  have hlonger : (note m v v' sent b).asked = b.asked ++ [(v.now, o)] := by
    rw [note, hasked, List.map_singleton]
  obtain ⟨hlate, -⟩ := h.next hover hsession
  have hle : ∀ x ∈ b.asked ++ [(v.now, o)], x.1 ≤ v.now := by
    intro x hx
    rcases List.mem_append.1 hx with hold | hnew
    · exact h.le_now x hold
    · rw [List.mem_singleton.1 hnew]
  refine ⟨?_, ?_, ?_, fun _ _ => ?_⟩
  · rw [hlonger, List.map_append, ← h.log, note, withService_append, hasked, List.map_singleton]
  · rw [hlonger]
    refine List.pairwise_append.2 ⟨h.spaced, List.pairwise_singleton _ _, fun x hx y hy => ?_⟩
    rw [List.mem_singleton.1 hy]
    exact Nat.le_trans (hlate x hx) hdue
  · rw [hlonger, hnow]
    exact hle
  · rw [hlonger, hnext, hnow]
    exact ⟨fun x hx => Nat.add_le_add_right (hle x hx) _, Nat.le_refl _⟩

end

/-- The deadline of a client without a session is the one that its link shows. -/
theorem nextDeadline_of_away {t t' : Tunnel} (hsession : t.session? = none)
    (hlink : t'.link = t.link) : t'.nextDeadline = t.nextDeadline := by
  unfold nextDeadline
  rw [hlink]
  cases ht : t.link with
  | disconnected time => rfl
  | connecting time => rfl
  | connected s =>
    rw [session?_eq_some_iff.2 ht] at hsession
    cases hsession

/-! ## Watching over a channel -/

section
variable {config : TunnelConfig} {now : Nat} {d : Doing} {t : Tunnel} {s : TunnelSession}
  {sent : List Outgoing} {x : Silence}

theorem listen_look {p : Packet} (hlooked : (Doing.rest .look t).1 = some p) :
    listen (.act .look) ⟨now, .running t⟩ s sent x = x.hear s.channel p := by
  simp only [listen, Loop.running, hlooked]

theorem listen_timers :
    listen (.act .timers) ⟨now, .running t⟩ s sent x =
      if withService .stateRequest sent = [] then x.miss t.config.heartbeatTimeout now
      else (x.miss t.config.heartbeatTimeout now).beat now :=
  rfl

/-- What a session that goes on without a heartbeat knows. -/
theorem watched_listen (h : Watched t.config s x)
    (hearly : d = .timers → heartbeatDue t.config s now = .nothing)
    (hsilent : d = .look → ∀ p, (d.rest t).1 = some p → ¬ p.Affirms s.channel)
    (hbeats : withService .stateRequest sent = []) :
    Watched t.config s (listen (.act d) ⟨now, .running t⟩ s sent x) := by
  cases d with
  | look =>
    cases hlooked : (Doing.rest .look t).1 with
    | none => simpa only [Vigil.listen, Loop.running, hlooked] using h
    | some p =>
      rw [listen_look hlooked]
      exact h.hear (hsilent rfl p hlooked)
  | timers =>
    rw [listen_timers, if_pos hbeats, h.miss_of_early (hearly rfl)]
    exact h
  | _ => exact h

end

end Vigil
end Tunnel
end KnxBus
