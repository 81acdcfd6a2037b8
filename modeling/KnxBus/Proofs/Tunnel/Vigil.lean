import KnxBus.Proofs.Tunnel.Logbook

/-!
# How a client asks for a channel and watches over it

A client that has no channel asks for one, again and again; a client that has one asks from time to
time whether it is still there, and gives it up when it has not been told so for too long.  The main
statement is `Vigil.vigil_kept`.  It is about runs over time, with the books that are kept beside
them (`Logbook`).

The books agree with the client after every move (`Vigil.Sound`): requests for a channel are in time,
the heartbeats are as the account has it (`Watched`), and a session ends in two of the nine cases of
a part of a turn or when the client is stopped.

A whole turn is a run of moves without any time between them (`Vigil.turn_eq_run`), and nothing waits
to be looked at when it comes to the timers (`Vigil.received_of_looks`).
-/

namespace KnxBus
namespace Tunnel
namespace Vigil

/-! ## The books agree with the client -/

/-- The books agree with the client. -/
structure Sound (config : TunnelConfig) (gateway : Endpoint) (b : Vigil × Logbook) : Prop where
  config_eq : b.1.loop.tunnel.config = config
  gateway_eq : b.1.loop.tunnel.gateway = gateway
  /-- The outstanding frame is a request. -/
  requesting : b.1.loop.tunnel.Requesting
  /-- Requests for a channel are made in time. -/
  asking : Asking config b.1 b.2
  /-- The heartbeats of the session are as the books have it. -/
  watched : ∀ s, b.1.loop.session? = some s → Watched config s b.2.silence
  /-- The ends of sessions are as they should be. -/
  recorded : b.2.Recorded config gateway

section
variable {config : TunnelConfig} {gateway : Endpoint} {m : Move} {v v' : Vigil}
  {sent : List Outgoing} {b : Logbook}

/-- No session ends. -/
theorem Sound.goes_on (h : Sound config gateway (v, b))
    (hended : withService .disconnectRequest sent = [])
    (hendings : (note m v v' sent b).endings = b.endings) :
    (note m v v' sent b).Recorded config gateway := by
  constructor
  · rw [hendings, note, withService_append, hended, List.append_nil]
    exact h.recorded.log
  · rw [hendings]
    exact h.recorded.proper

/-- The session ends. -/
theorem Sound.ends (h : Sound config gateway (v, b)) {s : TunnelSession}
    (hbefore : v.loop.session? = some s) (hafter : v'.loop.session? = none)
    (hproper : Ending.Proper config gateway ⟨s.channel, v.now, v.causeOf m s,
      v.listen m s sent b.silence, withService .disconnectRequest sent⟩) :
    (note m v v' sent b).Recorded config gateway := by
  have hlonger : (note m v v' sent b).endings = b.endings ++ [⟨s.channel, v.now, v.causeOf m s,
      v.listen m s sent b.silence, withService .disconnectRequest sent⟩] :=
    note_endings_of_ended hbefore hafter
  constructor
  · rw [hlonger, note, withService_append, h.recorded.log, List.flatMap_append,
      List.flatMap_singleton]
  · intro e he
    rw [hlonger] at he
    rcases List.mem_append.1 he with hold | hnew
    · exact h.recorded.proper e hold
    · rw [List.mem_singleton.1 hnew]
      exact hproper

end

section
variable {gateway : Endpoint} {now : Nat} {d : Doing} {t t' : Tunnel} {sent : List Outgoing}
  {b : Logbook} {s : TunnelSession}

/-- What a part of a turn does to the requests for a channel. -/
theorem Sound.asking_works (h : Sound t.config gateway (⟨now, .running t⟩, b))
    (hstanding : Standing now d (d.rest t).1 t t' sent) :
    Asking t.config ⟨now, .running t'⟩
      (note (.act d) ⟨now, .running t⟩ ⟨now, .running t'⟩ sent b) := by
  have hset (hasked : withService .connectRequest sent = [])
      (hlink : t'.link = .disconnected (now + t.config.reconnectInterval)) :
      Asking t.config ⟨now, .running t'⟩
        (note (.act d) ⟨now, .running t⟩ ⟨now, .running t'⟩ sent b) := by
    refine h.asking.quiet (Nat.le_refl now) hasked fun _ _ => Or.inr ?_
    show t'.nextDeadline = _
    rw [nextDeadline, hlink]
  have hheld {s' : TunnelSession} (hasked : withService .connectRequest sent = [])
      (hafter : t'.session? = some s') :
      Asking t.config ⟨now, .running t'⟩
        (note (.act d) ⟨now, .running t⟩ ⟨now, .running t'⟩ sent b) := by
    refine h.asking.quiet (Nat.le_refl now) hasked fun _ hnone => ?_
    cases hafter.symm.trans (show t'.session? = none from hnone)
  cases hstanding with
  | apart before after told =>
    exact h.asking.quiet (Nat.le_refl now) told.asked_eq fun _ _ =>
      Or.inl ⟨rfl, before, nextDeadline_of_away before after⟩
  | asks o timers before due after told =>
    refine h.asking.asks rfl told.asked_eq rfl before due ?_
    show t'.nextDeadline = _
    rw [nextDeadline, after]
  | refused before after told => exact hset told.asked_eq after
  | granted s' before after heartbeatDeadline_eq failures_eq told => exact hheld told.asked_eq after
  | goesOn s s' before after same early silent told => exact hheld told.asked_eq after
  | affirmed s p look before after looked_eq affirms told => exact hheld told.asked_eq after
  | beats s s' o timers before after due beat told => exact hheld told.asked_eq after
  | closed s p look before after looked_eq closes told => exact hset told.asked_eq after
  | gaveUp s o timers before due after closes destination_eq told => exact hset told.asked_eq after

/-- What a part of a turn does to the heartbeats. -/
theorem Sound.watched_works (h : Sound t.config gateway (⟨now, .running t⟩, b))
    (hstanding : Standing now d (d.rest t).1 t t' sent) {s' : TunnelSession}
    (hs' : t'.session? = some s') :
    Watched t.config s'
      (note (.act d) ⟨now, .running t⟩ ⟨now, .running t'⟩ sent b).silence := by
  have hlink : t'.link = .connected s' := session?_eq_some_iff.1 hs'
  cases hstanding with
  | apart before after told =>
    cases before.symm.trans (session?_eq_some_iff.2 (after.symm.trans hlink))
  | asks o timers before due after told => cases after.symm.trans hlink
  | refused before after told => cases after.symm.trans hlink
  | closed s p look before after looked_eq closes told => cases after.symm.trans hlink
  | gaveUp s o timers before due after closes destination_eq told =>
    cases after.symm.trans hlink
  | granted s'' before after heartbeatDeadline_eq failures_eq told =>
    cases hs'.symm.trans after
    rw [note_silence_of_none (v := ⟨now, .running t⟩) before]
    exact .broken heartbeatDeadline_eq failures_eq
  | goesOn s s'' before after same early silent told =>
    cases hs'.symm.trans after
    rw [note_silence_of_some (v := ⟨now, .running t⟩) before]
    exact (watched_listen (h.watched s before) early silent told.beats_eq).same same
  | affirmed s p look before after looked_eq affirms told =>
    cases hs'.symm.trans after
    subst look
    rw [note_silence_of_some (v := ⟨now, .running t⟩) before, listen_look looked_eq, Silence.hear,
      if_pos affirms]
    exact .broken rfl rfl
  | beats s s'' o timers before after due beat told =>
    cases hs'.symm.trans after
    subst timers
    rw [note_silence_of_some (v := ⟨now, .running t⟩) before, listen_timers, told.beats_eq,
      if_neg (List.cons_ne_nil _ _)]
    exact (h.watched s before).beats due beat

/-- The gateway has closed the channel. -/
theorem Sound.closed_proper (h : Sound t.config gateway (⟨now, .running t⟩, b))
    (hbefore : t.session? = some s) {p : Packet} (hlooked : (Doing.rest .look t).1 = some p)
    (hcloses : p.Closes s.channel) (htold : Told [] [] [] sent) :
    Ending.Proper t.config gateway ⟨s.channel, now, causeOf (.act .look) ⟨now, .running t⟩ s,
      listen (.act .look) ⟨now, .running t⟩ s sent b.silence,
      withService .disconnectRequest sent⟩ := by
  have hwatched := h.watched s hbefore
  have hnot : ¬ p.Affirms s.channel := by
    refine Packet.not_affirms_of_service fun hservice => ?_
    rw [hcloses.1] at hservice
    cases hservice
  refine ⟨fun _ _ hcause => (by cases hcause), fun _ _ hcause => (by cases hcause), ?_,
    fun hcause => absurd rfl hcause, fun _ => ⟨htold.ended_eq, p, ?_, hcloses⟩⟩
  · rw [listen_look hlooked]
    exact (hwatched.hear hnot).silent
  · rw [listen_look hlooked, Silence.hear, if_neg hnot]
    exact List.getLast?_concat

/-- The client has given up. -/
theorem Sound.gaveUp_proper (h : Sound t.config t.gateway (⟨now, .running t⟩, b))
    (hbefore : t.session? = some s) {o : Outgoing}
    (hdue : pendingDue t.config s now = .giveUp ∨ heartbeatDue t.config s now = .giveUp)
    (hcloses : o.packet.Closes s.channel) (hdestination : o.destination = t.gateway)
    (htold : Told [] [] [o] sent) :
    Ending.Proper t.config t.gateway ⟨s.channel, now, causeOf (.act .timers) ⟨now, .running t⟩ s,
      listen (.act .timers) ⟨now, .running t⟩ s sent b.silence,
      withService .disconnectRequest sent⟩ := by
  have hwatched := h.watched s hbefore
  have hlisten : listen (.act .timers) ⟨now, .running t⟩ s sent b.silence =
      b.silence.miss t.config.heartbeatTimeout now := by
    rw [listen_timers, if_pos htold.beats_eq]
  rw [hlisten, htold.ended_eq]
  refine ⟨fun forFrame forHeartbeats hcause => ?_, fun hfailures forFrame hcause => ?_, ?_,
    fun _ => ⟨o, rfl, hcloses, hdestination⟩, fun hcause => (by cases hcause)⟩
  · cases hcause
    exact hdue.imp decide_eq_true decide_eq_true
  · have hgiveUp : heartbeatDue t.config s now = .giveUp := by
      have hflag := (Cause.gaveUp.inj hcause).2
      exact of_decide_eq_true hflag
    exact hwatched.gives_up hgiveUp hfailures
  · intro p hp
    refine hwatched.silent p ?_
    revert hp
    unfold Silence.miss
    split
    · exact id
    · split <;> exact id

/-- The client has been stopped. -/
theorem Sound.stopped_proper (h : Sound t.config t.gateway (⟨now, .running t⟩, b))
    (hbefore : t.session? = some s) {o : Outgoing} (hcloses : o.packet.Closes s.channel)
    (hdestination : o.destination = t.gateway) (htold : Told [] [] [o] sent) :
    Ending.Proper t.config t.gateway ⟨s.channel, now, causeOf .stop ⟨now, .running t⟩ s,
      listen .stop ⟨now, .running t⟩ s sent b.silence,
      withService .disconnectRequest sent⟩ := by
  rw [htold.ended_eq]
  exact ⟨fun _ _ hcause => (by cases hcause), fun _ _ hcause => (by cases hcause),
    (h.watched s hbefore).silent, fun _ => ⟨o, rfl, hcloses, hdestination⟩,
    fun hcause => (by cases hcause)⟩

end

section
variable {config : TunnelConfig} {gateway : Endpoint} {now : Nat} {m : Move} {d : Doing}
  {v v' : Vigil} {t : Tunnel} {sent : List Outgoing} {b : Logbook}

/-- The client does nothing. -/
theorem Sound.rests (h : Sound config gateway (v, b)) (hnow : v.now ≤ v'.now)
    (hover : v'.loop.isOver = v.loop.isOver)
    (hsame : ∃ socket received, v'.loop.tunnel =
      { v.loop.tunnel with socket := socket, received := received })
    (hunheard : ∀ s x, v.loop.session? = some s → v.listen m s [] x = x) :
    Sound config gateway (v', note m v v' [] b) := by
  obtain ⟨socket, received, htunnel⟩ := hsame
  have hsession : v'.loop.session? = v.loop.session? := by
    rw [Loop.session?, Loop.session?, hover, htunnel]
    rfl
  have hdeadline : v'.loop.tunnel.nextDeadline = v.loop.tunnel.nextDeadline := by
    rw [htunnel]
    rfl
  have hendings : (note m v v' [] b).endings = b.endings := by
    cases hs : v.loop.session? with
    | none => exact note_endings_of_none hs
    | some s => exact note_endings_of_some (hsession.trans hs)
  refine ⟨?_, ?_, ?_, ?_, fun s hs => ?_, h.goes_on (withService_nil _) hendings⟩
  · rw [htunnel]
    exact h.config_eq
  · rw [htunnel]
    exact h.gateway_eq
  · rw [htunnel]
    exact h.requesting
  · refine h.asking.quiet hnow rfl fun hover' hnone => Or.inl ?_
    exact ⟨hover.symm.trans hover', hsession.symm.trans hnone, hdeadline⟩
  · have hs' : v.loop.session? = some s := hsession.symm.trans hs
    rw [note_silence_of_some hs', hunheard s _ hs']
    exact h.watched s hs'

/-- The client does something. -/
theorem Sound.works (h : Sound t.config t.gateway (⟨now, .running t⟩, b)) (d : Doing) :
    Sound t.config t.gateway (⟨now, .running (t.perform (d.act now)).1⟩,
      note (.act d) ⟨now, .running t⟩ ⟨now, .running (t.perform (d.act now)).1⟩
        (t.perform (d.act now)).2 b) := by
  have hbefore : t.Requesting := h.requesting
  have hstanding : Standing now d (d.rest t).1 t (t.perform (d.act now)).1
      (t.perform (d.act now)).2 := perform_standing hbefore d
  have hsetup := perform_setup (d.act now) t
  have hrequesting : (t.perform (d.act now)).1.Requesting := perform_requesting hbefore d
  generalize t.perform (d.act now) = done at hstanding hsetup hrequesting
  obtain ⟨t', sent⟩ := done
  have hrecorded : (note (.act d) ⟨now, .running t⟩ ⟨now, .running t'⟩ sent b).Recorded
      t.config t.gateway := by
    have haway {time : Nat} (hlink : t'.link = .disconnected time) : t'.session? = none := by
      rw [session?, hlink]
    cases hstanding with
    | apart before after told => exact h.goes_on told.ended_eq (note_endings_of_none before)
    | asks o timers before due after told =>
      exact h.goes_on told.ended_eq (note_endings_of_none before)
    | refused before after told => exact h.goes_on told.ended_eq (note_endings_of_none before)
    | granted s' before after heartbeatDeadline_eq failures_eq told =>
      exact h.goes_on told.ended_eq (note_endings_of_none before)
    | goesOn s s' before after same early silent told =>
      exact h.goes_on told.ended_eq (note_endings_of_some after)
    | affirmed s p look before after looked_eq affirms told =>
      exact h.goes_on told.ended_eq (note_endings_of_some after)
    | beats s s' o timers before after due beat told =>
      exact h.goes_on told.ended_eq (note_endings_of_some after)
    | closed s p look before after looked_eq closes told =>
      subst look
      exact h.ends before (haway after) (h.closed_proper before looked_eq closes told)
    | gaveUp s o timers before due after closes destination_eq told =>
      subst timers
      exact h.ends before (haway after) (h.gaveUp_proper before due closes destination_eq told)
  exact ⟨hsetup.config_eq, hsetup.gateway_eq, hrequesting, h.asking_works hstanding,
    fun s' hs' => h.watched_works hstanding hs', hrecorded⟩

/-- The client ends. -/
theorem Sound.stops (h : Sound t.config t.gateway (⟨now, .running t⟩, b)) :
    Sound t.config t.gateway (⟨now, t.finish.1, true⟩,
      note .stop ⟨now, .running t⟩ ⟨now, t.finish.1, true⟩ t.finish.2 b) := by
  have hsetup := perform_setup .finish t
  have hrequesting : t.finish.1.Requesting := finish_requesting h.requesting
  have hrecorded : withService .connectRequest t.finish.2 = [] ∧
      (note .stop ⟨now, .running t⟩ ⟨now, t.finish.1, true⟩ t.finish.2 b).Recorded
        t.config t.gateway := by
    cases hsession : t.session? with
    | none =>
      have htold : Told [] [] [] t.finish.2 := by
        rw [finish_of_away hsession]
        exact .nil
      exact ⟨htold.asked_eq, h.goes_on htold.ended_eq (note_endings_of_none hsession)⟩
    | some s =>
      obtain ⟨o, hcloses, hdestination, htold⟩ := finish_ends hsession
      exact ⟨htold.asked_eq,
        h.ends hsession rfl (h.stopped_proper hsession hcloses hdestination htold)⟩
  refine ⟨hsetup.config_eq, hsetup.gateway_eq, hrequesting, ?_, fun s hs => ?_, hrecorded.2⟩
  · exact h.asking.quiet (Nat.le_refl now) hrecorded.1 fun hover => by cases hover
  · cases hs

/-- **Every move keeps the books right.** -/
theorem noted_sound (m : Move) (b : Vigil × Logbook) (h : Sound config gateway b) :
    Sound config gateway (noted step note m b).1 := by
  obtain ⟨v, b⟩ := b
  show Sound config gateway ((v.step m).1, note m v (v.step m).1 (v.step m).2 b)
  have hstepped := step_stepped m v
  generalize v.step m = done at hstepped
  obtain ⟨v', sent⟩ := done
  cases hstepped with
  | rests now_le isOver_eq same silent unheard =>
    cases silent
    exact h.rests now_le isOver_eq same unheard
  | works d t move before after sent_eq =>
    generalize v.now = now at before after sent_eq
    cases move
    cases before
    cases after
    cases sent_eq
    cases h.config_eq
    cases h.gateway_eq
    exact h.works d
  | stops t move before after sent_eq =>
    generalize v.now = now at before after
    cases move
    cases before
    cases after
    cases sent_eq
    cases h.config_eq
    cases h.gateway_eq
    exact h.stops

theorem start_sound {host : Host} {inUse : List UInt16} {t₀ : Tunnel}
    (h : Tunnel.connect host inUse gateway config now = .ok t₀) :
    Sound config gateway (start t₀ now) := by
  obtain ⟨own, rfl⟩ := eq_fresh_of_connect h
  refine ⟨rfl, rfl, ?_, ⟨rfl, .nil, ?_, ?_⟩, ?_, rfl, ?_⟩
  · intro s hs
    cases hs
  · intro x hx
    cases hx
  · exact fun _ _ => ⟨fun x hx => (by cases hx), Nat.le_add_right now _⟩
  · intro s hs
    cases hs
  · intro e he
    cases he

/-- **The books are right at all times**, if they were at first. -/
theorem run_sound {b : Vigil × Logbook} (h : Sound config gateway b) (moves : List Move) :
    Sound config gateway (run moves b).1 :=
  runWith_invariant (noted step note) (Sound config gateway) noted_sound moves h

/-- The books hold everything that was sent. -/
theorem run_sent (moves : List Move) (b : Vigil × Logbook) :
    (run moves b).1.2.sent = b.2.sent ++ (run moves b).2 :=
  runWith_collects (f := fun b : Vigil × Logbook => b.2.sent) (g := id) (noted step note) rfl
    (fun _ _ => rfl) (fun _ _ => rfl) moves b

end

/-! ## Whole turns -/

/-- Parts of turns, one after the other at the same time. -/
theorem run_acts (ds : List Doing) (v : Vigil) :
    runWith step (ds.map .act) v =
      (⟨v.now, (runWith Loop.perform (ds.map (Doing.act v.now)) v.loop).1⟩,
        (runWith Loop.perform (ds.map (Doing.act v.now)) v.loop).2) := by
  induction ds generalizing v with
  | nil => rfl
  | cons d later ih =>
    simp only [List.map_cons, runWith]
    rw [ih]
    rfl

/-- **A whole turn is a run of moves** without any time between them. -/
theorem turn_eq_run (v : Vigil) :
    runWith step (v.loop.tunnel.turnDoings.map .act) v =
      (⟨v.now, (v.loop.step (.turn v.now)).1⟩, (v.loop.step (.turn v.now)).2) := by
  have hturn := Loop.step_eq_run (e := .turn v.now) (fun _ h => by cases h) (fun _ h => by cases h)
    v.loop
  rw [Loop.actsOf, ← map_turnDoings] at hturn
  rw [run_acts, hturn]

/-- Nothing waits to be looked at when it comes to the timers. -/
theorem received_of_looks {v : Vigil} (hrunning : v.loop.isOver = false) :
    (runWith step (List.replicate v.loop.tunnel.received.length (.act .look))
      v).1.loop.tunnel.received = [] := by
  have hacts : List.replicate v.loop.tunnel.received.length (Move.act .look) =
      (List.replicate v.loop.tunnel.received.length Doing.look).map .act := List.map_replicate.symm
  have hloop := Loop.running_of_not_over hrunning
  generalize v.loop.tunnel = t at hacts hloop ⊢
  rw [hacts, run_acts, List.map_replicate, hloop, Loop.run_of_running]
  · show (runWith Tunnel.perform _ t).1.received = []
    rw [Doing.act, received_looks, List.drop_length]
  · intro a ha
    rw [(List.mem_replicate.1 ha).2]
    rfl

/-- **A client keeps asking for a channel, and watches over the one that it has.**  Take a client
that has been opened, and any run of moves: time passes as it likes, the datagrams that reach the
client are arbitrary, and it may take the parts of its turns at any time.

1. The books hold all requests for a channel.  Any two of them are an interval apart.  While there
   is no session, the next one is due after an interval at the latest; a turn is due then, and its
   timers send the request.
2. While there is a session, fewer heartbeats have been missed since the channel was affirmed last
   than are allowed.  If the client gives up for its heartbeats, as many as are allowed have been
   missed in a row, the last one just now, and nothing that was looked at since the first of them
   was sent affirms the channel (`Ending.Proper`).
3. The requests by which channels are given up are those that belong to the ends of sessions, one
   for each session that the client has ended itself, for its channel, and none for those that the
   gateway has ended (`Ending.Proper`). -/
theorem vigil_kept {host : Host} {inUse : List UInt16} {gateway : Endpoint} {config : TunnelConfig}
    {opening : Nat} {t₀ : Tunnel}
    (h : Tunnel.connect host inUse gateway config opening = .ok t₀) (moves : List Move) :
    let done := run moves (start t₀ opening)
    let v := done.1.1
    let b := done.1.2
    (withService .connectRequest done.2 = b.asked.map Prod.snd ∧
      b.asked.Pairwise (fun x y => x.1 + config.reconnectInterval ≤ y.1) ∧
      (v.loop.isOver = false → v.loop.session? = none →
        v.loop.tunnel.nextDeadline ≤ v.now + config.reconnectInterval ∧
        ∀ later, v.loop.tunnel.nextDeadline ≤ later → v.loop.tunnel.isDue later = true ∧
          ∃ o, (v.loop.tunnel.onTimers later).2 = [o] ∧ o.packet.service = .connectRequest ∧
            o.destination = gateway)) ∧
    (1 ≤ config.heartbeatFailures →
      ∀ s, v.loop.session? = some s → b.silence.rounds.length < config.heartbeatFailures) ∧
    withService .disconnectRequest done.2 = b.endings.flatMap (·.farewells) ∧
    ∀ e ∈ b.endings, e.Proper config gateway := by
  intro done v b
  have hsound : Sound config gateway done.1 := run_sound (start_sound h) moves
  have hsent : b.sent = done.2 := run_sent moves (start t₀ opening)
  rw [← hsent]
  refine ⟨⟨hsound.asking.log, hsound.asking.spaced, fun hrunning haway => ?_⟩,
    fun hfailures s hs => (hsound.watched s hs).left hfailures, hsound.recorded.log,
    hsound.recorded.proper⟩
  refine ⟨(hsound.asking.next hrunning haway).2, fun later hlater => ⟨?_, ?_⟩⟩
  · rw [isDue, decide_eq_true hlater, Bool.or_true]
  · have hsession : v.loop.tunnel.session? = none := by
      rwa [Loop.session?, hrunning, if_neg Bool.false_ne_true] at haway
    obtain ⟨o, hone, hdestination, htold⟩ := requestChannel_told v.loop.tunnel later
    rw [onTimers_of_away hsession, if_neg (Nat.not_lt.2 hlater)]
    refine ⟨o, hone, ?_, hdestination.trans hsound.gateway_eq⟩
    have hmem : o ∈ withService .connectRequest (v.loop.tunnel.requestChannel later).2 := by
      rw [htold.asked_eq]
      exact List.mem_singleton_self o
    exact of_decide_eq_true (List.mem_filter.1 hmem).2

/-! ### A gateway that does not answer -/

/-- A client asks for a channel and gets one, and then the gateway falls silent.  After five
heartbeats the client gives the channel up, and asks for another one when it is time. -/
def unanswered : List Move :=
  [.act .timers, .arrive (.octets (grants 5) ⟨⟨10, 0, 0, 1⟩, 3671⟩), .takeIn, .act .look,
      .wait 30000, .act .timers] ++
    (List.replicate 5 [.wait 10000, .act .timers]).flatten ++ [.wait 10000, .act .timers]

/-- The client and its books then, and what it has sent. -/
def waited : (Vigil × Logbook) × List Outgoing := run unanswered (start caller 0)

theorem vigil_kept_unanswered :
    (waited.1.2.asked.map Prod.fst = [0, 90000] ∧
        waited.1.2.endings.map (fun e => (e.channel, e.time, e.cause)) =
          [(5, 80000, .gaveUp false true)]) ∧
      (withService .connectRequest waited.2 = waited.1.2.asked.map Prod.snd ∧
        waited.1.2.asked.Pairwise (fun x y => x.1 + 10000 ≤ y.1)) ∧
      (waited.1.1.loop.tunnel.nextDeadline ≤ waited.1.1.now + 10000 ∧
        ∃ o, (waited.1.1.loop.tunnel.onTimers 100000).2 = [o] ∧
          o.packet.service = .connectRequest) ∧
      withService .disconnectRequest waited.2 = waited.1.2.endings.flatMap (·.farewells) ∧
      ∃ e ∈ waited.1.2.endings, e.channel = 5 ∧ e.silence.rounds.length = 5 ∧
        InRow 10000 e.silence.rounds ∧ ∃ o, e.farewells = [o] ∧ o.packet.Closes 5 := by
  obtain ⟨⟨hlog, hspaced, hnext⟩, -, hended, hproper⟩ := vigil_kept connect_caller unanswered
  obtain ⟨hsoon, hasks⟩ := hnext (by decide +kernel) (by decide +kernel)
  obtain ⟨-, o, hone, hservice, -⟩ := hasks 100000 (by decide +kernel)
  have hgaveUp : waited.1.2.endings.map (fun e => (e.channel, e.time, e.cause)) =
      [(5, 80000, .gaveUp false true)] := by decide +kernel
  refine ⟨⟨by decide +kernel, hgaveUp⟩, ⟨hlog, hspaced⟩, ⟨hsoon, o, hone, hservice⟩, hended, ?_⟩
  obtain ⟨e, hmem, heq⟩ := List.mem_map.1 (hgaveUp ▸ List.mem_singleton_self _)
  obtain ⟨hchannel, -, hcause⟩ : e.channel = 5 ∧ e.time = 80000 ∧ e.cause = .gaveUp false true := by
    simpa only [Prod.mk.injEq] using heq
  have hends := hproper e hmem
  obtain ⟨hrounds, hinRow, -⟩ := hends.unanswered (by decide) false hcause
  obtain ⟨o, hfarewell, hcloses, -⟩ := hends.told (by rw [hcause]; decide)
  rw [hchannel] at hcloses
  exact ⟨e, hmem, hchannel, hrounds, hinRow, o, hfarewell, hcloses⟩

end Vigil
end Tunnel
end KnxBus
