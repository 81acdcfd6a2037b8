import KnxBus.Proofs.Tunnel.Postbook

/-!
# The books of a client stay in order

Frames are given to a client at any time, and sessions come and go: the gateway closes the channel,
or a frame stays without an acknowledgement, or heartbeats do, or the client is told to stop.
Through all this the books of the client are in order (`Sound`).  Here this is shown for the parts of
a turn, for each of the eight things that they can do to the frames (`course_sound`).

## Why no frame is lost unseen

A frame leaves the queue only at its front, only in a session, and only if no frame is outstanding.
It is then the outstanding frame of this session, or it could not be written.  The outstanding frame
stays in its place until its acknowledgement is looked at or the session ends, however it ends.
Since the next number moves on only with an acknowledgement, the number under which a frame is sent
counts the frames that this session has sent before.

Nothing of this depends on what the gateway does.
-/

namespace KnxBus
namespace Tunnel

/-- A client fits together with its past. -/
structure Sound (config : TunnelConfig) (b : Loop × Postbook) : Prop where
  config_eq : b.1.tunnel.config = config
  /-- Others see whether there is a session, and whether a frame is outstanding. -/
  connected : b.1.tunnel.isConnected = b.1.session?.isSome
  inFlight : b.1.tunnel.inFlight = (b.1.session?.bind (·.pending)).isSome
  closed : b.1.session? = none → b.2.live = none
  fits : ∀ s, b.1.session? = some s → ∃ r, b.2.live = some r ∧ Fits config r s
  ended : ∀ r ∈ b.2.ended, r.Proper config ∧ r.current = none
  /-- What the client was given has left the queue in order, or is still in it. -/
  order : b.2.accepted = b.2.sessions.flatMap (·.frames) ++ b.1.tunnel.outbox
  log : b.2.sent = b.2.sessions.flatMap (·.requests)

section
variable {config : TunnelConfig} {t t' : Tunnel} {past : Postbook} {r : SessionPost}
  {s s' : TunnelSession} {a : Act} {sent : List Outgoing}

/-! ## Steps of the client -/

theorem noted_running (a : Act) (t : Tunnel) (past : Postbook) :
    (noted Loop.perform Postbook.note a (Loop.running t, past)).1 =
      (⟨(t.perform a).1, a.ends⟩,
        Postbook.note a (Loop.running t) ⟨(t.perform a).1, a.ends⟩ (t.perform a).2 past) := by
  have hperform : Loop.perform a (Loop.running t) =
      (⟨(t.perform a).1, a.ends⟩, (t.perform a).2) := by
    rw [Loop.perform, Loop.running, if_neg Bool.false_ne_true]
  rw [noted]
  simp only [hperform]

theorem sessions_live (hlive : past.live = some r) : past.sessions = past.ended ++ [r] := by
  rw [Postbook.sessions, hlive]
  rfl

theorem sessions_closed (hlive : past.live = none) : past.sessions = past.ended := by
  rw [Postbook.sessions, hlive]
  exact List.append_nil _

theorem popped_of_eq (h : t'.outbox = t.outbox) :
    t.outbox.take (t.outbox.length - t'.outbox.length) = [] := by
  rw [h, Nat.sub_self, List.take_zero]

theorem popped_of_cons {frame : Frame} (h : t.outbox = frame :: t'.outbox) :
    t.outbox.take (t.outbox.length - t'.outbox.length) = [frame] := by
  rw [h, List.length_cons, Nat.add_sub_cancel_left, List.take_succ_cons, List.take_zero]

/-- There is no session, before and after. -/
theorem Sound.stays_apart (h : Sound config (Loop.running t, past)) {l' : Loop}
    (hbefore : t.session? = none) (hafter : l'.session? = none)
    (hconfig : l'.tunnel.config = config) (hconnected : l'.tunnel.isConnected = false)
    (hinFlight : l'.tunnel.inFlight = false)
    (hgiven : l'.tunnel.outbox = t.outbox ++ Postbook.givenBy a) (hquiet : requestsAmong sent = []) :
    Sound config (l', Postbook.note a (Loop.running t) l' sent past) := by
  have hclosed : past.live = none := h.closed hbefore
  have hnote : Postbook.note a (Loop.running t) l' sent past =
      { past with accepted := past.accepted ++ Postbook.givenBy a } := by
    unfold Postbook.note
    simp only [hclosed, hafter, hquiet, List.append_nil]
    rfl
  rw [hnote]
  refine ⟨hconfig, ?_, ?_, fun _ => hclosed, fun s hs => ?_, h.ended, ?_, h.log⟩
  · rw [hafter]
    exact hconnected
  · rw [hafter]
    exact hinFlight
  · rw [hafter] at hs
    cases hs
  · show past.accepted ++ Postbook.givenBy a = past.sessions.flatMap (·.frames) ++ l'.tunnel.outbox
    rw [hgiven, ← List.append_assoc]
    exact congrArg (· ++ Postbook.givenBy a) h.order

/-- A session begins. -/
theorem Sound.begins (h : Sound config (Loop.running t, past)) (hbefore : t.session? = none)
    (hafter : t'.session? = some s) (hnumber : s.sendNo = 0) (hpending : s.pending = none)
    (hconfig : t'.config = config) (hconnected : t'.isConnected = true)
    (hinFlight : t'.inFlight = t.inFlight) (houtbox : t'.outbox = t.outbox)
    (hgiven : Postbook.givenBy a = []) (hquiet : requestsAmong sent = []) :
    Sound config
      (Loop.running t', Postbook.note a (Loop.running t) (Loop.running t') sent past) := by
  have hclosed : past.live = none := h.closed hbefore
  have hafter' : (Loop.running t').session? = some s := hafter
  have hnote : Postbook.note a (Loop.running t) (Loop.running t') sent past =
      { past with live := some (.opened s) } := by
    unfold Postbook.note
    simp only [hclosed, hafter', hquiet, hgiven, List.append_nil, ite_self]
  have horder := h.order
  have hlog := h.log
  rw [sessions_closed hclosed] at horder hlog
  rw [hnote]
  refine ⟨hconfig, ?_, ?_, fun hnone => ?_, fun s' hs' => ?_, h.ended, ?_, ?_⟩
  · rw [hafter']
    exact hconnected
  · have hidle : t.inFlight = false := by
      have hbefore' : (Loop.running t).session? = none := hbefore
      have hinFlight' := h.inFlight
      rw [hbefore'] at hinFlight'
      exact hinFlight'
    rw [hafter', Option.bind_some, hpending]
    exact hinFlight.trans hidle
  · rw [hafter'] at hnone
    cases hnone
  · rw [hafter'] at hs'
    cases hs'
    exact ⟨_, rfl, Fits.opened hnumber hpending⟩
  · have hempty : (SessionPost.opened s).frames = [] := rfl
    rw [sessions_live rfl, List.flatMap_append, List.flatMap_singleton, hempty, List.append_nil]
    exact horder.trans (congrArg _ houtbox.symm)
  · have hempty : (SessionPost.opened s).requests = [] := rfl
    rw [sessions_live rfl, List.flatMap_append, List.flatMap_singleton, hempty, List.append_nil]
    exact hlog

/-- The session goes on. -/
theorem Sound.goes_on (h : Sound config (Loop.running t, past)) (hlive : past.live = some r)
    (hafter : t'.session? = some s') (hconfig : t'.config = config)
    (hconnected : t'.isConnected = true) (hinFlight : t'.inFlight = s'.pending.isSome)
    {popped : List Frame} (hpopped : t.outbox.take (t.outbox.length - t'.outbox.length) = popped)
    (hqueue : t.outbox ++ Postbook.givenBy a = popped ++ t'.outbox)
    (hcontinues : Continues config r
      (r.follow popped (lookedAt a t) (requestsAmong sent) s'.pending.isSome) s' popped
      (requestsAmong sent)) :
    Sound config
      (Loop.running t', Postbook.note a (Loop.running t) (Loop.running t') sent past) := by
  obtain ⟨r', hr'⟩ : ∃ r', r.follow popped (lookedAt a t) (requestsAmong sent)
      s'.pending.isSome = r' := ⟨_, rfl⟩
  have hafter' : (Loop.running t').session? = some s' := hafter
  have hnote : Postbook.note a (Loop.running t) (Loop.running t') sent past =
      { past with
        accepted := past.accepted ++ Postbook.givenBy a
        sent := past.sent ++ requestsAmong sent
        live := some r' } := by
    rw [← hr', ← hpopped]
    unfold Postbook.note
    simp only [hlive, hafter']
    rfl
  have horder := h.order
  have hlog := h.log
  rw [sessions_live hlive, List.flatMap_append, List.flatMap_singleton] at horder hlog
  simp only [Loop.running] at horder hlog
  rw [hr'] at hcontinues
  rw [hnote]
  refine ⟨hconfig, ?_, ?_, fun hnone => ?_, fun s'' hs'' => ?_, h.ended, ?_, ?_⟩
  · rw [hafter']
    exact hconnected
  · rw [hafter']
    exact hinFlight
  · rw [hafter'] at hnone
    cases hnone
  · rw [hafter'] at hs''
    cases hs''
    exact ⟨r', rfl, hcontinues.fits⟩
  · rw [sessions_live rfl, List.flatMap_append, List.flatMap_singleton, hcontinues.frames_eq]
    simp only [Loop.running]
    rw [horder, List.append_assoc, hqueue]
    simp only [List.append_assoc]
  · rw [sessions_live rfl, List.flatMap_append, List.flatMap_singleton, hcontinues.requests_eq]
    simp only
    rw [hlog, List.append_assoc]

/-- The session ends. -/
theorem Sound.ends (h : Sound config (Loop.running t, past)) (hbefore : t.session? = some s)
    {l' : Loop} (hafter : l'.session? = none) (hconfig : l'.tunnel.config = config)
    (hconnected : l'.tunnel.isConnected = false) (hinFlight : l'.tunnel.inFlight = false)
    (houtbox : l'.tunnel.outbox = t.outbox) (hgiven : Postbook.givenBy a = [])
    (hquiet : requestsAmong sent = []) :
    Sound config (l', Postbook.note a (Loop.running t) l' sent past) := by
  obtain ⟨r, hlive, hfits⟩ := h.fits s hbefore
  obtain ⟨hproper, hframes, hrequests⟩ := hfits.close
  simp only at hlive
  have hnote : Postbook.note a (Loop.running t) l' sent past =
      ⟨past.accepted, past.sent, past.ended ++ [r.close], none⟩ := by
    unfold Postbook.note
    simp only [hlive, hafter, hquiet, hgiven, List.append_nil, ite_self]
  have horder := h.order
  have hlog := h.log
  rw [sessions_live hlive, List.flatMap_append, List.flatMap_singleton] at horder hlog
  rw [hnote]
  refine ⟨hconfig, ?_, ?_, fun _ => rfl, fun s' hs' => ?_, fun r' hr' => ?_, ?_, ?_⟩
  · rw [hafter]
    exact hconnected
  · rw [hafter]
    exact hinFlight
  · rw [hafter] at hs'
    cases hs'
  · rcases List.mem_append.1 hr' with hr' | hr'
    · exact h.ended r' hr'
    · rw [List.mem_singleton.1 hr']
      exact ⟨hproper, rfl⟩
  · rw [sessions_closed rfl, List.flatMap_append, List.flatMap_singleton, hframes, houtbox]
    exact horder
  · rw [sessions_closed rfl, List.flatMap_append, List.flatMap_singleton, hrequests]
    exact hlog

/-- What others see while there is a session. -/
theorem Sound.shown_of_session (h : Sound config (Loop.running t, past))
    (hs : t.session? = some s) : t.isConnected = true ∧ t.inFlight = s.pending.isSome := by
  have hs' : (Loop.running t).session? = some s := hs
  have hconnected := h.connected
  have hinFlight := h.inFlight
  rw [hs'] at hconnected hinFlight
  exact ⟨hconnected, hinFlight⟩

/-- What others see while there is none. -/
theorem Sound.shown_of_none (h : Sound config (Loop.running t, past)) (hnone : t.session? = none) :
    t.isConnected = false ∧ t.inFlight = false := by
  have hnone' : (Loop.running t).session? = none := hnone
  have hconnected := h.connected
  have hinFlight := h.inFlight
  rw [hnone'] at hconnected hinFlight
  exact ⟨hconnected, hinFlight⟩

/-- A session goes on, and its frames are where they were. -/
theorem Sound.keeps_queue (h : Sound config (Loop.running t, past))
    (hbefore : t.session? = some s) (hafter : t'.session? = some s') (hconfig : t'.config = config)
    (hconnected : t'.isConnected = t.isConnected) (hinFlight : t'.inFlight = s'.pending.isSome)
    (houtbox : t'.outbox = t.outbox) (hgiven : Postbook.givenBy a = [])
    (hcontinues : ∀ r, Fits config r s → Continues config r
      (r.follow [] (lookedAt a t) (requestsAmong sent) s'.pending.isSome) s' []
      (requestsAmong sent)) :
    Sound config
      (Loop.running t', Postbook.note a (Loop.running t) (Loop.running t') sent past) := by
  obtain ⟨r, hlive, hfits⟩ := h.fits s hbefore
  refine h.goes_on hlive hafter hconfig (hconnected.trans (h.shown_of_session hbefore).1) hinFlight
    (popped_of_eq houtbox) ?_ (hcontinues r hfits)
  rw [hgiven, houtbox, List.append_nil, List.nil_append]

/-- A session goes on, and takes the next frame out of the queue. -/
theorem Sound.takes_front (h : Sound config (Loop.running t, past)) {frame : Frame}
    (hbefore : t.session? = some s) (hafter : t'.session? = some s') (hconfig : t'.config = config)
    (hconnected : t'.isConnected = t.isConnected) (hinFlight : t'.inFlight = s'.pending.isSome)
    (hqueue : t.outbox = frame :: t'.outbox) (hgiven : Postbook.givenBy a = [])
    (hcontinues : ∀ r, Fits config r s → Continues config r
      (r.follow [frame] (lookedAt a t) (requestsAmong sent) s'.pending.isSome) s' [frame]
      (requestsAmong sent)) :
    Sound config
      (Loop.running t', Postbook.note a (Loop.running t) (Loop.running t') sent past) := by
  obtain ⟨r, hlive, hfits⟩ := h.fits s hbefore
  refine h.goes_on hlive hafter hconfig (hconnected.trans (h.shown_of_session hbefore).1) hinFlight
    (popped_of_cons hqueue) ?_ (hcontinues r hfits)
  rw [hgiven, hqueue, List.append_nil, List.singleton_append]

/-! ## Parts of a turn -/

section
variable (h : Sound config (Loop.running t, past)) (hconfig : t'.config = config)
  (hgiven : Postbook.givenBy a = []) (hconnected : t'.isConnected = t.isConnected)
include h hconfig hgiven hconnected

/-- Nothing happens to the frames of the session. -/
theorem kept_sound (hbefore : t.session? = some s) (hafter : t'.session? = some s')
    (hsame : SameNumber s s') (hpending : s'.pending = s.pending) (houtbox : t'.outbox = t.outbox)
    (hinFlight : t'.inFlight = t.inFlight ∨ t'.inFlight = false ∧ s.pending = none)
    (hquiet : requestsAmong sent = []) :
    Sound config
      (Loop.running t', Postbook.note a (Loop.running t) (Loop.running t') sent past) := by
  refine h.keeps_queue hbefore hafter hconfig hconnected ?_ houtbox hgiven fun r hfits => ?_
  · rw [hpending]
    rcases hinFlight with heq | ⟨heq, hidle⟩
    · exact heq.trans (h.shown_of_session hbefore).2
    · rw [hidle]
      exact heq
  · rw [hquiet]
    exact hfits.continues_same hsame hpending _

/-- The outstanding frame is sent once more. -/
theorem resent_sound {now : Nat} {p : PendingRequest} {asides : List Outgoing}
    (hbefore : t.session? = some s) (hafter : t'.session? = some s') (hsame : SameNumber s s')
    (hbusy : s.pending = some p) (hleft : p.attempts < t.config.sendAttempts)
    (hpending : s'.pending = some { p with sentAt := now, attempts := p.attempts + 1 })
    (houtbox : t'.outbox = t.outbox) (hinFlight : t'.inFlight = t.inFlight)
    (hsent : sent = ⟨p.packet, s.data⟩ :: asides) (hquiet : requestsAmong asides = []) :
    Sound config
      (Loop.running t', Postbook.note a (Loop.running t) (Loop.running t') sent past) := by
  have hconfig₀ : t.config = config := h.config_eq
  rw [hconfig₀] at hleft
  refine h.keeps_queue hbefore hafter hconfig hconnected ?_ houtbox hgiven fun r hfits => ?_
  · rw [hpending, hinFlight, (h.shown_of_session hbefore).2, hbusy]
    rfl
  · obtain ⟨hservice, hcontinues⟩ :=
      hfits.continues_again hbusy hleft hsame hpending (lookedAt a t)
    have hrequests : requestsAmong sent = [⟨p.packet, s.data⟩] := by
      rw [hsent, requestsAmong, List.filter_cons, if_pos (decide_eq_true hservice)]
      exact congrArg _ hquiet
    rw [hrequests, hpending]
    exact hcontinues

/-- The outstanding frame is acknowledged. -/
theorem acknowledged_sound {p : PendingRequest} {answer : Packet} {status : UInt8}
    (hbefore : t.session? = some s)
    (hafter : t'.session? = some { s with sendNo := s.sendNo + 1, pending := none })
    (hlooked : lookedAt a t = some answer)
    (hreads : TunnelAck.ofPacket answer = .ok ⟨s.channel, s.sendNo, status⟩)
    (hbusy : s.pending = some p) (houtbox : t'.outbox = t.outbox) (hinFlight : t'.inFlight = false)
    (hquiet : requestsAmong sent = []) :
    Sound config
      (Loop.running t', Postbook.note a (Loop.running t) (Loop.running t') sent past) := by
  refine h.keeps_queue hbefore hafter hconfig hconnected hinFlight houtbox hgiven fun r hfits => ?_
  rw [hquiet, hlooked]
  exact hfits.continues_settled hbusy hreads

/-- The next frame is sent. -/
theorem posted_sound {now : Nat} {frame : Frame} {message : Octets}
    (hbefore : t.session? = some s) (hidle : s.pending = none)
    (hqueue : t.outbox = frame :: t'.outbox)
    (hwrites : (Cemi.mk .request frame).toOctets = .ok message)
    (hafter : t'.session? = some
      { s with pending := some ⟨(TunnelRequest.mk s.channel s.sendNo message).toPacket, now, 1⟩ })
    (hinFlight : t'.inFlight = true)
    (hsent : sent = [⟨(TunnelRequest.mk s.channel s.sendNo message).toPacket, s.data⟩]) :
    Sound config
      (Loop.running t', Postbook.note a (Loop.running t) (Loop.running t') sent past) := by
  refine h.takes_front hbefore hafter hconfig hconnected hinFlight hqueue hgiven fun r hfits => ?_
  rw [hsent]
  exact hfits.continues_posted hidle hwrites now _

/-- The next frame cannot be written. -/
theorem dropped_sound {frame : Frame} {cause : EncodeError} (hbefore : t.session? = some s)
    (hidle : s.pending = none) (hqueue : t.outbox = frame :: t'.outbox)
    (hfails : (Cemi.mk .request frame).toOctets = .error cause) (hafter : t'.session? = some s)
    (hinFlight : t'.inFlight = false) (hsent : sent = []) :
    Sound config
      (Loop.running t', Postbook.note a (Loop.running t) (Loop.running t') sent past) := by
  refine h.takes_front hbefore hafter hconfig hconnected ?_ hqueue hgiven fun r hfits => ?_
  · rw [hinFlight, hidle]
    rfl
  · rw [hsent, hidle]
    exact hfits.continues_dropped hidle hfails _

end

/-- What a part of a turn does to the frames keeps the books in order. -/
theorem course_sound (h : Sound config (Loop.running t, past)) (hconfig : t'.config = config)
    (hgiven : Postbook.givenBy a = []) (hcourse : Course (lookedAt a t) t t' sent) :
    Sound config
      (Loop.running t', Postbook.note a (Loop.running t) (Loop.running t') sent past) := by
  cases hcourse with
  | apart before after outbox_eq connected_eq inFlight_eq quiet =>
    obtain ⟨hconnected, hinFlight⟩ := h.shown_of_none before
    refine h.stays_apart before after hconfig (connected_eq.trans hconnected)
      (inFlight_eq.trans hinFlight) ?_ quiet
    rw [hgiven, List.append_nil]
    exact outbox_eq
  | opened s' before after sendNo_eq pending_eq outbox_eq connected inFlight_eq quiet =>
    exact h.begins before after sendNo_eq pending_eq hconfig connected inFlight_eq outbox_eq hgiven
      quiet
  | kept s s' before after same pending_eq outbox_eq connected_eq inFlight_eq quiet =>
    exact kept_sound h hconfig hgiven connected_eq before after same pending_eq outbox_eq
      inFlight_eq quiet
  | resent now s s' p asides before after same busy left pending_eq outbox_eq connected_eq
      inFlight_eq sent_eq quiet =>
    exact resent_sound h hconfig hgiven connected_eq before after same busy left pending_eq
      outbox_eq inFlight_eq sent_eq quiet
  | acknowledged s s' p answer status before after looked_eq reads busy eq outbox_eq connected_eq
      inFlight_eq quiet =>
    subst eq
    exact acknowledged_sound h hconfig hgiven connected_eq before after looked_eq reads busy
      outbox_eq inFlight_eq quiet
  | posted now s frame rest message before idle queue writes after outbox_eq connected_eq
      inFlight_eq sent_eq =>
    subst outbox_eq
    exact posted_sound h hconfig hgiven connected_eq before idle queue writes after inFlight_eq
      sent_eq
  | dropped s frame rest cause before idle queue fails after outbox_eq connected_eq inFlight_eq
      sent_eq =>
    subst outbox_eq
    exact dropped_sound h hconfig hgiven connected_eq before idle queue fails after inFlight_eq
      sent_eq
  | ended s before after outbox_eq connected inFlight_eq quiet =>
    exact h.ends before after hconfig connected inFlight_eq outbox_eq hgiven quiet

end
end Tunnel
end KnxBus
