import KnxBus.Proofs.Tunnel.Bookkeeping

/-!
# What becomes of the frames of a client

The books of a client are in order after every run (`run_sound`), so they say what has become of each
frame: `frames_sent_in_order`.
-/

namespace KnxBus
namespace Tunnel

section
variable {config : TunnelConfig} {t : Tunnel} {past : Postbook} {r : SessionPost}

/-! ## Runs of the client -/

/-- A frame is given to the client. -/
theorem send_sound (h : Sound config (Loop.running t, past)) (frame : Frame) :
    Sound config (Loop.running (t.send frame),
      Postbook.note (.send frame) (Loop.running t) (Loop.running (t.send frame)) [] past) := by
  have hconfig : (t.send frame).config = config := h.config_eq
  cases hsession : t.session? with
  | none =>
    obtain ⟨hconnected, hinFlight⟩ := h.shown_of_none hsession
    exact h.stays_apart hsession hsession hconfig hconnected hinFlight rfl rfl
  | some s =>
    obtain ⟨r, hlive, hfits⟩ := h.fits s hsession
    obtain ⟨hconnected, hinFlight⟩ := h.shown_of_session hsession
    have hpopped : t.outbox.take (t.outbox.length - (t.send frame).outbox.length) = [] := by
      have hlonger : (t.send frame).outbox = t.outbox ++ [frame] := rfl
      rw [hlonger, List.length_append, Nat.sub_eq_zero_of_le (Nat.le_add_right _ _),
        List.take_zero]
    exact h.goes_on hlive hsession hconfig hconnected hinFlight hpopped rfl
      (hfits.continues_same (SameNumber.refl s) rfl _)

/-- The client ends. -/
theorem finish_sound (h : Sound config (Loop.running t, past)) :
    Sound config (⟨t.finish.1, true⟩,
      Postbook.note .finish (Loop.running t) ⟨t.finish.1, true⟩ t.finish.2 past) := by
  have hconfig : t.finish.1.config = config := (perform_setup .finish t).config_eq.trans h.config_eq
  have hover : (⟨t.finish.1, true⟩ : Loop).session? = none := rfl
  have hended : t.finish.1.isConnected = false ∧ t.finish.1.inFlight = false ∧
      t.finish.1.outbox = t.outbox ∧ requestsAmong t.finish.2 = [] := by
    unfold finish
    simp only
    split
    · rename_i s _
      exact ⟨rfl, rfl, rfl, requestsAmong_asides (disconnectRequest_asides t s.channel)⟩
    · exact ⟨rfl, rfl, rfl, rfl⟩
  obtain ⟨hconnected, hinFlight, houtbox, hquiet⟩ := hended
  cases hsession : t.session? with
  | none =>
    refine h.stays_apart hsession hover hconfig hconnected hinFlight ?_ hquiet
    exact houtbox.trans (List.append_nil _).symm
  | some s => exact h.ends hsession hover hconfig hconnected hinFlight houtbox rfl hquiet

/-- Nothing happens to a client that has ended. -/
theorem noted_over {l : Loop} (hover : l.isOver = true) (h : Sound config (l, past)) (a : Act) :
    (noted Loop.perform Postbook.note a (l, past)).1 = (l, past) := by
  have hnone : l.session? = none := by rw [Loop.session?, if_pos hover]
  have hperform : Loop.perform a l = (l, []) := by rw [Loop.perform, if_pos hover]
  have hclosed : past.live = none := h.closed hnone
  have hnote : Postbook.note a l l [] past = past := by
    unfold Postbook.note
    simp only [hclosed, hnone, hover, if_true, requestsAmong_nil, List.append_nil]
    rw [← hclosed]
  rw [noted, hperform]
  simp only
  rw [hnote]

/-- **Whatever happens at a client keeps its books in order.** -/
theorem act_sound (a : Act) (b : Loop × Postbook) (h : Sound config b) :
    Sound config (noted Loop.perform Postbook.note a b).1 := by
  obtain ⟨l, past⟩ := b
  cases hover : l.isOver with
  | true =>
    rw [noted_over hover h]
    exact h
  | false =>
    have hrunning := Loop.running_of_not_over hover
    generalize l.tunnel = t at hrunning
    subst hrunning
    have hconfig : (t.perform a).1.config = config := (perform_setup a t).config_eq.trans h.config_eq
    rw [noted_running]
    cases a with
    | send frame => exact send_sound h frame
    | finish => exact finish_sound h
    | attend | look | timers | next =>
      exact course_sound h hconfig rfl (perform_course (fun _ heq => by cases heq) rfl t)

/-- **The books are in order at all times**, if they were at first. -/
theorem run_sound {b : Loop × Postbook} (h : Sound config b) (events : List Event)
    (acts : List Act) :
    Sound config (runWith (noted Loop.perform Postbook.note) acts
      (Loop.noteRun Postbook.note events b).1).1 := by
  refine runWith_invariant (noted Loop.perform Postbook.note) (Sound config) act_sound acts
    (Loop.noteRun_kept ?_ act_sound events h)
  intro l l' past hover hlink hconfig houtbox hconnected hinFlight h
  have hsession : l'.session? = l.session? := by
    rw [Loop.session?, Loop.session?, hover, Tunnel.session?, Tunnel.session?, hlink]
  refine ⟨hconfig.trans h.config_eq, ?_, ?_, fun hnone => h.closed (hsession.symm.trans hnone),
    fun s hs => h.fits s (hsession.symm.trans hs), h.ended, ?_, h.log⟩
  · rw [hsession]
    exact hconnected.trans h.connected
  · rw [hsession]
    exact hinFlight.trans h.inFlight
  · rw [houtbox]
    exact h.order

theorem start_sound {host : Host} {inUse : List UInt16} {gateway : Endpoint} {now : Nat}
    (h : Tunnel.connect host inUse gateway config now = .ok t) :
    Sound config (Loop.running t, Postbook.empty) := by
  obtain ⟨own, rfl⟩ := eq_fresh_of_connect h
  refine ⟨rfl, rfl, rfl, fun _ => rfl, fun s hs => ?_, fun r hr => ?_, rfl, rfl⟩
  · cases hs
  · cases hr

/-! ## What the books say about a run -/

theorem note_sent (a : Act) (b : Loop × Postbook) :
    (noted Loop.perform Postbook.note a b).1.2.sent =
      b.2.sent ++ requestsAmong (noted Loop.perform Postbook.note a b).2 := by
  obtain ⟨l, past⟩ := b
  rw [noted]
  simp only
  unfold Postbook.note
  simp only
  split <;> rfl

/-- The frames that were put into requests in a session are those that can be written. -/
theorem SessionPost.Proper.posted_eq (h : r.Proper config) :
    r.frames.filter (fun f => IsWritable f) = r.posted := by
  have hgone : ∀ d ∈ r.gone, decide (IsWritable d.frame) = d.isWritten := by
    intro d hd
    obtain ⟨before, after, hsplit⟩ := List.append_of_mem hd
    have hends := h.gone before d after hsplit
    unfold SessionPost.Ends at hends
    cases hfate : d.fate with
    | unwritable =>
      rw [hfate] at hends
      rw [Posting.isWritten, hfate]
      exact decide_eq_false hends.2
    | settled answer =>
      rw [hfate] at hends
      obtain ⟨message, hwrites, -⟩ := hends.1.same
      rw [Posting.isWritten, hfate]
      exact decide_eq_true ⟨message, hwrites⟩
    | abandoned =>
      rw [hfate] at hends
      obtain ⟨message, hwrites, -⟩ := hends.1.same
      rw [Posting.isWritten, hfate]
      exact decide_eq_true ⟨message, hwrites⟩
  have hcurrent : ∀ f ∈ r.current.toList.map (·.frame), decide (IsWritable f) = true := by
    intro f hf
    obtain ⟨u, hu, rfl⟩ := List.mem_map.1 hf
    obtain ⟨message, hwrites, -⟩ := (h.current u (Option.mem_toList.1 hu)).same
    exact decide_eq_true ⟨message, hwrites⟩
  rw [SessionPost.frames, SessionPost.posted, List.filter_append, List.filter_eq_self.2 hcurrent,
    List.filter_map]
  congr 2
  exact List.filter_congr hgone

theorem Sound.proper {b : Loop × Postbook} (h : Sound config b) :
    ∀ r ∈ b.2.sessions, r.Proper config := by
  intro r hr
  rcases List.mem_append.1 hr with hr | hr
  · exact (h.ended r hr).1
  · rw [Option.mem_toList] at hr
    cases hs : b.1.session? with
    | none =>
      rw [h.closed hs] at hr
      cases hr
    | some s =>
      obtain ⟨r', hlive, hfits⟩ := h.fits s hs
      rw [hlive] at hr
      cases hr
      exact hfits.proper

/-- The frames that were given and can be written were put into requests, or still wait. -/
theorem Sound.posted {b : Loop × Postbook} (h : Sound config b) :
    b.2.accepted.filter (fun f => IsWritable f) =
      b.2.sessions.flatMap (·.posted) ++
        b.1.tunnel.outbox.filter (fun f => IsWritable f) := by
  rw [h.order, List.filter_append, List.filter_flatMap]
  congr 1
  rw [List.flatMap_def, List.flatMap_def]
  exact congrArg List.flatten (List.map_congr_left fun r hr => (h.proper r hr).posted_eq)

theorem Sound.live_faithful {b : Loop × Postbook} (h : Sound config b) {r : SessionPost}
    (hr : b.2.live = some r) : ∀ d ∈ r.gone, d.fate ≠ .abandoned := by
  cases hs : b.1.session? with
  | none =>
    rw [h.closed hs] at hr
    cases hr
  | some s =>
    obtain ⟨r', hlive, hfits⟩ := h.fits s hs
    rw [hlive] at hr
    cases hr
    exact hfits.faithful

/-- While the loop runs, what others see is right. -/
theorem Sound.shown {b : Loop × Postbook} (h : Sound config b) (hrunning : b.1.isOver = false) :
    (b.1.tunnel.inFlight = true ↔
      ∃ s, b.1.tunnel.link = .connected s ∧ s.pending.isSome = true) ∧
    (b.1.tunnel.isConnected = true ↔ ∃ s, b.1.tunnel.link = .connected s) := by
  have hsession : b.1.session? = b.1.tunnel.session? := by
    rw [Loop.session?, if_neg (by rw [hrunning]; exact Bool.false_ne_true)]
  have hconnected := h.connected
  have hinFlight := h.inFlight
  rw [hsession] at hconnected hinFlight
  rw [hconnected, hinFlight]
  constructor
  · rw [Option.isSome_bind, Option.any_eq_true]
    exact exists_congr fun s => and_congr_left' session?_eq_some_iff
  · rw [Option.isSome_iff_exists]
    exact exists_congr fun s => session?_eq_some_iff

end

/-- **The frames of a client are sent in order, each in one session only.**  Take a client that has
been opened, any run, and any acts behind it (such as the parts of a further turn); the datagrams
that reach it are arbitrary.  The books are about the client as it is, and hold all requests that it
has sent.  The frames that it was given have left the queue in order or are still in it, and those
that can be written were put into requests, in order and once each.  In each session they were sent
under consecutive numbers, each in a limited number of equal requests, and each was acknowledged
under its number before the next one was sent (`Proper`); only the last one may be lost, and only
because the session has ended.  While the loop runs, a frame is shown as outstanding exactly if a
request is, and a connection exactly if there is a session. -/
theorem frames_sent_in_order {host : Host} {inUse : List UInt16} {gateway : Endpoint}
    {config : TunnelConfig} {now : Nat} {t₀ : Tunnel}
    (h : Tunnel.connect host inUse gateway config now = .ok t₀) (events : List Event)
    (acts : List Act) :
    let done := (Loop.running t₀).run events
    let more := runWith Loop.perform acts done.1
    let l := more.1
    let b := (runWith (noted Loop.perform Postbook.note) acts
      (Loop.noteRun Postbook.note events (Loop.running t₀, Postbook.empty)).1).1
    b.1 = l ∧
    requestsAmong (done.2 ++ more.2) = b.2.sessions.flatMap (·.requests) ∧
    b.2.accepted = b.2.sessions.flatMap (·.frames) ++ l.tunnel.outbox ∧
    b.2.accepted.filter (fun f => IsWritable f) =
      b.2.sessions.flatMap (·.posted) ++ l.tunnel.outbox.filter (fun f => IsWritable f) ∧
    (∀ r ∈ b.2.sessions, r.Proper config) ∧
    (∀ r ∈ b.2.ended, r.current = none) ∧
    (∀ r, b.2.live = some r → ∀ d ∈ r.gone, d.fate ≠ .abandoned) ∧
    (l.isOver = false →
      (l.tunnel.inFlight = true ↔
        ∃ s, l.tunnel.link = .connected s ∧ s.pending.isSome = true) ∧
      (l.tunnel.isConnected = true ↔ ∃ s, l.tunnel.link = .connected s)) := by
  intro done more l b
  have hloop : b.1 = l :=
    congrArg Prod.fst (Loop.noteRun_acts Postbook.note events acts
      (Loop.running t₀, Postbook.empty))
  have hsent : b.2.sent = requestsAmong (done.2 ++ more.2) :=
    Loop.noteRun_collects Postbook.note requestsAmong_nil requestsAmong_append note_sent events acts
      (Loop.running t₀, Postbook.empty)
  have hsound : Sound config b := run_sound (start_sound h) events acts
  rw [← hloop]
  exact ⟨rfl, hsent.symm.trans hsound.log, hsound.order, hsound.posted, hsound.proper,
    fun r hr => (hsound.ended r hr).2, fun r hr => hsound.live_faithful hr, hsound.shown⟩

/-! ## Three sessions -/

/-- A client that has just been opened. -/
def caller : Tunnel :=
  { config := .usual
    gateway := ⟨⟨10, 0, 0, 1⟩, 3671⟩
    own := ⟨⟨10, 0, 0, 2⟩, 50000⟩
    socket := .bound 50000 (.peers [.v4 ⟨⟨10, 0, 0, 1⟩, 3671⟩])
    link := .disconnected 0
    received := []
    outbox := []
    inbox := []
    mode := .off
    address := .unset
    isConnected := false
    lastChannel := 0
    inFlight := false }

theorem connect_caller :
    Tunnel.connect ⟨⟨10, 0, 0, 2⟩, [], []⟩ [] ⟨⟨10, 0, 0, 1⟩, 3671⟩ .usual 0 = .ok caller := rfl

/-- Octets come from the gateway. -/
def fromGateway (content : Octets) : Event := .arrive (.octets content ⟨⟨10, 0, 0, 1⟩, 3671⟩)

/-- The gateway grants a channel. -/
def grants (channel : UInt8) : Octets :=
  [6, 0x10, 2, 6, 0, 0x14, channel, 0, 8, 1, 10, 0, 0, 1, 0x0e, 0x57, 4, 4, 0, 0]

/-- A frame to a group, with a unit. -/
def groupFrame (payload : Octets) : Frame := .addressed (.group ⟨1⟩) payload

/-- A client is given four frames, the second of which cannot be written.  In a first session the
first one is sent twice and acknowledged, and the third is outstanding when the gateway closes the
channel.  In a second session the fourth is sent. -/
def twoSessions : List Event :=
  [.send (groupFrame [0, 1]), .send (groupFrame []), .send (groupFrame [0, 2]),
    .send (groupFrame [0, 3]), .turn 0, fromGateway (grants 5), .takeIn 0, .turn 0, .turn 1000,
    fromGateway [6, 0x10, 4, 0x21, 0, 10, 4, 5, 0, 0], .takeIn 1500, .turn 1500, .turn 1500,
    fromGateway [6, 0x10, 2, 9, 0, 0x10, 5, 0, 8, 1, 10, 0, 0, 1, 0x0e, 0x57], .takeIn 1600,
    .turn 1600, .turn 11600, fromGateway (grants 7), .takeIn 11700, .turn 11700]

/-- The client and its books then. -/
def called : Loop × Postbook :=
  (Loop.noteRun Postbook.note twoSessions (Loop.running caller, Postbook.empty)).1

theorem frames_sent_in_order_twoSessions :
    (called.1 = ((Loop.running caller).run twoSessions).1 ∧
        called.2.sessions.map (·.channel) = [5, 7] ∧
        called.2.sessions.map (·.posted) =
          [[groupFrame [0, 1], groupFrame [0, 2]], [groupFrame [0, 3]]]) ∧
      requestsAmong ((Loop.running caller).run twoSessions).2 =
        called.2.sessions.flatMap (·.requests) ∧
      called.2.accepted = called.2.sessions.flatMap (·.frames) ++ called.1.tunnel.outbox ∧
      called.2.accepted.filter (fun f => IsWritable f) =
        called.2.sessions.flatMap (·.posted) ++
          called.1.tunnel.outbox.filter (fun f => IsWritable f) ∧
      (∀ r ∈ called.2.sessions, r.Proper .usual) ∧
      ∃ s, called.1.tunnel.link = .connected s ∧ s.pending.isSome = true := by
  obtain ⟨hloop, hsent, horder, hposted, hproper, -, -, hshown⟩ :=
    frames_sent_in_order connect_caller twoSessions []
  simp only [runWith, List.append_nil] at hloop hsent horder hposted hproper hshown
  rw [← called] at hloop hsent horder hposted hproper
  rw [← hloop] at horder hposted hshown
  refine ⟨⟨hloop, by decide +kernel, by decide +kernel⟩, hsent, horder, hposted, hproper, ?_⟩
  exact (hshown (by decide +kernel)).1.1 (by decide +kernel)

end Tunnel
end KnxBus
