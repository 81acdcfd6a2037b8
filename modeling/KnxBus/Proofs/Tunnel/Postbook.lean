import KnxBus.Proofs.Tunnel.Sending
import KnxBus.Proofs.Window

/-!
# The post of a session

A client forgets a frame as soon as it is done with it.  A `Postbook` remembers: the frames that the
client was given, the requests that it has sent, and for each of its sessions what became of the
frames that left the queue during it.  There are three ends that a frame can come to (`Fate`).  It
could not be written; its acknowledgement was looked at; or the session ended while it was
outstanding.

Here the books are described, and what one session adds to them.  A session and its post fit
together (`Fits`) if the next number counts the frames that the session has sent (`numberOf`) and
the outstanding request carries the current frame.  While the session goes on there are five things
that can happen to its post, and each keeps this.
-/

namespace KnxBus
namespace Tunnel

/-- What has become of a frame that left the queue. -/
inductive Fate where
  /-- It could not be written. -/
  | unwritable
  /-- A datagram was looked at which acknowledged it. -/
  | settled (answer : Option Packet)
  /-- It was outstanding when its session ended. -/
  | abandoned
  deriving DecidableEq, Repr

/-- A frame that the client is done with. -/
structure Posting where
  /-- The frame. -/
  frame : Frame
  /-- The requests in which it was sent, oldest first. -/
  tries : List Outgoing
  /-- What has become of it. -/
  fate : Fate
  deriving DecidableEq, Repr

/-- An outstanding frame. -/
structure Underway where
  /-- The frame. -/
  frame : Frame
  /-- The requests in which it was sent so far, oldest first. -/
  tries : List Outgoing
  deriving DecidableEq, Repr

/-- What was sent in one session. -/
structure SessionPost where
  /-- The number of the channel. -/
  channel : UInt8
  /-- Where requests went. -/
  data : Endpoint
  /-- The frames that the client is done with, oldest first. -/
  gone : List Posting
  /-- The outstanding frame. -/
  current : Option Underway
  deriving DecidableEq, Repr

/-- What a client was given and what has become of it. -/
structure Postbook where
  /-- The frames that it was given, oldest first. -/
  accepted : List Frame
  /-- The requests that it has sent, oldest first. -/
  sent : List Outgoing
  /-- The sessions that have ended, oldest first. -/
  ended : List SessionPost
  /-- The session that goes on. -/
  live : Option SessionPost
  deriving DecidableEq, Repr

/-! ## Keeping books -/

/-- The frame has been put into a request. -/
def Posting.isWritten (d : Posting) : Bool := d.fate ≠ .unwritable

namespace SessionPost

/-- A session on which nothing was sent. -/
def opened (s : TunnelSession) : SessionPost := ⟨s.channel, s.data, [], none⟩

/-- The session has ended. -/
def close (r : SessionPost) : SessionPost :=
  { r with
    gone := r.gone ++ r.current.toList.map fun u => ⟨u.frame, u.tries, .abandoned⟩
    current := none }

/-- The session goes on: `popped` has left the queue, `requests` were sent, and a frame is
outstanding or not. -/
def follow (popped : List Frame) (looked : Option Packet) (requests : List Outgoing) (busy : Bool)
    (r : SessionPost) : SessionPost :=
  match r.current, busy with
  | some u, true => { r with current := some ⟨u.frame, u.tries ++ requests⟩ }
  | some u, false =>
    { r with gone := r.gone ++ [⟨u.frame, u.tries, .settled looked⟩], current := none }
  | none, true => { r with current := popped.head?.map (⟨·, requests⟩) }
  | none, false => { r with gone := r.gone ++ popped.map fun f => ⟨f, [], .unwritable⟩ }

section
variable {r : SessionPost} {u : Underway} (popped : List Frame) (looked : Option Packet)
  (requests : List Outgoing)

theorem follow_again (hu : r.current = some u) :
    r.follow popped looked requests true =
      { r with current := some ⟨u.frame, u.tries ++ requests⟩ } := by
  unfold follow
  simp only [hu]

theorem follow_settled (hu : r.current = some u) :
    r.follow popped looked requests false =
      { r with gone := r.gone ++ [⟨u.frame, u.tries, .settled looked⟩], current := none } := by
  unfold follow
  simp only [hu]

theorem follow_posted (hu : r.current = none) (frame : Frame) :
    r.follow [frame] looked requests true = { r with current := some ⟨frame, requests⟩ } := by
  unfold follow
  simp only [hu]
  rfl

theorem follow_dropped (hu : r.current = none) (frame : Frame) :
    r.follow [frame] looked requests false =
      { r with gone := r.gone ++ [⟨frame, [], .unwritable⟩], current := none } := by
  unfold follow
  simp only [hu, List.map_singleton]

end

/-- The frames that have left the queue in this session, in order. -/
def frames (r : SessionPost) : List Frame :=
  r.gone.map (·.frame) ++ r.current.toList.map (·.frame)

/-- The frames that were put into requests in this session, in order. -/
def posted (r : SessionPost) : List Frame :=
  (r.gone.filter (·.isWritten)).map (·.frame) ++ r.current.toList.map (·.frame)

/-- The requests that were sent in this session, in order. -/
def requests (r : SessionPost) : List Outgoing :=
  r.gone.flatMap (·.tries) ++ r.current.toList.flatMap (·.tries)

end SessionPost

namespace Postbook

/-- Nothing has happened. -/
def empty : Postbook := ⟨[], [], [], none⟩

/-- All sessions, in order. -/
def sessions (b : Postbook) : List SessionPost := b.ended ++ b.live.toList

/-- The frame that a client is given. -/
def givenBy : Act → List Frame
  | .send frame => [frame]
  | _ => []

/-- What the client has become and what it has sent enters into the books. -/
def note (a : Act) (l l' : Loop) (sent : List Outgoing) (b : Postbook) : Postbook :=
  let accepted := b.accepted ++ if l.isOver then [] else givenBy a
  let requests := requestsAmong sent
  match b.live, l'.session? with
  | none, none => { b with accepted := accepted, sent := b.sent ++ requests }
  | none, some s =>
    { b with accepted := accepted, sent := b.sent ++ requests, live := some (.opened s) }
  | some r, none => ⟨accepted, b.sent ++ requests, b.ended ++ [r.close], none⟩
  | some r, some s =>
    let popped := l.tunnel.outbox.take (l.tunnel.outbox.length - l'.tunnel.outbox.length)
    { b with
      accepted := accepted
      sent := b.sent ++ requests
      live := some (r.follow popped (lookedAt a l.tunnel) requests s.pending.isSome) }

end Postbook

/-! ## What the books say -/

/-- The frame can be written as a request. -/
def IsWritable (f : Frame) : Prop := ∃ message, (Cemi.mk .request f).toOctets = .ok message

instance (f : Frame) : Decidable (IsWritable f) :=
  match h : (Cemi.mk .request f).toOctets with
  | .ok message => isTrue ⟨message, h⟩
  | .error _ => isFalse fun ⟨_, h'⟩ => by rw [h] at h'; cases h'

/-- How many frames have been put into requests. -/
def numberOf (gone : List Posting) : Nat := gone.countP (·.isWritten)

@[simp] theorem numberOf_nil : numberOf [] = 0 := rfl

@[simp] theorem numberOf_concat (gone : List Posting) (d : Posting) :
    numberOf (gone ++ [d]) = numberOf gone + if d.isWritten then 1 else 0 := by
  rw [numberOf, List.countP_append, List.countP_singleton]
  rfl

/-- Requests carry a frame under a number, all in the same octets and to the same place; there is
one at least, and not more than the limit allows, unless it allows none. -/
structure Carry (config : TunnelConfig) (channel number : UInt8) (data : Endpoint) (frame : Frame)
    (tries : List Outgoing) : Prop where
  same : ∃ message, (Cemi.mk .request frame).toOctets = .ok message ∧
    ∀ o ∈ tries, o = ⟨(TunnelRequest.mk channel number message).toPacket, data⟩
  tried : tries ≠ []
  bounded : tries.length ≤ max 1 config.sendAttempts

/-- A frame has come to one of the three ends, after `before` and before `after`. -/
def SessionPost.Ends (config : TunnelConfig) (r : SessionPost) (before : List Posting) (d : Posting)
    (after : List Posting) : Prop :=
  match d.fate with
  | .unwritable => d.tries = [] ∧ ¬ IsWritable d.frame
  | .settled answer =>
    Carry config r.channel (octetNo (numberOf before)) r.data d.frame d.tries ∧
      ∃ p status, answer = some p ∧
        TunnelAck.ofPacket p = .ok ⟨r.channel, octetNo (numberOf before), status⟩
  | .abandoned =>
    Carry config r.channel (octetNo (numberOf before)) r.data d.frame d.tries ∧ after = [] ∧
      r.current = none

/-- What was sent in a session was sent for one frame after the other, under consecutive numbers,
and each frame was acknowledged before the next one was sent. -/
structure SessionPost.Proper (config : TunnelConfig) (r : SessionPost) : Prop where
  gone : ∀ before d after, r.gone = before ++ d :: after → r.Ends config before d after
  current : ∀ u, r.current = some u →
    Carry config r.channel (octetNo (numberOf r.gone)) r.data u.frame u.tries

/-- A session and what was sent in it fit together. -/
structure Fits (config : TunnelConfig) (r : SessionPost) (s : TunnelSession) : Prop where
  proper : r.Proper config
  channel_eq : s.channel = r.channel
  data_eq : s.data = r.data
  /-- The next number counts the frames that are done with. -/
  number : s.sendNo = octetNo (numberOf r.gone)
  /-- None was given up; that would have ended the session. -/
  faithful : ∀ d ∈ r.gone, d.fate ≠ .abandoned
  idle : s.pending = none → r.current = none
  /-- What is outstanding is the current frame, as often as it was sent. -/
  busy : ∀ p, s.pending = some p → ∃ u, r.current = some u ∧ u.tries.length = p.attempts ∧
    ∃ message, (Cemi.mk .request u.frame).toOctets = .ok message ∧
      p.packet = (TunnelRequest.mk s.channel s.sendNo message).toPacket

/-! ## Steps that a session survives -/

section
variable {config : TunnelConfig} {t t' : Tunnel} {past : Postbook} {r r' : SessionPost}
  {s s' : TunnelSession} {a : Act} {sent : List Outgoing} {before after : List Posting}
  {d : Posting}

/-- What came to an end before the session did depends on nothing that comes later. -/
theorem SessionPost.Ends.of_faithful (h : r.Ends config before d after)
    (hne : d.fate ≠ .abandoned) (r' : SessionPost) (hchannel : r'.channel = r.channel)
    (hdata : r'.data = r.data) (after' : List Posting) : r'.Ends config before d after' := by
  unfold SessionPost.Ends at h ⊢
  cases hfate : d.fate with
  | unwritable =>
    rw [hfate] at h
    exact h
  | settled answer =>
    rw [hfate] at h
    rw [hchannel, hdata]
    exact h
  | abandoned => exact absurd hfate hne

/-- Where a list that has grown by one element can be split. -/
theorem split_concat {α : Type} {l before after : List α} {x d : α}
    (h : l ++ [x] = before ++ d :: after) :
    (before = l ∧ d = x ∧ after = []) ∨ ∃ later, l = before ++ d :: later := by
  rcases List.eq_nil_or_concat after with rfl | ⟨later, last, rfl⟩
  · obtain ⟨rfl, hlast⟩ := List.append_inj' h rfl
    exact Or.inl ⟨rfl, (List.cons.inj hlast).1.symm, rfl⟩
  · rw [List.concat_eq_append, ← List.cons_append, ← List.append_assoc] at h
    exact Or.inr ⟨later, (List.append_inj' h rfl).1⟩

/-- The outstanding frame changes, or another one takes its place. -/
theorem SessionPost.Proper.withCurrent (h : r.Proper config)
    (hfaithful : ∀ d ∈ r.gone, d.fate ≠ .abandoned) {u : Option Underway}
    (hu : ∀ v, u = some v →
      Carry config r.channel (octetNo (numberOf r.gone)) r.data v.frame v.tries) :
    SessionPost.Proper config { r with current := u } := by
  refine ⟨fun before d after hsplit => ?_, hu⟩
  have hmem : d ∈ r.gone := by
    have hsplit' : r.gone = before ++ d :: after := hsplit
    rw [hsplit']
    exact List.mem_append_right before List.mem_cons_self
  exact (h.gone before d after hsplit).of_faithful (hfaithful d hmem) { r with current := u }
    rfl rfl after

/-- One frame more has come to an end. -/
theorem SessionPost.Proper.concat (h : r.Proper config)
    (hfaithful : ∀ d ∈ r.gone, d.fate ≠ .abandoned)
    (hd : SessionPost.Ends config { r with gone := r.gone ++ [d], current := none } r.gone d []) :
    SessionPost.Proper config { r with gone := r.gone ++ [d], current := none } := by
  refine ⟨fun before d' after hsplit => ?_, fun u hu => by cases hu⟩
  rcases split_concat hsplit with ⟨rfl, rfl, rfl⟩ | ⟨later, hlater⟩
  · exact hd
  · have hmem : d' ∈ r.gone := by
      rw [hlater]
      exact List.mem_append_right before List.mem_cons_self
    exact (h.gone before d' later hlater).of_faithful (hfaithful d' hmem)
      { r with gone := r.gone ++ [d], current := none } rfl rfl after

theorem Fits.current_isSome (h : Fits config r s) : r.current.isSome = s.pending.isSome := by
  cases hp : s.pending with
  | none =>
    rw [h.idle hp]
    rfl
  | some p =>
    obtain ⟨u, hu, -⟩ := h.busy p hp
    rw [hu]
    rfl

/-- The session has gone on: `popped` has left the queue in it, and `requests` were sent. -/
structure Continues (config : TunnelConfig) (r r' : SessionPost) (s' : TunnelSession)
    (popped : List Frame) (requests : List Outgoing) : Prop where
  fits : Fits config r' s'
  frames_eq : r'.frames = r.frames ++ popped
  requests_eq : r'.requests = r.requests ++ requests

/-- Nothing was sent, and nothing has left the queue. -/
theorem Fits.continues_same (h : Fits config r s) (hsame : SameNumber s s')
    (hpending : s'.pending = s.pending) (looked : Option Packet) :
    Continues config r (r.follow [] looked [] s'.pending.isSome) s' [] [] := by
  have hnothing : r.follow [] looked [] s'.pending.isSome = r := by
    have hsome := h.current_isSome
    rw [hpending, ← hsome]
    obtain ⟨channel, data, gone, current⟩ := r
    cases current with
    | none => simp only [SessionPost.follow, Option.isSome_none, List.map_nil, List.append_nil]
    | some u => simp only [SessionPost.follow, Option.isSome_some, List.append_nil]
  rw [hnothing]
  refine ⟨⟨h.proper, hsame.channel_eq.trans h.channel_eq, hsame.data_eq.trans h.data_eq,
    hsame.sendNo_eq.trans h.number, h.faithful, fun hp => h.idle (hpending ▸ hp), fun p hp => ?_⟩,
    (List.append_nil _).symm, (List.append_nil _).symm⟩
  rw [hpending] at hp
  rw [hsame.channel_eq, hsame.sendNo_eq]
  exact h.busy p hp

theorem Fits.opened (hnumber : s.sendNo = 0) (hpending : s.pending = none) :
    Fits config (.opened s) s := by
  refine ⟨⟨fun before d after hsplit => ?_, fun u hu => by cases hu⟩, rfl, rfl, hnumber,
    fun d hd => absurd hd List.not_mem_nil, fun _ => rfl, fun p hp => ?_⟩
  · exact absurd hsplit (by simp [SessionPost.opened])
  · rw [hpending] at hp
    cases hp

/-- The outstanding frame is sent once more. -/
theorem Fits.continues_again (h : Fits config r s) {p : PendingRequest} (hp : s.pending = some p)
    (hleft : p.attempts < config.sendAttempts) (hsame : SameNumber s s') {now : Nat}
    (hp' : s'.pending = some { p with sentAt := now, attempts := p.attempts + 1 })
    (looked : Option Packet) :
    p.packet.service = .tunnelRequest ∧
      Continues config r (r.follow [] looked [⟨p.packet, s.data⟩] true) s' []
        [⟨p.packet, s.data⟩] := by
  obtain ⟨u, hu, hcount, message, hwrites, hpacket⟩ := h.busy p hp
  have hcarry := h.proper.current u hu
  rw [SessionPost.follow_again _ _ _ hu]
  refine ⟨by rw [hpacket]; rfl, ⟨h.proper.withCurrent h.faithful fun v hv => ?_,
    hsame.channel_eq.trans h.channel_eq, hsame.data_eq.trans h.data_eq,
    hsame.sendNo_eq.trans h.number, h.faithful, fun hnone => ?_, fun p' hp'' => ?_⟩, ?_, ?_⟩
  · obtain rfl := Option.some.inj hv
    obtain ⟨message', hwrites', hsent⟩ := hcarry.same
    rw [hwrites] at hwrites'
    cases hwrites'
    refine ⟨⟨message, hwrites, fun o ho => ?_⟩, by simp, ?_⟩
    · rcases List.mem_append.1 ho with ho | ho
      · exact hsent o ho
      · rw [List.mem_singleton.1 ho, hpacket, h.channel_eq, h.data_eq, h.number]
    · simp only [List.length_append, List.length_singleton, hcount]
      omega
  · rw [hp'] at hnone
    cases hnone
  · rw [hp'] at hp''
    cases hp''
    rw [hsame.channel_eq, hsame.sendNo_eq]
    refine ⟨_, rfl, ?_, message, hwrites, hpacket⟩
    rw [List.length_append, List.length_singleton, hcount]
  · simp [SessionPost.frames, hu]
  · simp [SessionPost.requests, hu]

/-- The outstanding frame is acknowledged. -/
theorem Fits.continues_settled (h : Fits config r s) {p : PendingRequest}
    (hp : s.pending = some p) {answer : Packet} {status : UInt8}
    (hreads : TunnelAck.ofPacket answer = .ok ⟨s.channel, s.sendNo, status⟩) :
    Continues config r (r.follow [] (some answer) [] false)
      { s with sendNo := s.sendNo + 1, pending := none } [] [] := by
  obtain ⟨u, hu, -⟩ := h.busy p hp
  have hcarry := h.proper.current u hu
  rw [h.channel_eq, h.number] at hreads
  rw [SessionPost.follow_settled _ _ _ hu]
  refine ⟨⟨h.proper.concat h.faithful ⟨hcarry, answer, status, rfl, hreads⟩, h.channel_eq,
    h.data_eq, ?_, fun d hd => ?_, fun _ => rfl, fun p' hp' => by cases hp'⟩, ?_, ?_⟩
  · simp only [numberOf_concat]
    rw [h.number]
    exact (octetNo_succ _).symm
  · rcases List.mem_append.1 hd with hd | hd
    · exact h.faithful d hd
    · rw [List.mem_singleton.1 hd]
      exact fun hfate => by cases hfate
  · simp [SessionPost.frames, hu]
  · simp [SessionPost.requests, hu]

/-- The next frame is sent. -/
theorem Fits.continues_posted (h : Fits config r s) (hidle : s.pending = none) {frame : Frame}
    {message : Octets} (hwrites : (Cemi.mk .request frame).toOctets = .ok message) (now : Nat)
    (looked : Option Packet) :
    Continues config r
      (r.follow [frame] looked
        [⟨(TunnelRequest.mk s.channel s.sendNo message).toPacket, s.data⟩] true)
      { s with pending := some ⟨(TunnelRequest.mk s.channel s.sendNo message).toPacket, now, 1⟩ }
      [frame] [⟨(TunnelRequest.mk s.channel s.sendNo message).toPacket, s.data⟩] := by
  have hu := h.idle hidle
  rw [SessionPost.follow_posted _ _ hu]
  refine ⟨⟨h.proper.withCurrent h.faithful fun v hv => ?_, h.channel_eq, h.data_eq, h.number,
    h.faithful, fun hnone => (by cases hnone), fun p hp => ?_⟩, ?_, ?_⟩
  · obtain rfl := Option.some.inj hv
    rw [← h.channel_eq, ← h.data_eq, ← h.number]
    refine ⟨⟨message, hwrites, fun o ho => List.mem_singleton.1 ho⟩, List.cons_ne_nil _ _, ?_⟩
    rw [List.length_singleton]
    exact Nat.le_max_left 1 config.sendAttempts
  · cases hp
    exact ⟨_, rfl, rfl, message, hwrites, rfl⟩
  · simp [SessionPost.frames, hu]
  · simp [SessionPost.requests, hu]

/-- The next frame cannot be written. -/
theorem Fits.continues_dropped (h : Fits config r s) (hidle : s.pending = none) {frame : Frame}
    {cause : EncodeError} (hfails : (Cemi.mk .request frame).toOctets = .error cause)
    (looked : Option Packet) :
    Continues config r (r.follow [frame] looked [] false) s [frame] [] := by
  have hu := h.idle hidle
  have hunwritable : ¬ IsWritable frame := by
    rintro ⟨message, hwrites⟩
    rw [hfails] at hwrites
    cases hwrites
  rw [SessionPost.follow_dropped _ _ hu]
  refine ⟨⟨h.proper.concat h.faithful ⟨rfl, hunwritable⟩, h.channel_eq, h.data_eq, ?_,
    fun d hd => ?_, fun _ => rfl, fun p hp => ?_⟩, ?_, ?_⟩
  · simp only [numberOf_concat]
    exact h.number
  · rcases List.mem_append.1 hd with hd | hd
    · exact h.faithful d hd
    · rw [List.mem_singleton.1 hd]
      exact fun hfate => by cases hfate
  · rw [hidle] at hp
    cases hp
  · simp [SessionPost.frames, hu]
  · simp [SessionPost.requests, hu]

/-- The session ends. -/
theorem Fits.close (h : Fits config r s) :
    r.close.Proper config ∧ r.close.frames = r.frames ∧ r.close.requests = r.requests := by
  cases hu : r.current with
  | none =>
    have hclose : r.close = r := by
      rw [SessionPost.close, hu]
      obtain ⟨channel, data, gone, current⟩ := r
      cases hu
      simp only [Option.toList_none, List.map_nil, List.append_nil]
    rw [hclose]
    exact ⟨h.proper, rfl, rfl⟩
  | some u =>
    have hclose : r.close =
        { r with gone := r.gone ++ [⟨u.frame, u.tries, .abandoned⟩], current := none } := by
      rw [SessionPost.close, hu]
      rfl
    rw [hclose]
    refine ⟨h.proper.concat h.faithful ⟨h.proper.current u hu, rfl, rfl⟩, ?_, ?_⟩
    · simp [SessionPost.frames, hu]
    · simp [SessionPost.requests, hu]

end
end Tunnel
end KnxBus
