import KnxBus.Proofs.Connection.Counters

/-!
# The end of a connection

A connection may end for many reasons, in the middle of its frames, at its timers, or because a frame
of its own is not taken.  Whatever the reason is, the end is always the same.  The connection tries to
send one frame by which the peer is told, and this is the last thing that it sends.  What has been
delivered until then can still be read, in order, and nothing comes to it any more.

No part of a turn sends such a frame by itself: what a part sends is an acknowledgement or a numbered
unit (`Connection.onFrame_stays`, `Connection.proceed_stays`).  So the farewell of an open connection
is sent exactly where the part settles without going on, and a connection that has ended settles no
more.  The main statements are `Chronicle.run_farewell` and `Chronicle.run_ended`, and `Chronicle.Over`
is what comes of the two.
-/

namespace KnxBus

/-- A frame by which the sender ends a connection. -/
def Frame.isFarewell (f : Frame) : Bool :=
  match Tpdu.decode f.payload with
  | .ok .disconnect => true
  | _ => false

namespace Connection

/-! ## What the parts of a turn send -/

/-- A reader is given what was delivered first. -/
theorem take_eq (c : Connection) :
    c.take = (c.delivered.head?, { c with delivered := c.delivered.drop 1 }) := by
  obtain ⟨_, _, _, _, _, _, _, _, _, delivered, _, _, _, _⟩ := c
  cases delivered <;> rfl

/-- A connection always has a farewell. -/
theorem farewell_eq (c : Connection) :
    ∃ f, c.farewell = [f] ∧ frameTo c.peer .disconnect .low = .ok f ∧ f.isFarewell = true := by
  obtain ⟨f, hf⟩ : ∃ f, frameTo c.peer .disconnect .low = .ok f := ⟨_, rfl⟩
  refine ⟨f, by rw [farewell, hf]; rfl, hf, ?_⟩
  have hdecode := decode_of_frameTo hf (by simp)
  simp [Frame.isFarewell, hdecode, Tpdu.travelling]

section
variable {accepts : Frame → Bool} {now : Nat} {c : Connection} {g : Frame}

/-- A frame that carries an acknowledgement or a numbered unit is no farewell. -/
theorem transmit_stays {unit : Tpdu}
    (hunit : (∃ n, unit = .ack n) ∨ ∃ n apdu, unit = .dataConnected n apdu)
    (hg : g ∈ (transmit accepts unit c).sent) : g.isFarewell = false := by
  rw [transmit_sent] at hg
  have hframe := mem_of_frameTo hg
  rcases hunit with ⟨n, rfl⟩ | ⟨n, apdu, rfl⟩
  · have hdecode := decode_of_frameTo hframe (by simp)
    simp [Frame.isFarewell, hdecode, Tpdu.travelling]
  · have hdecode := decode_of_frameTo hframe (by simp)
    simp [Frame.isFarewell, hdecode, Tpdu.travelling]

theorem onFrame_stays (f : Frame) (hg : g ∈ (c.onFrame accepts now f).sent) :
    g.isFarewell = false := by
  cases c.onFrame_looked accepts now f with
  | takes apdu numbered eq =>
    rw [eq] at hg
    exact transmit_stays (Or.inl ⟨_, rfl⟩) hg
  | repeats apdu numbered eq =>
    rw [eq] at hg
    exact transmit_stays (Or.inl ⟨_, rfl⟩) hg
  | acknowledges apdu retries deadline phase confirms eq =>
    rw [eq] at hg
    exact absurd hg List.not_mem_nil
  | refuses apdu retries deadline phase left unnumbered silent eq =>
    rw [eq] at hg
    exact transmit_stays (Or.inr ⟨_, _, rfl⟩) hg
  | breaks eq =>
    rw [eq] at hg
    exact absurd hg List.not_mem_nil
  | ignores unnumbered silent eq =>
    rw [eq] at hg
    exact absurd hg List.not_mem_nil

theorem proceed_stays (hg : g ∈ (c.proceed accepts now).sent) : g.isFarewell = false := by
  obtain ⟨apdu, rest, -, hframe⟩ := proceed_sent hg
  have hdecode := decode_of_frameTo (mem_of_frameTo hframe) (by simp)
  simp [Frame.isFarewell, hdecode, Tpdu.travelling]

end

/-- What a part of a turn sends ends with the farewell if the connection ends with it, and has no
farewell otherwise. -/
theorem settle_farewell {p : Progress} (hopen : p.connection.isClosed = false)
    (hsent : ∀ g ∈ p.sent, g.isFarewell = false) :
    ∃ before, (∀ g ∈ before, g.isFarewell = false) ∧
      p.settle.2 = before ++ if p.settle.1.isClosed then p.settle.1.farewell else [] := by
  refine ⟨p.sent, hsent, ?_⟩
  cases hgoes : p.goesOn with
  | true => rw [p.settle_of_goesOn hgoes, hopen, if_neg Bool.false_ne_true, List.append_nil]
  | false =>
    rw [Progress.settle, hgoes]
    rfl

end Connection

namespace Chronicle

/-! ## While a connection is open -/

variable {r : Chronicle}

/-- What a connection does ends with the farewell if the connection ends with it, and has no farewell
otherwise. -/
theorem step_farewell (hopen : r.connection.isClosed = false) (e : Event) :
    ∃ before, (∀ g ∈ before, g.isFarewell = false) ∧
      (r.step e).2 = before ++
        if (r.step e).1.connection.isClosed then (r.step e).1.connection.farewell else [] := by
  cases r.step_stepped e with
  | rests silent acked same unlooked =>
    obtain ⟨incoming, outgoing, delivered, stopping, same⟩ := same
    rw [silent, same]
    simp only [hopen, Bool.false_eq_true, if_false]
    exact ⟨[], by simp, rfl⟩
  | looks accepts now f later p event wasOpen front works after tries =>
    rw [after, tries]
    refine Connection.settle_farewell ?_ fun g hg => ?_
    · rw [works]
      exact ((r.connection.withIncoming []).onFrame_connection accepts now f).1.trans hopen
    · rw [works] at hg
      exact Connection.onFrame_stays f hg
  | proceeds accepts now p event wasOpen works after tries =>
    rw [after, tries]
    refine Connection.settle_farewell ?_ fun g hg => ?_
    · rw [works]
      exact (Connection.proceed_isClosed accepts now r.connection).trans hopen
    · rw [works] at hg
      exact Connection.proceed_stays hg
  | leaves event wasOpen after tries =>
    rw [after, tries]
    exact Connection.settle_farewell hopen fun g hg => absurd hg List.not_mem_nil

/-- A connection never changes its peer, nor the number under which it holds it. -/
theorem step_samePeer (e : Event) (r : Chronicle) :
    r.connection.SamePeer (r.step e).1.connection := by
  cases r.step_stepped e with
  | rests silent acked same unlooked =>
    obtain ⟨incoming, outgoing, delivered, stopping, same⟩ := same
    rw [same]
    exact ⟨rfl, rfl⟩
  | looks accepts now f later p event wasOpen front works after tries =>
    rw [after, works]
    exact Connection.settle_samePeer
      (Connection.onFrame_samePeer accepts now f (r.connection.withIncoming []))
  | proceeds accepts now p event wasOpen works after tries =>
    rw [after, works]
    exact Connection.settle_samePeer (Connection.proceed_samePeer accepts now _)
  | leaves event wasOpen after tries =>
    rw [after]
    exact Connection.settle_samePeer (.refl r.connection)

theorem run_samePeer (events : List Event) (r : Chronicle) :
    r.connection.SamePeer (run events r).1.connection := by
  induction events generalizing r with
  | nil => exact .refl _
  | cons e later ih => exact (step_samePeer e r).trans (ih (r.step e).1)

/-! ## After the end -/

/-- Whether a unit is read. -/
def Event.isRead : Event → Bool
  | .act .read => true
  | _ => false

/-- What a reader is told. -/
def answers (e : Event) (r : Chronicle) : List (Option Octets) :=
  if e.isRead then [r.connection.take.1] else []

/-- What readers are told in a run, in order. -/
def answersIn : List Event → Chronicle → List (Option Octets)
  | [], _ => []
  | e :: later, r => r.answers e ++ answersIn later (r.step e).1

/-- A connection that has ended sends nothing, takes nothing to send, and is not delivered anything.
The only thing that can happen is that units are read. -/
theorem step_ended (hclosed : r.connection.isClosed = true) (e : Event) :
    (r.step e).2 = [] ∧ (r.step e).1.connection.isClosed = true ∧
      (r.step e).1.pushed = r.pushed ∧
      (r.step e).1.connection.delivered = r.connection.delivered.drop (if e.isRead then 1 else 0) := by
  cases e with
  | hear f => exact ⟨rfl, hclosed, rfl, rfl⟩
  | act a =>
    cases a with
    | put apdu =>
      rw [step, act_put_of_closed hclosed]
      exact ⟨rfl, hclosed, rfl, rfl⟩
    | read =>
      rw [step, act, Connection.take_eq]
      refine ⟨rfl, hclosed, ?_, rfl⟩
      rw [pushed, pushed, List.append_assoc]
      refine congrArg (r.read ++ ·) ?_
      cases r.connection.delivered <;> rfl
    | stop => exact ⟨rfl, hclosed, rfl, rfl⟩
    | look accepts now =>
      rw [step, act_of_closed hclosed _ (Or.inr ⟨accepts, now, Or.inl rfl⟩)]
      exact ⟨rfl, hclosed, rfl, rfl⟩
    | proceed accepts now =>
      rw [step, act_of_closed hclosed _ (Or.inr ⟨accepts, now, Or.inr rfl⟩)]
      exact ⟨rfl, hclosed, rfl, rfl⟩
    | leave =>
      rw [step, act_of_closed hclosed _ (Or.inl rfl)]
      exact ⟨rfl, hclosed, rfl, rfl⟩

/-- **A connection that has ended stays so.**  It sends nothing and nothing is delivered any more.
Readers are told what was left, one unit after the other, and then that there is nothing. -/
theorem run_ended (hclosed : r.connection.isClosed = true) (events : List Event) :
    (run events r).2 = [] ∧ (run events r).1.connection.isClosed = true ∧
      (run events r).1.pushed = r.pushed ∧
      answersIn events r =
        (List.range (events.countP Event.isRead)).map fun i => r.connection.delivered[i]? := by
  induction events generalizing r with
  | nil => exact ⟨rfl, hclosed, rfl, rfl⟩
  | cons e later ih =>
    obtain ⟨hsent, hstill, hpushed, hleft⟩ := step_ended hclosed e
    obtain ⟨hsent', hstill', hpushed', hanswers⟩ := ih hstill
    refine ⟨?_, hstill', hpushed'.trans hpushed, ?_⟩
    · change (r.step e).2 ++ (run later (r.step e).1).2 = []
      rw [hsent, hsent']
      rfl
    · rw [answersIn, hanswers, hleft, answers]
      cases hread : e.isRead with
      | false => simp [hread]
      | true =>
        simp [hread, List.range_succ_eq_map, Connection.take_eq, List.head?_eq_getElem?,
          Function.comp_def]

/-! ## Whole runs -/

/-- **The farewell is the last frame of a connection**, and is tried exactly once if the connection
ends. -/
theorem run_farewell (hopen : r.connection.isClosed = false) (events : List Event) :
    ∃ before, (∀ g ∈ before, g.isFarewell = false) ∧
      (run events r).2 = before ++
        if (run events r).1.connection.isClosed then r.connection.farewell else [] := by
  induction events generalizing r with
  | nil =>
    refine ⟨[], by simp, ?_⟩
    change [] = [] ++ if r.connection.isClosed then _ else _
    rw [hopen]
    rfl
  | cons e later ih =>
    obtain ⟨before, hbefore, hsent⟩ := step_farewell hopen e
    have hpeer : (r.step e).1.connection.farewell = r.connection.farewell := by
      rw [Connection.farewell, (step_samePeer e r).2]
      rfl
    change ∃ before, _ ∧ (r.step e).2 ++ (run later (r.step e).1).2 = before ++
      if (run later (r.step e).1).1.connection.isClosed then _ else _
    cases hclosed : (r.step e).1.connection.isClosed with
    | true =>
      obtain ⟨hnothing, hstill, -, -⟩ := run_ended hclosed later
      rw [hclosed, if_pos rfl, hpeer] at hsent
      rw [hnothing, hstill, hsent, List.append_nil]
      exact ⟨before, hbefore, rfl⟩
    | false =>
      obtain ⟨between, hbetween, hmore⟩ := ih hclosed
      rw [hclosed, if_neg Bool.false_ne_true, List.append_nil] at hsent
      rw [hsent, hmore, hpeer, ← List.append_assoc]
      refine ⟨before ++ between, fun g hg => ?_, rfl⟩
      rcases List.mem_append.1 hg with hg | hg
      · exact hbefore g hg
      · exact hbetween g hg

/-- What is true of a connection that has ended after it has sent some frames. -/
structure Over (r : Chronicle) (sent : List Frame) : Prop where
  /-- One farewell was tried, as the last frame. -/
  farewell_last : ∃ before f, sent = before ++ [f] ∧
    Connection.frameTo r.connection.peer .disconnect .low = .ok f ∧ f.isFarewell = true ∧
      ∀ g ∈ before, g.isFarewell = false
  /-- No frame is sent any more. -/
  silent : ∀ later, (run later r).2 = []
  /-- Nothing is delivered any more. -/
  undelivered : ∀ later, (run later r).1.pushed = r.pushed
  /-- Nothing can be queued any more. -/
  refuses : ∀ later apdu, (run later r).1.connection.put apdu = .error .connectionClosed
  /-- Readers are told what was left, in order, and then that there is nothing. -/
  answers_eq : ∀ later, answersIn later r =
    (List.range (later.countP Event.isRead)).map fun i => r.connection.delivered[i]?

/-- **However a connection ends, it is over.** -/
theorem run_over (hopen : r.connection.isClosed = false) (events : List Event)
    (hclosed : (run events r).1.connection.isClosed = true) :
    (run events r).1.Over (run events r).2 where
  farewell_last := by
    obtain ⟨before, hbefore, hsent⟩ := run_farewell hopen events
    obtain ⟨f, hfarewell, hframe, hisFarewell⟩ := r.connection.farewell_eq
    obtain ⟨-, hpeer⟩ := run_samePeer events r
    rw [hclosed, if_pos rfl, hfarewell] at hsent
    rw [hpeer]
    exact ⟨before, f, hsent, hframe, hisFarewell, hbefore⟩
  silent later := (run_ended hclosed later).1
  undelivered later := (run_ended hclosed later).2.2.1
  refuses later apdu := by
    have hstill := (run_ended hclosed later).2.1
    rw [Connection.put, hstill, if_pos rfl]
  answers_eq later := (run_ended hclosed later).2.2.2

/-- What has become of an open connection that has sent some frames. -/
structure Ending (r : Chronicle) (sent : List Frame) : Prop where
  /-- If it has ended it is over. -/
  final : r.connection.isClosed = true → r.Over sent
  /-- If it goes on it has not said farewell. -/
  goes_on : r.connection.isClosed = false → ∀ g ∈ sent, g.isFarewell = false

theorem run_ending (hopen : r.connection.isClosed = false) (events : List Event) :
    (run events r).1.Ending (run events r).2 where
  final := run_over hopen events
  goes_on hstill := by
    obtain ⟨before, hbefore, hsent⟩ := run_farewell hopen events
    rw [hstill, if_neg Bool.false_ne_true, List.append_nil] at hsent
    rw [hsent]
    exact hbefore

end Chronicle

/-- **So it is for whole turns**: if a connection ends in a turn, its farewell is the last frame that
it tries to send in it, and if it does not, it sends none. -/
theorem Connection.turn_farewell (accepts : Frame → Bool) (now : Nat) {c : Connection}
    (hopen : c.isClosed = false) :
    ∃ before, (∀ g ∈ before, g.isFarewell = false) ∧
      (c.turn accepts now).2 =
        before ++ if (c.turn accepts now).1.isClosed then c.farewell else [] := by
  obtain ⟨events, -, hconn, hsent⟩ := (Chronicle.start c).turn_eq_run accepts now hopen
  rw [← show (Chronicle.start c).connection = c from rfl, ← hconn, ← hsent]
  exact Chronicle.run_farewell hopen events

end KnxBus
