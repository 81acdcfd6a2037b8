import KnxBus.Proofs.Connection.Tending

/-!
# A connection and a clock

A clock goes forward, and anything may happen to the connection at any time: `Timed.run` is such a
run.  Beside the connection it is written down

* which units it has tried to send, and when (`Patience.trials`);
* when something has gone over it (`Patience.signs`);
* whether time ever passed the deadline of an outstanding unit without a turn of the connection
  (`Patience.late`).

The times are natural numbers without a last one.

One move does what the part of the turn does that it stands for, or nothing (`Timed.Moved`).  A
whole turn is a run of moves without any time between them (`Timed.turn_eq_run`).
-/

namespace KnxBus

/-! ## Runs over time -/

/-- A connection with its past, at a time. -/
structure Timed where
  /-- The time. -/
  now : Nat
  /-- The connection with its past. -/
  chronicle : Chronicle

/-- A trial to send a unit. -/
structure Trial where
  /-- How many units had been acknowledged before. -/
  index : Nat
  /-- When it was made. -/
  time : Nat
  /-- The frame that carries the unit. -/
  frame : Frame

/-- What is written down beside a connection about its trials and its deadlines. -/
structure Patience where
  /-- The trials to send a unit, oldest first. -/
  trials : List Trial
  /-- The times at which something has gone over the connection, oldest first. -/
  signs : List Nat
  /-- Whether time ever passed the deadline of the outstanding unit without a turn. -/
  late : Bool

/-- The trials to send one unit, oldest first. -/
def Patience.trialsOf (b : Patience) (i : Nat) : List Trial := b.trials.filter fun t => t.index == i

namespace Timed

/-- What may happen: time passes, or something happens to the connection at this time. -/
inductive Move where
  /-- Time passes. -/
  | wait (span : Nat)
  /-- A frame comes from the peer. -/
  | hear (frame : Frame)
  /-- A unit is queued. -/
  | put (apdu : Octets)
  /-- A unit is read. -/
  | read
  /-- The connection is told to end. -/
  | stop
  /-- The connection looks at a frame. -/
  | look (accepts : Frame → Bool)
  /-- The connection looks at its timers and its queue. -/
  | proceed (accepts : Frame → Bool)
  /-- The connection ends. -/
  | leave

/-- What happens to the connection, and when. -/
def Move.event? (now : Nat) : Move → Option Chronicle.Event
  | .wait _ => none
  | .hear f => some (.hear f)
  | .put apdu => some (.act (.put apdu))
  | .read => some (.act .read)
  | .stop => some (.act .stop)
  | .look accepts => some (.act (.look accepts now))
  | .proceed accepts => some (.act (.proceed accepts now))
  | .leave => some (.act .leave)

/-- How much time passes. -/
def Move.span : Move → Nat
  | .wait span => span
  | _ => 0

/-- The frame that the connection looks at. -/
def Move.looked? (m : Move) (c : Connection) : Option Frame :=
  match m with
  | .look _ => c.incoming.head?
  | _ => none

/-- One thing happens, or time passes. -/
def step (m : Move) (s : Timed) : Timed × List Frame :=
  match m.event? s.now with
  | some e => ({ s with chronicle := (s.chronicle.step e).1 }, (s.chronicle.step e).2)
  | none => ({ s with now := s.now + m.span }, [])

/-- The deadline of the outstanding unit has passed. -/
def overdue (s : Timed) : Bool :=
  match s.chronicle.connection.phase with
  | .idle => false
  | .awaiting _ _ deadline => !s.chronicle.connection.isClosed && decide (deadline < s.now)

/-- The trials that are made when frames are sent. -/
def trialsIn (s : Timed) (sent : List Frame) : List Trial :=
  (unitsOf sent).map fun f => ⟨s.chronicle.acked, s.now, f⟩

/-- What has happened enters into the books. -/
def note (m : Move) (s s' : Timed) (sent : List Frame) (b : Patience) : Patience where
  trials := b.trials ++ s.trialsIn sent
  signs :=
    if !s.chronicle.connection.isClosed &&
        s.chronicle.connection.isSign (m.looked? s.chronicle.connection) (unitsOf sent) then
      b.signs ++ [s.now]
    else b.signs
  late := b.late || s'.overdue

/-- Things happen one after the other, and enter into the books. -/
def run (moves : List Move) (b : Timed × Patience) : (Timed × Patience) × List Frame :=
  runWith (noted step note) moves b

/-- A connection is opened. -/
def start (config : ConnectionConfig) (peer : IndividualAddress) (registration now : Nat) :
    Timed × Patience :=
  (⟨now, .start (.start config peer registration now)⟩, ⟨[], [now], false⟩)

/-! ## One move -/

section
variable {s : Timed} {m : Move}

theorem step_now_le (m : Move) (s : Timed) : s.now ≤ (s.step m).1.now := by
  unfold step
  split
  · exact Nat.le_refl _
  · exact Nat.le_add_right _ _

/-- What a move does to the connection: its timers and limits stay as they are, and its number moves
on if and only if one more unit has been acknowledged. -/
structure Moved (m : Move) (s s' : Timed) (sent : List Frame) : Prop where
  config_eq : s'.chronicle.connection.config = s.chronicle.connection.config
  acked_eq : s'.chronicle.acked =
    if s'.chronicle.connection.sendNo = s.chronicle.connection.sendNo then s.chronicle.acked
    else s.chronicle.acked + 1
  tended : Connection.Tended s.now (m.looked? s.chronicle.connection) (unitsOf sent)
    s.chronicle.connection s'.chronicle.connection

/-- The connection works and settles. -/
theorem Moved.works {frame? : Option Frame} {p : Connection.Progress} {frames sent : List Frame}
    {s' : Timed} (hs : s'.chronicle = s.chronicle.noting frame? (p.settle.1.withIncoming frames))
    (hsent : sent = p.settle.2)
    (hconfig : p.connection.config = s.chronicle.connection.config)
    (h : Connection.Tended s.now (m.looked? s.chronicle.connection) (unitsOf p.sent)
      s.chronicle.connection p.settle.1) :
    Moved m s s' sent := by
  refine ⟨?_, ?_, ?_⟩
  · rw [hs]
    exact p.settle_config.trans hconfig
  · rw [hs]
    rfl
  · rw [hs, hsent, p.unitsOf_settle]
    exact h.withIncoming

/-- Time passes, or something happens at this time. -/
theorem step_cases (m : Move) (s : Timed) :
    (∃ span, m = .wait span ∧ s.step m = ({ s with now := s.now + span }, [])) ∨
      ∃ e, m.event? s.now = some e ∧
        s.step m = (⟨s.now, (s.chronicle.step e).1⟩, (s.chronicle.step e).2) := by
  cases m with
  | wait span => exact Or.inl ⟨span, rfl, rfl⟩
  | _ => exact Or.inr ⟨_, rfl, rfl⟩

theorem event?_eq_look {now now' : Nat} {accepts : Frame → Bool}
    (h : m.event? now = some (.act (.look accepts now'))) : m = .look accepts ∧ now' = now := by
  cases m <;> cases h
  exact ⟨rfl, rfl⟩

theorem event?_eq_proceed {now now' : Nat} {accepts : Frame → Bool}
    (h : m.event? now = some (.act (.proceed accepts now'))) :
    m = .proceed accepts ∧ now' = now := by
  cases m <;> cases h
  exact ⟨rfl, rfl⟩

theorem event?_eq_leave {now : Nat} (h : m.event? now = some (.act .leave)) : m = .leave := by
  cases m <;> cases h
  rfl

theorem step_moved (m : Move) (s : Timed) : Moved m s (s.step m).1 (s.step m).2 := by
  have hsame : ∀ c : Connection, c.withIncoming c.incoming = c := fun _ => rfl
  obtain ⟨span, rfl, hstep⟩ | ⟨e, hevent, hstep⟩ := step_cases m s
  · rw [hstep]
    exact ⟨rfl, (if_pos rfl).symm, .calm rfl rfl id rfl rfl⟩
  rw [hstep]
  cases s.chronicle.step_stepped e with
  | rests silent acked same unlooked =>
    obtain ⟨incoming, outgoing, delivered, stopping, same⟩ := same
    have hsendNo : (s.chronicle.step e).1.connection.sendNo = s.chronicle.connection.sendNo := by
      rw [same]
    refine ⟨by rw [same], by rw [if_pos hsendNo, acked], ?_⟩
    rw [silent, same]
    cases hclosed : s.chronicle.connection.isClosed with
    | true => exact .closed rfl hclosed
    | false =>
      refine .calm ?_ rfl id rfl rfl
      have hlooked : m.looked? s.chronicle.connection = none := by
        cases m with
        | look accepts =>
          rcases unlooked accepts s.now (Option.some.inj hevent).symm with hnot | hnone
          · exact absurd (hclosed.symm.trans hnot) Bool.false_ne_true
          · simp [Move.looked?, hnone]
        | _ => rfl
      rw [hlooked]
      rfl
  | looks accepts now f later p event wasOpen front works after tries =>
    rw [event] at hevent
    obtain ⟨rfl, rfl⟩ := event?_eq_look hevent
    have hlooked : (Move.look accepts).looked? s.chronicle.connection = some f := by
      simp [Move.looked?, front]
    refine .works after tries ?_ ?_
    · rw [works]
      exact Connection.onFrame_config accepts s.now f _
    · rw [hlooked, works]
      exact Connection.onFrame_tended accepts s.now wasOpen f
  | proceeds accepts now p event wasOpen works after tries =>
    rw [event] at hevent
    obtain ⟨rfl, rfl⟩ := event?_eq_proceed hevent
    rw [← hsame p.settle.1] at after
    refine .works after tries ?_ ?_
    · rw [works]
      exact Connection.proceed_config accepts s.now _
    · rw [works]
      exact Connection.proceed_tended accepts s.now wasOpen
  | leaves event wasOpen after tries =>
    rw [event] at hevent
    obtain rfl := event?_eq_leave hevent
    rw [← hsame s.chronicle.connection.giveUp.settle.1] at after
    exact .works after tries rfl (.closed rfl rfl)

end

/-! ## Whole turns -/

/-- The parts of a turn are moves without any time between them. -/
theorem exists_moves {accepts : Frame → Bool} {s : Timed} {events : List Chronicle.Event}
    (h : ∀ e ∈ events, e.IsPart accepts s.now) :
    ∃ moves, (runWith step moves s).1 = ⟨s.now, (Chronicle.run events s.chronicle).1⟩ ∧
      (runWith step moves s).2 = (Chronicle.run events s.chronicle).2 := by
  induction events generalizing s with
  | nil => exact ⟨[], rfl, rfl⟩
  | cons e later ih =>
    obtain ⟨hfirst, hlater⟩ := List.forall_mem_cons.1 h
    obtain ⟨m, hm⟩ : ∃ m : Move, m.event? s.now = some e := by
      rcases hfirst with rfl | rfl | rfl
      · exact ⟨.leave, rfl⟩
      · exact ⟨.look accepts, rfl⟩
      · exact ⟨.proceed accepts, rfl⟩
    have hstep : s.step m = (⟨s.now, (s.chronicle.step e).1⟩, (s.chronicle.step e).2) := by
      rw [step, hm]
    obtain ⟨moves, hrun, hsent⟩ := ih (s := ⟨s.now, (s.chronicle.step e).1⟩) hlater
    refine ⟨m :: moves, ?_, ?_⟩
    · rw [runWith, hstep, hrun]
      rfl
    · rw [runWith, hstep, hsent]
      rfl

/-- **A whole turn is a run of moves** at the time of the turn. -/
theorem turn_eq_run (accepts : Frame → Bool) (s : Timed)
    (hopen : s.chronicle.connection.isClosed = false) :
    ∃ moves, (runWith step moves s).1.now = s.now ∧
      (runWith step moves s).1.chronicle.connection =
        (s.chronicle.connection.turn accepts s.now).1 ∧
      (runWith step moves s).2 = (s.chronicle.connection.turn accepts s.now).2 := by
  obtain ⟨events, hparts, hconn, hsent⟩ := s.chronicle.turn_eq_run accepts s.now hopen
  obtain ⟨moves, hrun, hmoves⟩ := exists_moves hparts
  exact ⟨moves, by rw [hrun], by rw [hrun]; exact hconn, hmoves.trans hsent⟩

end Timed
end KnxBus
