import KnxBus.Proofs.Connection.Counters

/-!
# How a connection tends its unit

A connection tends one unit at a time.  Seen from its phase, a part of a turn does one of four things
(`Connection.Tended`): it leaves the phase as it is, or the outstanding unit is acknowledged, or a
unit is tried for the first time, or it is tried again.  Only in the last two cases does a frame go
out that carries a unit (`unitsOf`), and there is one such frame then.

The deadline of an idle connection follows from the same part of a turn: it is moved whenever
something goes over the connection (`Connection.isSign`), and by nothing else
(`Connection.idleAfter`).  Timers and limits stay as they are.
-/

namespace KnxBus

/-! ## Frames that carry a unit -/

/-- The frames that carry a numbered unit, in order. -/
def unitsOf (frames : List Frame) : List Frame := frames.filter fun f => f.numbered?.isSome

@[simp] theorem unitsOf_nil : unitsOf [] = [] := rfl

@[simp] theorem unitsOf_append (a b : List Frame) : unitsOf (a ++ b) = unitsOf a ++ unitsOf b :=
  List.filter_append ..

theorem unitsOf_eq_nil_of_forall {frames : List Frame} (h : ∀ f ∈ frames, f.numbered? = none) :
    unitsOf frames = [] :=
  List.filter_eq_nil_iff.2 fun f hf => by simp [h f hf]

theorem length_unitsOf_le (frames : List Frame) : (unitsOf frames).length ≤ frames.length :=
  List.length_filter_le ..

namespace Connection

@[simp] theorem Progress.unitsOf_settle (p : Progress) : unitsOf p.settle.2 = unitsOf p.sent := by
  have hfarewell : unitsOf p.connection.finish.2 = [] := by
    refine unitsOf_eq_nil_of_forall fun f hf => ?_
    have hframe : frameTo p.connection.peer .disconnect .low = .ok f := mem_of_frameTo hf
    have hdecode := decode_of_frameTo hframe (by simp)
    simp [Frame.numbered?, hdecode, Tpdu.travelling]
  unfold settle
  split
  · rfl
  · rw [unitsOf_append, hfarewell, List.append_nil]

section
variable {accepts : Frame → Bool} {c : Connection}

theorem unitsOf_transmit_ack (n : UInt8) : unitsOf (transmit accepts (.ack n) c).sent = [] :=
  unitsOf_eq_nil_of_forall fun _ hf => numbered?_of_transmit_ack hf

/-- A connection sends at most one unit at a time. -/
theorem length_unitsOf_transmit (unit : Tpdu) :
    (unitsOf (transmit accepts unit c).sent).length ≤ 1 := by
  refine Nat.le_trans (length_unitsOf_le _) ?_
  rw [transmit_sent]
  cases frameTo c.peer unit .low <;> simp [Except.toOption]

/-- If the connection goes on, the unit has been sent. -/
theorem length_unitsOf_transmit_data {n : UInt8} {apdu : Octets}
    (hgoes : (transmit accepts (.dataConnected n apdu) c).goesOn = true) :
    (unitsOf (transmit accepts (.dataConnected n apdu) c).sent).length = 1 := by
  cases hframe : frameTo c.peer (.dataConnected n apdu) .low with
  | error cause =>
    rw [transmit, hframe] at hgoes
    cases hgoes
  | ok f =>
    have hdecode := decode_of_frameTo hframe (by simp)
    have hnumbered : f.numbered?.isSome := by
      simp [Frame.numbered?, hdecode, Tpdu.travelling]
    rw [transmit, hframe]
    simp [unitsOf, hnumbered]

/-- A connection cannot go on after trying to send a unit only if the unit does not fit into a frame
or the frame is not taken. -/
def CannotSend (accepts : Frame → Bool) (peer : IndividualAddress) (unit : Tpdu) : Prop :=
  ∀ f, frameTo peer unit .low = .ok f → accepts f = false

theorem cannotSend_of_transmit {unit : Tpdu} (h : (transmit accepts unit c).goesOn = false) :
    CannotSend accepts c.peer unit := by
  intro f hf
  rw [transmit, hf] at h
  exact h

end

/-! ## What a part of a turn does to the phase and the deadlines -/

/-- A frame belongs to the connection: it brings the expected unit or the one before, or it
acknowledges the unit that is outstanding. -/
def heeds (c : Connection) (f : Frame) : Bool :=
  match f.numbered? with
  | some (sequence, _) => sequence == c.receiveNo || sequence == previousNo c.receiveNo
  | none => (c.confirmed? f).isSome

/-- Something has gone over the connection: a frame that belongs to it was looked at, or a unit was
sent while none was outstanding. -/
def isSign (looked? : Option Frame) (units : List Frame) (c : Connection) : Bool :=
  looked?.any c.heeds || (c.outstanding.isEmpty && !units.isEmpty)

/-- The time at which the connection has been idle for too long, after a part of a turn. -/
def idleAfter (now : Nat) (looked? : Option Frame) (units : List Frame) (c : Connection) : Nat :=
  if c.isSign looked? units then now + c.config.inactivity else c.idleDeadline

/-- Everything that may come of a part of a turn.  A frame may have been looked at, and units may
have been sent. -/
inductive Tended (now : Nat) (looked? : Option Frame) (units : List Frame) (c c' : Connection) :
    Prop where
  /-- No unit has been sent or acknowledged, or the connection has ended. -/
  | steady (silent : units = []) (sendNo : c'.sendNo = c.sendNo)
      (kept : c'.isClosed = false → c.isClosed = false ∧ c'.phase = c.phase ∧
        c'.idleDeadline = c.idleAfter now looked? units)
  /-- The outstanding unit has been acknowledged. -/
  | acknowledged (f : Frame) (looked : looked? = some f) (confirms : f.acknowledged? = some c.sendNo)
      (silent : units = []) (sendNo : c'.sendNo = nextNo c.sendNo) (wasOpen : c.isClosed = false)
      (after : c'.phase = .idle) (idle : c'.idleDeadline = c.idleAfter now looked? units)
  /-- A unit has been tried for the first time. -/
  | first (apdu : Octets) (before : c.phase = .idle) (few : units.length ≤ 1)
      (sendNo : c'.sendNo = c.sendNo) (wasOpen : c.isClosed = false)
      (kept : c'.isClosed = false → units.length = 1 ∧
        c'.phase = .awaiting apdu 0 (now + c.config.retransmit) ∧
        c'.idleDeadline = c.idleAfter now looked? units)
  /-- The outstanding unit has been tried again. -/
  | again (apdu : Octets) (retries deadline : Nat) (before : c.phase = .awaiting apdu retries deadline)
      (left : retries < c.config.maxRetries) (few : units.length ≤ 1)
      (sendNo : c'.sendNo = c.sendNo) (wasOpen : c.isClosed = false)
      (kept : c'.isClosed = false → units.length = 1 ∧
        c'.phase = .awaiting apdu (retries + 1) (now + c.config.retransmit) ∧
        c'.idleDeadline = c.idleAfter now looked? units)

section
variable {accepts : Frame → Bool} {now : Nat} {looked? : Option Frame} {units : List Frame}
variable {c c' : Connection}

theorem idleAfter_of_sign (h : c.isSign looked? units = true) :
    c.idleAfter now looked? units = now + c.config.inactivity := if_pos h

theorem idleAfter_of_not_sign (h : c.isSign looked? units = false) :
    c.idleAfter now looked? units = c.idleDeadline := by
  rw [idleAfter, h]
  rfl

/-- The connection has only ever been idle since the last sign. -/
theorem Tended.idle_eq (h : Tended now looked? units c c') (hopen : c'.isClosed = false) :
    c.isClosed = false ∧ c'.idleDeadline = c.idleAfter now looked? units := by
  cases h with
  | steady silent sendNo kept => exact ⟨(kept hopen).1, (kept hopen).2.2⟩
  | acknowledged f looked confirms silent sendNo wasOpen after idle => exact ⟨wasOpen, idle⟩
  | first apdu before few sendNo wasOpen kept => exact ⟨wasOpen, (kept hopen).2.2⟩
  | again apdu retries deadline before left few sendNo wasOpen kept =>
    exact ⟨wasOpen, (kept hopen).2.2⟩

/-- A connection that has ended has nothing to keep. -/
theorem Tended.closed (hsendNo : c'.sendNo = c.sendNo) (hclosed : c'.isClosed = true) :
    Tended now looked? [] c c' :=
  .steady rfl hsendNo fun hopen => absurd (hclosed.symm.trans hopen) (by simp)

/-- The connection has done nothing. -/
theorem Tended.calm (hlooked : looked?.any c.heeds = false) (hsendNo : c'.sendNo = c.sendNo)
    (hopen : c'.isClosed = false → c.isClosed = false) (hphase : c'.phase = c.phase)
    (hidle : c'.idleDeadline = c.idleDeadline) : Tended now looked? [] c c' := by
  refine .steady rfl hsendNo fun hstill => ⟨hopen hstill, hphase, ?_⟩
  rw [hidle, idleAfter_of_not_sign (by simp [isSign, hlooked])]

/-- The outstanding unit is tried again. -/
theorem resend_tended {apdu : Octets} {retries deadline : Nat} (hopen : c.isClosed = false)
    (hphase : c.phase = .awaiting apdu retries deadline) (hleft : retries < c.config.maxRetries)
    (hlooked : looked?.any c.heeds = false) {d : Connection}
    (hd : ∃ frames, d = c.withIncoming frames) :
    let p := d.resend accepts now apdu retries
    Tended now looked? (unitsOf p.sent) c p.settle.1 := by
  intro p
  obtain ⟨frames, rfl⟩ := hd
  have hconn : p.connection = { c.withIncoming frames with
      phase := .awaiting apdu (retries + 1) (now + c.config.retransmit) } :=
    transmit_connection ..
  have hsendNo : p.settle.1.sendNo = c.sendNo := by rw [p.settle_sendNo, hconn]; rfl
  have hsign : c.isSign looked? (unitsOf p.sent) = false := by
    have hout : c.outstanding = [apdu] := by rw [outstanding, hphase]
    simp [isSign, hlooked, hout]
  refine .again apdu retries deadline hphase hleft (length_unitsOf_transmit _) hsendNo hopen ?_
  intro hstill
  obtain ⟨hgoes, heq⟩ := p.settle_of_open hstill
  rw [heq, hconn, idleAfter_of_not_sign hsign]
  exact ⟨length_unitsOf_transmit_data hgoes, rfl, rfl⟩

/-- A frame that belongs to the connection is acknowledged. -/
theorem acknowledge_tended (hopen : c.isClosed = false) {f : Frame} (hheeds : c.heeds f = true)
    {n : UInt8} {d : Connection} (hsendNo : d.sendNo = c.sendNo) (hphase : d.phase = c.phase)
    (hidle : d.idleDeadline = now + c.config.inactivity) :
    let p := d.transmit accepts (.ack n)
    Tended now (some f) (unitsOf p.sent) c p.settle.1 := by
  intro p
  have hconn : p.connection = d := transmit_connection ..
  have hsign : c.isSign (some f) (unitsOf p.sent) = true := by simp [isSign, hheeds]
  refine .steady (unitsOf_transmit_ack n) ?_ fun hstill => ?_
  · rw [p.settle_sendNo, hconn, hsendNo]
  · rw [(p.settle_of_open hstill).2, hconn, idleAfter_of_sign hsign]
    exact ⟨hopen, hphase, hidle⟩

/-- What looking at a frame does. -/
theorem onFrame_tended (accepts : Frame → Bool) (now : Nat) (hopen : c.isClosed = false)
    (f : Frame) :
    let p := (c.withIncoming []).onFrame accepts now f
    Tended now (some f) (unitsOf p.sent) c p.settle.1 := by
  have hstrange : f.numbered? = none → f.acknowledged? = none → (some f).any c.heeds = false := by
    intro hnumbered hacknowledged
    simp only [Option.any_some, heeds, hnumbered, confirmed?, hacknowledged]
    cases c.phase <;> rfl
  cases (c.withIncoming []).onFrame_looked accepts now f with
  | takes apdu numbered eq =>
    rw [eq]
    have hheeds : c.heeds f = true := by simp [heeds, numbered, withIncoming]
    exact acknowledge_tended hopen hheeds rfl rfl rfl
  | repeats apdu numbered eq =>
    rw [eq]
    have hheeds : c.heeds f = true := by simp [heeds, numbered, withIncoming]
    exact acknowledge_tended hopen hheeds rfl rfl rfl
  | acknowledges apdu retries deadline phase confirms eq =>
    rw [eq]
    have hphase : c.phase = .awaiting apdu retries deadline := phase
    have hconfirms : f.acknowledged? = some c.sendNo := confirms
    have hnumbered := Chronicle.numbered?_eq_none_of_acknowledged? confirms
    have hheeds : c.heeds f = true := by
      simp [heeds, hnumbered, confirmed?, hphase, hconfirms]
    have hsign : c.isSign (some f) [] = true := by simp [isSign, hheeds]
    exact .acknowledged f rfl hconfirms rfl rfl hopen rfl (idleAfter_of_sign hsign).symm
  | refuses apdu retries deadline phase left unnumbered silent eq =>
    rw [eq]
    exact resend_tended hopen phase left (hstrange unnumbered silent) ⟨[], rfl⟩
  | breaks eq =>
    rw [eq]
    exact .closed rfl rfl
  | ignores unnumbered silent eq =>
    rw [eq]
    exact .calm (hstrange unnumbered silent) rfl (fun _ => hopen) rfl rfl

/-- What the timers and the queue do. -/
theorem proceed_tended (accepts : Frame → Bool) (now : Nat) (hopen : c.isClosed = false) :
    let p := c.proceed accepts now
    Tended now none (unitsOf p.sent) c p.settle.1 := by
  cases c.proceed_proceeded accepts now with
  | idled phase due eq =>
    rw [eq]
    exact .closed rfl rfl
  | rests phase queue eq =>
    rw [eq]
    exact .calm rfl rfl id rfl rfl
  | sends apdu rest phase queue eq =>
    obtain ⟨p, hp⟩ : ∃ p, p = c.sendNext accepts now := ⟨_, rfl⟩
    have hconn := sendNext_connection accepts now queue
    have hsendNo : p.settle.1.sendNo = c.sendNo := by
      rw [p.settle_sendNo, hp, hconn]
      split <;> rfl
    have hout : c.outstanding = [] := by rw [outstanding, phase]
    obtain ⟨q, hq⟩ : ∃ q, q = { c with outgoing := rest }.transmit accepts
      (.dataConnected c.sendNo apdu) := ⟨_, rfl⟩
    have hsent : p.sent = q.sent := by
      rw [hp, hq, sendNext_sent accepts now queue, transmit_sent]
    have hgoes : p.goesOn = q.goesOn := by
      rw [hp, hq, sendNext, queue]
      exact Progress.andThen_goOn_goesOn _ _
    rw [eq, ← hp]
    refine .first apdu phase ?_ hsendNo hopen fun hstill => ?_
    · rw [hsent, hq]
      exact length_unitsOf_transmit _
    · obtain ⟨hgoesOn, heq⟩ := p.settle_of_open hstill
      have hone : (unitsOf p.sent).length = 1 := by
        rw [hsent, hq]
        exact length_unitsOf_transmit_data (by rw [← hq, ← hgoes, hgoesOn])
      have hsign : c.isSign none (unitsOf p.sent) = true := by
        have hsome : unitsOf p.sent ≠ [] := List.length_pos_iff.1 (by omega)
        simp [isSign, hout, hsome]
      rw [← hp, if_pos hgoesOn] at hconn
      rw [heq, hconn, idleAfter_of_sign hsign]
      exact ⟨hone, rfl, rfl⟩
  | waits apdu retries deadline phase early eq =>
    rw [eq]
    exact .calm rfl rfl id rfl rfl
  | spends apdu retries deadline phase due spent eq =>
    rw [eq]
    exact .closed rfl rfl
  | again apdu retries deadline phase due left eq =>
    rw [eq]
    exact resend_tended hopen phase left rfl ⟨c.incoming, rfl⟩

/-- The timers and limits stay as they are. -/
theorem onFrame_config (accepts : Frame → Bool) (now : Nat) (f : Frame) (c : Connection) :
    (c.onFrame accepts now f).connection.config = c.config := by
  cases c.onFrame_looked accepts now f with
  | takes apdu numbered eq => rw [eq, transmit_connection]; rfl
  | repeats apdu numbered eq => rw [eq, transmit_connection]; rfl
  | acknowledges apdu retries deadline phase confirms eq => rw [eq]; rfl
  | refuses apdu retries deadline phase left unnumbered silent eq =>
    rw [eq, resend, transmit_connection]
  | breaks eq => rw [eq]; rfl
  | ignores unnumbered silent eq => rw [eq]; rfl

@[simp] theorem Progress.settle_config (p : Progress) :
    p.settle.1.config = p.connection.config := by
  unfold settle
  split <;> rfl

theorem proceed_config (accepts : Frame → Bool) (now : Nat) (c : Connection) :
    (c.proceed accepts now).connection.config = c.config := by
  cases c.proceed_proceeded accepts now with
  | idled phase due eq => rw [eq]; rfl
  | rests phase queue eq => rw [eq]; rfl
  | sends apdu rest phase queue eq =>
    rw [eq, sendNext_connection accepts now queue]
    split <;> rfl
  | waits apdu retries deadline phase early eq => rw [eq]; rfl
  | spends apdu retries deadline phase due spent eq => rw [eq]; rfl
  | again apdu retries deadline phase due left eq => rw [eq, resend, transmit_connection]

end

/-- It does not matter which frames wait afterwards. -/
theorem Tended.withIncoming {now : Nat} {looked? : Option Frame} {units frames : List Frame}
    {c c' : Connection} (h : Tended now looked? units c c') :
    Tended now looked? units c (c'.withIncoming frames) := by
  cases h with
  | steady silent sendNo kept => exact .steady silent sendNo kept
  | acknowledged f looked confirms silent sendNo wasOpen after idle =>
    exact .acknowledged f looked confirms silent sendNo wasOpen after idle
  | first apdu before few sendNo wasOpen kept => exact .first apdu before few sendNo wasOpen kept
  | again apdu retries deadline before left few sendNo wasOpen kept =>
    exact .again apdu retries deadline before left few sendNo wasOpen kept

end Connection

end KnxBus
