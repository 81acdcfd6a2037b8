import KnxBus.Connection
import KnxBus.Proofs.Tpdu
import KnxBus.Proofs.Window

/-!
# The parts of a turn of a connection

A turn of a connection has several parts: it looks at one frame after the other, then at its timers
and its queue.  After each of them it may have to end.  Here every part is described by what it can
come to.  There are only a few possibilities and a formula for each; whoever wants to know what a
connection does looks at these formulas and no further.

For the peer a frame is a numbered unit, an acknowledgement, or neither.  What a list of frames
amounts to for the peer is therefore the list of its numbered units and the list of the numbers that
it acknowledges.
-/

namespace KnxBus

/-! ## Frames as the peer sees them -/

/-- The numbered unit in a frame. -/
def Frame.numbered? (f : Frame) : Option (UInt8 × Octets) :=
  match Tpdu.decode f.payload with
  | .ok (.dataConnected sequence apdu) => some (sequence, apdu)
  | _ => none

/-- The number that a frame acknowledges. -/
def Frame.acknowledged? (f : Frame) : Option UInt8 :=
  match Tpdu.decode f.payload with
  | .ok (.ack sequence) => some sequence
  | _ => none

/-- The numbered units in frames, in order. -/
def dataOf (frames : List Frame) : List (UInt8 × Octets) := frames.filterMap Frame.numbered?

/-- The numbers that frames acknowledge, in order. -/
def acksOf (frames : List Frame) : List UInt8 := frames.filterMap Frame.acknowledged?

@[simp] theorem dataOf_nil : dataOf [] = [] := rfl

@[simp] theorem acksOf_nil : acksOf [] = [] := rfl

@[simp] theorem dataOf_append (a b : List Frame) : dataOf (a ++ b) = dataOf a ++ dataOf b :=
  List.filterMap_append

@[simp] theorem acksOf_append (a b : List Frame) : acksOf (a ++ b) = acksOf a ++ acksOf b :=
  List.filterMap_append

theorem dataOf_sublist {a b : List Frame} (h : a.Sublist b) : (dataOf a).Sublist (dataOf b) :=
  h.filterMap _

theorem acksOf_sublist {a b : List Frame} (h : a.Sublist b) : (acksOf a).Sublist (acksOf b) :=
  h.filterMap _

theorem dataOf_cons {f : Frame} {x : UInt8 × Octets} (hf : f.numbered? = some x)
    (l : List Frame) : dataOf (f :: l) = x :: dataOf l :=
  List.filterMap_cons_some hf

theorem acksOf_cons {f : Frame} {n : UInt8} (hf : f.acknowledged? = some n) (l : List Frame) :
    acksOf (f :: l) = n :: acksOf l :=
  List.filterMap_cons_some hf

/-- Of a frame that has reached the last waiting place, only the payload matters. -/
theorem dataOf_arrived (f dress : Frame) (waiting later : List Frame) :
    dataOf (waiting ++ [{ dress with payload := f.payload }] ++ later) =
      dataOf (waiting ++ f :: later) := by
  have hcons : dataOf ({ dress with payload := f.payload } :: later) = dataOf (f :: later) := rfl
  rw [List.append_assoc, List.singleton_append, dataOf_append, dataOf_append, hcons]

theorem acksOf_arrived (f dress : Frame) (waiting later : List Frame) :
    acksOf (waiting ++ [{ dress with payload := f.payload }] ++ later) =
      acksOf (waiting ++ f :: later) := by
  have hcons : acksOf ({ dress with payload := f.payload } :: later) = acksOf (f :: later) := rfl
  rw [List.append_assoc, List.singleton_append, acksOf_append, acksOf_append, hcons]

namespace Connection

/-! ## The parts of a turn, each with its end -/

/-- The connection ends if it cannot go on. -/
def Progress.settle (p : Progress) : Connection × List Frame :=
  if p.goesOn then (p.connection, p.sent)
  else (p.connection.finish.1, p.sent ++ p.connection.finish.2)

/-- The connection with other frames to be looked at. -/
def withIncoming (frames : List Frame) (c : Connection) : Connection :=
  { c with incoming := frames }

/-- Looks at the frame that came first.  If the connection cannot go on after it, nobody looks at
the others any more. -/
def look (accepts : Frame → Bool) (now : Nat) (c : Connection) : Connection × List Frame :=
  match c.incoming with
  | [] => (c, [])
  | frame :: later =>
    let p := (c.withIncoming []).onFrame accepts now frame
    (p.settle.1.withIncoming (if p.goesOn then later else []), p.settle.2)

/-- The unit that is outstanding. -/
def outstanding (c : Connection) : List Octets :=
  match c.phase with
  | .idle => []
  | .awaiting apdu _ _ => [apdu]

theorem look_nil {c : Connection} (h : c.incoming = []) (accepts : Frame → Bool) (now : Nat) :
    c.look accepts now = (c, []) := by
  rw [look, h]

/-! ## Frames to the peer -/

/-- What is read from a frame that a connection has made. -/
theorem decode_of_frameTo {peer : IndividualAddress} {unit : Tpdu} {priority : Priority} {f : Frame}
    (h : frameTo peer unit priority = .ok f) (hknown : ∀ raw, unit ≠ .unknown raw) :
    Tpdu.decode f.payload = .ok unit.travelling := by
  unfold frameTo at h
  cases hp : unit.toOctets with
  | error cause =>
    rw [hp] at h
    cases h
  | ok payload =>
    rw [hp] at h
    cases h
    exact Tpdu.decode_of_toOctets hp hknown

section
variable (peer : IndividualAddress) (s : UInt8) (apdu : Octets)

theorem dataOf_frameTo_data :
    (dataOf (frameTo peer (.dataConnected s apdu) .low).toOption.toList).Sublist
      [(s, Tpdu.masked apdu)] := by
  cases h : frameTo peer (.dataConnected s apdu) .low with
  | error cause => exact List.nil_sublist _
  | ok f =>
    have hf := decode_of_frameTo h (by simp)
    simp [Except.toOption, dataOf, Frame.numbered?, hf, Tpdu.travelling]

theorem acksOf_frameTo_data :
    acksOf (frameTo peer (.dataConnected s apdu) .low).toOption.toList = [] := by
  cases h : frameTo peer (.dataConnected s apdu) .low with
  | error cause => rfl
  | ok f =>
    have hf := decode_of_frameTo h (by simp)
    simp [Except.toOption, acksOf, Frame.acknowledged?, hf, Tpdu.travelling]

theorem dataOf_frameTo_ack : dataOf (frameTo peer (.ack s) .low).toOption.toList = [] := by
  cases h : frameTo peer (.ack s) .low with
  | error cause => rfl
  | ok f =>
    have hf := decode_of_frameTo h (by simp)
    simp [Except.toOption, dataOf, Frame.numbered?, hf, Tpdu.travelling]

theorem acksOf_frameTo_ack :
    (acksOf (frameTo peer (.ack s) .low).toOption.toList).Sublist [s] := by
  cases h : frameTo peer (.ack s) .low with
  | error cause => exact List.nil_sublist _
  | ok f =>
    have hf := decode_of_frameTo h (by simp)
    simp [Except.toOption, acksOf, Frame.acknowledged?, hf, Tpdu.travelling]

end

theorem transmit_connection (accepts : Frame → Bool) (unit : Tpdu) (c : Connection) :
    (transmit accepts unit c).connection = c := by
  unfold transmit
  cases frameTo c.peer unit .low <;> rfl

/-- A connection sends nothing but the frame that carries the unit. -/
theorem transmit_sent (accepts : Frame → Bool) (unit : Tpdu) (c : Connection) :
    (transmit accepts unit c).sent = (frameTo c.peer unit .low).toOption.toList := by
  unfold transmit
  cases frameTo c.peer unit .low <;> rfl

/-! ## Settling -/

namespace Progress

variable (p : Progress)

@[simp] theorem settle_sendNo : p.settle.1.sendNo = p.connection.sendNo := by
  unfold settle
  split <;> rfl

@[simp] theorem settle_receiveNo : p.settle.1.receiveNo = p.connection.receiveNo := by
  unfold settle
  split <;> rfl

@[simp] theorem settle_delivered : p.settle.1.delivered = p.connection.delivered := by
  unfold settle
  split <;> rfl

@[simp] theorem settle_incoming : p.settle.1.incoming = p.connection.incoming := by
  unfold settle
  split <;> rfl

@[simp] theorem dataOf_settle : dataOf p.settle.2 = dataOf p.sent := by
  unfold settle
  split
  · rfl
  · exact (dataOf_append _ _).trans (List.append_nil _)

@[simp] theorem acksOf_settle : acksOf p.settle.2 = acksOf p.sent := by
  unfold settle
  split
  · rfl
  · exact (acksOf_append _ _).trans (List.append_nil _)

/-- A connection that is still open could go on, and settling has not changed it. -/
theorem settle_of_open (h : p.settle.1.isClosed = false) :
    p.goesOn = true ∧ p.settle.1 = p.connection := by
  unfold settle at h ⊢
  split at h
  · rename_i hgoes
    exact ⟨hgoes, by rw [if_pos hgoes]⟩
  · cases h

theorem andThen_goOn_sent (g : Connection → Connection) :
    (p.andThen fun c => goOn (g c)).sent = p.sent := by
  unfold andThen
  split
  · exact List.append_nil _
  · rfl

theorem andThen_goOn_goesOn (g : Connection → Connection) :
    (p.andThen fun c => goOn (g c)).goesOn = p.goesOn := by
  unfold andThen
  split
  · rename_i hgoes
    exact hgoes.symm
  · rfl

theorem andThen_goOn_connection (g : Connection → Connection) :
    (p.andThen fun c => goOn (g c)).connection =
      if p.goesOn then g p.connection else p.connection := by
  unfold andThen
  split <;> rfl

theorem settle_andThen_of_goesOn (h : p.goesOn = true) (next : Connection → Progress) :
    (p.andThen next).settle =
      ((next p.connection).settle.1, p.sent ++ (next p.connection).settle.2) := by
  rw [andThen, if_pos h, settle, settle]
  split
  · rfl
  · exact Prod.ext rfl (List.append_assoc _ _ _)

theorem andThen_of_not_goesOn (h : p.goesOn = false) (next : Connection → Progress) :
    p.andThen next = p := by
  rw [andThen, h]
  rfl

theorem settle_of_goesOn (h : p.goesOn = true) : p.settle = (p.connection, p.sent) := by
  rw [settle, if_pos h]

end Progress

/-! ## What the parts come to -/

theorem phase_cases (c : Connection) :
    c.phase = .idle ∨ ∃ apdu retries deadline, c.phase = .awaiting apdu retries deadline := by
  cases c.phase with
  | idle => exact Or.inl rfl
  | awaiting apdu retries deadline => exact Or.inr ⟨apdu, retries, deadline, rfl⟩

/-- Everything that may come of a frame. -/
inductive Looked (accepts : Frame → Bool) (now : Nat) (f : Frame) (c : Connection)
    (p : Progress) : Prop where
  /-- It brings the unit that is expected. -/
  | takes (apdu : Octets) (numbered : f.numbered? = some (c.receiveNo, apdu))
      (eq : p = ((c.accept apdu).refresh now).transmit accepts (.ack c.receiveNo))
  /-- It brings the unit before that. -/
  | repeats (apdu : Octets) (numbered : f.numbered? = some (previousNo c.receiveNo, apdu))
      (eq : p = (c.refresh now).transmit accepts (.ack (previousNo c.receiveNo)))
  /-- It acknowledges the unit that is outstanding. -/
  | acknowledges (apdu : Octets) (retries deadline : Nat)
      (phase : c.phase = .awaiting apdu retries deadline)
      (confirms : f.acknowledged? = some c.sendNo)
      (eq : p = goOn (refresh now
        { c with
          phase := .idle
          sendNo := nextNo c.sendNo
          shownSendNo := nextNo c.sendNo }))
  /-- It refuses the unit that is outstanding, which may be sent once more. -/
  | refuses (apdu : Octets) (retries deadline : Nat)
      (phase : c.phase = .awaiting apdu retries deadline) (left : retries < c.config.maxRetries)
      (unnumbered : f.numbered? = none) (silent : f.acknowledged? = none)
      (eq : p = c.resend accepts now apdu retries)
  /-- The connection cannot go on. -/
  | breaks (eq : p = c.giveUp)
  /-- It is no unit that belongs to a connection. -/
  | ignores (unnumbered : f.numbered? = none) (silent : f.acknowledged? = none)
      (eq : p = c.goOn)

theorem onFrame_looked (accepts : Frame → Bool) (now : Nat) (f : Frame) (c : Connection) :
    Looked accepts now f c (c.onFrame accepts now f) := by
  have hnumbered : f.numbered? = match Tpdu.decode f.payload with
    | .ok (.dataConnected sequence apdu) => some (sequence, apdu)
    | _ => none := rfl
  have hacknowledged : f.acknowledged? = match Tpdu.decode f.payload with
    | .ok (.ack sequence) => some sequence
    | _ => none := rfl
  unfold onFrame
  cases hunit : Tpdu.decode f.payload with
  | error cause =>
    rw [hunit] at hnumbered hacknowledged
    exact .ignores hnumbered hacknowledged rfl
  | ok unit =>
    rw [hunit] at hnumbered hacknowledged
    cases unit with
    | dataConnected sequence apdu =>
      by_cases hno : sequence = c.receiveNo
      · subst hno
        exact .takes apdu hnumbered (by simp [onData])
      · by_cases hprev : sequence = previousNo c.receiveNo
        · subst hprev
          exact .repeats apdu hnumbered (by simp [onData, hno])
        · exact .breaks (by simp [onData, hno, hprev])
    | ack sequence =>
      cases hphase : c.phase with
      | idle => exact .breaks (by simp [onAck, hphase])
      | awaiting apdu retries deadline =>
        by_cases hno : sequence = c.sendNo
        · subst hno
          exact .acknowledges apdu retries deadline hphase hacknowledged (by simp [onAck, hphase])
        · exact .breaks (by simp [onAck, hphase, hno])
    | nack sequence =>
      cases hphase : c.phase with
      | idle => exact .breaks (by simp [onNack, hphase])
      | awaiting apdu retries deadline =>
        by_cases hno : sequence = c.sendNo ∧ retries < c.config.maxRetries
        · exact .refuses apdu retries deadline hphase hno.2 hnumbered hacknowledged
            (by simp [onNack, hphase, hno])
        · exact .breaks (by simp [onNack, hphase, hno])
    | connect => exact .breaks rfl
    | disconnect => exact .breaks rfl
    | dataUnnumbered apdu => exact .ignores hnumbered hacknowledged rfl
    | unknown raw => exact .ignores hnumbered hacknowledged rfl

/-- What may come of a frame, in short. -/
theorem onFrame_cases (accepts : Frame → Bool) (now : Nat) (f : Frame) (c : Connection) :
    (∃ apdu, f.numbered? = some (c.receiveNo, apdu) ∧ c.onFrame accepts now f =
      ((c.accept apdu).refresh now).transmit accepts (.ack c.receiveNo)) ∨
    (∃ apdu, f.numbered? = some (previousNo c.receiveNo, apdu) ∧ c.onFrame accepts now f =
      (c.refresh now).transmit accepts (.ack (previousNo c.receiveNo))) ∨
    (∃ apdu retries deadline, c.phase = .awaiting apdu retries deadline ∧
      f.acknowledged? = some c.sendNo ∧ c.onFrame accepts now f =
        goOn (refresh now
          { c with
            phase := .idle
            sendNo := nextNo c.sendNo
            shownSendNo := nextNo c.sendNo })) ∨
    (∃ apdu retries deadline, c.phase = .awaiting apdu retries deadline ∧
      c.onFrame accepts now f = c.resend accepts now apdu retries) ∨
    c.onFrame accepts now f = c.giveUp ∨ c.onFrame accepts now f = c.goOn := by
  cases c.onFrame_looked accepts now f with
  | takes apdu numbered eq => exact Or.inl ⟨apdu, numbered, eq⟩
  | repeats apdu numbered eq => exact Or.inr (Or.inl ⟨apdu, numbered, eq⟩)
  | acknowledges apdu retries deadline phase confirms eq =>
    exact Or.inr (Or.inr (Or.inl ⟨apdu, retries, deadline, phase, confirms, eq⟩))
  | refuses apdu retries deadline phase _ _ _ eq =>
    exact Or.inr (Or.inr (Or.inr (Or.inl ⟨apdu, retries, deadline, phase, eq⟩)))
  | breaks eq => exact Or.inr (Or.inr (Or.inr (Or.inr (Or.inl eq))))
  | ignores _ _ eq => exact Or.inr (Or.inr (Or.inr (Or.inr (Or.inr eq))))

section
variable {apdu : Octets} {rest : List Octets} {c : Connection} (accepts : Frame → Bool) (now : Nat)

theorem sendNext_sent (h : c.outgoing = apdu :: rest) :
    (c.sendNext accepts now).sent =
      (frameTo c.peer (.dataConnected c.sendNo apdu) .low).toOption.toList := by
  rw [sendNext, h]
  exact (Progress.andThen_goOn_sent _ _).trans (transmit_sent _ _ _)

/-- The unit has left the queue; it is outstanding if the connection goes on. -/
theorem sendNext_connection (h : c.outgoing = apdu :: rest) :
    (c.sendNext accepts now).connection =
      if (c.sendNext accepts now).goesOn then
        refresh now
          { c with outgoing := rest, phase := .awaiting apdu 0 (now + c.config.retransmit) }
      else { c with outgoing := rest } := by
  rw [sendNext, h]
  simp only
  rw [Progress.andThen_goOn_connection, Progress.andThen_goOn_goesOn, transmit_connection]

end

/-- A frame ends no connection by itself, and does not touch those behind it. -/
theorem onFrame_connection (accepts : Frame → Bool) (now : Nat) (f : Frame) (c : Connection) :
    (c.onFrame accepts now f).connection.isClosed = c.isClosed ∧
      (c.onFrame accepts now f).connection.incoming = c.incoming := by
  obtain ⟨apdu, -, heq⟩ | ⟨apdu, -, heq⟩ | ⟨apdu, retries, deadline, -, -, heq⟩ |
    ⟨apdu, retries, deadline, -, heq⟩ | heq | heq := c.onFrame_cases accepts now f
  · rw [heq, transmit_connection]
    exact ⟨rfl, rfl⟩
  · rw [heq, transmit_connection]
    exact ⟨rfl, rfl⟩
  · rw [heq]
    exact ⟨rfl, rfl⟩
  · rw [heq, resend, transmit_connection]
    exact ⟨rfl, rfl⟩
  · rw [heq]
    exact ⟨rfl, rfl⟩
  · rw [heq]
    exact ⟨rfl, rfl⟩

/-- Everything that may come of the timers and the queue. -/
inductive Proceeded (accepts : Frame → Bool) (now : Nat) (c : Connection) (p : Progress) :
    Prop where
  /-- Nothing has gone over the connection for too long. -/
  | idled (phase : c.phase = .idle) (due : c.idleDeadline ≤ now) (eq : p = c.giveUp)
  /-- There is nothing to send. -/
  | rests (phase : c.phase = .idle) (queue : c.outgoing = []) (eq : p = c.goOn)
  /-- The next unit is sent. -/
  | sends (apdu : Octets) (rest : List Octets) (phase : c.phase = .idle)
      (queue : c.outgoing = apdu :: rest) (eq : p = c.sendNext accepts now)
  /-- The outstanding unit still has time. -/
  | waits (apdu : Octets) (retries deadline : Nat)
      (phase : c.phase = .awaiting apdu retries deadline) (early : now < deadline)
      (eq : p = c.goOn)
  /-- It has been sent as often as it may be. -/
  | spends (apdu : Octets) (retries deadline : Nat)
      (phase : c.phase = .awaiting apdu retries deadline) (due : deadline ≤ now)
      (spent : c.config.maxRetries ≤ retries) (eq : p = c.giveUp)
  /-- It is sent once more. -/
  | again (apdu : Octets) (retries deadline : Nat)
      (phase : c.phase = .awaiting apdu retries deadline) (due : deadline ≤ now)
      (left : retries < c.config.maxRetries) (eq : p = c.resend accepts now apdu retries)

theorem proceed_proceeded (accepts : Frame → Bool) (now : Nat) (c : Connection) :
    Proceeded accepts now c (c.proceed accepts now) := by
  obtain hphase | ⟨apdu, retries, deadline, hphase⟩ := c.phase_cases
  · have hproceed : c.proceed accepts now =
        if c.idleDeadline ≤ now then c.giveUp else c.sendNext accepts now := by
      rw [proceed, hphase]
    by_cases hdue : c.idleDeadline ≤ now
    · rw [if_pos hdue] at hproceed
      exact .idled hphase hdue hproceed
    · rw [if_neg hdue] at hproceed
      cases hout : c.outgoing with
      | nil => exact .rests hphase hout (by rw [hproceed, sendNext, hout])
      | cons apdu rest => exact .sends apdu rest hphase hout hproceed
  · have hproceed : c.proceed accepts now =
        if now < deadline then c.goOn
        else if c.config.maxRetries ≤ retries then c.giveUp
        else c.resend accepts now apdu retries := by
      rw [proceed, hphase]
    by_cases hearly : now < deadline
    · rw [if_pos hearly] at hproceed
      exact .waits apdu retries deadline hphase hearly hproceed
    · rw [if_neg hearly] at hproceed
      by_cases hspent : c.config.maxRetries ≤ retries
      · rw [if_pos hspent] at hproceed
        exact .spends apdu retries deadline hphase (by omega) hspent hproceed
      · rw [if_neg hspent] at hproceed
        exact .again apdu retries deadline hphase (by omega) (by omega) hproceed

/-- Neither the timers nor the queue end a connection by themselves. -/
theorem proceed_isClosed (accepts : Frame → Bool) (now : Nat) (c : Connection) :
    (c.proceed accepts now).connection.isClosed = c.isClosed := by
  cases c.proceed_proceeded accepts now with
  | sends apdu rest phase queue eq =>
    rw [eq, sendNext_connection accepts now queue]
    split <;> rfl
  | again apdu retries deadline phase due left eq => rw [eq, resend, transmit_connection]
  | idled _ _ eq | rests _ _ eq | waits _ _ _ _ _ eq | spends _ _ _ _ _ _ eq => rw [eq]; rfl

/-- What may come of the timers and the queue, in short. -/
theorem proceed_cases (accepts : Frame → Bool) (now : Nat) (c : Connection) :
    (∃ apdu rest, c.phase = .idle ∧ c.outgoing = apdu :: rest ∧
      c.proceed accepts now = c.sendNext accepts now) ∨
    (∃ apdu retries deadline, c.phase = .awaiting apdu retries deadline ∧
      c.proceed accepts now = c.resend accepts now apdu retries) ∨
    c.proceed accepts now = c.giveUp ∨ c.proceed accepts now = c.goOn := by
  cases c.proceed_proceeded accepts now with
  | idled _ _ eq => exact Or.inr (Or.inr (Or.inl eq))
  | rests _ _ eq => exact Or.inr (Or.inr (Or.inr eq))
  | sends apdu rest phase queue eq => exact Or.inl ⟨apdu, rest, phase, queue, eq⟩
  | waits _ _ _ _ _ eq => exact Or.inr (Or.inr (Or.inr eq))
  | spends _ _ _ _ _ _ eq => exact Or.inr (Or.inr (Or.inl eq))
  | again apdu retries deadline phase _ _ eq =>
    exact Or.inr (Or.inl ⟨apdu, retries, deadline, phase, eq⟩)

/-! ## What never changes -/

/-- Two connections with the same peer under the same number. -/
def SamePeer (c c' : Connection) : Prop := c'.registration = c.registration ∧ c'.peer = c.peer

section
variable {c c' c'' : Connection} (accepts : Frame → Bool) (now : Nat)

theorem SamePeer.refl (c : Connection) : c.SamePeer c := ⟨rfl, rfl⟩

theorem SamePeer.trans (h : c.SamePeer c') (h' : c'.SamePeer c'') : c.SamePeer c'' :=
  ⟨h'.1.trans h.1, h'.2.trans h.2⟩

theorem onFrame_samePeer (f : Frame) (c : Connection) :
    c.SamePeer (c.onFrame accepts now f).connection := by
  obtain ⟨apdu, -, heq⟩ | ⟨apdu, -, heq⟩ | ⟨apdu, retries, deadline, -, -, heq⟩ |
    ⟨apdu, retries, deadline, -, heq⟩ | heq | heq := c.onFrame_cases accepts now f
  · rw [heq, transmit_connection]
    exact ⟨rfl, rfl⟩
  · rw [heq, transmit_connection]
    exact ⟨rfl, rfl⟩
  · rw [heq]
    exact ⟨rfl, rfl⟩
  · rw [heq, resend, transmit_connection]
    exact ⟨rfl, rfl⟩
  · rw [heq]
    exact ⟨rfl, rfl⟩
  · rw [heq]
    exact ⟨rfl, rfl⟩

theorem proceed_samePeer (c : Connection) : c.SamePeer (c.proceed accepts now).connection := by
  obtain ⟨apdu, rest, -, hout, heq⟩ | ⟨apdu, retries, deadline, -, heq⟩ | heq | heq :=
    c.proceed_cases accepts now
  · rw [heq, sendNext_connection accepts now hout]
    split <;> exact ⟨rfl, rfl⟩
  · rw [heq, resend, transmit_connection]
    exact ⟨rfl, rfl⟩
  · rw [heq]
    exact ⟨rfl, rfl⟩
  · rw [heq]
    exact ⟨rfl, rfl⟩

/-- Nor does the end of a connection change them. -/
theorem settle_samePeer {p : Progress} (h : c.SamePeer p.connection) : c.SamePeer p.settle.1 := by
  unfold Progress.settle
  split
  · exact h
  · exact h.trans ⟨rfl, rfl⟩

end

end Connection
end KnxBus
