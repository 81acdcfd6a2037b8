import KnxBus.Medium
import KnxBus.Proofs.Dispatch.Desk
import KnxBus.Proofs.Mailbox

/-!
# A desk on a loopback medium

A circuit is a desk whose driver is a loopback medium, together with the pump between the two.  What
is heard on the medium waits in its inbox; the pump takes the oldest item there and makes an event of
it.  The desk handles events in its own time, and what it tells the medium then takes effect at once.

Frames are sent and injected, numbers are drawn and requests handed in, and everybody leaves, between
any two turns of the pump and of the desk.  The medium obeys every command, so all that it adds to a
desk is what it queues.  The circuit keeps count of that (`Wire.queued`), for statements only.

## What is a step

A pump that finds the inbox empty sees only afterwards, and under another lock, whether it is told to
end.  So it takes two turns for that, a look and a check, and anything can happen in between.  With
nothing in between they are the wait of a mailbox (`Circuit.popUntilStopped_eq`).  Taking an item and
making an event of it is one turn: nobody else takes items, and nobody but the desk, which is asked
for other things all the time, sees when the event comes.

The medium is lost in one step, although the end is told after the loss has been noted: in between
nothing is queued, so a pump that still goes on then does what it could have done before.

A frame is heard in one step, although the medium looks at its switches up to three times and queues
last of all.  Whether the frame itself is queued is decided by one of these looks alone, the last one
at the switch of the monitor that has the bus for itself; the step stands there.  The others decide
whether a capture goes before it.  They see something else only while a monitor comes or goes, and
such a capture, which reaches nobody but monitors, is left out.  What is queued later than it was
looked up is as if the pump, which alone can miss it, had looked before; so is a frame on its way
when the medium is lost.
-/

namespace KnxBus

variable {σ : Type}

/-! ## The medium -/

namespace Loopback

/-- A command takes effect. -/
def obey (l : Loopback) (c : Command) : Loopback :=
  match (Medium.loopback l).obey c with
  | .loopback after => after
  | _ => l

/-- Commands take effect one after the other. -/
def obeyAll (l : Loopback) (commands : List Command) : Loopback := commands.foldl obey l

/-- Commands move the switches and nothing else. -/
theorem obeyAll_eq (l : Loopback) (commands : List Command) :
    l.obeyAll commands = { l with mode := (l.obeyAll commands).mode } := by
  induction commands generalizing l with
  | nil => rfl
  | cons c later ih =>
    refine (ih (l.obey c)).trans ?_
    cases c <;> rfl

/-- What is queued when something is heard. -/
def heard (l : Loopback) (item : Lpdu) : List Lpdu := if l.lost then [] else report l.mode item

theorem inject_eq (l : Loopback) (item : Lpdu) :
    l.inject item = { l with inbox := l.inbox ++ l.heard item } := by
  unfold inject heard
  split
  · exact congrArg (Loopback.mk l.address l.mode · l.lost) (List.append_nil _).symm
  · rfl

end Loopback

theorem Medium.verdict_loopback (l : Loopback) : (loopback l).verdict = fun _ => .ok () := by
  funext c
  cases c <;> rfl

/-- What a pump does next. -/
inductive Pump where
  /-- It looks for an item. -/
  | looks
  /-- It has found none, and checks whether it is to end. -/
  | checks
  /-- It has ended. -/
  | ended
  deriving DecidableEq, Repr

/-- A loopback medium with its pump. -/
structure Wire where
  /-- The medium. -/
  medium : Loopback
  /-- The pump. -/
  pump : Pump
  /-- All that was ever queued in the inbox, oldest first. -/
  queued : List Lpdu
  deriving DecidableEq, Repr

namespace Wire

/-- A fresh medium. -/
def ofAddress (address : IndividualAddress) : Wire := ⟨.ofAddress address, .looks, []⟩

/-- Something is heard. -/
def hear (w : Wire) (item : Lpdu) : Wire :=
  { w with medium := w.medium.inject item, queued := w.queued ++ w.medium.heard item }

/-- The medium is lost. -/
def disconnect (w : Wire) : Wire := { w with medium := w.medium.disconnect }

/-- The medium is told something. -/
def obeyAll (w : Wire) (commands : List Command) : Wire :=
  { w with medium := w.medium.obeyAll commands }

/-- The pump takes a turn. -/
def pumped (w : Wire) : Wire :=
  match w.pump with
  | .looks =>
    match w.medium.receive with
    | (some _, medium) => { w with medium := medium }
    | (none, _) => { w with pump := .checks }
  | .checks => { w with pump := if w.medium.lost then .ended else .looks }
  | .ended => w

end Wire

/-- What an event says of the medium: what is heard on it, or that it is lost (`none`). -/
def DispatchEvent.news? : DispatchEvent σ → Option (Option Lpdu)
  | .heard item => some (some item)
  | .lost => some none
  | _ => none

/-! ## The circuit -/

/-- A desk on a loopback medium. -/
@[ext]
structure Circuit (σ : Type) where
  /-- The desk. -/
  desk : Desk σ
  /-- The medium and the pump. -/
  wire : Wire

namespace Circuit

/-- What can happen in a circuit besides drawing a number. -/
inductive Act where
  /-- The request with a number is handed in. -/
  | submit (id : Nat)
  /-- Somebody leaves. -/
  | leave (id : Nat)
  /-- Something is heard on the bus. -/
  | inject (item : Lpdu)
  /-- A frame is sent. -/
  | send (frame : Frame)
  /-- The medium is lost. -/
  | disconnect
  /-- The pump takes a turn. -/
  | pump
  /-- The desk takes a turn. -/
  | serve
  deriving DecidableEq, Repr

/-- A circuit that has just been closed. -/
def start (address : IndividualAddress) : Circuit σ := ⟨.start, .ofAddress address⟩

/-- The address of this device. -/
def address (c : Circuit σ) : IndividualAddress := c.wire.medium.address

/-- Whether events are handled. -/
def running (c : Circuit σ) : Bool := c.desk.dispatcher.running

/-- The events that have not been handled. -/
def events (c : Circuit σ) : List (DispatchEvent σ) := c.desk.dispatcher.events

/-- What the medium says to commands. -/
def verdict (c : Circuit σ) : Verdict := (Medium.loopback c.wire.medium).verdict

/-- A frame with its sender filled in. -/
def signed (c : Circuit σ) (frame : Frame) : Frame :=
  if frame.source.isUnset then { frame with source := c.address } else frame

/-- What comes of sending a frame: the medium afterwards, or why it is not sent. -/
def sending (c : Circuit σ) (frame : Frame) : Except DispatchError Loopback :=
  if c.running then (c.wire.medium.send (c.signed frame)).mapError .medium else .error .stopped

/-- What the pump has for the desk in its next turn, if it has something. -/
def pumping (c : Circuit σ) : Option Desk.Act :=
  match c.wire.pump with
  | .looks => c.wire.medium.receive.1.map .hear
  | .checks => if c.wire.medium.lost then some .lose else none
  | .ended => none

/-- What happens at the desk. -/
def atDesk (c : Circuit σ) : Act → Option Desk.Act
  | .submit id => some (.submit id)
  | .leave id => some (.leave id)
  | .pump => c.pumping
  | .serve => some (.serve c.verdict c.address)
  | _ => none

/-- The pump brings nothing but items and the news of the loss. -/
theorem pumping_eq_some {c : Circuit σ} {d : Desk.Act} (h : c.pumping = some d) :
    (∃ item, d = .hear item) ∨ d = .lose := by
  unfold pumping at h
  split at h
  · obtain ⟨item, -, hitem⟩ := Option.map_eq_some_iff.1 h
    exact .inl ⟨item, hitem.symm⟩
  · split at h
    · exact .inr (Option.some.inj h).symm
    · cases h
  · cases h

/-- On its medium a desk is never closed. -/
theorem atDesk_ne_halt (c : Circuit σ) (a : Act) (verdict : Verdict) :
    c.atDesk a ≠ some (.halt verdict) := by
  cases a with
  | pump =>
    intro h
    obtain ⟨item, hitem⟩ | hlose := pumping_eq_some h
    · cases hitem
    · cases hlose
  | _ => nofun

theorem eq_leave_of_atDesk {c : Circuit σ} {a : Act} {id : Nat}
    (h : c.atDesk a = some (.leave id)) : a = .leave id := by
  cases a with
  | leave id' =>
    cases h
    rfl
  | pump =>
    obtain ⟨item, hitem⟩ | hlose := pumping_eq_some h
    · cases hitem
    · cases hlose
  | _ => cases h

/-- What happens at the medium. -/
def atWire (c : Circuit σ) : Act → Wire
  | .inject item => c.wire.hear item
  | .send frame => if c.running then c.wire.hear (.data (c.signed frame)) else c.wire
  | .disconnect => c.wire.disconnect
  | .pump => c.wire.pumped
  | .serve =>
    match c.desk.next? c.verdict c.address with
    | some handled => c.wire.obeyAll handled.done.commands
    | none => c.wire
  | _ => c.wire

/-- A turn of the desk reaches the medium through its commands alone. -/
theorem atWire_serve (c : Circuit σ) :
    c.atWire .serve =
      (c.desk.next? c.verdict c.address).elim c.wire
        fun handled => c.wire.obeyAll handled.done.commands := by
  rw [atWire]
  cases c.desk.next? c.verdict c.address <;> rfl

/-- Something happens besides drawing a number. -/
def act (c : Circuit σ) (a : Act) : Circuit σ :=
  ⟨(c.atDesk a).elim c.desk c.desk.act, c.atWire a⟩

/-- Only a turn of the desk is remembered. -/
theorem act_log (c : Circuit σ) {a : Act} (h : a ≠ .serve) :
    (c.act a).desk.log = c.desk.log := by
  cases a with
  | submit id =>
    change (c.desk.submit id).log = _
    unfold Desk.submit
    split <;> rfl
  | pump =>
    change (c.pumping.elim c.desk c.desk.act).log = _
    cases hpumping : c.pumping with
    | none => rfl
    | some d => obtain ⟨item, rfl⟩ | rfl := pumping_eq_some hpumping <;> rfl
  | serve => exact absurd rfl h
  | _ => rfl

/-- Somebody draws a number for a request. -/
def draw (c : Circuit σ) (request : Request σ) : Circuit σ :=
  { c with desk := c.desk.draw request }

/-- The desk after a number has been drawn. -/
theorem draw_desk {c : Circuit σ} (h : c.running = true) (request : Request σ) :
    (c.draw request).desk =
      { c.desk with
        dispatcher := c.desk.dispatcher.takeId.2
        drawn := c.desk.drawn ++ [(c.desk.dispatcher.nextId, request)] } :=
  if_pos h

/-- What comes of wanting to register: the number that is drawn, or why there is none. -/
def drawing (c : Circuit σ) : Except DispatchError Nat :=
  if c.running then .ok c.desk.dispatcher.nextId else .error .stopped

/-- What somebody is told who has drawn a number.  A request that is never handled is answered when
the desk ends. -/
def reply (c : Circuit σ) (id : Nat) : Option (Except DispatchError Unit) :=
  match c.desk.log.find? fun h => h.event.number? = some id with
  | some handled => some handled.done.result
  | none => if c.running then none else some (.error .stopped)

/-! ## What a step can do -/

/-- How a circuit can change in one step.  The desk is asked for something by events that bring no
news of the medium. -/
inductive Stepped (c : Circuit σ) : Circuit σ → Prop where
  /-- The desk is asked for something. -/
  | asked (desk : Desk σ) (more : List (DispatchEvent σ))
    (events_eq : desk.dispatcher.events = c.events ++ more)
    (quiet : ∀ e ∈ more, e.news? = none)
    (registry_eq : desk.registry = c.desk.registry)
    (running_eq : desk.dispatcher.running = c.running) (log_eq : desk.log = c.desk.log) :
    Stepped c ⟨desk, c.wire⟩
  /-- Something is heard on the bus. -/
  | heard (item : Lpdu) : Stepped c ⟨c.desk, c.wire.hear item⟩
  /-- The medium is lost. -/
  | lost : Stepped c ⟨c.desk, c.wire.disconnect⟩
  /-- The pump takes an item. -/
  | pumped (item : Lpdu) (rest : List Lpdu) (pump : c.wire.pump = .looks)
    (inbox : c.wire.medium.inbox = item :: rest) :
    Stepped c
      ⟨c.desk.enqueue (.heard item), { c.wire with medium := { c.wire.medium with inbox := rest } }⟩
  /-- The pump finds no item. -/
  | looked (pump : c.wire.pump = .looks) (inbox : c.wire.medium.inbox = []) :
    Stepped c ⟨c.desk, { c.wire with pump := .checks }⟩
  /-- The pump sees that it is to go on. -/
  | checked (pump : c.wire.pump = .checks) (alive : c.wire.medium.lost = false) :
    Stepped c ⟨c.desk, { c.wire with pump := .looks }⟩
  /-- The pump sees that the medium is lost, and ends. -/
  | ended (pump : c.wire.pump = .checks) (isLost : c.wire.medium.lost = true) :
    Stepped c ⟨c.desk.enqueue .lost, { c.wire with pump := .ended }⟩
  /-- The desk handles the oldest event. -/
  | served (e : DispatchEvent σ) (later : List (DispatchEvent σ)) (works : c.running = true)
    (queue : c.events = e :: later) :
    Stepped c
      ⟨c.desk.record (c.desk.handling c.verdict c.address e later),
        c.wire.obeyAll (c.desk.handling c.verdict c.address e later).done.commands⟩

theorem Stepped.still (c : Circuit σ) : Stepped c c :=
  .asked c.desk [] (List.append_nil _).symm (fun _ he => absurd he List.not_mem_nil) rfl rfl rfl

theorem draw_stepped (c : Circuit σ) (request : Request σ) : Stepped c (c.draw request) := by
  have hsame : ∀ desk : Desk σ, desk.dispatcher.events = c.events →
      desk.registry = c.desk.registry → desk.dispatcher.running = c.running →
        desk.log = c.desk.log → Stepped c ⟨desk, c.wire⟩ := fun desk hevents hregistry hrunning hlog =>
    .asked desk [] (hevents.trans (List.append_nil _).symm)
      (fun _ he => absurd he List.not_mem_nil) hregistry hrunning hlog
  unfold draw Desk.draw
  split
  · exact hsame _ rfl rfl rfl rfl
  · exact hsame _ rfl rfl rfl rfl

theorem submit_stepped (c : Circuit σ) (id : Nat) : Stepped c (c.act (.submit id)) := by
  change Stepped c ⟨c.desk.submit id, c.wire⟩
  unfold Desk.submit
  cases Registry.takeOut Prod.fst id c.desk.drawn with
  | none => exact .still c
  | some taken =>
    obtain ⟨⟨number, request⟩, others⟩ := taken
    refine .asked _ [request.event number] rfl (fun e he => ?_) rfl rfl rfl
    rw [List.mem_singleton.1 he]
    cases request <;> rfl

theorem leave_stepped (c : Circuit σ) (id : Nat) : Stepped c (c.act (.leave id)) := by
  change Stepped c ⟨{ c.desk with dispatcher := c.desk.dispatcher.deregister id }, c.wire⟩
  unfold Dispatcher.deregister
  split
  · refine .asked _ [.unsubscribe id] rfl (fun e he => ?_) rfl rfl rfl
    rw [List.mem_singleton.1 he]
    rfl
  · exact .still c

/-- The pump takes the oldest item. -/
theorem pump_item {c : Circuit σ} {item : Lpdu} {rest : List Lpdu} (pump : c.wire.pump = .looks)
    (inbox : c.wire.medium.inbox = item :: rest) :
    c.pumping = some (.hear item) ∧
      c.act .pump =
        ⟨c.desk.enqueue (.heard item),
          { c.wire with medium := { c.wire.medium with inbox := rest } }⟩ := by
  obtain ⟨desk, ⟨address, mode, items, lost⟩, next, queued⟩ := c
  obtain rfl : next = .looks := pump
  obtain rfl : items = item :: rest := inbox
  exact ⟨rfl, rfl⟩

/-- The pump finds nothing. -/
theorem pump_nothing {c : Circuit σ} (pump : c.wire.pump = .looks)
    (inbox : c.wire.medium.inbox = []) :
    c.pumping = none ∧ c.act .pump = ⟨c.desk, { c.wire with pump := .checks }⟩ := by
  obtain ⟨desk, ⟨address, mode, items, lost⟩, next, queued⟩ := c
  obtain rfl : next = .looks := pump
  obtain rfl : items = [] := inbox
  exact ⟨rfl, rfl⟩

/-- The pump sees that it is to go on. -/
theorem pump_alive {c : Circuit σ} (pump : c.wire.pump = .checks)
    (alive : c.wire.medium.lost = false) :
    c.pumping = none ∧ c.act .pump = ⟨c.desk, { c.wire with pump := .looks }⟩ := by
  obtain ⟨desk, ⟨address, mode, items, lost⟩, next, queued⟩ := c
  obtain rfl : next = .checks := pump
  obtain rfl : lost = false := alive
  exact ⟨rfl, rfl⟩

/-- The pump sees that the medium is lost. -/
theorem pump_lost {c : Circuit σ} (pump : c.wire.pump = .checks)
    (isLost : c.wire.medium.lost = true) :
    c.pumping = some .lose ∧
      c.act .pump = ⟨c.desk.enqueue .lost, { c.wire with pump := .ended }⟩ := by
  obtain ⟨desk, ⟨address, mode, items, lost⟩, next, queued⟩ := c
  obtain rfl : next = .checks := pump
  obtain rfl : lost = true := isLost
  exact ⟨rfl, rfl⟩

/-- A pump that has ended does nothing. -/
theorem pump_ended {c : Circuit σ} (pump : c.wire.pump = .ended) :
    c.pumping = none ∧ c.act .pump = c := by
  obtain ⟨desk, medium, next, queued⟩ := c
  obtain rfl : next = .ended := pump
  exact ⟨rfl, rfl⟩

/-- What a pump can come upon in a turn. -/
inductive Pumps (c : Circuit σ) : Prop where
  /-- An item. -/
  | item (item : Lpdu) (rest : List Lpdu) (pump : c.wire.pump = .looks)
    (inbox : c.wire.medium.inbox = item :: rest)
  /-- Nothing. -/
  | nothing (pump : c.wire.pump = .looks) (inbox : c.wire.medium.inbox = [])
  /-- A medium that is not lost. -/
  | alive (pump : c.wire.pump = .checks) (alive : c.wire.medium.lost = false)
  /-- A medium that is lost. -/
  | lost (pump : c.wire.pump = .checks) (isLost : c.wire.medium.lost = true)
  /-- Its own end. -/
  | ended (pump : c.wire.pump = .ended)

theorem pumps (c : Circuit σ) : c.Pumps := by
  cases pump : c.wire.pump with
  | looks =>
    cases inbox : c.wire.medium.inbox with
    | cons item rest => exact .item item rest pump inbox
    | nil => exact .nothing pump inbox
  | checks =>
    cases isLost : c.wire.medium.lost with
    | false => exact .alive pump isLost
    | true => exact .lost pump isLost
  | ended => exact .ended pump

theorem pump_stepped (c : Circuit σ) : Stepped c (c.act .pump) := by
  cases c.pumps with
  | item item rest pump inbox =>
    rw [(pump_item pump inbox).2]
    exact .pumped item rest pump inbox
  | nothing pump inbox =>
    rw [(pump_nothing pump inbox).2]
    exact .looked pump inbox
  | alive pump alive =>
    rw [(pump_alive pump alive).2]
    exact .checked pump alive
  | lost pump isLost =>
    rw [(pump_lost pump isLost).2]
    exact .ended pump isLost
  | ended pump =>
    rw [(pump_ended pump).2]
    exact .still c

/-- **Two turns with nothing in between are a wait.**  A pump that looks does what the wait for an item
does on a mailbox that holds the inbox and whose flags tell of the loss: it takes an item, or it ends,
or it goes on waiting. -/
theorem popUntilStopped_eq {c : Circuit σ} {m : Mailbox Lpdu} {s other : Flags} {now : Nat}
    (pump : c.wire.pump = .looks) (hqueue : m.queue = c.wire.medium.inbox) (hflag : m.flag ≠ .stop)
    (hlost : s.isStopped = c.wire.medium.lost) (hother : other.isStopped = false) :
    (m.popUntilStopped s other now).1 =
      match c.pumping, (c.act .pump).pumping with
      | some (.hear item), _ => .item item now
      | _, some .lose => .nothing now
      | _, _ => .endless := by
  cases inbox : c.wire.medium.inbox with
  | cons item rest =>
    have hpop : m.pop s = (some item, (m.pop s).2) := by
      unfold Mailbox.pop
      rw [hqueue, inbox]
      cases rest <;> rfl
    rw [(pump_item pump inbox).1, Mailbox.popUntilStopped, hpop]
  | nil =>
    obtain ⟨hpumping, hact⟩ := pump_nothing pump inbox
    have hpop : m.pop s = (none, m, s.lower m.flag) :=
      m.pop_of_queue_eq_nil s (hqueue.trans inbox)
    have hstopped : (s.lower m.flag).isStopped = c.wire.medium.lost := by
      have hkept := m.pop_isStopped s hflag
      rw [hpop] at hkept
      exact hkept.trans hlost
    rw [hpumping, hact, Mailbox.popUntilStopped, hpop]
    simp only [hother, hstopped, Bool.false_or]
    cases isLost : c.wire.medium.lost with
    | false => rw [(pump_alive (c := ⟨c.desk, { c.wire with pump := .checks }⟩) rfl isLost).1]; rfl
    | true => rw [(pump_lost (c := ⟨c.desk, { c.wire with pump := .checks }⟩) rfl isLost).1]; rfl

/-- The desk handles the oldest event. -/
theorem serve_eq {c : Circuit σ} {e : DispatchEvent σ} {later : List (DispatchEvent σ)}
    (works : c.running = true) (queue : c.events = e :: later) :
    c.act .serve =
      ⟨c.desk.record (c.desk.handling c.verdict c.address e later),
        c.wire.obeyAll (c.desk.handling c.verdict c.address e later).done.commands⟩ := by
  have hnext : c.desk.next? c.verdict c.address =
      some (c.desk.handling c.verdict c.address e later) := by
    unfold running at works
    unfold events at queue
    rw [Desk.next?, if_pos works, queue]
  change (⟨c.desk.serve c.verdict c.address, c.atWire .serve⟩ : Circuit σ) = _
  rw [Desk.serve, atWire, hnext]

/-- Without an event, or once it has ended, the desk does nothing. -/
theorem serve_idle {c : Circuit σ} (h : c.running = false ∨ c.events = []) : c.act .serve = c := by
  have hnext : c.desk.next? c.verdict c.address = none := by
    unfold running events at h
    unfold Desk.next?
    obtain hends | hempty := h
    · rw [if_neg (Bool.eq_false_iff.1 hends)]
    · rw [hempty]
      exact ite_self none
  change (⟨c.desk.serve c.verdict c.address, c.atWire .serve⟩ : Circuit σ) = _
  rw [Desk.serve, atWire, hnext]

theorem serve_stepped (c : Circuit σ) : Stepped c (c.act .serve) := by
  cases works : c.running with
  | false =>
    rw [serve_idle (.inl works)]
    exact .still c
  | true =>
    cases queue : c.events with
    | nil =>
      rw [serve_idle (.inr queue)]
      exact .still c
    | cons e later =>
      rw [serve_eq works queue]
      exact .served e later works queue

theorem act_stepped (c : Circuit σ) (a : Act) : Stepped c (c.act a) := by
  cases a with
  | submit id => exact c.submit_stepped id
  | leave id => exact c.leave_stepped id
  | inject item => exact .heard item
  | send frame =>
    change Stepped c ⟨c.desk, if c.running then _ else _⟩
    split
    · exact .heard _
    · exact .still c
  | disconnect => exact .lost
  | pump => exact c.pump_stepped
  | serve => exact c.serve_stepped

end Circuit
end KnxBus
