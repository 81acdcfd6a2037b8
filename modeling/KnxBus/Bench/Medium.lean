import KnxBus.Medium

/-!
# A bench for one medium

The bench puts one medium on a simulated machine and works it by hand.  Time stands still but for
`advance`.  After each step the medium *settles*: it takes in what has arrived and its loop takes
turns until none is due.  `advance` lets timers fire one deadline after the other and lets the
medium settle after each.

The machine records what leaves it.  Nothing that is sent ever comes back by itself.
-/

namespace KnxBus

/-- What is done with a medium. -/
inductive MediumStep where
  /-- Time passes. -/
  | advance (ms : Nat)
  /-- Something happens at the socket bound to a port, or to the lowest bound port. -/
  | arrive (port : Option UInt16) (arrival : Arrival)
  /-- Something is heard on a loopback. -/
  | inject (heard : Lpdu)
  /-- A loopback is lost. -/
  | disconnect
  /-- A router or tunnel is stopped. -/
  | stop
  /-- Something is taken from the medium. -/
  | receive
  /-- A frame is sent. -/
  | send (frame : Frame)
  /-- A command is given. -/
  | command (command : Command)
  deriving DecidableEq, Repr

/-- What comes of a step. -/
inductive MediumAnswer where
  /-- It was done. -/
  | done
  /-- Whether there was a socket. -/
  | found (yes : Bool)
  /-- What was taken. -/
  | heard (heard : Option Lpdu)
  /-- The medium refused. -/
  | failed (cause : LinkError)
  /-- There is no such step for this medium. -/
  | noSuchStep
  deriving DecidableEq, Repr

/-- A medium on a simulated machine. -/
structure MediumBench where
  /-- The time. -/
  now : Nat
  /-- The medium, until it is gone. -/
  medium : Option Medium
  /-- What has left the machine since the last report, oldest first. -/
  sent : List Medium.Datagram
  deriving DecidableEq, Repr

namespace MediumBench

/-- How many turns at one time are followed at most. -/
def patience : Nat := 100000

/-- Lets the loop of a medium take turns until none is due. -/
def turns (now : Nat) : Nat → Medium → Medium × List Outgoing
  | 0, m => (m, [])
  | fuel + 1, m =>
    if m.isDue now then
      let (m', out) := m.turn now
      let (last, more) := turns now fuel m'
      (last, out ++ more)
    else (m, [])

/-- Lets everything come to rest. -/
def settle (b : MediumBench) : MediumBench :=
  match b.medium with
  | none => b
  | some m =>
    let (m', out) := turns b.now patience (m.pump b.now)
    { b with medium := some m', sent := b.sent ++ Outgoing.datagrams out }

@[simp] theorem settle_now (b : MediumBench) : b.settle.now = b.now := by
  unfold settle
  split <;> rfl

/-- The next time at which something happens by itself. -/
def nextDeadline? (b : MediumBench) : Option Nat :=
  match b.medium with
  | none => none
  | some m => m.deadlines.min?

/-- Lets time pass until `target`, settling at each deadline on the way. -/
def advanceTo (target : Nat) (b : MediumBench) : MediumBench :=
  match b.nextDeadline? with
  | none => { b with now := target }
  | some deadline =>
    if b.now < deadline ∧ deadline ≤ target then
      advanceTo target (settle { b with now := deadline })
    else { b with now := target }
termination_by target - b.now
decreasing_by simp; omega

/-- Puts a medium on the bench and lets it settle. -/
def ofMedium (m : Medium) : MediumBench := settle ⟨0, some m, []⟩

/-! ## Steps -/

/-- Something happens at the socket of a medium, if that is the one meant. -/
def arriveAt (port : Option UInt16) (a : Arrival) (m : Medium) : Option Medium :=
  match m.socket? with
  | none => none
  | some socket =>
    if (port.getD socket.port) = socket.port then some (m.arrive a) else none

/-- Stops a medium.  A router stays, a tunnel is gone. -/
def stopMedium (b : MediumBench) : Medium → MediumBench × MediumAnswer
  | .loopback _ => (b, .noSuchStep)
  | .router r => ({ b with medium := some (.router r.stop) }, .done)
  | .tunnel t =>
    ({ b with
        medium := none
        sent := b.sent ++ Outgoing.datagrams t.finish.2 }, .done)

/-- One step with a medium that is there. -/
def act (b : MediumBench) (m : Medium) : MediumStep → MediumBench × MediumAnswer
  | .advance ms => (advanceTo (b.now + ms) b, .done)
  | .arrive port a =>
    match arriveAt port a m with
    | some m' => ({ b with medium := some m' }, .found true)
    | none => (b, .found false)
  | .inject heard =>
    match m with
    | .loopback l => ({ b with medium := some (.loopback (l.inject heard)) }, .done)
    | _ => (b, .noSuchStep)
  | .disconnect =>
    match m with
    | .loopback l => ({ b with medium := some (.loopback l.disconnect) }, .done)
    | _ => (b, .noSuchStep)
  | .stop => stopMedium b m
  | .receive => ({ b with medium := some m.receive.2 }, .heard m.receive.1)
  | .send frame =>
    match m.send frame with
    | .ok (m', out) => ({ b with medium := some m', sent := b.sent ++ out }, .done)
    | .error e => (b, .failed e)
  | .command c =>
    match m.command c with
    | .ok m' => ({ b with medium := some m' }, .done)
    | .error e => (b, .failed e)

/-- One step. -/
def step (b : MediumBench) (s : MediumStep) : MediumBench × MediumAnswer :=
  match b.medium, s with
  | some m, s =>
    let (b', answer) := act { b with sent := [] } m s
    (b'.settle, answer)
  | none, .advance ms => ({ b with now := b.now + ms, sent := [] }, .done)
  | none, .arrive _ _ => ({ b with sent := [] }, .found false)
  | none, _ => ({ b with sent := [] }, .noSuchStep)

/-- Takes the medium off the bench: what it sends at its end. -/
def farewell (b : MediumBench) : List Medium.Datagram :=
  match b.medium with
  | none => []
  | some m => Outgoing.datagrams m.farewell

end MediumBench
end KnxBus
