import KnxBus.Dispatch.Dispatcher
import KnxBus.Station.Line
import KnxBus.Station.Part

/-!
# Stations

A station is one line with a dispatcher on it and the parts that take part in the bus through them.
It has no clock; every operation is told the time.

## Rest

Work goes through a station in rounds.  A round first *absorbs*: what has arrived at sockets is
taken in, what the medium has received becomes events, and the dispatcher handles all events.
Then every loop that has a cause takes one turn, the medium first and the parts in the order of
their names.  What a turn sends may come back as something received, but only in the next round.
A station *rests* when no loop has a cause after absorbing.

## Loss

When the medium is lost and everything that had been received is taken from it, the dispatcher hands
on the news and ends.  From then on nothing is sent or registered, and there is nothing to leave.
-/

namespace KnxBus

/-- Where the frames of a registration go. -/
inductive Sink where
  /-- They are recorded under a name. -/
  | record (name : String)
  /-- They go to the part with a serial number. -/
  | part (serial : Nat)
  deriving DecidableEq, Repr

/-- A part with its name. -/
structure Member where
  /-- The name. -/
  name : String
  /-- The serial number; no two parts ever have the same. -/
  serial : Nat
  /-- The part. -/
  part : Part
  deriving DecidableEq, Repr

/-- The answer that a reader has been given. -/
inductive ReaderAnswer where
  /-- An entry, at a time. -/
  | entry (entry : CacheEntry) (time : Nat)
  /-- All entries. -/
  | entries (entries : List CacheEntry)
  deriving DecidableEq, Repr

/-- A station. -/
structure Station where
  /-- The host that it runs on. -/
  host : Host
  /-- The line. -/
  line : Line
  /-- The dispatcher. -/
  dispatcher : Dispatcher Sink
  /-- Whether what the medium has received is taken from it. -/
  isPumped : Bool
  /-- Whether the station has been stopped. -/
  isStopped : Bool
  /-- The parts, in the order of their names. -/
  members : List Member
  /-- The serial number of the next part. -/
  nextSerial : Nat
  /-- What was handed to recording sinks, oldest first. -/
  heard : List (String × Registry.Handed)
  /-- What readers were told, oldest first. -/
  answers : List (Nat × ReaderAnswer)
  /-- Multicast groups that were joined, oldest first. -/
  joined : List Ipv4
  deriving Repr

namespace Station

/-- Forgets what was recorded. -/
def forget (s : Station) : Station :=
  { s with line := s.line.forget, heard := [], answers := [], joined := [] }

/-- The member with a name. -/
def member? (s : Station) (name : String) : Option Member := s.members.find? (·.name == name)

/-- Changes the part with a serial number. -/
def mapPart (s : Station) (serial : Nat) (f : Part → Part) : Station :=
  { s with
    members := s.members.map fun m => if m.serial = serial then { m with part := f m.part } else m }

/-- The address of this device on the bus. -/
def address (s : Station) : IndividualAddress := s.line.medium.address

/-! ## Sending -/

/-- A frame with its sender filled in. -/
def signed (s : Station) (frame : Frame) : Frame :=
  if frame.source.isUnset then { frame with source := s.address } else frame

/-- Whether a frame would be taken now, and if not, why. -/
def verdict (s : Station) (frame : Frame) : Except DispatchError Unit :=
  if !s.dispatcher.running then .error .stopped
  else
    match s.line.accepts (s.signed frame) with
    | .ok () => .ok ()
    | .error cause => .error (.medium cause)

/-- Whether a frame would be taken now. -/
def accepts (s : Station) (frame : Frame) : Bool :=
  match s.verdict frame with
  | .ok () => true
  | .error _ => false

/-- Gives a frame to the medium, unless the dispatcher has ended. -/
def transmit (s : Station) (frame : Frame) : Station :=
  if s.dispatcher.running then { s with line := s.line.send (s.signed frame) } else s

/-- Sends a frame: the station afterwards, and whether the frame was taken. -/
def send (s : Station) (frame : Frame) : Station × Except DispatchError Unit :=
  (s.transmit frame, s.verdict frame)

/-- An effect takes place. -/
def perform (now : Nat) (s : Station) : Effect → Station
  | .transmit frame => s.transmit frame
  | .leave registration => { s with dispatcher := s.dispatcher.deregister registration }
  | .datagram out => { s with line := s.line.emit [out] }
  | .answer reader entry => { s with answers := s.answers ++ [(reader, .entry entry now)] }
  | .list reader entries => { s with answers := s.answers ++ [(reader, .entries entries)] }

/-- Effects take place one after the other. -/
def performAll (now : Nat) (effects : List Effect) (s : Station) : Station :=
  effects.foldl (perform now) s

/-! ## Events -/

/-- Something is handed to a sink. -/
def hand (now : Nat) (s : Station) : Sink × Registry.Handed → Station
  | (.record name, handed) => { s with heard := s.heard ++ [(name, handed)] }
  | (.part serial, .frame frame) => s.mapPart serial (Part.deliver now frame)
  | (.part serial, .lost) => s.mapPart serial Part.lose
  | (.part _, .capture _) => s

/-- The dispatcher handles an event. -/
def handle (now : Nat) (s : Station) (e : DispatchEvent Sink) :
    Station × Except DispatchError Unit :=
  let done := s.dispatcher.handle s.line.verdict s.address e
  let after := { s with dispatcher := done.dispatcher, line := s.line.giveAll done.commands }
  (done.handed.foldl (hand now) after, done.result)

/-- The dispatcher handles events one after the other until it ends. -/
def handleAll (now : Nat) : List (DispatchEvent Sink) → Station → Station
  | [], s => s
  | e :: later, s => if s.dispatcher.running then handleAll now later (s.handle now e).1 else s

/-- The dispatcher handles all events that have come. -/
def dispatch (now : Nat) (s : Station) : Station :=
  handleAll now s.dispatcher.events
    { s with dispatcher := { s.dispatcher with events := [] } }

/-- What the medium has received becomes events; so does its loss. -/
def receive (s : Station) : Station :=
  if !s.isPumped then s
  else
    let (heard, medium) := s.line.medium.takeAll
    let isLost := medium.isLost
    let events := heard.map .heard ++ if isLost then [.lost] else []
    { s with
      line := { s.line with medium := medium }
      isPumped := !isLost
      dispatcher := { s.dispatcher with events := s.dispatcher.events ++ events } }

/-- Takes in what has arrived at sockets. -/
def pump (now : Nat) (s : Station) : Station :=
  { s with
    line := s.line.pump now
    members := s.members.map fun m => { m with part := m.part.pump now } }

/-- The first half of a round. -/
def absorb (now : Nat) (s : Station) : Station := dispatch now (receive (pump now s))

/-! ## Turns -/

/-- Whether a loop has a cause for a turn. -/
def isDue (s : Station) (now : Nat) : Bool :=
  s.line.medium.isDue now || s.members.any fun m => m.part.isDue now

/-- The part with a serial number takes a turn, if it has a cause. -/
def turnPart (now : Nat) (s : Station) (serial : Nat) : Station :=
  match s.members.find? (·.serial == serial) with
  | none => s
  | some m =>
    if m.part.isDue now then
      let (part, effects) := m.part.turn s.accepts now
      performAll now effects (s.mapPart serial fun _ => part)
    else s

/-- The second half of a round. -/
def turns (now : Nat) (s : Station) : Station :=
  (s.members.map (·.serial)).foldl (turnPart now) { s with line := s.line.turn now }

/-- Goes on until the station rests, for so many rounds at most. -/
def settleFor (now : Nat) : Nat → Station → Station
  | 0, s => s.absorb now
  | rounds + 1, s =>
    let absorbed := s.absorb now
    if absorbed.isDue now then settleFor now rounds (absorbed.turns now) else absorbed

/-- How many rounds at one time are followed at most. -/
def patience : Nat := 100000

/-- Goes on until the station rests. -/
def settle (now : Nat) (s : Station) : Station := settleFor now patience s

/-- The next time after `now` at which something is due even if nothing comes. -/
def nextDeadline? (s : Station) (now : Nat) : Option Nat :=
  ((s.line.medium.deadlines ++ s.members.flatMap fun m => m.part.deadlines).filter
    (now < ·)).min?

/-! ## What happens to a station -/

/-- The ports that are bound on the host. -/
def ports (s : Station) : List UInt16 :=
  (s.line.medium.socket?.map (·.port)).toList ++
    s.members.filterMap fun m => m.part.udpSocket?.map (·.port)

/-- Something happens at the socket bound to a port. -/
def arriveAt (s : Station) (port : UInt16) (a : Arrival) : Station :=
  let atPort (socket : Option UdpSocket) : Bool := (socket.map (·.port)) == some port
  { s with
    line :=
      if atPort s.line.medium.socket? then { s.line with medium := s.line.medium.arrive a }
      else s.line
    members := s.members.map fun m =>
      if atPort m.part.udpSocket? then { m with part := m.part.arrive a } else m }

/-- The port that is meant: the one named if a socket is bound to it, or the lowest bound one if
none is named. -/
def boundPort? (s : Station) : Option UInt16 → Option UInt16
  | some port => if s.ports.contains port then some port else none
  | none => s.ports.min?

/-- Something happens at the socket bound to a port, or to the lowest bound port.  The answer is
whether there is one. -/
def arrive (s : Station) (port : Option UInt16) (a : Arrival) : Station × Bool :=
  match s.boundPort? port with
  | some bound => (s.arriveAt bound a, true)
  | none => (s, false)

/-- Changes the medium by hand. -/
def mapMedium (s : Station) (f : Medium → Medium) : Station :=
  { s with line := { s.line with medium := f s.line.medium } }

/-- Stops the dispatcher and closes the medium.  A station that has been stopped stays so. -/
def stop (s : Station) : Station :=
  if s.isStopped then s
  else
    { s with
      isStopped := true
      isPumped := false
      dispatcher := s.dispatcher.stop
      line := s.line.give .finish }

/-- Starts a dispatcher on a medium.  The medium has to open first. -/
def start (host : Host) (medium : Medium) (joined : List Ipv4) (refused : List String) :
    Except DispatchError Station :=
  let line := Line.ofMedium medium refused
  match line.verdict .start with
  | .error cause => .error (.medium cause)
  | .ok () =>
    .ok
      { host := host
        line := line.give .start
        dispatcher := .start
        isPumped := true
        isStopped := false
        members := []
        nextSerial := 1
        heard := []
        answers := []
        joined := joined }

end Station
end KnxBus
