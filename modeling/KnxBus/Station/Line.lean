import KnxBus.Dispatch.Error
import KnxBus.Dispatch.Registry
import KnxBus.Medium

/-!
# The line of a station

The line is the medium as a station sees it: every command and every frame that is given to it is
recorded, and it can be made to refuse commands, or frames, by their names.  What it is made to
refuse it refuses before the medium learns of it.
-/

namespace KnxBus

/-- A medium whose use is recorded. -/
structure Line where
  /-- The medium. -/
  medium : Medium
  /-- The names of what is refused. -/
  refused : List String
  /-- The commands that were given, refused ones included, oldest first. -/
  commands : List Command
  /-- The frames that reached the medium, oldest first. -/
  frames : List Frame
  /-- What has left the host, oldest first. -/
  sent : List Medium.Datagram
  deriving DecidableEq, Repr

namespace Line

/-- A line on which nothing has happened. -/
def ofMedium (medium : Medium) (refused : List String) : Line := ⟨medium, refused, [], [], []⟩

/-- Forgets what was recorded. -/
def forget (l : Line) : Line := { l with commands := [], frames := [], sent := [] }

/-- The name under which frames are refused. -/
def sendName : String := "send"

/-- What the line says to a command. -/
def verdict (l : Line) : Verdict := fun c =>
  if l.refused.contains c.name then .error .notConnected else l.medium.verdict c

/-- Gives a command. -/
def give (l : Line) (c : Command) : Line :=
  let medium := match l.verdict c with
    | .ok () => l.medium.obey c
    | .error _ => l.medium
  { l with medium := medium, commands := l.commands ++ [c] }

/-- Gives commands one after the other. -/
def giveAll (l : Line) (cs : List Command) : Line := cs.foldl give l

/-- What the line says to a frame. -/
def accepts (l : Line) (frame : Frame) : Except LinkError Unit :=
  if l.refused.contains sendName then .error .notConnected
  else
    match l.medium.send frame with
    | .ok _ => .ok ()
    | .error e => .error e

/-- Sends a frame. -/
def send (l : Line) (frame : Frame) : Line :=
  if l.refused.contains sendName then l
  else
    let tried := { l with frames := l.frames ++ [frame] }
    match l.medium.send frame with
    | .ok (medium, out) => { tried with medium := medium, sent := l.sent ++ out }
    | .error _ => tried

/-- Lets datagrams leave the host. -/
def emit (l : Line) (out : List Outgoing) : Line :=
  { l with sent := l.sent ++ Outgoing.datagrams out }

/-- Takes in what has arrived at the socket of the medium. -/
def pump (l : Line) (now : Nat) : Line := { l with medium := l.medium.pump now }

/-- One turn of the loop inside the medium, if one is due. -/
def turn (l : Line) (now : Nat) : Line :=
  if l.medium.isDue now then
    let (medium, out) := l.medium.turn now
    { l with medium := medium }.emit out
  else l

end Line
end KnxBus
