/-!
# Flags

Loops sleep until one of the flags they watch is raised.  There are sixty-four flags; the first
always means that the loop is to end, and every wait watches it.  Flags are levels, not events: a
flag stays up until somebody lowers it.

Waiting is a function of the flags and the time.  Nothing else happens while a single caller waits,
so a wait ends at once, or at its deadline, or never.
-/

namespace KnxBus

/-- One of sixty-four flags. -/
abbrev Flag := Fin 64

namespace Flag

/-- The flag with a given number; numbers wrap around. -/
def ofNat (n : Nat) : Flag := Fin.ofNat 64 n

/-- The flag that tells a loop to end. -/
def stop : Flag := 0

end Flag

/-- The flags that are up. -/
structure Flags where
  /-- One bit for each flag. -/
  bits : BitVec 64
  deriving DecidableEq, Repr

namespace Flags

/-- No flag is up. -/
def none : Flags := ⟨0⟩

/-- The bit of a flag. -/
def bit (f : Flag) : BitVec 64 := BitVec.twoPow 64 f.val

/-- Whether a flag is up. -/
def isRaised (s : Flags) (f : Flag) : Bool := s.bits.getLsbD f.val

/-- Raises a flag. -/
def raise (s : Flags) (f : Flag) : Flags := ⟨s.bits ||| bit f⟩

/-- Lowers a flag. -/
def lower (s : Flags) (f : Flag) : Flags := ⟨s.bits &&& ~~~ bit f⟩

/-- Whether the loop is told to end. -/
def isStopped (s : Flags) : Bool := s.isRaised .stop

/-- Whether no flag is up. -/
def isEmpty (s : Flags) : Bool := s.bits == 0

/-- The flags that are up, in ascending order. -/
def toList (s : Flags) : List Flag := (List.finRange 64).filter s.isRaised

/-- The flags that are up among those watched and the one that tells the loop to end. -/
def among (s : Flags) (watched : List Flag) : Flags :=
  ⟨s.bits &&& (watched.foldl (fun mask f => mask ||| bit f) (bit .stop))⟩

/-- What a wait without a deadline sees; `none` if it never ends. -/
def wait? (s : Flags) (watched : List Flag) : Option Flags :=
  let seen := s.among watched
  if seen.isEmpty then Option.none else some seen

/-- What a wait with a deadline sees, and when. -/
def waitUntil (s : Flags) (watched : List Flag) (deadline now : Nat) : Flags × Nat :=
  let seen := s.among watched
  if seen.isEmpty then (seen, max now deadline) else (seen, now)

end Flags

/-! ## Workers -/

/-- A loop that counts its turns: each time its flag is up it lowers it and counts, until it is told
to end. -/
structure Worker where
  /-- The name of the loop. -/
  name : String
  /-- The flag it watches. -/
  flag : Flag
  /-- The flags it sleeps on. -/
  flags : Flags
  /-- How many turns it has taken. -/
  turns : Nat
  /-- Whether it has ended. -/
  finished : Bool
  deriving DecidableEq, Repr

namespace Worker

/-- A loop that has just been started. -/
def start (name : String) (flag : Flag) : Worker := ⟨name, flag, .none, 0, false⟩

/-- Lets the loop run until it waits again.  One turn is enough, since its turn lowers the only flag
that could cause another. -/
def settle (w : Worker) : Worker :=
  if w.finished then w
  else
    match w.flags.wait? [w.flag] with
    | none => w
    | some seen =>
      if seen.isStopped then { w with finished := true }
      else { w with flags := w.flags.lower w.flag, turns := w.turns + 1 }

/-- Raises a flag and lets the loop run. -/
def raise (w : Worker) (f : Flag) : Worker := { w with flags := w.flags.raise f }.settle

end Worker
end KnxBus
