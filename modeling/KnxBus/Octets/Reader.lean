import KnxBus.Octets
import KnxBus.Octets.Error

/-!
# Reading octets in order

A reader stands at a position in an octet string.  Each reading either takes the octets it asks for
and moves past them, or fails and leaves no reader behind: whoever wants to go on after a failure
goes on with the reader from before it, so a failed reading consumes nothing.

A reader keeps what it has not read yet and how many octets it has read.  No reading ever looks
behind the end, whatever length is asked for, because the only access is to the octets that are
left.
-/

namespace KnxBus

/-- A position in an octet string: the octets still to be read and the number of those already
read. -/
structure Reader where
  /-- How many octets have been read. -/
  position : Nat
  /-- The octets that have not been read. -/
  rest : Octets
  deriving DecidableEq, Repr

/-- A reading: takes octets from a reader, or fails. -/
abbrev Reading := StateT Reader (Except DecodeError)

namespace Reader

/-- A reader at the start of an octet string. -/
def ofOctets (b : Octets) : Reader := ⟨0, b⟩

/-- How many octets are left. -/
def left (r : Reader) : Nat := r.rest.length

/-- Whether everything has been read. -/
def isEmpty (r : Reader) : Bool := r.rest.isEmpty

/-- The next octet, without taking it. -/
def peek : Reading UInt8 := fun r =>
  match r.rest with
  | [] => .error .endOfInput
  | b :: _ => .ok (b, r)

/-- Takes the next octet. -/
def octet : Reading UInt8 := fun r =>
  match r.rest with
  | [] => .error .endOfInput
  | b :: rest => .ok (b, ⟨r.position + 1, rest⟩)

/-- Takes exactly `n` octets. -/
def exactly (n : Nat) : Reading Octets := fun r =>
  if r.rest.length < n then .error .endOfInput
  else .ok (r.rest.take n, ⟨r.position + n, r.rest.drop n⟩)

/-- Passes over `n` octets. -/
def skip (n : Nat) : Reading Unit := fun r =>
  if r.rest.length < n then .error .endOfInput
  else .ok ((), ⟨r.position + n, r.rest.drop n⟩)

/-- Takes everything that is left. -/
def remainder : Reading Octets := fun r =>
  .ok (r.rest, ⟨r.position + r.rest.length, []⟩)

/-- Takes a word, high octet first; both octets or none. -/
def word : Reading UInt16 := fun r =>
  match r.rest with
  | hi :: lo :: rest => .ok (Octets.word hi lo, ⟨r.position + 2, rest⟩)
  | _ => .error .endOfInput

/-- Fails with the given cause unless the condition holds. -/
def require (condition : Bool) (otherwise : DecodeError) : Reading Unit :=
  if condition then pure () else throw otherwise

/-- How many octets are left, as part of a reading. -/
def remaining : Reading Nat := do return (← get).left

/-- Runs a reading over a whole octet string and forgets where it ended. -/
def run {α : Type} (reading : Reading α) (b : Octets) : Except DecodeError α :=
  match reading (ofOctets b) with
  | .ok (a, _) => .ok a
  | .error e => .error e

end Reader
end KnxBus
