import KnxBus.Octets
import KnxBus.Octets.Error

/-!
# Writing octets into a bounded buffer

A writer holds what has been written into a buffer of a fixed capacity.  A write that does not fit
fails as a whole: there is no writer for the failed attempt, so nothing of it can be seen later.
That the buffer never overflows is part of the type.
-/

namespace KnxBus

/-- A buffer of a fixed capacity and the octets written into it so far. -/
structure Writer where
  /-- How many octets the buffer holds. -/
  capacity : Nat
  /-- The octets written so far. -/
  written : Octets
  /-- The buffer is never overfull. -/
  fits : written.length ≤ capacity
  deriving DecidableEq, Repr

namespace Writer

/-- An empty buffer. -/
def ofCapacity (capacity : Nat) : Writer := ⟨capacity, [], Nat.zero_le _⟩

/-- How many octets have been written. -/
def position (w : Writer) : Nat := w.written.length

/-- How many octets still fit. -/
def remaining (w : Writer) : Nat := w.capacity - w.written.length

/-- Writes an octet string, whole or not at all. -/
def put (w : Writer) (b : Octets) : Except EncodeError Writer :=
  if h : (w.written ++ b).length ≤ w.capacity then .ok ⟨w.capacity, w.written ++ b, h⟩
  else .error .bufferTooSmall

/-- Writes one octet. -/
def octet (w : Writer) (b : UInt8) : Except EncodeError Writer := w.put [b]

/-- Writes a word, high octet first. -/
def word (w : Writer) (v : UInt16) : Except EncodeError Writer := w.put (Octets.ofWord v)

/-- Writes the check octet over everything written so far. -/
def checkOctet (w : Writer) : Except EncodeError Writer := w.octet (Octets.checkOctet w.written)

end Writer
end KnxBus
