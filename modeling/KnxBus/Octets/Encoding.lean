import KnxBus.Octets.Writer

/-!
# What an encoder does, as data

An encoder writes a few octets at a time and may come upon a value that it cannot write.  What it
does with a given value does not depend on the buffer: it is a list of *pieces*, each written whole
or not at all, and possibly a *refusal* that stands after them.  Keeping this as data has two uses.
Every encoder of the library is one short expression, and the behaviour on a buffer that is too
small, which every encoder shares, is stated and proved once, for `Encoding.writeTo`.

Pieces matter because a buffer may end in the middle of a unit: the pieces before the end have been
written, the first that does not fit has not.
-/

namespace KnxBus

/-- The pieces that an encoder writes, in order, and why it stops after them, if it does not
succeed. -/
structure Encoding where
  /-- The pieces, each written whole or not at all. -/
  pieces : List Octets
  /-- Why the encoder gives up after the last piece; `none` if it succeeds. -/
  refusal : Option EncodeError
  deriving DecidableEq, Repr

namespace Encoding

/-- Nothing to write. -/
def empty : Encoding := ⟨[], none⟩

/-- One piece. -/
def octets (b : Octets) : Encoding := ⟨[b], none⟩

/-- A piece of one octet. -/
def octet (b : UInt8) : Encoding := octets [b]

/-- A word as one piece, high octet first. -/
def word (w : UInt16) : Encoding := octets (Octets.ofWord w)

/-- Gives up. -/
def refuse (e : EncodeError) : Encoding := ⟨[], some e⟩

/-- Gives up unless the condition holds. -/
def require (condition : Bool) (otherwise : EncodeError) : Encoding :=
  if condition then empty else refuse otherwise

/-- One encoder after another; the second does nothing once the first has given up. -/
def andThen (a b : Encoding) : Encoding :=
  match a.refusal with
  | none => ⟨a.pieces ++ b.pieces, b.refusal⟩
  | some e => ⟨a.pieces, some e⟩

instance : Append Encoding := ⟨andThen⟩

/-- All octets of the pieces, in order. -/
def content (e : Encoding) : Octets := e.pieces.flatten

/-- The encoder followed by the check octet over everything that it has written. -/
def withCheckOctet (e : Encoding) : Encoding := e ++ octet (Octets.checkOctet e.content)

/-- Writes pieces until one does not fit. -/
def putAll : List Octets → Writer → Writer × Except EncodeError Unit
  | [], w => (w, .ok ())
  | piece :: pieces, w =>
    match w.put piece with
    | .ok w' => putAll pieces w'
    | .error e => (w, .error e)

/-- Runs an encoder on a buffer.  What was written before a failure stays written. -/
def writeTo (e : Encoding) (w : Writer) : Writer × Except EncodeError Unit :=
  match putAll e.pieces w with
  | (w', .ok ()) =>
    match e.refusal with
    | none => (w', .ok ())
    | some cause => (w', .error cause)
  | failed => failed

/-- Runs an encoder on a fresh buffer of the given capacity and returns what it wrote. -/
def toOctets (e : Encoding) (capacity : Nat) : Except EncodeError Octets :=
  match e.writeTo (Writer.ofCapacity capacity) with
  | (w, .ok ()) => .ok w.written
  | (_, .error cause) => .error cause

end Encoding
end KnxBus
