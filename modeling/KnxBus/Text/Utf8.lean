import KnxBus.Octets

/-!
# Text in octets

Text travels as UTF-8.  Octets from elsewhere need not be valid, and a name may have been cut in the
middle of a character; such octets are still shown, with a replacement character for each piece that
is no character.  A piece is as long as it can be: an octet that cannot follow what came before ends
the piece and is looked at afresh.

The reader is a machine that takes one octet at a time.  Between octets it either stands between
characters or owes some continuation octets; the first of these may be restricted to a part of the
usual range, which rules out overlong forms, surrogates and code points that are too large.
-/

namespace KnxBus
namespace Utf8

/-- The octets of a text. -/
def encode (s : String) : Octets := s.toList.flatMap String.utf8EncodeChar

/-- The character that stands for a piece that is none. -/
def replacement : Char := Char.ofNat 0xfffd

/-- An unfinished character. -/
structure Pending where
  /-- How many continuation octets are owed. -/
  owed : Nat
  /-- The least value that the next octet may have. -/
  low : Nat
  /-- The greatest value that the next octet may have. -/
  high : Nat
  /-- The code point bits read so far. -/
  bits : Nat
  deriving DecidableEq, Repr

/-- What the first octet of a character announces; `none` if no character starts with it. -/
def lead? (b : Nat) : Option Pending :=
  if b < 0xc2 then none
  else if b < 0xe0 then some ⟨1, 0x80, 0xbf, b % 32⟩
  else if b = 0xe0 then some ⟨2, 0xa0, 0xbf, 0⟩
  else if b = 0xed then some ⟨2, 0x80, 0x9f, 13⟩
  else if b < 0xf0 then some ⟨2, 0x80, 0xbf, b % 16⟩
  else if b = 0xf0 then some ⟨3, 0x90, 0xbf, 0⟩
  else if b < 0xf4 then some ⟨3, 0x80, 0xbf, b % 8⟩
  else if b = 0xf4 then some ⟨3, 0x80, 0x8f, 4⟩
  else none

/-- An octet between characters: what can be said at once, and what is owed. -/
def start (b : Nat) : List Char × Option Pending :=
  if b < 0x80 then ([Char.ofNat b], none)
  else
    match lead? b with
    | some p => ([], some p)
    | none => ([replacement], none)

/-- One octet: the characters that it completes or breaks off, and what is owed after it. -/
def step (pending : Option Pending) (b : Nat) : List Char × Option Pending :=
  match pending with
  | none => start b
  | some p =>
    if p.low ≤ b ∧ b ≤ p.high then
      let bits := p.bits * 64 + b % 64
      if p.owed ≤ 1 then ([Char.ofNat bits], none) else ([], some ⟨p.owed - 1, 0x80, 0xbf, bits⟩)
    else (replacement :: (start b).1, (start b).2)

/-- The characters of an octet string, from a given state of the machine on. -/
def decodeFrom : Option Pending → Octets → List Char
  | none, [] => []
  | some _, [] => [replacement]
  | pending, b :: rest =>
    (step pending b.toNat).1 ++ decodeFrom (step pending b.toNat).2 rest

/-- The text of an octet string, with a replacement character for each piece that is none. -/
def decode (b : Octets) : String := String.ofList (decodeFrom none b)

end Utf8
end KnxBus
