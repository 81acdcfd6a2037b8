import KnxBus.Octets
import KnxBus.Text.Blank

/-!
# Internet addresses

Gateways and routers are found at addresses of version 4, which is the only version that the
protocol can name inside its messages.  Addresses of version 6 occur as senders of datagrams, which
may then be told apart or refused.

## Literals

A version 4 literal is strict: four decimal numbers without zeros in front, nothing left out.  A
version 6 literal has eight groups of up to four hexadecimal digits; one run of zero groups may be
left out, and the last two groups may be written as a version 4 literal.
-/

namespace KnxBus

/-- An internet address of version 4. -/
structure Ipv4 where
  (a b c d : UInt8)
  deriving DecidableEq, Repr

namespace Ipv4

/-- The address that stands for any address of this host. -/
def unspecified : Ipv4 := ⟨0, 0, 0, 0⟩

/-- The address of this host within itself. -/
def localhost : Ipv4 := ⟨127, 0, 0, 1⟩

instance : Inhabited Ipv4 := ⟨unspecified⟩

/-- The octets in order. -/
def octets (ip : Ipv4) : Octets := [ip.a, ip.b, ip.c, ip.d]

/-- The dotted text. -/
def text (ip : Ipv4) : String := String.intercalate "." (ip.octets.map fun o => Number.text o.toNat)

/-- A part of a dotted literal: one to three digits without a zero in front, at most 255. -/
def readPart? (cs : List Char) : Option UInt8 :=
  if cs.length ≤ 3 ∧ (cs.length ≤ 1 ∨ cs.head? ≠ some '0') then
    match Number.digits? cs with
    | some n => if n < 256 then some (UInt8.ofNat n) else none
    | none => none
  else none

/-- Reads a dotted literal. -/
def parse? (cs : List Char) : Option Ipv4 :=
  match Blank.split '.' cs with
  | [a, b, c, d] =>
    match readPart? a, readPart? b, readPart? c, readPart? d with
    | some a, some b, some c, some d => some ⟨a, b, c, d⟩
    | _, _, _, _ => none
  | _ => none

end Ipv4

/-- An internet address of version 6, as its eight groups. -/
structure Ipv6 where
  groups : List UInt16
  deriving DecidableEq, Repr

namespace Ipv6

/-- The value of a hexadecimal digit. -/
def hexValue? (c : Char) : Option Nat :=
  if '0' ≤ c ∧ c ≤ '9' then some (c.toNat - 48)
  else if 'a' ≤ c ∧ c ≤ 'f' then some (c.toNat - 87)
  else if 'A' ≤ c ∧ c ≤ 'F' then some (c.toNat - 55)
  else none

/-- One to four hexadecimal digits. -/
def readGroup? (cs : List Char) : Option UInt16 :=
  if cs.isEmpty ∨ 4 < cs.length then none
  else
    match cs.mapM hexValue? with
    | some digits => some (UInt16.ofNat (digits.foldl (fun n d => 16 * n + d) 0))
    | none => none

/-- The groups between colons; only where `dotted` holds may the last be a version 4 literal, which
makes two groups. -/
def readGroups? (dotted : Bool) : List (List Char) → Option (List UInt16)
  | [] => some []
  | [last] =>
    match readGroup? last with
    | some g => some [g]
    | none =>
      if dotted then
        (Ipv4.parse? last).map fun ip => [Octets.word ip.a ip.b, Octets.word ip.c ip.d]
      else none
  | part :: parts =>
    match readGroup? part, readGroups? dotted parts with
    | some g, some gs => some (g :: gs)
    | _, _ => none

/-- The text up to a doubled colon and the text behind it, if there is one. -/
def splitGap? : List Char → Option (List Char × List Char)
  | ':' :: ':' :: rest => some ([], rest)
  | c :: rest => (splitGap? rest).map fun (before, behind) => (c :: before, behind)
  | [] => none

/-- The groups in a text; an empty text has none. -/
def groupsIn? (dotted : Bool) (cs : List Char) : Option (List UInt16) :=
  if cs.isEmpty then some [] else readGroups? dotted (Blank.split ':' cs)

/-- Reads a literal. -/
def parse? (cs : List Char) : Option Ipv6 :=
  match splitGap? cs with
  | none =>
    match groupsIn? true cs with
    | some gs => if gs.length = 8 then some ⟨gs⟩ else none
    | none => none
  | some (before, behind) =>
    match groupsIn? false before, groupsIn? true behind with
    | some front, some back =>
      if front.length + back.length ≤ 7 then
        some ⟨front ++ List.replicate (8 - front.length - back.length) 0 ++ back⟩
      else none
    | _, _ => none

end Ipv6
end KnxBus
