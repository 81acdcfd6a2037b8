/-!
# Numbers in text

Descriptions of bus traffic write numbers in three shapes: plain decimal, decimal filled up with
zeros to a fixed width, and upper-case hexadecimal filled up with zeros.  Addresses and ports are
read from text by one rule: an optional plus sign, then one or more ASCII digits, leading zeros
welcome.  Both directions live here, on lists of characters, so that a statement about reading
what was written never has to look inside `String`.
-/

namespace KnxBus
namespace Number

/-- The decimal digits of a number, most significant first. -/
def decimal (n : Nat) : List Char := Nat.toDigits 10 n

/-- The upper-case hexadecimal digits of a number, most significant first. -/
def hex (n : Nat) : List Char := (Nat.toDigits 16 n).map Char.toUpper

/-- Digits filled up on the left with zeros.  A number that is already wider keeps all of its
digits. -/
def pad (width : Nat) (digits : List Char) : List Char :=
  List.replicate (width - digits.length) '0' ++ digits

/-- Decimal text of a number. -/
def text (n : Nat) : String := String.ofList (decimal n)

/-- Decimal text with at least `width` digits. -/
def padded (width n : Nat) : String := String.ofList (pad width (decimal n))

/-- Upper-case hexadecimal text with at least `width` digits. -/
def hexPadded (width n : Nat) : String := String.ofList (pad width (hex n))

/-- The value of an ASCII digit. -/
def digitValue? (c : Char) : Option Nat :=
  if '0' ≤ c ∧ c ≤ '9' then some (c.toNat - 48) else none

/-- The value of a run of ASCII digits that continues the number `acc`; `none` as soon as a
character is no digit. -/
def digitsFrom? (acc : Nat) : List Char → Option Nat
  | [] => some acc
  | c :: rest =>
    match digitValue? c with
    | some d => digitsFrom? (10 * acc + d) rest
    | none => none

/-- One or more ASCII digits. -/
def digits? : List Char → Option Nat
  | [] => none
  | c :: rest => digitsFrom? 0 (c :: rest)

/-- Reads a number: one leading plus sign is allowed, then at least one digit must follow and
nothing else.  Zeros in front do not matter. -/
def read? : List Char → Option Nat
  | '+' :: rest => digits? rest
  | cs => digits? cs

/-- Reads a number that may not exceed `limit`. -/
def readUpTo? (limit : Nat) (cs : List Char) : Option Nat :=
  match read? cs with
  | some n => if n ≤ limit then some n else none
  | none => none

end Number
end KnxBus
