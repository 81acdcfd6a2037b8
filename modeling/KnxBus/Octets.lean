import KnxBus.Text.Number

/-!
# Octet strings

Everything that travels on the bus or over IP is a string of octets.  Words of sixteen bits stand
high octet first.  The helpers are stated over natural numbers rather than over shifts, so that the
round trip between a word and its two octets is a fact of division with remainder.

Two further things are functions of an octet string alone: the check octet that ends a frame on the
twisted pair, and the hexadecimal dump in which frames are shown to people.
-/

namespace KnxBus

/-- A string of octets as it stands on the wire. -/
abbrev Octets := List UInt8

namespace Octets

/-- The two octets of a word, the high one first. -/
def ofWord (w : UInt16) : Octets := [UInt8.ofNat (w.toNat / 256), UInt8.ofNat (w.toNat % 256)]

/-- The word made of a high and a low octet. -/
def word (hi lo : UInt8) : UInt16 := UInt16.ofNat (hi.toNat * 256 + lo.toNat)

@[simp] theorem length_ofWord (w : UInt16) : (ofWord w).length = 2 := rfl

/-- The check octet of a frame: the complement of the exclusive or over all octets before it. -/
def checkOctet (b : Octets) : UInt8 := ~~~ (b.foldl (· ^^^ ·) 0)

/-- One octet as two upper-case hexadecimal digits. -/
def hexOctet (b : UInt8) : String := Number.hexPadded 2 b.toNat

/-- The hexadecimal dump of an octet string: two upper-case digits for each octet, with a space
between neighbours. -/
def dump (b : Octets) : String := String.intercalate " " (b.map hexOctet)

end Octets
end KnxBus
