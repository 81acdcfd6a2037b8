import KnxBus.Text.Number
import KnxBus.Text.Blank

/-!
# Addresses

A device has an individual address `area.line.device` of four, four and eight bits; a logical
function of the installation has a group address `main/middle/sub` of five, three and eight bits.
Both are sixteen-bit words on the wire.  The parts are read off the word by division with
remainder, and putting three parts together keeps of each only the bits it has room for.

The word zero is special on both sides.  As an individual address it stands for a source that is
still to be filled in, or for "this device"; as a group address it is the broadcast destination,
and in subscriptions it stands for every group.

## Text

Reading an address takes blanks around it, splits at the separator and wants exactly three numbers
within their ranges.  Writing gives the canonical text, without zeros in front and without signs.
-/

namespace KnxBus

/-- The address of a device, `area.line.device`. -/
structure IndividualAddress where
  /-- The sixteen bits on the wire. -/
  raw : UInt16
  deriving DecidableEq, Repr

namespace IndividualAddress

/-- The address that stands for no device in particular. -/
def unset : IndividualAddress := ⟨0⟩

instance : Inhabited IndividualAddress := ⟨unset⟩

/-- The address with the given parts; of area and line only the low four bits count. -/
def ofParts (area line device : UInt8) : IndividualAddress :=
  ⟨UInt16.ofNat (area.toNat % 16 * 4096 + line.toNat % 16 * 256 + device.toNat)⟩

/-- Whether this is the address of no device. -/
def isUnset (a : IndividualAddress) : Bool := a.raw == 0

/-- The area, the top four bits. -/
def area (a : IndividualAddress) : Nat := a.raw.toNat / 4096

/-- The line within the area, four bits. -/
def line (a : IndividualAddress) : Nat := a.raw.toNat / 256 % 16

/-- The device on the line, eight bits. -/
def device (a : IndividualAddress) : Nat := a.raw.toNat % 256

/-- The canonical text of an address, as characters. -/
def chars (a : IndividualAddress) : List Char :=
  Number.decimal a.area ++ '.' :: (Number.decimal a.line ++ '.' :: Number.decimal a.device)

/-- The canonical text of an address, `1.1.15`. -/
def text (a : IndividualAddress) : String := String.ofList a.chars

end IndividualAddress

/-- The address of a group, `main/middle/sub`. -/
structure GroupAddress where
  /-- The sixteen bits on the wire. -/
  raw : UInt16
  deriving DecidableEq, Repr

namespace GroupAddress

/-- The address of every device at once. -/
def broadcast : GroupAddress := ⟨0⟩

instance : Inhabited GroupAddress := ⟨broadcast⟩

/-- The address with the given parts; of the main group only the low five bits count, of the middle
group the low three. -/
def ofParts (main middle sub : UInt8) : GroupAddress :=
  ⟨UInt16.ofNat (main.toNat % 32 * 2048 + middle.toNat % 8 * 256 + sub.toNat)⟩

/-- Whether this is the broadcast address. -/
def isBroadcast (g : GroupAddress) : Bool := g.raw == 0

/-- The main group, the top five bits. -/
def mainGroup (g : GroupAddress) : Nat := g.raw.toNat / 2048

/-- The middle group, three bits. -/
def middleGroup (g : GroupAddress) : Nat := g.raw.toNat / 256 % 8

/-- The sub group, eight bits. -/
def subGroup (g : GroupAddress) : Nat := g.raw.toNat % 256

/-- The canonical text of an address, as characters. -/
def chars (g : GroupAddress) : List Char :=
  Number.decimal g.mainGroup ++
    '/' :: (Number.decimal g.middleGroup ++ '/' :: Number.decimal g.subGroup)

/-- The canonical text of an address, `1/2/3`. -/
def text (g : GroupAddress) : String := String.ofList g.chars

end GroupAddress

/-- Where a frame goes.  The choice is one bit of the frame. -/
inductive Destination where
  /-- To one device. -/
  | individual (address : IndividualAddress)
  /-- To all members of a group. -/
  | group (address : GroupAddress)
  deriving DecidableEq, Repr

namespace Destination

instance : Inhabited Destination := ⟨.individual .unset⟩

/-- The sixteen address bits. -/
def raw : Destination → UInt16
  | .individual a => a.raw
  | .group g => g.raw

/-- The address-type bit. -/
def isGroup : Destination → Bool
  | .individual _ => false
  | .group _ => true

/-- The destination with the given address bits and address type. -/
def ofRaw (raw : UInt16) (group : Bool) : Destination :=
  if group then .group ⟨raw⟩ else .individual ⟨raw⟩

/-- The text of the address. -/
def text : Destination → String
  | .individual a => a.text
  | .group g => g.text

end Destination

/-! ## Reading addresses -/

/-- A text that is no address. -/
inductive AddressError where
  | malformed
  deriving DecidableEq, Repr

/-- The sentence that names the cause. -/
def AddressError.message : AddressError → String
  | .malformed => "malformed EIB address"

/-- Reads three numbers between separators, each within its own limit.  Blanks around the whole
text are ignored, blanks inside are not. -/
def readTriple? (sep : Char) (first second third : Nat) (cs : List Char) :
    Option (Nat × Nat × Nat) :=
  match Blank.split sep (Blank.trim cs) with
  | [a, b, c] =>
    match Number.readUpTo? first a, Number.readUpTo? second b, Number.readUpTo? third c with
    | some x, some y, some z => some (x, y, z)
    | _, _, _ => none
  | _ => none

/-- Reads `area.line.device`. -/
def IndividualAddress.parse (s : String) : Except AddressError IndividualAddress :=
  match readTriple? '.' 15 15 255 s.toList with
  | some (a, l, d) => .ok (.ofParts (UInt8.ofNat a) (UInt8.ofNat l) (UInt8.ofNat d))
  | none => .error .malformed

/-- Reads `main/middle/sub`. -/
def GroupAddress.parse (s : String) : Except AddressError GroupAddress :=
  match readTriple? '/' 31 7 255 s.toList with
  | some (m, n, t) => .ok (.ofParts (UInt8.ofNat m) (UInt8.ofNat n) (UInt8.ofNat t))
  | none => .error .malformed

end KnxBus
