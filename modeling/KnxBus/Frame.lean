import KnxBus.Tpdu

/-!
# Data frames

A data frame carries a transport layer unit from one device to another or to a group.  It is the
unit in which all parts of the library deal.  Two of its fields say nothing about the frame itself
but about the octets it was decoded from: whether their check octet agreed, and whether the length
field did.  A frame that was built here has both set.

## On the wire

There are two formats.  The standard format packs address type, hop count and a four-bit length into
one octet and holds up to sixteen octets of payload; the extended format has a length octet of its
own and holds up to 255.  The length fields count one less than there is, because a frame without
payload does not exist.  Both formats end in a check octet over all octets before it.

A frame that is cut off or has octets too many is still decoded if at least its header, one octet of
payload and the check octet are there; the disagreement is recorded in the frame.
-/

namespace KnxBus

/-- The priority of a frame on the bus. -/
inductive Priority where
  | system
  | normal
  | urgent
  | low
  deriving DecidableEq, Repr

namespace Priority

/-- The priority in the two low bits of an octet. -/
def ofBits (bits : UInt8) : Priority :=
  match bits.toNat % 4 with
  | 0 => system
  | 1 => normal
  | 2 => urgent
  | _ => low

/-- The two bits of a priority. -/
def bits : Priority → UInt8
  | system => 0
  | normal => 1
  | urgent => 2
  | low => 3

/-- The priority in words. -/
def text : Priority → String
  | system => "system"
  | normal => "normal"
  | urgent => "urgent"
  | low => "low"

end Priority

/-- A data frame. -/
structure Frame where
  /-- The priority on the bus. -/
  priority : Priority
  /-- Whether the frame repeats one that was not acknowledged. -/
  repeated : Bool
  /-- The sender; unset until somebody fills it in. -/
  source : IndividualAddress
  /-- The receiver or receivers. -/
  destination : Destination
  /-- How many couplers the frame may still pass, three bits on the wire. -/
  hopCount : UInt8
  /-- The transport layer unit. -/
  payload : Octets
  /-- Whether the check octet agreed. -/
  validCheck : Bool
  /-- Whether the length field agreed. -/
  validLength : Bool
  deriving DecidableEq, Repr

namespace Frame

/-- A frame as it is sent by default: low priority, six hops, source to be filled in. -/
def addressed (destination : Destination) (payload : Octets) : Frame :=
  { priority := .low
    repeated := false
    source := .unset
    destination := destination
    hopCount := 6
    payload := payload
    validCheck := true
    validLength := true }

/-- The largest payload of the standard format. -/
def maxStandardPayload : Nat := 16

/-- The largest payload of any frame. -/
def maxPayload : Nat := 255

/-- Whether the payload fits the standard format. -/
def isStandard (f : Frame) : Bool := f.payload.length ≤ maxStandardPayload

/-- How many octets a frame has on the wire. -/
def encodedLength (f : Frame) : Nat :=
  if f.isStandard then f.payload.length + 7 else f.payload.length + 8

/-! ## Encoding -/

/-- The bits of the first octet that both formats and both framings share: a one that marks a data
frame, the repeat flag, which is inverted, and the priority. -/
def controlBits (f : Frame) : UInt8 :=
  (if f.repeated then (0x10 : UInt8) else 0x30) ||| (f.priority.bits <<< 2)

/-- Address type and hop count, the high half of an octet. -/
def routingBits (f : Frame) : UInt8 :=
  (if f.destination.isGroup then (0x80 : UInt8) else 0x00) ||| (f.hopCount <<< 4)

/-- The length field: one less than the number of octets in the payload. -/
def lengthField (f : Frame) : UInt8 := UInt8.ofNat (f.payload.length - 1)

/-- The header in the standard format. -/
def standardHeader (f : Frame) : Encoding :=
  .octet (0x80 ||| f.controlBits) ++ .word f.source.raw ++ .word f.destination.raw ++
    .octet (f.routingBits ||| f.lengthField)

/-- The header in the extended format. -/
def extendedHeader (f : Frame) : Encoding :=
  .octet f.controlBits ++ .octet f.routingBits ++ .word f.source.raw ++
    .word f.destination.raw ++ .octet f.lengthField

/-- How a frame is written: the format follows from the length of the payload. -/
def encode (f : Frame) : Encoding :=
  .require (0 < f.payload.length && f.payload.length ≤ maxPayload) .invalidLength ++
    .require (f.hopCount ≤ 7) .valueOutOfRange ++
    ((if f.isStandard then f.standardHeader else f.extendedHeader) ++
      .octets f.payload).withCheckOctet

/-- The octets of a frame, or why it has none. -/
def toOctets (f : Frame) : Except EncodeError Octets := f.encode.toOctets f.encodedLength

/-! ## Decoding -/

/-- Builds the frame once its header has been taken apart.  `body` is what follows the header: at
least one octet of payload and the check octet.  Of the payload no more is taken than the header
declares and no more than is there. -/
def ofHeader? (whole : Octets) (control routing : UInt8) (source destination : UInt16)
    (declared : Nat) (body : Octets) : Option Frame :=
  if body.length < 2 then none
  else
    let available := body.length - 1
    some
      { priority := .ofBits (control >>> 2)
        repeated := control &&& 0x20 == 0
        source := ⟨source⟩
        destination := .ofRaw destination (routing &&& 0x80 != 0)
        hopCount := (routing >>> 4) &&& 0x07
        payload := body.take (min declared available)
        validCheck := Octets.checkOctet whole.dropLast == whole.getLastD 0
        validLength := declared == available }

/-- Decodes a frame.  The highest bit of the first octet selects the format; the extended format
must have the low half of its second octet clear. -/
def decode? (whole : Octets) : Option Frame :=
  match whole with
  | [] => none
  | control :: rest =>
    if control &&& 0x80 != 0 then
      match rest with
      | sh :: sl :: dh :: dl :: routing :: body =>
        ofHeader? whole control routing (Octets.word sh sl) (Octets.word dh dl)
          ((routing &&& 0x0f).toNat + 1) body
      | _ => none
    else
      match rest with
      | routing :: sh :: sl :: dh :: dl :: length :: body =>
        if routing &&& 0x0f != 0 then none
        else
          ofHeader? whole control routing (Octets.word sh sl) (Octets.word dh dl)
            (length.toNat + 1) body
      | _ => none

/-! ## Words -/

/-- A frame in words. -/
def text (f : Frame) : String :=
  "L_Data" ++ (if f.validLength then "" else " (incomplete)") ++
    (if f.repeated then " (repeated)" else "") ++ " " ++ f.priority.text ++
    (if f.validCheck then "" else " INVALID CHECKSUM") ++ " from " ++ f.source.text ++
    " to " ++ f.destination.text ++ " hops: " ++ Number.hexPadded 2 f.hopCount.toNat ++ " " ++
    (match Tpdu.decode f.payload with
      | .ok unit => unit.text
      | .error _ => Octets.dump f.payload)

end Frame
end KnxBus
