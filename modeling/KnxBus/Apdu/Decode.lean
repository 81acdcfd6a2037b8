import KnxBus.Apdu
import KnxBus.Octets.Error

/-!
# Decoding application layer units

The two low bits of the first octet and the two high bits of the second select one of sixteen
families of services.  Two families are subdivided by the whole second octet: those of user memory
and those of device management.

A service has either a fixed length or a fixed head with data behind it.  A unit of fixed length
that is too long or too short has a wrong length; a unit whose head is not complete has ended too
early, and one whose data do not have the announced length has a wrong length.  Bit patterns that
select no service are no error: they decode to `Apdu.unknown`.

Every branch is a match on the octets behind the first two, so that the length check and the access
to the octets cannot fall apart.
-/

namespace KnxBus
namespace Apdu

/-- A group value: six bits of the second octet when nothing follows it, else what follows. -/
def groupValueOf (second : UInt8) : Octets → GroupValue
  | [] => .small (second &&& 0x3f)
  | data => .long data

/-- A memory address followed by as many octets as announced. -/
def countedMemory (declared : Nat) (unit : UInt16 → Octets → Apdu) :
    Octets → Except DecodeError Apdu
  | hi :: lo :: data =>
    if data.length = declared then .ok (unit (Octets.word hi lo) data) else .error .invalidLength
  | _ => .error .endOfInput

/-- Number of octets, memory address, then two masks of that many octets each. -/
def bitMasks (unit : UInt16 → Octets → Octets → Apdu) : Octets → Except DecodeError Apdu
  | count :: hi :: lo :: masks =>
    if masks.length = count.toNat * 2 then
      .ok (unit (Octets.word hi lo) (masks.take count.toNat) (masks.drop count.toNat))
    else .error .invalidLength
  | _ => .error .endOfInput

/-- The element range in its four octets: object, property, then four bits of count and twelve bits
of start. -/
def rangeOf (object property hi lo : UInt8) : PropertyRange :=
  { object := object
    property := property
    count := hi >>> 4
    start := Octets.word (hi &&& 0x0f) lo }

/-- The element range with data behind it. -/
def rangeWithData (unit : PropertyRange → Octets → Apdu) : Octets → Except DecodeError Apdu
  | object :: property :: hi :: lo :: data => .ok (unit (rangeOf object property hi lo) data)
  | _ => .error .endOfInput

/-- The services on user memory, selected by the whole second octet. -/
def decodeUser (first second : UInt8) (rest : Octets) : Except DecodeError Apdu :=
  match second with
  | 0xc0 =>
    match rest with
    | [packed, hi, lo] =>
      .ok (.userMemoryRead (packed >>> 4) (packed &&& 0x0f) (Octets.word hi lo))
    | _ => .error .invalidLength
  | 0xc1 =>
    match rest with
    | packed :: memory =>
      countedMemory (packed &&& 0x0f).toNat (.userMemoryResponse (packed >>> 4)) memory
    | [] => .error .endOfInput
  | 0xc2 =>
    match rest with
    | packed :: memory =>
      countedMemory (packed &&& 0x0f).toNat (.userMemoryWrite (packed >>> 4)) memory
    | [] => .error .endOfInput
  | 0xc4 => bitMasks .userMemoryBitWrite rest
  | 0xc5 =>
    match rest with
    | [] => .ok .userManufacturerInfoRead
    | _ => .error .invalidLength
  | 0xc6 =>
    match rest with
    | [manufacturer, hi, lo] =>
      .ok (.userManufacturerInfoResponse manufacturer (Octets.word hi lo))
    | _ => .error .invalidLength
  | _ => .ok (.unknown (first :: second :: rest))

/-- The services of device management, selected by the whole second octet. -/
def decodeManagement (first second : UInt8) (rest : Octets) : Except DecodeError Apdu :=
  match second with
  | 0xd0 => bitMasks .memoryBitWrite rest
  | 0xd1 =>
    match rest with
    | [_, a, b, c, d] => .ok (.authorizeRequest ⟨a, b, c, d⟩)
    | _ => .error .invalidLength
  | 0xd2 =>
    match rest with
    | [level] => .ok (.authorizeResponse level)
    | _ => .error .invalidLength
  | 0xd3 =>
    match rest with
    | [level, a, b, c, d] => .ok (.keyWrite level ⟨a, b, c, d⟩)
    | _ => .error .invalidLength
  | 0xd4 =>
    match rest with
    | [level] => .ok (.keyResponse level)
    | _ => .error .invalidLength
  | 0xd5 =>
    match rest with
    | [object, property, hi, lo] => .ok (.propertyValueRead (rangeOf object property hi lo))
    | _ => .error .invalidLength
  | 0xd6 => rangeWithData .propertyValueResponse rest
  | 0xd7 => rangeWithData .propertyValueWrite rest
  | 0xd8 =>
    match rest with
    | [object, property, index] => .ok (.propertyDescriptionRead object property index)
    | _ => .error .invalidLength
  | 0xd9 =>
    match rest with
    | [object, property, index, propertyType, hi, lo, access] =>
      .ok (.propertyDescriptionResponse object property index propertyType (Octets.word hi lo)
        access)
    | _ => .error .invalidLength
  | 0xdc =>
    match rest with
    | [a, b, c, d, e, f] => .ok (.serialNumberRead ⟨a, b, c, d, e, f⟩)
    | _ => .error .invalidLength
  | 0xdd =>
    match rest with
    | [a, b, c, d, e, f, hi, lo, _, _] =>
      .ok (.serialNumberResponse ⟨a, b, c, d, e, f⟩ ⟨Octets.word hi lo⟩)
    | _ => .error .invalidLength
  | 0xde =>
    match rest with
    | [a, b, c, d, e, f, hi, lo, _, _, _, _] =>
      .ok (.serialNumberWrite ⟨a, b, c, d, e, f⟩ ⟨Octets.word hi lo⟩)
    | _ => .error .invalidLength
  | 0xdf =>
    match rest with
    | [info, _, _] =>
      .ok (.serviceInformation (info &&& 0x04 != 0) (info &&& 0x02 != 0) (info &&& 0x01 != 0))
    | _ => .error .invalidLength
  | 0xe0 =>
    match rest with
    | [hi, lo] => .ok (.domainAddressWrite (Octets.word hi lo))
    | _ => .error .invalidLength
  | 0xe1 =>
    match rest with
    | [] => .ok .domainAddressRead
    | _ => .error .invalidLength
  | 0xe2 =>
    match rest with
    | [hi, lo] => .ok (.domainAddressResponse (Octets.word hi lo))
    | _ => .error .invalidLength
  | 0xe3 =>
    match rest with
    | [domainHi, domainLo, hi, lo, range] =>
      .ok (.domainAddressSelectiveRead (Octets.word domainHi domainLo) ⟨Octets.word hi lo⟩ range)
    | _ => .error .invalidLength
  | _ => .ok (.unknown (first :: second :: rest))

/-- Decodes the octets behind the first two, once the family of services is known. -/
def decodeFamily (first second : UInt8) (rest : Octets) : Except DecodeError Apdu :=
  match first &&& 0x03, second &&& 0xc0 with
  | 0, 0x00 =>
    match rest with
    | [] => .ok .groupValueRead
    | _ => .error .invalidLength
  | 0, 0x40 => .ok (.groupValueResponse (groupValueOf second rest))
  | 0, 0x80 => .ok (.groupValueWrite (groupValueOf second rest))
  | 0, _ =>
    match rest with
    | [hi, lo] => .ok (.individualAddressWrite ⟨Octets.word hi lo⟩)
    | _ => .error .invalidLength
  | 1, 0x00 =>
    match rest with
    | [] => .ok .individualAddressRead
    | _ => .error .invalidLength
  | 1, 0x40 =>
    match rest with
    | [] => .ok .individualAddressResponse
    | _ => .error .invalidLength
  | 1, 0x80 =>
    match rest with
    | [count] => .ok (.adcRead (second &&& 0x3f) count)
    | _ => .error .invalidLength
  | 1, _ =>
    match rest with
    | [count, hi, lo] => .ok (.adcResponse (second &&& 0x3f) count (Octets.word hi lo))
    | _ => .error .invalidLength
  | 2, 0x00 =>
    match rest with
    | [hi, lo] => .ok (.memoryRead (second &&& 0x0f) (Octets.word hi lo))
    | _ => .error .invalidLength
  | 2, 0x40 => countedMemory (second &&& 0x0f).toNat .memoryResponse rest
  | 2, 0x80 => countedMemory (second &&& 0x0f).toNat .memoryWrite rest
  | 2, _ => decodeUser first second rest
  | _, 0x00 =>
    match rest with
    | [] => .ok (.deviceDescriptorRead (second &&& 0x3f))
    | _ => .error .invalidLength
  | _, 0x40 =>
    match rest with
    | [hi, lo] => .ok (.deviceDescriptorResponse (second &&& 0x3f) (Octets.word hi lo))
    | _ => .error .invalidLength
  | _, 0x80 =>
    match rest with
    | [] => .ok .restart
    | _ => .error .invalidLength
  | _, _ => decodeManagement first second rest

/-- Decodes a unit of the application layer. -/
def decode : Octets → Except DecodeError Apdu
  | first :: second :: rest => decodeFamily first second rest
  | _ => .error .endOfInput

/-- Decodes a unit and keeps what is malformed as `Apdu.unknown`. -/
def decodeLossy (b : Octets) : Apdu :=
  match decode b with
  | .ok unit => unit
  | .error _ => .unknown b

end Apdu
end KnxBus
