import KnxBus.Apdu
import KnxBus.Octets.Encoding

/-!
# Encoding application layer units

The first two octets, the head, are written one after the other; a field that shares an octet with
the head is checked before the head is written, every other field is checked when its turn comes.
The order shows when a value is out of range and somebody looks at what has been written by then.
-/

namespace KnxBus
namespace Apdu

/-- How many octets a unit has on the wire. -/
def encodedLength : Apdu → Nat
  | groupValueResponse (.long data) | groupValueWrite (.long data) => 2 + data.length
  | memoryResponse _ data | memoryWrite _ data => 4 + data.length
  | userMemoryResponse _ _ data | userMemoryWrite _ _ data => 5 + data.length
  | userMemoryBitWrite _ andMask _ | memoryBitWrite _ andMask _ => 5 + 2 * andMask.length
  | propertyValueResponse _ data | propertyValueWrite _ data => 6 + data.length
  | individualAddressWrite _ | memoryRead .. | deviceDescriptorResponse .. | domainAddressWrite _
  | domainAddressResponse _ => 4
  | adcRead .. | authorizeResponse _ | keyResponse _ => 3
  | adcResponse .. | userMemoryRead .. | userManufacturerInfoResponse ..
  | propertyDescriptionRead .. | serviceInformation .. => 5
  | propertyValueRead _ => 6
  | authorizeRequest _ | keyWrite .. | domainAddressSelectiveRead .. => 7
  | serialNumberRead _ => 8
  | propertyDescriptionResponse .. => 9
  | serialNumberResponse .. => 12
  | serialNumberWrite .. => 14
  | unknown raw => raw.length
  | groupValueRead | groupValueResponse (.small _) | groupValueWrite (.small _)
  | individualAddressRead | individualAddressResponse | userManufacturerInfoRead
  | deviceDescriptorRead _ | restart | domainAddressRead => 2

open Encoding (octet octets word require)

/-- The first two octets, one after the other. -/
def head (first second : UInt8) : Encoding := octet first ++ octet second

/-- Gives up unless the value fits into six bits. -/
def sixBits (v : UInt8) : Encoding := require (v ≤ 0x3f) .valueOutOfRange

/-- Gives up unless the value fits into four bits. -/
def fourBits (v : UInt8) : Encoding := require (v ≤ 0x0f) .valueOutOfRange

/-- Gives up unless the number of octets fits into four bits. -/
def countable (data : Octets) : Encoding := require (data.length ≤ 0x0f) .invalidLength

/-- A group value behind the given service bits. -/
def encodeGroupValue (service : UInt8) : GroupValue → Encoding
  | .small bits => sixBits bits ++ head 0x00 (service ||| bits)
  | .long data => require (!data.isEmpty) .invalidLength ++ head 0x00 service ++ octets data

/-- A memory address with data; the number of octets stands beside the service bits. -/
def encodeMemory (service : UInt8) (address : UInt16) (data : Octets) : Encoding :=
  countable data ++ head 0x02 (service ||| UInt8.ofNat data.length) ++ word address ++ octets data

/-- A user memory address with data; extension and number of octets share the third octet. -/
def encodeUserMemory (second : UInt8) (extension : UInt8) (address : UInt16) (data : Octets) :
    Encoding :=
  head 0x02 second ++ fourBits extension ++ countable data ++
    octet (extension <<< 4 ||| UInt8.ofNat data.length) ++ word address ++ octets data

/-- A memory address with two masks of equal length. -/
def encodeBitMasks (first second : UInt8) (address : UInt16) (andMask xorMask : Octets) :
    Encoding :=
  require (andMask.length == xorMask.length && andMask.length ≤ 255) .invalidLength ++
    head first second ++ octet (UInt8.ofNat andMask.length) ++ word address ++ octets andMask ++
    octets xorMask

/-- An element range: object, property, then count and start packed into a word. -/
def encodeRange (target : PropertyRange) : Encoding :=
  require (target.start ≤ 0x0fff) .valueOutOfRange ++ octet target.object ++
    octet target.property ++ fourBits target.count ++
    word (UInt16.ofNat (target.count.toNat * 4096 + target.start.toNat))

/-- The three flags of a service information. -/
def informationBits (verifyMode duplicateAddress applicationStopped : Bool) : UInt8 :=
  (if verifyMode then 0x04 else 0) ||| (if duplicateAddress then 0x02 else 0) |||
    (if applicationStopped then 0x01 else 0)

/-- How a unit is written. -/
def encode : Apdu → Encoding
  | groupValueRead => head 0x00 0x00
  | groupValueResponse value => encodeGroupValue 0x40 value
  | groupValueWrite value => encodeGroupValue 0x80 value
  | individualAddressWrite address => head 0x00 0xc0 ++ word address.raw
  | individualAddressRead => head 0x01 0x00
  | individualAddressResponse => head 0x01 0x40
  | adcRead channel count => sixBits channel ++ head 0x01 (0x80 ||| channel) ++ octet count
  | adcResponse channel count value =>
    sixBits channel ++ head 0x01 (0xc0 ||| channel) ++ octet count ++ word value
  | memoryRead count address => fourBits count ++ head 0x02 count ++ word address
  | memoryResponse address data => encodeMemory 0x40 address data
  | memoryWrite address data => encodeMemory 0x80 address data
  | userMemoryRead extension count address =>
    head 0x02 0xc0 ++ fourBits extension ++ fourBits count ++
      octet (extension <<< 4 ||| count) ++ word address
  | userMemoryResponse extension address data => encodeUserMemory 0xc1 extension address data
  | userMemoryWrite extension address data => encodeUserMemory 0xc2 extension address data
  | userMemoryBitWrite address andMask xorMask => encodeBitMasks 0x02 0xc4 address andMask xorMask
  | userManufacturerInfoRead => head 0x02 0xc5
  | userManufacturerInfoResponse manufacturer data =>
    head 0x02 0xc6 ++ octet manufacturer ++ word data
  | deviceDescriptorRead descriptorType => sixBits descriptorType ++ head 0x03 descriptorType
  | deviceDescriptorResponse descriptorType descriptor =>
    sixBits descriptorType ++ head 0x03 (0x40 ||| descriptorType) ++ word descriptor
  | restart => head 0x03 0x80
  | memoryBitWrite address andMask xorMask => encodeBitMasks 0x03 0xd0 address andMask xorMask
  | authorizeRequest key => head 0x03 0xd1 ++ octet 0 ++ octets key.octets
  | authorizeResponse level => head 0x03 0xd2 ++ octet level
  | keyWrite level key => head 0x03 0xd3 ++ octet level ++ octets key.octets
  | keyResponse level => head 0x03 0xd4 ++ octet level
  | propertyValueRead target => head 0x03 0xd5 ++ encodeRange target
  | propertyValueResponse target data => head 0x03 0xd6 ++ encodeRange target ++ octets data
  | propertyValueWrite target data => head 0x03 0xd7 ++ encodeRange target ++ octets data
  | propertyDescriptionRead object property index =>
    head 0x03 0xd8 ++ octets [object, property, index]
  | propertyDescriptionResponse object property index propertyType maxElements access =>
    head 0x03 0xd9 ++ octets [object, property, index, propertyType] ++ word maxElements ++
      octet access
  | serialNumberRead serial => head 0x03 0xdc ++ octets serial.octets
  | serialNumberResponse serial address =>
    head 0x03 0xdd ++ octets serial.octets ++ word address.raw ++ octets [0, 0]
  | serialNumberWrite serial address =>
    head 0x03 0xde ++ octets serial.octets ++ word address.raw ++ octets [0, 0, 0, 0]
  | serviceInformation verifyMode duplicateAddress applicationStopped =>
    head 0x03 0xdf ++
      octets [informationBits verifyMode duplicateAddress applicationStopped, 0, 0]
  | domainAddressWrite domain => head 0x03 0xe0 ++ word domain
  | domainAddressRead => head 0x03 0xe1
  | domainAddressResponse domain => head 0x03 0xe2 ++ word domain
  | domainAddressSelectiveRead domain address range =>
    head 0x03 0xe3 ++ word domain ++ word address.raw ++ octet range
  | unknown raw => octets raw

/-- The octets of a unit, or why it has none. -/
def toOctets (unit : Apdu) : Except EncodeError Octets := unit.encode.toOctets unit.encodedLength

end Apdu
end KnxBus
