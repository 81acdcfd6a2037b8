import KnxBus.Address
import KnxBus.Octets

/-!
# Application layer units

The application layer reads and writes group values, addresses, memory, properties and a few other
things of a device.  Each service is one constructor that carries exactly the fields of that
service; a field keeps the width it has in memory, not the width it has on the wire, so that a
value too large for its bits exists as a value and is refused by the encoder rather than cut.

A bit pattern that names no known service is kept as `unknown`, octet for octet.
-/

namespace KnxBus

/-- The six octets of a device's serial number. -/
structure SerialNumber where
  (b0 b1 b2 b3 b4 b5 : UInt8)
  deriving DecidableEq, Repr

/-- The octets in order. -/
def SerialNumber.octets (s : SerialNumber) : Octets := [s.b0, s.b1, s.b2, s.b3, s.b4, s.b5]

/-- The four octets of an access key. -/
structure AccessKey where
  (b0 b1 b2 b3 : UInt8)
  deriving DecidableEq, Repr

/-- The octets in order. -/
def AccessKey.octets (k : AccessKey) : Octets := [k.b0, k.b1, k.b2, k.b3]

/-- The value of a group object. -/
inductive GroupValue where
  /-- Up to six bits, sent in the same octet as the service. -/
  | small (bits : UInt8)
  /-- One or more octets after the service. -/
  | long (data : Octets)
  deriving DecidableEq, Repr

/-- The value as octets. -/
def GroupValue.octets : GroupValue → Octets
  | .small bits => [bits]
  | .long data => data

/-- A range of elements of a property of an interface object. -/
structure PropertyRange where
  /-- The interface object. -/
  object : UInt8
  /-- The property of the object. -/
  property : UInt8
  /-- How many elements, four bits on the wire. -/
  count : UInt8
  /-- The first element, twelve bits on the wire. -/
  start : UInt16
  deriving DecidableEq, Repr

/-- A unit of the application layer. -/
inductive Apdu where
  | groupValueRead
  | groupValueResponse (value : GroupValue)
  | groupValueWrite (value : GroupValue)
  | individualAddressWrite (address : IndividualAddress)
  | individualAddressRead
  | individualAddressResponse
  | adcRead (channel count : UInt8)
  | adcResponse (channel count : UInt8) (value : UInt16)
  | memoryRead (count : UInt8) (address : UInt16)
  | memoryResponse (address : UInt16) (data : Octets)
  | memoryWrite (address : UInt16) (data : Octets)
  | userMemoryRead (extension count : UInt8) (address : UInt16)
  | userMemoryResponse (extension : UInt8) (address : UInt16) (data : Octets)
  | userMemoryWrite (extension : UInt8) (address : UInt16) (data : Octets)
  | userMemoryBitWrite (address : UInt16) (andMask xorMask : Octets)
  | userManufacturerInfoRead
  | userManufacturerInfoResponse (manufacturer : UInt8) (data : UInt16)
  | deviceDescriptorRead (descriptorType : UInt8)
  | deviceDescriptorResponse (descriptorType : UInt8) (descriptor : UInt16)
  | restart
  | memoryBitWrite (address : UInt16) (andMask xorMask : Octets)
  | authorizeRequest (key : AccessKey)
  | authorizeResponse (level : UInt8)
  | keyWrite (level : UInt8) (key : AccessKey)
  | keyResponse (level : UInt8)
  | propertyValueRead (target : PropertyRange)
  | propertyValueResponse (target : PropertyRange) (data : Octets)
  | propertyValueWrite (target : PropertyRange) (data : Octets)
  | propertyDescriptionRead (object property index : UInt8)
  | propertyDescriptionResponse (object property index propertyType : UInt8)
      (maxElements : UInt16) (access : UInt8)
  | serialNumberRead (serial : SerialNumber)
  | serialNumberResponse (serial : SerialNumber) (address : IndividualAddress)
  | serialNumberWrite (serial : SerialNumber) (address : IndividualAddress)
  | serviceInformation (verifyMode duplicateAddress applicationStopped : Bool)
  | domainAddressWrite (domain : UInt16)
  | domainAddressRead
  | domainAddressResponse (domain : UInt16)
  | domainAddressSelectiveRead (domain : UInt16) (address : IndividualAddress) (range : UInt8)
  | unknown (raw : Octets)
  deriving DecidableEq, Repr

namespace Apdu

/-- The value that a group write or a group response carries. -/
def groupValue? : Apdu → Option GroupValue
  | groupValueResponse value | groupValueWrite value => some value
  | _ => none

end Apdu
end KnxBus
