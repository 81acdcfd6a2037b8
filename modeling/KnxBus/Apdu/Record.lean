import KnxBus.Apdu

/-!
# Application layer units by name

A tool that shows, stores or edits units wants to treat the forty services alike: as a name with
named fields.  A record is just that.  It knows three kinds of field: numbers of any size, octet
strings and flags; the element range of a property contributes its four fields to the record it is
part of.

Reading a record checks what the type of a unit promises, the width of each number and the length of
serial numbers and keys, and looks at the fields of the service only, in any order.
-/

namespace KnxBus

/-- The value of a field. -/
inductive FieldValue where
  | number (n : Nat)
  | octets (b : Octets)
  | flag (b : Bool)
  deriving DecidableEq, Repr

/-- A name with named fields. -/
structure Record where
  /-- The name of the service. -/
  name : String
  /-- The fields, each with its name. -/
  fields : List (String × FieldValue)
  deriving DecidableEq, Repr

namespace Record

/-- An octet among the fields. -/
def octet? (r : Record) (field : String) : Option UInt8 :=
  match r.fields.lookup field with
  | some (.number n) => if n < 256 then some (UInt8.ofNat n) else none
  | _ => none

/-- A word among the fields. -/
def word? (r : Record) (field : String) : Option UInt16 :=
  match r.fields.lookup field with
  | some (.number n) => if n < 65536 then some (UInt16.ofNat n) else none
  | _ => none

/-- An octet string among the fields. -/
def octets? (r : Record) (field : String) : Option Octets :=
  match r.fields.lookup field with
  | some (.octets b) => some b
  | _ => none

/-- A flag among the fields. -/
def flag? (r : Record) (field : String) : Option Bool :=
  match r.fields.lookup field with
  | some (.flag b) => some b
  | _ => none

/-- An individual address among the fields. -/
def address? (r : Record) (field : String) : Option IndividualAddress := (r.word? field).map .mk

/-- The serial number among the fields. -/
def serial? (r : Record) : Option SerialNumber :=
  match r.octets? "serial" with
  | some [a, b, c, d, e, f] => some ⟨a, b, c, d, e, f⟩
  | _ => none

/-- The access key among the fields. -/
def key? (r : Record) : Option AccessKey :=
  match r.octets? "key" with
  | some [a, b, c, d] => some ⟨a, b, c, d⟩
  | _ => none

/-- The group value among the fields. -/
def groupValue? (r : Record) : Option GroupValue :=
  match r.octet? "small" with
  | some bits => some (.small bits)
  | none => (r.octets? "long").map .long

/-- The element range among the fields. -/
def range? (r : Record) : Option PropertyRange := do
  return ⟨← r.octet? "object", ← r.octet? "property", ← r.octet? "count", ← r.word? "start"⟩

end Record

namespace Apdu

/-- An octet as a field. -/
def octetField (name : String) (v : UInt8) : String × FieldValue := (name, .number v.toNat)

/-- A word as a field. -/
def wordField (name : String) (v : UInt16) : String × FieldValue := (name, .number v.toNat)

/-- An octet string as a field. -/
def octetsField (name : String) (b : Octets) : String × FieldValue := (name, .octets b)

/-- A group value as the only field of a record. -/
def groupValueField : GroupValue → String × FieldValue
  | .small bits => octetField "small" bits
  | .long data => octetsField "long" data

/-- An element range as four fields. -/
def rangeFields (r : PropertyRange) : List (String × FieldValue) :=
  [octetField "object" r.object, octetField "property" r.property, octetField "count" r.count,
    wordField "start" r.start]

/-- The record of a unit. -/
def record : Apdu → Record
  | groupValueRead => ⟨"GroupValueRead", []⟩
  | groupValueResponse value => ⟨"GroupValueResponse", [groupValueField value]⟩
  | groupValueWrite value => ⟨"GroupValueWrite", [groupValueField value]⟩
  | individualAddressWrite address =>
    ⟨"IndividualAddressWrite", [wordField "address" address.raw]⟩
  | individualAddressRead => ⟨"IndividualAddressRead", []⟩
  | individualAddressResponse => ⟨"IndividualAddressResponse", []⟩
  | adcRead channel count => ⟨"AdcRead", [octetField "channel" channel, octetField "count" count]⟩
  | adcResponse channel count value =>
    ⟨"AdcResponse",
      [octetField "channel" channel, octetField "count" count, wordField "value" value]⟩
  | memoryRead count address =>
    ⟨"MemoryRead", [octetField "count" count, wordField "address" address]⟩
  | memoryResponse address data =>
    ⟨"MemoryResponse", [wordField "address" address, octetsField "data" data]⟩
  | memoryWrite address data =>
    ⟨"MemoryWrite", [wordField "address" address, octetsField "data" data]⟩
  | userMemoryRead extension count address =>
    ⟨"UserMemoryRead",
      [octetField "extension" extension, octetField "count" count, wordField "address" address]⟩
  | userMemoryResponse extension address data =>
    ⟨"UserMemoryResponse",
      [octetField "extension" extension, wordField "address" address, octetsField "data" data]⟩
  | userMemoryWrite extension address data =>
    ⟨"UserMemoryWrite",
      [octetField "extension" extension, wordField "address" address, octetsField "data" data]⟩
  | userMemoryBitWrite address andMask xorMask =>
    ⟨"UserMemoryBitWrite",
      [wordField "address" address, octetsField "and_mask" andMask,
        octetsField "xor_mask" xorMask]⟩
  | userManufacturerInfoRead => ⟨"UserManufacturerInfoRead", []⟩
  | userManufacturerInfoResponse manufacturer data =>
    ⟨"UserManufacturerInfoResponse",
      [octetField "manufacturer" manufacturer, wordField "data" data]⟩
  | deviceDescriptorRead descriptorType =>
    ⟨"DeviceDescriptorRead", [octetField "descriptor_type" descriptorType]⟩
  | deviceDescriptorResponse descriptorType descriptor =>
    ⟨"DeviceDescriptorResponse",
      [octetField "descriptor_type" descriptorType, wordField "descriptor" descriptor]⟩
  | restart => ⟨"Restart", []⟩
  | memoryBitWrite address andMask xorMask =>
    ⟨"MemoryBitWrite",
      [wordField "address" address, octetsField "and_mask" andMask,
        octetsField "xor_mask" xorMask]⟩
  | authorizeRequest key => ⟨"AuthorizeRequest", [octetsField "key" key.octets]⟩
  | authorizeResponse level => ⟨"AuthorizeResponse", [octetField "level" level]⟩
  | keyWrite level key =>
    ⟨"KeyWrite", [octetField "level" level, octetsField "key" key.octets]⟩
  | keyResponse level => ⟨"KeyResponse", [octetField "level" level]⟩
  | propertyValueRead target => ⟨"PropertyValueRead", rangeFields target⟩
  | propertyValueResponse target data =>
    ⟨"PropertyValueResponse", rangeFields target ++ [octetsField "data" data]⟩
  | propertyValueWrite target data =>
    ⟨"PropertyValueWrite", rangeFields target ++ [octetsField "data" data]⟩
  | propertyDescriptionRead object property index =>
    ⟨"PropertyDescriptionRead",
      [octetField "object" object, octetField "property" property, octetField "index" index]⟩
  | propertyDescriptionResponse object property index propertyType maxElements access =>
    ⟨"PropertyDescriptionResponse",
      [octetField "object" object, octetField "property" property, octetField "index" index,
        octetField "property_type" propertyType, wordField "max_elements" maxElements,
        octetField "access" access]⟩
  | serialNumberRead serial => ⟨"SerialNumberRead", [octetsField "serial" serial.octets]⟩
  | serialNumberResponse serial address =>
    ⟨"SerialNumberResponse",
      [octetsField "serial" serial.octets, wordField "address" address.raw]⟩
  | serialNumberWrite serial address =>
    ⟨"SerialNumberWrite", [octetsField "serial" serial.octets, wordField "address" address.raw]⟩
  | serviceInformation verifyMode duplicateAddress applicationStopped =>
    ⟨"ServiceInformationIndicationWrite",
      [("verify_mode", .flag verifyMode), ("duplicate_address", .flag duplicateAddress),
        ("application_stopped", .flag applicationStopped)]⟩
  | domainAddressWrite domain => ⟨"DomainAddressWrite", [wordField "domain" domain]⟩
  | domainAddressRead => ⟨"DomainAddressRead", []⟩
  | domainAddressResponse domain => ⟨"DomainAddressResponse", [wordField "domain" domain]⟩
  | domainAddressSelectiveRead domain address range =>
    ⟨"DomainAddressSelectiveRead",
      [wordField "domain" domain, wordField "address" address.raw, octetField "range" range]⟩
  | unknown raw => ⟨"Unknown", [octetsField "raw" raw]⟩

/-- The unit that a record describes. -/
def ofRecord? (r : Record) : Option Apdu := do
  match r.name with
  | "GroupValueRead" => return groupValueRead
  | "GroupValueResponse" => return groupValueResponse (← r.groupValue?)
  | "GroupValueWrite" => return groupValueWrite (← r.groupValue?)
  | "IndividualAddressWrite" => return individualAddressWrite (← r.address? "address")
  | "IndividualAddressRead" => return individualAddressRead
  | "IndividualAddressResponse" => return individualAddressResponse
  | "AdcRead" => return adcRead (← r.octet? "channel") (← r.octet? "count")
  | "AdcResponse" =>
    return adcResponse (← r.octet? "channel") (← r.octet? "count") (← r.word? "value")
  | "MemoryRead" => return memoryRead (← r.octet? "count") (← r.word? "address")
  | "MemoryResponse" => return memoryResponse (← r.word? "address") (← r.octets? "data")
  | "MemoryWrite" => return memoryWrite (← r.word? "address") (← r.octets? "data")
  | "UserMemoryRead" =>
    return userMemoryRead (← r.octet? "extension") (← r.octet? "count") (← r.word? "address")
  | "UserMemoryResponse" =>
    return userMemoryResponse (← r.octet? "extension") (← r.word? "address") (← r.octets? "data")
  | "UserMemoryWrite" =>
    return userMemoryWrite (← r.octet? "extension") (← r.word? "address") (← r.octets? "data")
  | "UserMemoryBitWrite" =>
    return userMemoryBitWrite (← r.word? "address") (← r.octets? "and_mask")
      (← r.octets? "xor_mask")
  | "UserManufacturerInfoRead" => return userManufacturerInfoRead
  | "UserManufacturerInfoResponse" =>
    return userManufacturerInfoResponse (← r.octet? "manufacturer") (← r.word? "data")
  | "DeviceDescriptorRead" => return deviceDescriptorRead (← r.octet? "descriptor_type")
  | "DeviceDescriptorResponse" =>
    return deviceDescriptorResponse (← r.octet? "descriptor_type") (← r.word? "descriptor")
  | "Restart" => return restart
  | "MemoryBitWrite" =>
    return memoryBitWrite (← r.word? "address") (← r.octets? "and_mask") (← r.octets? "xor_mask")
  | "AuthorizeRequest" => return authorizeRequest (← r.key?)
  | "AuthorizeResponse" => return authorizeResponse (← r.octet? "level")
  | "KeyWrite" => return keyWrite (← r.octet? "level") (← r.key?)
  | "KeyResponse" => return keyResponse (← r.octet? "level")
  | "PropertyValueRead" => return propertyValueRead (← r.range?)
  | "PropertyValueResponse" => return propertyValueResponse (← r.range?) (← r.octets? "data")
  | "PropertyValueWrite" => return propertyValueWrite (← r.range?) (← r.octets? "data")
  | "PropertyDescriptionRead" =>
    return propertyDescriptionRead (← r.octet? "object") (← r.octet? "property")
      (← r.octet? "index")
  | "PropertyDescriptionResponse" =>
    return propertyDescriptionResponse (← r.octet? "object") (← r.octet? "property")
      (← r.octet? "index") (← r.octet? "property_type") (← r.word? "max_elements")
      (← r.octet? "access")
  | "SerialNumberRead" => return serialNumberRead (← r.serial?)
  | "SerialNumberResponse" => return serialNumberResponse (← r.serial?) (← r.address? "address")
  | "SerialNumberWrite" => return serialNumberWrite (← r.serial?) (← r.address? "address")
  | "ServiceInformationIndicationWrite" =>
    return serviceInformation (← r.flag? "verify_mode") (← r.flag? "duplicate_address")
      (← r.flag? "application_stopped")
  | "DomainAddressWrite" => return domainAddressWrite (← r.word? "domain")
  | "DomainAddressRead" => return domainAddressRead
  | "DomainAddressResponse" => return domainAddressResponse (← r.word? "domain")
  | "DomainAddressSelectiveRead" =>
    return domainAddressSelectiveRead (← r.word? "domain") (← r.address? "address")
      (← r.octet? "range")
  | "Unknown" => return unknown (← r.octets? "raw")
  | _ => none

end Apdu
end KnxBus
