import KnxBus.Apdu

/-!
# Application layer units in words

Each unit is described by the name of its service followed by its fields.  Small numbers are decimal
with two digits, addresses of memory and other words are hexadecimal with four, data are dumps.
-/

namespace KnxBus

open Number (padded hexPadded)
open Octets (dump)

/-- A group value in words. -/
def GroupValue.text : GroupValue → String
  | .small bits => "(small) " ++ hexPadded 2 bits.toNat
  | .long data => dump data

/-- An element range in words. -/
def PropertyRange.text (r : PropertyRange) : String :=
  "Obj:" ++ padded 2 r.object.toNat ++ " Prop:" ++ padded 2 r.property.toNat ++
    " start:" ++ padded 4 r.start.toNat ++ " max_nr:" ++ padded 2 r.count.toNat

namespace Apdu

/-- A memory access in words: number of octets, address, octets. -/
def memoryText (address : String) (data : Octets) : String :=
  " Len: " ++ padded 2 data.length ++ " Addr: " ++ address ++ " Data: " ++ dump data

/-- An address of user memory: one digit of extension and four of address. -/
def extendedText (extension : UInt8) (address : UInt16) : String :=
  hexPadded 1 extension.toNat ++ hexPadded 4 address.toNat

/-- A masked write in words. -/
def maskText (address : UInt16) (andMask xorMask : Octets) : String :=
  " Addr: " ++ hexPadded 4 address.toNat ++ " And: " ++ dump andMask ++ " Xor: " ++ dump xorMask

/-- The words for a flag that is set, nothing for one that is not. -/
def flagText (flag : Bool) (words : String) : String := if flag then words else ""

/-- A unit in words. -/
def text : Apdu → String
  | groupValueRead => "A_GroupValue_Read"
  | groupValueResponse value => "A_GroupValue_Response " ++ value.text
  | groupValueWrite value => "A_GroupValue_Write " ++ value.text
  | individualAddressWrite address => "A_IndividualAddress_Write " ++ address.text
  | individualAddressRead => "A_IndividualAddress_Read"
  | individualAddressResponse => "A_IndividualAddress_Response"
  | adcRead channel count =>
    "A_ADC_Read Channel: " ++ padded 2 channel.toNat ++ " Count: " ++ padded 2 count.toNat
  | adcResponse channel count value =>
    "A_ADC_Response Channel: " ++ padded 2 channel.toNat ++ " Count: " ++ padded 2 count.toNat ++
      " Value: " ++ hexPadded 4 value.toNat
  | memoryRead count address =>
    "A_Memory_Read Len: " ++ padded 2 count.toNat ++ " Addr: " ++ hexPadded 4 address.toNat
  | memoryResponse address data =>
    "A_Memory_Response" ++ memoryText (hexPadded 4 address.toNat) data
  | memoryWrite address data => "A_Memory_Write" ++ memoryText (hexPadded 4 address.toNat) data
  | userMemoryRead extension count address =>
    "A_UserMemory_Read Len: " ++ padded 2 count.toNat ++ " Addr: " ++
      extendedText extension address
  | userMemoryResponse extension address data =>
    "A_UserMemory_Response" ++ memoryText (extendedText extension address) data
  | userMemoryWrite extension address data =>
    "A_UserMemory_Write" ++ memoryText (extendedText extension address) data
  | userMemoryBitWrite address andMask xorMask =>
    "A_UserMemoryBit_Write" ++ maskText address andMask xorMask
  | userManufacturerInfoRead => "A_UserManufacturerInfo_Read"
  | userManufacturerInfoResponse manufacturer data =>
    "A_UserManufacturerInfo_Response Manufacturer: " ++ hexPadded 2 manufacturer.toNat ++
      " Data: " ++ hexPadded 4 data.toNat
  | deviceDescriptorRead descriptorType =>
    "A_DeviceDescriptor_Read Type: " ++ padded 2 descriptorType.toNat
  | deviceDescriptorResponse descriptorType descriptor =>
    "A_DeviceDescriptor_Response Type: " ++ padded 2 descriptorType.toNat ++
      " Descriptor: " ++ hexPadded 4 descriptor.toNat
  | restart => "A_Restart"
  | memoryBitWrite address andMask xorMask =>
    "A_MemoryBit_Write" ++ maskText address andMask xorMask
  | authorizeRequest key => "A_Authorize_Request Key: " ++ dump key.octets
  | authorizeResponse level => "A_Authorize_Response Level: " ++ padded 2 level.toNat
  | keyWrite level key =>
    "A_Key_Write Level: " ++ padded 2 level.toNat ++ " Key: " ++ dump key.octets
  | keyResponse level => "A_Key_Response Level: " ++ padded 2 level.toNat
  | propertyValueRead target => "A_PropertyValue_Read " ++ target.text
  | propertyValueResponse target data =>
    "A_PropertyValue_Response " ++ target.text ++ " Data: " ++ dump data
  | propertyValueWrite target data =>
    "A_PropertyValue_Write " ++ target.text ++ " Data: " ++ dump data
  | propertyDescriptionRead object property index =>
    "A_PropertyDescription_Read Obj:" ++ padded 2 object.toNat ++ " Prop:" ++
      padded 2 property.toNat ++ " Index:" ++ padded 2 index.toNat
  | propertyDescriptionResponse object property index propertyType maxElements access =>
    "A_PropertyDescription_Response Obj:" ++ padded 2 object.toNat ++ " Prop:" ++
      padded 2 property.toNat ++ " Index:" ++ padded 2 index.toNat ++ " Type:" ++
      padded 2 propertyType.toNat ++ " Max_Nr:" ++ padded 4 maxElements.toNat ++ " Access:" ++
      hexPadded 2 access.toNat
  | serialNumberRead serial => "A_SerialNumber_Read Serial: " ++ dump serial.octets
  | serialNumberResponse serial address =>
    "A_SerialNumber_Response Serial: " ++ dump serial.octets ++ " Addr: " ++ address.text
  | serialNumberWrite serial address =>
    "A_SerialNumber_Write Serial: " ++ dump serial.octets ++ " Addr: " ++ address.text
  | serviceInformation verifyMode duplicateAddress applicationStopped =>
    "A_ServiceInformation_Indication_Write" ++ flagText verifyMode " verify mode" ++
      flagText duplicateAddress " duplicate address" ++
      flagText applicationStopped " application stopped"
  | domainAddressWrite domain => "A_DomainAddress_Write Domain: " ++ hexPadded 4 domain.toNat
  | domainAddressRead => "A_DomainAddress_Read"
  | domainAddressResponse domain =>
    "A_DomainAddress_Response Domain: " ++ hexPadded 4 domain.toNat
  | domainAddressSelectiveRead domain address range =>
    "A_DomainAddressSelective_Read Domain: " ++ hexPadded 4 domain.toNat ++ " Addr: " ++
      address.text ++ " Range: " ++ hexPadded 2 range.toNat
  | unknown raw => "Unknown APDU: " ++ dump raw

end Apdu
end KnxBus
