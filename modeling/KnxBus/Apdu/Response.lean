import KnxBus.Apdu

/-!
# Which unit answers which

A management client that has sent a request takes the first unit that answers it.  A response
answers a request when it is of the response kind of that request and the selectors that both carry
agree.  A response with a number of elements or octets must have the number that was asked for.
-/

namespace KnxBus
namespace Apdu

/-- Whether the first unit answers the second. -/
def answers : Apdu → Apdu → Bool
  | groupValueResponse _, groupValueRead => true
  | individualAddressResponse, individualAddressRead => true
  | userManufacturerInfoResponse .., userManufacturerInfoRead => true
  | authorizeResponse _, authorizeRequest _ => true
  | domainAddressResponse _, domainAddressRead => true
  | domainAddressResponse _, domainAddressSelectiveRead .. => true
  | serialNumberResponse serial _, serialNumberRead asked => serial == asked
  | propertyValueResponse target _, propertyValueRead asked => target == asked
  | propertyValueResponse target _, propertyValueWrite asked _ => target == asked
  | propertyDescriptionResponse object .., propertyDescriptionRead asked .. => object == asked
  | deviceDescriptorResponse descriptorType _, deviceDescriptorRead asked => descriptorType == asked
  | adcResponse channel count _, adcRead askedChannel askedCount =>
    channel == askedChannel && count == askedCount
  | memoryResponse address data, memoryRead count asked =>
    address == asked && data.length == count.toNat
  | userMemoryResponse extension address data, userMemoryRead askedExtension count asked =>
    extension == askedExtension && address == asked && data.length == count.toNat
  | keyResponse level, keyWrite asked _ => level == asked
  | _, _ => false

end Apdu
end KnxBus
