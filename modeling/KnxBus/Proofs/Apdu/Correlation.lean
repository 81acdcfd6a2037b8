import KnxBus.Apdu.Response

/-!
# Which answers a client could take for its own

Somebody who has asked for something takes the first unit that answers.  What an answer must have in
common with the request can be said without going through the pairs of units: it has to be of the
kind that responds to the request (`Apdu.RespondsTo`), and where both of them say what is meant, an
object, an address, a number of octets, they have to say the same (`Apdu.Agrees`).  For this each
unit has a list of the things by which it selects (`Apdu.selectors`).

The comparison that is made (`Apdu.answers`) misses none of the answers of that kind, and takes no
unit for an answer that is not of the kind that responds.  But it does not look at all selectors.
Of the description of a property only the object is compared, not the property and not its index;
and the domain of an answer is not compared with the one that was asked for.  The main statement,
`Apdu.answers_iff_agrees_or_mistaken`, says that these two are all.
-/

namespace KnxBus

/-- Something by which a unit selects what it is about. -/
inductive Selector where
  /-- An interface object. -/
  | object (number : UInt8)
  /-- A property of an object. -/
  | property (number : UInt8)
  /-- The place of a property in its object. -/
  | index (number : UInt8)
  /-- How many elements of a property, or how many samples. -/
  | count (number : UInt8)
  /-- The first element. -/
  | start (number : UInt16)
  /-- An address of memory. -/
  | address (value : UInt16)
  /-- The upper part of an address of user memory. -/
  | extension (value : UInt8)
  /-- A number of octets. -/
  | length (octets : Nat)
  /-- A channel of a converter. -/
  | channel (number : UInt8)
  /-- A type of descriptor. -/
  | descriptorType (number : UInt8)
  /-- A serial number. -/
  | serial (number : SerialNumber)
  /-- A level of access. -/
  | level (number : UInt8)
  /-- A domain. -/
  | domain (number : UInt16)
  deriving DecidableEq, Repr

/-- The two select by the same sort of thing. -/
def Selector.Comparable : Selector → Selector → Prop
  | object _, object _ | property _, property _ | index _, index _ | count _, count _
  | start _, start _ | address _, address _ | extension _, extension _ | length _, length _
  | channel _, channel _ | descriptorType _, descriptorType _ | serial _, serial _
  | level _, level _ | domain _, domain _ => True
  | _, _ => False

namespace Apdu

/-- The first unit is of the kind that responds to the second. -/
inductive RespondsTo : Apdu → Apdu → Prop where
  | groupValue (value) : RespondsTo (groupValueResponse value) groupValueRead
  | individualAddress : RespondsTo individualAddressResponse individualAddressRead
  | adc (channel count value channel' count') :
      RespondsTo (adcResponse channel count value) (adcRead channel' count')
  | memory (address data count address') :
      RespondsTo (memoryResponse address data) (memoryRead count address')
  | userMemory (extension address data extension' count address') :
      RespondsTo (userMemoryResponse extension address data)
        (userMemoryRead extension' count address')
  | manufacturer (manufacturer data) :
      RespondsTo (userManufacturerInfoResponse manufacturer data) userManufacturerInfoRead
  | deviceDescriptor (descriptorType descriptor descriptorType') :
      RespondsTo (deviceDescriptorResponse descriptorType descriptor)
        (deviceDescriptorRead descriptorType')
  | authorize (level key) : RespondsTo (authorizeResponse level) (authorizeRequest key)
  | key (level level' key) : RespondsTo (keyResponse level) (keyWrite level' key)
  | propertyRead (target data target') :
      RespondsTo (propertyValueResponse target data) (propertyValueRead target')
  | propertyWrite (target data target' data') :
      RespondsTo (propertyValueResponse target data) (propertyValueWrite target' data')
  | description (object property index propertyType maxElements access object' property' index') :
      RespondsTo
        (propertyDescriptionResponse object property index propertyType maxElements access)
        (propertyDescriptionRead object' property' index')
  | serialNumber (serial address serial') :
      RespondsTo (serialNumberResponse serial address) (serialNumberRead serial')
  | domain (domain) : RespondsTo (domainAddressResponse domain) domainAddressRead
  | selectedDomain (domain domain' address range) :
      RespondsTo (domainAddressResponse domain) (domainAddressSelectiveRead domain' address range)

/-- The selectors of an element range. -/
def rangeSelectors (target : PropertyRange) : List Selector :=
  [.object target.object, .property target.property, .count target.count, .start target.start]

/-- By what a unit selects.  A description is asked for by property, and only if that is zero by
index; an answer names both. -/
def selectors : Apdu → List Selector
  | adcRead channel count | adcResponse channel count _ => [.channel channel, .count count]
  | memoryRead count address => [.address address, .length count.toNat]
  | memoryResponse address data => [.address address, .length data.length]
  | userMemoryRead extension count address =>
    [.extension extension, .address address, .length count.toNat]
  | userMemoryResponse extension address data =>
    [.extension extension, .address address, .length data.length]
  | deviceDescriptorRead descriptorType | deviceDescriptorResponse descriptorType _ =>
    [.descriptorType descriptorType]
  | authorizeResponse level | keyWrite level _ | keyResponse level => [.level level]
  | propertyValueRead target | propertyValueResponse target _ | propertyValueWrite target _ =>
    rangeSelectors target
  | propertyDescriptionRead object property index =>
    [.object object, if property ≠ 0 then .property property else .index index]
  | propertyDescriptionResponse object property index _ _ _ =>
    [.object object, .property property, .index index]
  | serialNumberRead serial | serialNumberResponse serial _ => [.serial serial]
  | domainAddressResponse domain | domainAddressSelectiveRead domain _ _ => [.domain domain]
  | _ => []

/-- Where both units select by the same sort of thing, they select the same. -/
def Agrees (response request : Apdu) : Prop :=
  ∀ s ∈ response.selectors, ∀ t ∈ request.selectors, s.Comparable t → s = t

/-- The first unit is taken for an answer to the second although they select different things: the
description of another property of the same object, or of another domain than the selected one. -/
inductive Mistaken : Apdu → Apdu → Prop where
  | property (object property index propertyType maxElements access property' index')
      (asked : property' ≠ 0) (differs : property ≠ property') :
      Mistaken (propertyDescriptionResponse object property index propertyType maxElements access)
        (propertyDescriptionRead object property' index')
  | index (object property index propertyType maxElements access index')
      (differs : index ≠ index') :
      Mistaken (propertyDescriptionResponse object property index propertyType maxElements access)
        (propertyDescriptionRead object 0 index')
  | domain (domain domain' address range) (differs : domain ≠ domain') :
      Mistaken (domainAddressResponse domain) (domainAddressSelectiveRead domain' address range)

/-! ## What is compared -/

/-- Nothing answers that is not of the kind that responds. -/
theorem respondsTo_of_answers {response request : Apdu} (h : response.answers request = true) :
    response.RespondsTo request := by
  unfold answers at h
  split at h
  all_goals first | constructor | cases h

theorem Mistaken.respondsTo {response request : Apdu} (h : response.Mistaken request) :
    response.RespondsTo request := by
  cases h <;> constructor

theorem mistaken_description_iff {object property index propertyType : UInt8}
    {maxElements : UInt16} {access object' property' index' : UInt8} :
    Mistaken (propertyDescriptionResponse object property index propertyType maxElements access)
        (propertyDescriptionRead object' property' index') ↔
      object = object' ∧ if property' ≠ 0 then property ≠ property' else index ≠ index' := by
  constructor
  · intro h
    cases h with
    | property _ _ _ _ _ _ _ _ asked differs => exact ⟨rfl, by rwa [if_pos asked]⟩
    | index _ _ _ _ _ _ _ differs => exact ⟨rfl, differs⟩
  · rintro ⟨rfl, hdiffers⟩
    split at hdiffers
    · rename_i asked
      exact .property _ _ _ _ _ _ _ _ asked hdiffers
    · rename_i zero
      obtain rfl := Decidable.of_not_not zero
      exact .index _ _ _ _ _ _ _ hdiffers

theorem mistaken_domain_iff {domain domain' : UInt16} {address : IndividualAddress}
    {range : UInt8} :
    Mistaken (domainAddressResponse domain) (domainAddressSelectiveRead domain' address range) ↔
      domain ≠ domain' :=
  ⟨fun h => by cases h; assumption, .domain _ _ _ _⟩

theorem Mistaken.not_agrees {response request : Apdu} (h : response.Mistaken request) :
    ¬ response.Agrees request := by
  intro hagrees
  cases h with
  | property _ property index _ _ _ property' _ asked differs =>
    have hsame : Selector.property property = .property property' :=
      hagrees _ (by simp [selectors]) _ (by simp [selectors, asked]) trivial
    exact differs (Selector.property.inj hsame)
  | index _ _ index _ _ _ index' differs =>
    have hsame : Selector.index index = .index index' :=
      hagrees _ (by simp [selectors]) _ (by simp [selectors]) trivial
    exact differs (Selector.index.inj hsame)
  | domain domain domain' _ _ differs =>
    have hsame : Selector.domain domain = .domain domain' :=
      hagrees _ (by simp [selectors]) _ (by simp [selectors]) trivial
    exact differs (Selector.domain.inj hsame)

/-- Element ranges are the same as soon as they select the same. -/
theorem rangeSelectors_agree_iff {target target' : PropertyRange} :
    (∀ s ∈ rangeSelectors target, ∀ t ∈ rangeSelectors target', s.Comparable t → s = t) ↔
      target = target' := by
  cases target
  cases target'
  simp [rangeSelectors, Selector.Comparable]

/-- For each kind of answer, what is compared is what selects, or the answer is mistaken. -/
theorem RespondsTo.answers_iff {response request : Apdu} (h : response.RespondsTo request) :
    response.answers request = true ↔ response.Agrees request ∨ response.Mistaken request := by
  cases h with
  | description object property index _ _ _ object' property' index' =>
    rw [mistaken_description_iff]
    by_cases asked : property' = 0
    · simp [answers, Agrees, selectors, Selector.Comparable, asked, ← and_or_left, Decidable.em]
    · simp [answers, Agrees, selectors, Selector.Comparable, asked, ← and_or_left, Decidable.em]
  | selectedDomain domain domain' =>
    rw [mistaken_domain_iff]
    simp [answers, Agrees, selectors, Selector.Comparable, Decidable.em]
  | propertyRead target _ target' =>
    rw [or_iff_left nofun]
    simp only [answers, beq_iff_eq]
    exact rangeSelectors_agree_iff.symm
  | propertyWrite target _ target' =>
    rw [or_iff_left nofun]
    simp only [answers, beq_iff_eq]
    exact rangeSelectors_agree_iff.symm
  | _ =>
    rw [or_iff_left nofun]
    simp [answers, Agrees, selectors, Selector.Comparable, and_assoc]

/-- **What is taken for an answer** is of the kind that responds and selects the same as the
request, or it is one of the mistakes; and each of the mistakes is taken for an answer. -/
theorem answers_iff_agrees_or_mistaken (response request : Apdu) :
    (response.answers request = true ↔
      response.RespondsTo request ∧ response.Agrees request ∨ response.Mistaken request) ∧
    (response.answers request = true ∧ ¬ response.Agrees request ↔
      response.Mistaken request) := by
  have hanswers : response.answers request = true ↔
      response.RespondsTo request ∧ response.Agrees request ∨ response.Mistaken request := by
    constructor
    · intro h
      have hkind := respondsTo_of_answers h
      exact (hkind.answers_iff.mp h).imp (.intro hkind) id
    · rintro (⟨hkind, hagrees⟩ | hmistaken)
      · exact hkind.answers_iff.mpr (.inl hagrees)
      · exact hmistaken.respondsTo.answers_iff.mpr (.inr hmistaken)
  refine ⟨hanswers, fun ⟨h, hdiffers⟩ => ?_, fun h => ⟨hanswers.mpr (.inr h), h.not_agrees⟩⟩
  exact (hanswers.mp h).resolve_left fun ⟨_, hagrees⟩ => hdiffers hagrees

/-- The description of the name of an object, where its type was asked for, and the domain of
another installation, where one was selected: both are taken for the answer. -/
theorem answers_other_selection :
    (answers (propertyDescriptionResponse 1 2 0 4 1 0x33) (propertyDescriptionRead 1 1 0) = true ∧
      RespondsTo (propertyDescriptionResponse 1 2 0 4 1 0x33) (propertyDescriptionRead 1 1 0) ∧
      ¬ Agrees (propertyDescriptionResponse 1 2 0 4 1 0x33) (propertyDescriptionRead 1 1 0)) ∧
    (answers (domainAddressResponse 1) (domainAddressSelectiveRead 2 ⟨0x1101⟩ 5) = true ∧
      RespondsTo (domainAddressResponse 1) (domainAddressSelectiveRead 2 ⟨0x1101⟩ 5) ∧
      ¬ Agrees (domainAddressResponse 1) (domainAddressSelectiveRead 2 ⟨0x1101⟩ 5)) := by
  have hproperty : Mistaken (propertyDescriptionResponse 1 2 0 4 1 0x33)
      (propertyDescriptionRead 1 1 0) := .property _ _ _ _ _ _ _ _ (by decide) (by decide)
  have hdomain : Mistaken (domainAddressResponse 1)
      (domainAddressSelectiveRead 2 ⟨0x1101⟩ 5) := .domain _ _ _ _ (by decide)
  exact ⟨⟨rfl, hproperty.respondsTo, hproperty.not_agrees⟩,
    ⟨rfl, hdomain.respondsTo, hdomain.not_agrees⟩⟩

end Apdu
end KnxBus
