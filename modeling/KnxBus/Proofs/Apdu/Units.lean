import KnxBus.Proofs.Apdu.Fields

/-!
# Application layer units on the way and back

A unit can be written exactly if each of its fields has the size that there is room for
(`Apdu.refusal_eq_none_iff`).  What is written of a known unit is read as that unit
(`carries_of_writes`), and what is read as a known unit could have been written, with as many octets
as it was read from (`readFrom_of_decode`).

So reading and writing undo each other, except for what a unit does not keep: six bits of the first
octet, the low bits of the second where a service does not use them, the four octets of a range that
are reserved.  Writing sets all of these to what they are by default, and after that nothing changes
any more.  Octets that name no known service are kept as they are.
-/

namespace KnxBus
namespace Apdu

open Encoding

/-! ## What can be written -/

/-- Every field of a unit has the size that there is room for. -/
def Fits : Apdu → Prop
  | groupValueResponse value | groupValueWrite value => value.Fits
  | adcRead channel _ | adcResponse channel _ _ => channel ≤ 0x3f
  | memoryRead count _ => count ≤ 0x0f
  | memoryResponse _ data | memoryWrite _ data => data.length ≤ 0x0f
  | userMemoryRead extension count _ => extension ≤ 0x0f ∧ count ≤ 0x0f
  | userMemoryResponse extension _ data | userMemoryWrite extension _ data =>
    extension ≤ 0x0f ∧ data.length ≤ 0x0f
  | userMemoryBitWrite _ andMask xorMask | memoryBitWrite _ andMask xorMask =>
    andMask.length = xorMask.length ∧ andMask.length ≤ 255
  | deviceDescriptorRead descriptorType | deviceDescriptorResponse descriptorType _ =>
    descriptorType ≤ 0x3f
  | propertyValueRead target | propertyValueResponse target _ | propertyValueWrite target _ =>
    target.Fits
  | _ => True

/-- **Only a field that does not fit keeps a unit from being written.** -/
theorem refusal_eq_none_iff (u : Apdu) : u.encode.refusal = none ↔ u.Fits := by
  cases u <;> simp [encode, Fits]

/-! ## Which service is selected

Where the second octet of the head carries a field, its two highest bits alone say which service it
is. -/

section
variable {second : UInt8}

theorem decode_groupValueResponse (h : second &&& 0xc0 = 0x40) (rest : Octets) :
    decode (0x00 :: second :: rest) = .ok (.groupValueResponse (groupValueOf second rest)) := by
  rw [decode]
  unfold decodeFamily
  rw [h]
  rfl

theorem decode_groupValueWrite (h : second &&& 0xc0 = 0x80) (rest : Octets) :
    decode (0x00 :: second :: rest) = .ok (.groupValueWrite (groupValueOf second rest)) := by
  rw [decode]
  unfold decodeFamily
  rw [h]
  rfl

theorem decode_adcRead (h : second &&& 0xc0 = 0x80) (count : UInt8) :
    decode [0x01, second, count] = .ok (.adcRead (second &&& 0x3f) count) := by
  rw [decode]
  unfold decodeFamily
  rw [h]
  rfl

theorem decode_adcResponse (h : second &&& 0xc0 = 0xc0) (count hi lo : UInt8) :
    decode [0x01, second, count, hi, lo] =
      .ok (.adcResponse (second &&& 0x3f) count (Octets.word hi lo)) := by
  rw [decode]
  unfold decodeFamily
  rw [h]
  rfl

theorem decode_memoryRead (h : second &&& 0xc0 = 0x00) (hi lo : UInt8) :
    decode [0x02, second, hi, lo] = .ok (.memoryRead (second &&& 0x0f) (Octets.word hi lo)) := by
  rw [decode]
  unfold decodeFamily
  rw [h]
  rfl

theorem decode_memoryResponse (h : second &&& 0xc0 = 0x40) (rest : Octets) :
    decode (0x02 :: second :: rest) = countedMemory (second &&& 0x0f).toNat .memoryResponse rest := by
  rw [decode]
  unfold decodeFamily
  rw [h]
  rfl

theorem decode_memoryWrite (h : second &&& 0xc0 = 0x80) (rest : Octets) :
    decode (0x02 :: second :: rest) = countedMemory (second &&& 0x0f).toNat .memoryWrite rest := by
  rw [decode]
  unfold decodeFamily
  rw [h]
  rfl

theorem decode_deviceDescriptorRead (h : second &&& 0xc0 = 0x00) :
    decode [0x03, second] = .ok (.deviceDescriptorRead (second &&& 0x3f)) := by
  rw [decode]
  unfold decodeFamily
  rw [h]
  rfl

theorem decode_deviceDescriptorResponse (h : second &&& 0xc0 = 0x40) (hi lo : UInt8) :
    decode [0x03, second, hi, lo] =
      .ok (.deviceDescriptorResponse (second &&& 0x3f) (Octets.word hi lo)) := by
  rw [decode]
  unfold decodeFamily
  rw [h]
  rfl

end

/-! ## Reading what was written -/

/-- What the octets of a known unit have to do with it. -/
structure Carries (b : Octets) (u : Apdu) : Prop where
  /-- They are read as the unit. -/
  read : decode b = .ok u
  /-- They are as many as foreseen. -/
  length : b.length = u.encodedLength
  /-- Of the first octet only two bits are used. -/
  first : ∃ first rest, b = first :: rest ∧ first ≤ 3

section
variable {service second extension : UInt8} {address : UInt16} {data b : Octets}

theorem carries_groupValue {value : GroupValue} {unit : GroupValue → Apdu}
    (hservice : service ∈ services)
    (hselect : ∀ {second : UInt8}, second &&& 0xc0 = service → ∀ rest,
      decode (0x00 :: second :: rest) = .ok (unit (groupValueOf second rest)))
    (hlength : (unit value).encodedLength = 2 + value.behind.length)
    (h : (encodeGroupValue service value).Writes b) : Carries b (unit value) := by
  obtain ⟨hfits, rfl⟩ := writes_encodeGroupValue_iff.1 h
  refine ⟨?_, ?_, _, _, rfl, by decide⟩
  · rw [hselect (groupValue_selects hservice hfits), groupValueOf_beside hservice hfits]
  · rw [hlength, List.length_cons, List.length_cons, Nat.add_comm 2]

theorem carries_memory {unit : UInt16 → Octets → Apdu} (hservice : service ∈ services)
    (hselect : ∀ {second : UInt8}, second &&& 0xc0 = service → ∀ rest,
      decode (0x02 :: second :: rest) = countedMemory (second &&& 0x0f).toNat unit rest)
    (hlength : (unit address data).encodedLength = 4 + data.length)
    (h : (encodeMemory service address data).Writes b) : Carries b (unit address data) := by
  obtain ⟨hfits, rfl⟩ := writes_encodeMemory_iff.1 h
  obtain ⟨hle, hcount⟩ := ofNat_le_of_le hfits
  obtain ⟨hselected, hbits⟩ := fourBits_beside hservice hle
  refine ⟨?_, ?_, _, _, rfl, by decide⟩
  · rw [hselect hselected, hbits, hcount, countedMemory_ofWord]
  · simp only [List.length_cons, List.length_append, Octets.length_ofWord, hlength]
    omega

theorem carries_userMemory {unit : UInt8 → UInt16 → Octets → Apdu}
    (hselect : ∀ packed rest, decode (0x02 :: second :: packed :: rest) =
      countedMemory (packed &&& 0x0f).toNat (unit (packed >>> 4)) rest)
    (hlength : (unit extension address data).encodedLength = 5 + data.length)
    (h : (encodeUserMemory second extension address data).Writes b) :
    Carries b (unit extension address data) := by
  obtain ⟨⟨hextension, hfits⟩, rfl⟩ := writes_encodeUserMemory_iff.1 h
  obtain ⟨hle, hcount⟩ := ofNat_le_of_le hfits
  obtain ⟨hhigh, hlow, -⟩ := halves_packed hextension hle
  refine ⟨?_, ?_, _, _, rfl, by decide⟩
  · rw [hselect, hhigh, hlow, hcount, countedMemory_ofWord]
  · simp only [List.length_cons, List.length_append, Octets.length_ofWord, hlength]
    omega

theorem carries_bitMasks {first : UInt8} {andMask xorMask : Octets}
    {unit : UInt16 → Octets → Octets → Apdu} (hfirst : first ≤ 3)
    (hselect : ∀ rest, decode (first :: second :: rest) = bitMasks unit rest)
    (hlength : (unit address andMask xorMask).encodedLength = 5 + 2 * andMask.length)
    (h : (encodeBitMasks first second address andMask xorMask).Writes b) :
    Carries b (unit address andMask xorMask) := by
  obtain ⟨⟨heq, hle⟩, rfl⟩ := writes_encodeBitMasks_iff.1 h
  refine ⟨?_, ?_, _, _, rfl, hfirst⟩
  · rw [hselect, bitMasks_ofWord unit address heq hle]
  · simp only [List.length_cons, List.length_append, Octets.length_ofWord, hlength]
    omega

theorem carries_range {target : PropertyRange} {unit : PropertyRange → Octets → Apdu}
    (hselect : ∀ rest, decode (0x03 :: second :: rest) = rangeWithData unit rest)
    (hlength : (unit target data).encodedLength = 6 + data.length)
    (h : (head 0x03 second ++ encodeRange target ++ octets data).Writes b) :
    Carries b (unit target data) := by
  simp only [writes_append_iff, writes_head_iff, writes_encodeRange_iff, writes_octets_iff,
    exists_and_left, and_assoc, exists_eq_left, List.cons_append, List.nil_append] at h
  obtain ⟨hfits, rfl⟩ := h
  obtain ⟨hi, lo, hword, hrange⟩ := rangeOf_ofWord hfits
  rw [hword]
  refine ⟨?_, ?_, _, _, rfl, by decide⟩
  · rw [hselect]
    exact congrArg (fun target => Except.ok (unit target data)) hrange
  · simp only [List.length_cons, List.cons_append, List.nil_append, hlength]
    omega

theorem carries_propertyValueRead {target : PropertyRange}
    (h : (propertyValueRead target).encode.Writes b) : Carries b (propertyValueRead target) := by
  simp only [encode, writes_append_iff, writes_head_iff, writes_encodeRange_iff,
    exists_and_left, and_assoc, exists_eq_left, List.cons_append, List.nil_append] at h
  obtain ⟨hfits, rfl⟩ := h
  obtain ⟨hi, lo, hword, hrange⟩ := rangeOf_ofWord hfits
  rw [hword]
  exact ⟨congrArg (Except.ok ∘ propertyValueRead) hrange, rfl, _, _, rfl, by decide⟩

/-- A service with six bits beside it. -/
theorem carries_sixBits {first bits : UInt8} {rest : Octets} {u : Apdu} (hfirst : first ≤ 3)
    (hservice : service ∈ services) (hfits : bits ≤ 0x3f)
    (hselect : ∀ {second : UInt8}, second &&& 0xc0 = service → second &&& 0x3f = bits →
      decode (first :: second :: rest) = .ok u)
    (hlength : rest.length + 2 = u.encodedLength) :
    Carries (first :: (service ||| bits) :: rest) u := by
  obtain ⟨hselected, hbits⟩ := sixBits_beside hservice hfits
  exact ⟨hselect hselected hbits, hlength, _, _, rfl, hfirst⟩

theorem carries_adcRead {channel count : UInt8} (h : (adcRead channel count).encode.Writes b) :
    Carries b (adcRead channel count) := by
  simp only [encode, writes_append_iff, writes_sixBits_iff, writes_head_iff, writes_octet_iff,
    exists_and_left, and_assoc, exists_eq_left, List.cons_append, List.nil_append] at h
  obtain ⟨hfits, rfl⟩ := h
  refine carries_sixBits (by decide) (by decide) hfits (fun hselected hbits => ?_) rfl
  rw [decode_adcRead hselected, hbits]

theorem carries_adcResponse {channel count : UInt8} {value : UInt16}
    (h : (adcResponse channel count value).encode.Writes b) :
    Carries b (adcResponse channel count value) := by
  simp only [encode, writes_append_iff, writes_sixBits_iff, writes_head_iff, writes_octet_iff,
    writes_word_iff, exists_and_left, and_assoc, exists_eq_left, List.cons_append,
    List.nil_append] at h
  obtain ⟨hfits, rfl⟩ := h
  refine carries_sixBits (by decide) (by decide) hfits (fun hselected hbits => ?_) rfl
  rw [Octets.ofWord, decode_adcResponse hselected, hbits, Octets.word_ofWord]

theorem carries_deviceDescriptorRead {descriptorType : UInt8}
    (h : (deviceDescriptorRead descriptorType).encode.Writes b) :
    Carries b (deviceDescriptorRead descriptorType) := by
  simp only [encode, writes_append_iff, writes_sixBits_iff, writes_head_iff, exists_and_left,
    and_assoc, exists_eq_left, List.nil_append] at h
  obtain ⟨hfits, rfl⟩ := h
  have hcarries : Carries [0x03, 0x00 ||| descriptorType] (deviceDescriptorRead descriptorType) := by
    refine carries_sixBits (by decide) (by decide) hfits (fun hselected hbits => ?_) rfl
    rw [decode_deviceDescriptorRead hselected, hbits]
  rwa [UInt8.zero_or] at hcarries

theorem carries_deviceDescriptorResponse {descriptorType : UInt8} {descriptor : UInt16}
    (h : (deviceDescriptorResponse descriptorType descriptor).encode.Writes b) :
    Carries b (deviceDescriptorResponse descriptorType descriptor) := by
  simp only [encode, writes_append_iff, writes_sixBits_iff, writes_head_iff, writes_word_iff,
    exists_and_left, and_assoc, exists_eq_left, List.cons_append, List.nil_append] at h
  obtain ⟨hfits, rfl⟩ := h
  refine carries_sixBits (by decide) (by decide) hfits (fun hselected hbits => ?_) rfl
  rw [Octets.ofWord, decode_deviceDescriptorResponse hselected, hbits, Octets.word_ofWord]

theorem carries_memoryRead {count : UInt8} (h : (memoryRead count address).encode.Writes b) :
    Carries b (memoryRead count address) := by
  simp only [encode, writes_append_iff, writes_fourBits_iff, writes_head_iff, writes_word_iff,
    exists_and_left, and_assoc, exists_eq_left, List.cons_append, List.nil_append] at h
  obtain ⟨hfits, rfl⟩ := h
  obtain ⟨hselected, hbits⟩ := fourBits_beside (show (0x00 : UInt8) ∈ services by decide) hfits
  rw [UInt8.zero_or] at hselected hbits
  refine ⟨?_, rfl, _, _, rfl, by decide⟩
  rw [Octets.ofWord, decode_memoryRead hselected, hbits, Octets.word_ofWord]

theorem carries_userMemoryRead {count : UInt8}
    (h : (userMemoryRead extension count address).encode.Writes b) :
    Carries b (userMemoryRead extension count address) := by
  simp only [encode, writes_append_iff, writes_fourBits_iff, writes_head_iff, writes_octet_iff,
    writes_word_iff, exists_and_left, and_assoc, exists_eq_left, List.cons_append,
    List.nil_append, List.append_nil] at h
  obtain ⟨hextension, hcount, rfl⟩ := h
  obtain ⟨hhigh, hlow, -⟩ := halves_packed hextension hcount
  refine ⟨?_, rfl, _, _, rfl, by decide⟩
  exact Eq.trans (b := .ok _) rfl (by rw [hhigh, hlow, Octets.word_ofWord])

theorem carries_serviceInformation {verifyMode duplicateAddress applicationStopped : Bool}
    (h : (serviceInformation verifyMode duplicateAddress applicationStopped).encode.Writes b) :
    Carries b (serviceInformation verifyMode duplicateAddress applicationStopped) := by
  obtain ⟨hverify, hduplicate, hstopped⟩ :=
    informationBits_flags verifyMode duplicateAddress applicationStopped
  simp only [encode, writes_append_iff, writes_head_iff, writes_octets_iff, exists_and_left,
    exists_eq_left, List.cons_append, List.nil_append] at h
  subst h
  refine ⟨?_, rfl, _, _, rfl, by decide⟩
  exact Eq.trans (b := .ok _) rfl (by rw [hverify, hduplicate, hstopped])

end

/-- **What is written of a known unit is read as that unit.** -/
theorem carries_of_writes {u : Apdu} {b : Octets} (known : ∀ raw, u ≠ .unknown raw)
    (h : u.encode.Writes b) : Carries b u := by
  cases u with
  | unknown raw => exact absurd rfl (known raw)
  | groupValueResponse value =>
    exact carries_groupValue (by decide) decode_groupValueResponse (by cases value <;> rfl) h
  | groupValueWrite value =>
    exact carries_groupValue (by decide) decode_groupValueWrite (by cases value <;> rfl) h
  | adcRead => exact carries_adcRead h
  | adcResponse => exact carries_adcResponse h
  | memoryRead => exact carries_memoryRead h
  | memoryResponse => exact carries_memory (by decide) decode_memoryResponse rfl h
  | memoryWrite => exact carries_memory (by decide) decode_memoryWrite rfl h
  | userMemoryRead => exact carries_userMemoryRead h
  | userMemoryResponse => exact carries_userMemory (fun _ _ => rfl) rfl h
  | userMemoryWrite => exact carries_userMemory (fun _ _ => rfl) rfl h
  | userMemoryBitWrite => exact carries_bitMasks (by decide) (fun _ => rfl) rfl h
  | memoryBitWrite => exact carries_bitMasks (by decide) (fun _ => rfl) rfl h
  | deviceDescriptorRead => exact carries_deviceDescriptorRead h
  | deviceDescriptorResponse => exact carries_deviceDescriptorResponse h
  | propertyValueRead => exact carries_propertyValueRead h
  | propertyValueResponse => exact carries_range (fun _ => rfl) rfl h
  | propertyValueWrite => exact carries_range (fun _ => rfl) rfl h
  | serviceInformation => exact carries_serviceInformation h
  | _ =>
    -- every field has octets of its own
    simp only [encode, writes_append_iff, writes_head_iff, writes_octet_iff, writes_octets_iff,
      writes_word_iff, exists_and_left, exists_eq_left, List.cons_append, List.nil_append] at h
    subst h
    refine ⟨?_, rfl, _, _, rfl, by decide⟩
    exact Eq.trans (b := .ok _) rfl (by simp only [Octets.word_ofWord])

/-- What is written has the length that was foreseen. -/
theorem length_of_writes {u : Apdu} {b : Octets} (h : u.encode.Writes b) :
    b.length = u.encodedLength := by
  by_cases known : ∀ raw, u ≠ .unknown raw
  · exact (carries_of_writes known h).length
  · obtain ⟨raw, hraw⟩ := Classical.not_forall.1 known
    obtain rfl := Decidable.of_not_not hraw
    rw [writes_octets_iff.1 h]
    rfl

/-! ## Writing what was read -/

/-- What a unit has to do with the octets from which it was read. -/
structure ReadFrom (b : Octets) (u : Apdu) : Prop where
  /-- It could be written. -/
  fits : u.Fits
  /-- It would have as many octets. -/
  length : u.encodedLength = b.length
  /-- If it is not known, it is what was there. -/
  kept : ∀ raw, u = .unknown raw → raw = b

/-- A count of four bits. -/
theorem count_le (b : UInt8) : (b &&& 0x0f).toNat ≤ 0x0f :=
  UInt8.le_iff_toNat_le.1 (low_fits b).2.1

/-- Octets of which nothing is known are kept. -/
theorem readFrom_unknown (b : Octets) : ReadFrom b (.unknown b) :=
  ⟨trivial, rfl, fun _ h => (Apdu.unknown.inj h).symm⟩

theorem readFrom_user {first second : UInt8} {rest : Octets} {u : Apdu}
    (h : decodeUser first second rest = .ok u) : ReadFrom (first :: second :: rest) u := by
  unfold decodeUser at h
  split at h
  -- reading
  case h_1 =>
    split at h
    · cases h
      exact ⟨⟨(low_fits _).2.2, (low_fits _).2.1⟩, rfl, nofun⟩
    · cases h
  -- the response and writing
  case h_2 | h_3 =>
    split at h
    · obtain ⟨address, data, rfl, hcount, hlength⟩ := of_countedMemory h
      refine ⟨⟨(low_fits _).2.2, hcount ▸ count_le _⟩, ?_, nofun⟩
      simp only [encodedLength, List.length_cons, hlength]
      omega
    · cases h
  -- writing bits
  case h_4 =>
    obtain ⟨address, andMask, xorMask, rfl, hmasks, hlength⟩ := of_bitMasks h
    refine ⟨hmasks, ?_, nofun⟩
    simp only [encodedLength, List.length_cons, hlength]
    omega
  -- the manufacturer
  case h_5 | h_6 =>
    split at h <;> cases h
    exact ⟨trivial, rfl, nofun⟩
  case h_7 =>
    cases h
    exact readFrom_unknown _

theorem readFrom_management {first second : UInt8} {rest : Octets} {u : Apdu}
    (h : decodeManagement first second rest = .ok u) : ReadFrom (first :: second :: rest) u := by
  unfold decodeManagement at h
  split at h
  -- writing bits
  case h_1 =>
    obtain ⟨address, andMask, xorMask, rfl, hmasks, hlength⟩ := of_bitMasks h
    refine ⟨hmasks, ?_, nofun⟩
    simp only [encodedLength, List.length_cons, hlength]
    omega
  -- reading a property
  case h_6 =>
    split at h <;> cases h
    exact ⟨rangeOf_fits _ _ _ _, rfl, nofun⟩
  -- the response and writing
  case h_7 | h_8 =>
    obtain ⟨target, data, rfl, hfits, hlength⟩ := of_rangeWithData h
    refine ⟨hfits, ?_, nofun⟩
    simp only [encodedLength, List.length_cons, hlength]
    omega
  case h_19 =>
    cases h
    exact readFrom_unknown _
  -- everything else has a fixed length, and every field has octets of its own
  all_goals
    split at h <;> cases h
    exact ⟨trivial, rfl, nofun⟩

theorem readFrom_family {first second : UInt8} {rest : Octets} {u : Apdu}
    (h : decodeFamily first second rest = .ok u) : ReadFrom (first :: second :: rest) u := by
  unfold decodeFamily at h
  split at h
  -- group values
  case h_2 | h_3 =>
    cases h
    refine ⟨groupValueOf_fits _ _, ?_, nofun⟩
    cases rest with
    | nil => rfl
    | cons b rest => exact Nat.add_comm 2 _
  -- six bits of the second octet
  case h_7 | h_8 | h_13 | h_14 =>
    split at h <;> cases h
    exact ⟨(low_fits _).1, rfl, nofun⟩
  -- four of them
  case h_9 =>
    split at h <;> cases h
    exact ⟨(low_fits _).2.1, rfl, nofun⟩
  case h_10 | h_11 =>
    obtain ⟨address, data, rfl, hcount, hlength⟩ := of_countedMemory h
    refine ⟨Nat.le_trans (Nat.le_of_eq hcount) (count_le _), ?_, nofun⟩
    simp only [encodedLength, List.length_cons, hlength]
    omega
  case h_12 => exact readFrom_user h
  case h_16 => exact readFrom_management h
  -- none
  all_goals
    split at h <;> cases h
    exact ⟨trivial, rfl, nofun⟩

/-- **What is read could be written, with as many octets.** -/
theorem readFrom_of_decode {b : Octets} {u : Apdu} (h : decode b = .ok u) : ReadFrom b u := by
  unfold decode at h
  split at h
  · exact readFrom_family h
  · cases h

/-! ## There and back -/

/-- The buffer for a unit is never too small. -/
theorem toOctets_eq_ok_iff {u : Apdu} {b : Octets} : u.toOctets = .ok b ↔ u.encode.Writes b := by
  rw [toOctets, Encoding.toOctets_eq_ok_iff]
  exact and_iff_left_of_imp fun h => Nat.le_of_eq (length_of_writes h)

/-- A unit has octets exactly if it fits. -/
theorem exists_octets_iff {u : Apdu} : (∃ b, u.toOctets = .ok b) ↔ u.Fits := by
  simp only [toOctets_eq_ok_iff, exists_writes_iff, refusal_eq_none_iff]

/-- What was read of some octets is read of what is then written. -/
theorem decode_of_rewritten {b b' : Octets} {u : Apdu} (h : decode b = .ok u)
    (hwritten : u.toOctets = .ok b') :
    decode b' = .ok u ∧ ∀ raw, u = .unknown raw → b' = b := by
  have hwrites := toOctets_eq_ok_iff.1 hwritten
  by_cases known : ∀ raw, u ≠ .unknown raw
  · exact ⟨(carries_of_writes known hwrites).read, fun raw hraw => absurd hraw (known raw)⟩
  · obtain ⟨raw, hraw⟩ := Classical.not_forall.1 known
    obtain rfl := Decidable.of_not_not hraw
    have hkept : b' = b := (writes_octets_iff.1 hwrites).trans ((readFrom_of_decode h).kept raw rfl)
    exact ⟨hkept ▸ h, fun _ _ => hkept⟩

/-- **Units come back as they were written, and settle when they are read.**

A known unit that has octets is read back from them, and the first of them is at most three.
Conversely, whatever is read has octets, as many as it was read from, from which the same is read
again; and if it is not known, they are those that were there. -/
theorem units_settle :
    (∀ u : Apdu, (∀ raw, u ≠ .unknown raw) → ∀ b, u.toOctets = .ok b →
      decode b = .ok u ∧ ∃ first rest, b = first :: rest ∧ first ≤ 3) ∧
    ∀ (b : Octets) (u : Apdu), decode b = .ok u →
      ∃ b', u.toOctets = .ok b' ∧ b'.length = b.length ∧ decode b' = .ok u ∧
        ∀ raw, u = .unknown raw → b' = b := by
  constructor
  · intro u known b hb
    obtain ⟨hread, -, hfirst⟩ := carries_of_writes known (toOctets_eq_ok_iff.1 hb)
    exact ⟨hread, hfirst⟩
  · intro b u hread
    obtain ⟨hfits, hlength, -⟩ := readFrom_of_decode hread
    obtain ⟨b', hwritten⟩ := exists_octets_iff.2 hfits
    have hwrites := toOctets_eq_ok_iff.1 hwritten
    exact ⟨b', hwritten, (length_of_writes hwrites).trans hlength,
      decode_of_rewritten hread hwritten⟩

/-- A command to write six bits to a group is read back.  With other bits beside it, it is read as
the same command, and written without them. -/
theorem units_settle_groupValueWrite :
    let u : Apdu := .groupValueWrite (.small 0x01)
    let b : Octets := [0x00, 0x81]
    let b' : Octets := [0xfc, 0x81]
    (decode b = .ok u ∧ ∃ first rest, b = first :: rest ∧ first ≤ 3) ∧
      ∃ b'', u.toOctets = .ok b'' ∧ b''.length = b'.length ∧ decode b'' = .ok u ∧
        ∀ raw, u = .unknown raw → b'' = b' := by
  intro u b b'
  have hfits : (0x01 : UInt8) ≤ 0x3f := by decide
  have hwritten : u.toOctets = .ok b :=
    toOctets_eq_ok_iff.2 (writes_encodeGroupValue_iff.2 ⟨hfits, rfl⟩)
  exact ⟨units_settle.1 u nofun b hwritten, units_settle.2 b' u rfl⟩

end Apdu
end KnxBus
