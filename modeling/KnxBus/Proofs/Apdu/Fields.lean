import KnxBus.Apdu.Decode
import KnxBus.Apdu.Encode
import KnxBus.Proofs.Encoding
import KnxBus.Proofs.Octets

/-!
# The fields of application layer units

A few kinds of field come back in several services: a group value, a memory address with counted
data, two masks of equal length, a range of elements.  For each of them there is what its encoder
writes, as an equivalence that also says which values it can write, and the fact that the decoder
takes apart what was written.

Where a field shares an octet with something else, the facts are about one octet with few free bits
and are checked for all of them.
-/

namespace KnxBus

/-- A group value has the form in which it would be read: six bits, or octets that are there. -/
def GroupValue.Fits : GroupValue → Prop
  | .small bits => bits ≤ 0x3f
  | .long data => data ≠ []

/-- The part of a group value that stands beside the service. -/
def GroupValue.beside : GroupValue → UInt8
  | .small bits => bits
  | .long _ => 0

/-- The part of a group value that stands behind the service. -/
def GroupValue.behind : GroupValue → Octets
  | .small _ => []
  | .long data => data

/-- Count and start of a range have room for their four and twelve bits. -/
def PropertyRange.Fits (target : PropertyRange) : Prop :=
  target.start ≤ 0x0fff ∧ target.count ≤ 0x0f

namespace Apdu

open Encoding

/-! ## Fields that share an octet -/

/-- The four patterns of the two highest bits that tell services apart. -/
def services : List UInt8 := [0x00, 0x40, 0x80, 0xc0]

private theorem serviceTable : ∀ service ∈ services, ∀ n : Fin 64,
    (service ||| UInt8.ofNat n.val) &&& 0xc0 = service ∧
      (service ||| UInt8.ofNat n.val) &&& 0x3f = UInt8.ofNat n.val := by
  decide +kernel

/-- Six bits beside a service leave it as it is, and are found there. -/
theorem sixBits_beside {service bits : UInt8} (hservice : service ∈ services) (h : bits ≤ 0x3f) :
    (service ||| bits) &&& 0xc0 = service ∧ (service ||| bits) &&& 0x3f = bits := by
  obtain ⟨n, rfl⟩ := Octets.exists_fin_of_lt
    (show bits.toNat < 64 from Nat.lt_succ_of_le (UInt8.le_iff_toNat_le.1 h))
  exact serviceTable service hservice n

private theorem countTable : ∀ service ∈ services, ∀ n : Fin 16,
    (service ||| UInt8.ofNat n.val) &&& 0xc0 = service ∧
      (service ||| UInt8.ofNat n.val) &&& 0x0f = UInt8.ofNat n.val := by
  decide +kernel

/-- So do four bits. -/
theorem fourBits_beside {service bits : UInt8} (hservice : service ∈ services)
    (h : bits ≤ 0x0f) :
    (service ||| bits) &&& 0xc0 = service ∧ (service ||| bits) &&& 0x0f = bits := by
  obtain ⟨n, rfl⟩ := Octets.exists_fin_of_lt
    (show bits.toNat < 16 from Nat.lt_succ_of_le (UInt8.le_iff_toNat_le.1 h))
  exact countTable service hservice n

private theorem halvesTable : ∀ high low : Fin 16,
    let packed := UInt8.ofNat high.val <<< 4 ||| UInt8.ofNat low.val
    packed >>> 4 = UInt8.ofNat high.val ∧ packed &&& 0x0f = UInt8.ofNat low.val ∧
      UInt8.ofNat (high.val * 16 + low.val) = packed := by
  decide +kernel

/-- Two halves of an octet are found where they were put; as a number the octet is what they make
together. -/
theorem halves_packed {high low : UInt8} (hhigh : high ≤ 0x0f) (hlow : low ≤ 0x0f) :
    (high <<< 4 ||| low) >>> 4 = high ∧ (high <<< 4 ||| low) &&& 0x0f = low ∧
      UInt8.ofNat (high.toNat * 16 + low.toNat) = high <<< 4 ||| low := by
  have hhigh : high.toNat < 16 := Nat.lt_succ_of_le (UInt8.le_iff_toNat_le.1 hhigh)
  have hlow : low.toNat < 16 := Nat.lt_succ_of_le (UInt8.le_iff_toNat_le.1 hlow)
  have htable := halvesTable ⟨high.toNat, hhigh⟩ ⟨low.toNat, hlow⟩
  simpa only [UInt8.ofNat_toNat] using htable

/-- A number of octets that fits into four bits. -/
theorem ofNat_le_of_le {n : Nat} (h : n ≤ 0x0f) :
    UInt8.ofNat n ≤ 0x0f ∧ (UInt8.ofNat n).toNat = n := by
  have htoNat : (UInt8.ofNat n).toNat = n := by
    rw [UInt8.toNat_ofNat']
    omega
  refine ⟨UInt8.le_iff_toNat_le.2 ?_, htoNat⟩
  rw [htoNat]
  exact h

/-- The three flags of a service information are found in its octet. -/
theorem informationBits_flags (verifyMode duplicateAddress applicationStopped : Bool) :
    let info := informationBits verifyMode duplicateAddress applicationStopped
    (info &&& 0x04 != 0) = verifyMode ∧ (info &&& 0x02 != 0) = duplicateAddress ∧
      (info &&& 0x01 != 0) = applicationStopped := by
  cases verifyMode <;> cases duplicateAddress <;> cases applicationStopped <;> decide

/-! ## What is refused -/

@[simp] theorem refusal_head (first second : UInt8) : (head first second).refusal = none := rfl

@[simp] theorem refusal_sixBits_iff {v : UInt8} : (sixBits v).refusal = none ↔ v ≤ 0x3f := by
  simp [sixBits]

@[simp] theorem refusal_fourBits_iff {v : UInt8} : (fourBits v).refusal = none ↔ v ≤ 0x0f := by
  simp [fourBits]

@[simp] theorem refusal_countable_iff {data : Octets} :
    (countable data).refusal = none ↔ data.length ≤ 0x0f := by
  simp [countable]

@[simp] theorem refusal_encodeGroupValue_iff {service : UInt8} {value : GroupValue} :
    (encodeGroupValue service value).refusal = none ↔ value.Fits := by
  cases value <;> simp [encodeGroupValue, GroupValue.Fits]

@[simp] theorem refusal_encodeMemory_iff {service : UInt8} {address : UInt16} {data : Octets} :
    (encodeMemory service address data).refusal = none ↔ data.length ≤ 0x0f := by
  simp [encodeMemory]

@[simp] theorem refusal_encodeUserMemory_iff {second extension : UInt8} {address : UInt16}
    {data : Octets} : (encodeUserMemory second extension address data).refusal = none ↔
      extension ≤ 0x0f ∧ data.length ≤ 0x0f := by
  simp [encodeUserMemory]

@[simp] theorem refusal_encodeBitMasks_iff {first second : UInt8} {address : UInt16}
    {andMask xorMask : Octets} :
    (encodeBitMasks first second address andMask xorMask).refusal = none ↔
      andMask.length = xorMask.length ∧ andMask.length ≤ 255 := by
  simp [encodeBitMasks]

@[simp] theorem refusal_encodeRange_iff {target : PropertyRange} :
    (encodeRange target).refusal = none ↔ target.Fits := by
  simp [encodeRange, PropertyRange.Fits]

/-! ## What is written -/

theorem writes_head_iff {first second : UInt8} {z : Octets} :
    (head first second).Writes z ↔ z = [first, second] := by
  simp only [head, writes_append_iff, writes_octet_iff, exists_eq_left, exists_and_left,
    List.cons_append, List.nil_append]

theorem writes_sixBits_iff {v : UInt8} {z : Octets} :
    (sixBits v).Writes z ↔ v ≤ 0x3f ∧ z = [] := by
  rw [sixBits, writes_require_iff, decide_eq_true_iff]

theorem writes_fourBits_iff {v : UInt8} {z : Octets} :
    (fourBits v).Writes z ↔ v ≤ 0x0f ∧ z = [] := by
  rw [fourBits, writes_require_iff, decide_eq_true_iff]

theorem writes_countable_iff {data z : Octets} :
    (countable data).Writes z ↔ data.length ≤ 0x0f ∧ z = [] := by
  rw [countable, writes_require_iff, decide_eq_true_iff]

theorem writes_encodeGroupValue_iff {service : UInt8} {value : GroupValue} {z : Octets} :
    (encodeGroupValue service value).Writes z ↔
      value.Fits ∧ z = 0x00 :: (service ||| value.beside) :: value.behind := by
  cases value with
  | small bits =>
    simp only [encodeGroupValue, writes_append_iff, writes_sixBits_iff, writes_head_iff,
      GroupValue.Fits, GroupValue.beside, GroupValue.behind, exists_and_left, and_assoc,
      exists_eq_left, List.nil_append]
  | long data =>
    simp only [encodeGroupValue, writes_append_iff, writes_require_iff, writes_head_iff,
      writes_octets_iff, GroupValue.Fits, GroupValue.beside, GroupValue.behind, exists_and_left,
      and_assoc, exists_eq_left, List.nil_append, List.cons_append, UInt8.or_zero,
      Bool.not_eq_true', List.isEmpty_eq_false_iff]

theorem writes_encodeMemory_iff {service : UInt8} {address : UInt16} {data z : Octets} :
    (encodeMemory service address data).Writes z ↔ data.length ≤ 0x0f ∧
      z = 0x02 :: (service ||| UInt8.ofNat data.length) :: (Octets.ofWord address ++ data) := by
  simp only [encodeMemory, writes_append_iff, writes_countable_iff, writes_head_iff,
    writes_word_iff, writes_octets_iff, exists_and_left, and_assoc, exists_eq_left,
    List.nil_append, List.cons_append]

theorem writes_encodeUserMemory_iff {second extension : UInt8} {address : UInt16}
    {data z : Octets} :
    (encodeUserMemory second extension address data).Writes z ↔
      (extension ≤ 0x0f ∧ data.length ≤ 0x0f) ∧
        z = 0x02 :: second :: (extension <<< 4 ||| UInt8.ofNat data.length) ::
          (Octets.ofWord address ++ data) := by
  simp only [encodeUserMemory, writes_append_iff, writes_countable_iff, writes_fourBits_iff,
    writes_head_iff, writes_octet_iff, writes_word_iff, writes_octets_iff, exists_and_left,
    and_assoc, exists_eq_left, List.nil_append, List.cons_append, List.append_nil]

theorem writes_encodeBitMasks_iff {first second : UInt8} {address : UInt16}
    {andMask xorMask z : Octets} :
    (encodeBitMasks first second address andMask xorMask).Writes z ↔
      (andMask.length = xorMask.length ∧ andMask.length ≤ 255) ∧
        z = first :: second :: UInt8.ofNat andMask.length ::
          (Octets.ofWord address ++ (andMask ++ xorMask)) := by
  simp only [encodeBitMasks, writes_append_iff, writes_require_iff, writes_head_iff,
    writes_octet_iff, writes_word_iff, writes_octets_iff, exists_and_left, and_assoc,
    exists_eq_left, Bool.and_eq_true, beq_iff_eq, decide_eq_true_iff, List.nil_append,
    List.cons_append, List.append_assoc]

theorem writes_encodeRange_iff {target : PropertyRange} {z : Octets} :
    (encodeRange target).Writes z ↔ target.Fits ∧
      z = target.object :: target.property ::
        Octets.ofWord (UInt16.ofNat (target.count.toNat * 4096 + target.start.toNat)) := by
  simp only [encodeRange, writes_append_iff, writes_require_iff, writes_fourBits_iff,
    writes_octet_iff, writes_word_iff, exists_and_left, and_assoc, exists_eq_left,
    decide_eq_true_iff, PropertyRange.Fits, List.nil_append, List.cons_append, List.append_nil]

/-! ## What was written is taken apart -/

/-- A group value beside a service leaves it as it is. -/
theorem groupValue_selects {service : UInt8} {value : GroupValue}
    (hservice : service ∈ services) (h : value.Fits) :
    (service ||| value.beside) &&& 0xc0 = service := by
  cases value with
  | small bits => exact (sixBits_beside hservice h).1
  | long data => exact (sixBits_beside hservice (by decide : (0 : UInt8) ≤ 0x3f)).1

theorem groupValueOf_beside {service : UInt8} {value : GroupValue} (hservice : service ∈ services)
    (h : value.Fits) : groupValueOf (service ||| value.beside) value.behind = value := by
  cases value with
  | small bits => exact congrArg GroupValue.small (sixBits_beside hservice h).2
  | long data =>
    cases data with
    | nil => exact absurd rfl h
    | cons b data => rfl

theorem countedMemory_ofWord (unit : UInt16 → Octets → Apdu) (address : UInt16) (data : Octets) :
    countedMemory data.length unit (Octets.ofWord address ++ data) = .ok (unit address data) := by
  simp only [Octets.ofWord, List.cons_append, List.nil_append, countedMemory, Octets.word_ofWord,
    if_true]

theorem bitMasks_ofWord (unit : UInt16 → Octets → Octets → Apdu) (address : UInt16)
    {andMask xorMask : Octets} (heq : andMask.length = xorMask.length)
    (hle : andMask.length ≤ 255) :
    bitMasks unit (UInt8.ofNat andMask.length :: (Octets.ofWord address ++ (andMask ++ xorMask))) =
      .ok (unit address andMask xorMask) := by
  have hcount : (UInt8.ofNat andMask.length).toNat = andMask.length := by
    rw [UInt8.toNat_ofNat']
    omega
  have hlength : (andMask ++ xorMask).length = andMask.length * 2 := by
    rw [List.length_append]
    omega
  simp only [Octets.ofWord, List.cons_append, List.nil_append, bitMasks, hcount, hlength,
    Octets.word_ofWord, List.take_left, List.drop_left, if_true]

/-- A range of elements is found in its four octets. -/
theorem rangeOf_ofWord {target : PropertyRange} (h : target.Fits) :
    ∃ hi lo,
      Octets.ofWord (UInt16.ofNat (target.count.toNat * 4096 + target.start.toNat)) = [hi, lo] ∧
        rangeOf target.object target.property hi lo = target := by
  obtain ⟨hstart, hcount⟩ := h
  have hstart : target.start.toNat ≤ 4095 := UInt16.le_iff_toNat_le.1 hstart
  have hcount' : target.count.toNat ≤ 15 := UInt8.le_iff_toNat_le.1 hcount
  obtain ⟨hle, htoNat⟩ := ofNat_le_of_le (show target.start.toNat / 256 ≤ 0x0f by omega)
  obtain ⟨hhigh, hlow, hpacked⟩ := halves_packed hcount hle
  rw [htoNat] at hpacked
  have hword : (UInt16.ofNat (target.count.toNat * 4096 + target.start.toNat)).toNat =
      target.count.toNat * 4096 + target.start.toNat := by
    rw [UInt16.toNat_ofNat']
    omega
  have hdiv : (target.count.toNat * 4096 + target.start.toNat) / 256 =
      target.count.toNat * 16 + target.start.toNat / 256 := by omega
  have hmod : (target.count.toNat * 4096 + target.start.toNat) % 256 =
      target.start.toNat % 256 := by omega
  refine ⟨_, _, rfl, ?_⟩
  rw [hword, hdiv, hmod, hpacked, rangeOf, hhigh, hlow, Octets.word_ofWord]

/-! ## What was read could be written -/

theorem low_fits : ∀ b : UInt8, b &&& 0x3f ≤ 0x3f ∧ b &&& 0x0f ≤ 0x0f ∧ b >>> 4 ≤ 0x0f :=
  Octets.forall_octet (by decide +kernel)

theorem groupValueOf_fits (second : UInt8) (rest : Octets) : (groupValueOf second rest).Fits := by
  cases rest with
  | nil => exact (low_fits second).1
  | cons b rest => exact List.cons_ne_nil b rest

theorem rangeOf_fits (object property hi lo : UInt8) : (rangeOf object property hi lo).Fits := by
  refine ⟨UInt16.le_iff_toNat_le.2 ?_, (low_fits hi).2.2⟩
  have hhi : (hi &&& 0x0f).toNat ≤ 15 := UInt8.le_iff_toNat_le.1 (low_fits hi).2.1
  have hlo := lo.toNat_lt
  change (Octets.word (hi &&& 0x0f) lo).toNat ≤ 4095
  rw [Octets.toNat_word]
  omega

/-- Counted data have the announced length. -/
theorem of_countedMemory {declared : Nat} {unit : UInt16 → Octets → Apdu} {rest : Octets}
    {u : Apdu} (h : countedMemory declared unit rest = .ok u) :
    ∃ address data, u = unit address data ∧ data.length = declared ∧
      rest.length = 2 + data.length := by
  unfold countedMemory at h
  split at h
  · split at h
    · cases h
      exact ⟨_, _, rfl, ‹_›, by simp only [List.length_cons]; omega⟩
    · cases h
  · cases h

/-- The two masks have equal length. -/
theorem of_bitMasks {unit : UInt16 → Octets → Octets → Apdu} {rest : Octets} {u : Apdu}
    (h : bitMasks unit rest = .ok u) :
    ∃ address andMask xorMask, u = unit address andMask xorMask ∧
      (andMask.length = xorMask.length ∧ andMask.length ≤ 255) ∧
        rest.length = 3 + 2 * andMask.length := by
  unfold bitMasks at h
  split at h
  · rename_i count hi lo masks
    have hcount := count.toNat_lt
    split at h
    · rename_i hlength
      cases h
      refine ⟨_, _, _, rfl, ⟨?_, ?_⟩, ?_⟩ <;>
        simp only [List.length_take, List.length_drop, List.length_cons] <;> omega
    · cases h
  · cases h

/-- A range with data behind it. -/
theorem of_rangeWithData {unit : PropertyRange → Octets → Apdu} {rest : Octets} {u : Apdu}
    (h : rangeWithData unit rest = .ok u) :
    ∃ target data, u = unit target data ∧ target.Fits ∧ rest.length = 4 + data.length := by
  unfold rangeWithData at h
  split at h
  · cases h
    exact ⟨_, _, rfl, rangeOf_fits _ _ _ _, by simp only [List.length_cons]; omega⟩
  · cases h

end Apdu
end KnxBus
