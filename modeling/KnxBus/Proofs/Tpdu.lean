import KnxBus.Proofs.Encoding
import KnxBus.Proofs.Octets
import KnxBus.Tpdu
import Mathlib.Tactic.SplitIfs

/-!
# Transport layer units on the wire and back

A unit that can be written can be read back.  Nothing is lost but what the transport layer has no
room for: of the first octet of application layer data only the two low bits travel, the others are
where the transport layer has its own (`Tpdu.masked`).  An unknown unit is excepted; it is written
as it stands, and its octets may name another unit.

In the other direction nothing is lost at all.  Whatever octets arrive, they are read as a unit, if
need be as an unknown one, and that unit is written as the octets that it was read from
(`Tpdu.toOctets_decodeLossy`).  No two octet strings are therefore read as the same unit.

The transport bits are six bits beside two, so the facts about them are finitely many.  They are
stated for all sequence numbers and for all pairs of low bits and checked one by one; what is said
of a first octet that was read is checked for all octets.
-/

namespace KnxBus
namespace Tpdu

/-! ## What travels -/

/-- Application layer octets as they travel: of the first one only the two low bits are left. -/
def masked : Octets → Octets
  | [] => []
  | first :: rest => (first &&& 0x03) :: rest

/-- A unit as it travels. -/
def travelling : Tpdu → Tpdu
  | dataUnnumbered apdu => dataUnnumbered (masked apdu)
  | dataConnected sequence apdu => dataConnected sequence (masked apdu)
  | unit => unit

/-! ## The bits of the first octet -/

set_option maxRecDepth 4000 in
private theorem dataTable : ∀ (n : Fin 16) (a : Fin 4),
    let first := numbered 0x40 (UInt8.ofNat n.val) ||| UInt8.ofNat a.val
    first &&& 0xfc ≠ 0 ∧ first ≠ 0x80 ∧ first ≠ 0x81 ∧ first &&& 0xc3 ≠ 0xc2 ∧
      first &&& 0xc3 ≠ 0xc3 ∧ first &&& 0xc0 = 0x40 ∧
      (first >>> 2) &&& 0x0f = UInt8.ofNat n.val ∧ first &&& 0x03 = UInt8.ofNat a.val := by
  decide

private theorem lowTable : ∀ a : Fin 4,
    (0x00 ||| UInt8.ofNat a.val) &&& 0xfc = 0 ∧ 0x00 ||| UInt8.ofNat a.val = UInt8.ofNat a.val := by
  decide

set_option maxRecDepth 4000 in
private theorem answerTable : ∀ n : Fin 16,
    let yes := numbered 0xc2 (UInt8.ofNat n.val)
    let no := numbered 0xc3 (UInt8.ofNat n.val)
    (yes &&& 0xfc ≠ 0 ∧ yes ≠ 0x80 ∧ yes ≠ 0x81 ∧ yes &&& 0xc3 = 0xc2 ∧
      (yes >>> 2) &&& 0x0f = UInt8.ofNat n.val) ∧
    no &&& 0xfc ≠ 0 ∧ no ≠ 0x80 ∧ no ≠ 0x81 ∧ no &&& 0xc3 ≠ 0xc2 ∧ no &&& 0xc3 = 0xc3 ∧
      (no >>> 2) &&& 0x0f = UInt8.ofNat n.val := by
  decide

private theorem exists_fin_of_le {s : UInt8} (h : s ≤ 0x0f) :
    ∃ n : Fin 16, s = UInt8.ofNat n.val :=
  Octets.exists_fin_of_lt (Nat.lt_succ_of_le (UInt8.le_iff_toNat_le.1 h))

private theorem exists_fin_and_three (b : UInt8) : ∃ a : Fin 4, b &&& 0x03 = UInt8.ofNat a.val := by
  have hmod : (b &&& 0x03).toNat = b.toNat % 4 := by
    rw [UInt8.toNat_and]
    exact Nat.and_two_pow_sub_one_eq_mod b.toNat 2
  have hlt : (b &&& 0x03).toNat < 4 := by
    rw [hmod]
    exact Nat.mod_lt _ (by decide)
  exact Octets.exists_fin_of_lt hlt

/-! ## Reading what was written -/

theorem decode_numbered_data {s : UInt8} (h : s ≤ 0x0f) (first : UInt8) (rest : Octets) :
    decode ((numbered 0x40 s ||| (first &&& 0x03)) :: rest) =
      .ok (dataConnected s ((first &&& 0x03) :: rest)) := by
  obtain ⟨n, rfl⟩ := exists_fin_of_le h
  obtain ⟨a, ha⟩ := exists_fin_and_three first
  obtain ⟨h1, h2, h3, h4, h5, h6, h7, h8⟩ := dataTable n a
  rw [ha, decode, if_neg h1, if_neg h2, if_neg h3, if_neg h4, if_neg h5, if_pos h6, h7, h8]

theorem decode_unnumbered_data (first : UInt8) (rest : Octets) :
    decode ((0x00 ||| (first &&& 0x03)) :: rest) =
      .ok (dataUnnumbered ((first &&& 0x03) :: rest)) := by
  obtain ⟨a, ha⟩ := exists_fin_and_three first
  obtain ⟨h1, h2⟩ := lowTable a
  rw [ha, decode, if_pos h1, h2]

theorem decode_ack {s : UInt8} (h : s ≤ 0x0f) : decode [numbered 0xc2 s] = .ok (ack s) := by
  obtain ⟨n, rfl⟩ := exists_fin_of_le h
  obtain ⟨⟨h1, h2, h3, h4, h5⟩, -⟩ := answerTable n
  rw [decode, if_neg h1, if_neg h2, if_neg h3, if_pos h4, h5, alone]

theorem decode_nack {s : UInt8} (h : s ≤ 0x0f) : decode [numbered 0xc3 s] = .ok (nack s) := by
  obtain ⟨n, rfl⟩ := exists_fin_of_le h
  obtain ⟨-, h1, h2, h3, h4, h5, h6⟩ := answerTable n
  rw [decode, if_neg h1, if_neg h2, if_neg h3, if_neg h4, if_pos h5, h6, alone]

theorem writes_encodeData_iff {control : UInt8} {apdu b : Octets} :
    (encodeData control apdu).Writes b ↔
      ∃ first rest, apdu = first :: rest ∧ b = (control ||| (first &&& 0x03)) :: rest := by
  cases apdu with
  | nil => simp [encodeData, Encoding.not_writes_refuse]
  | cons first rest =>
    rw [encodeData, Encoding.writes_append_iff]
    constructor
    · rintro ⟨x, y, hx, hy, rfl⟩
      rw [Encoding.writes_octet_iff.1 hx, Encoding.writes_octets_iff.1 hy]
      exact ⟨first, rest, rfl, rfl⟩
    · rintro ⟨first', rest', hcons, rfl⟩
      obtain ⟨rfl, rfl⟩ := List.cons.inj hcons
      exact ⟨_, _, Encoding.writes_octet_iff.2 rfl, Encoding.writes_octets_iff.2 rfl, rfl⟩

theorem writes_fourBitSequence_iff {s : UInt8} {b : Octets} :
    (fourBitSequence s).Writes b ↔ s ≤ 0x0f ∧ b = [] := by
  rw [fourBitSequence, Encoding.writes_require_iff, decide_eq_true_iff]

/-- **A unit that was written is read back** as it travels, unless it is an unknown one. -/
theorem decode_of_toOctets {unit : Tpdu} {b : Octets} (h : unit.toOctets = .ok b)
    (hknown : ∀ raw, unit ≠ unknown raw) : decode b = .ok unit.travelling := by
  have hw : unit.encode.Writes b := (Encoding.toOctets_eq_ok_iff.1 h).1
  cases unit with
  | dataUnnumbered apdu =>
    obtain ⟨first, rest, rfl, rfl⟩ := writes_encodeData_iff.1 hw
    exact decode_unnumbered_data first rest
  | dataConnected s apdu =>
    obtain ⟨x, y, hx, hy, rfl⟩ := Encoding.writes_append_iff.1 hw
    obtain ⟨hs, rfl⟩ := writes_fourBitSequence_iff.1 hx
    obtain ⟨first, rest, rfl, rfl⟩ := writes_encodeData_iff.1 hy
    exact decode_numbered_data hs first rest
  | connect =>
    rw [Encoding.writes_octet_iff.1 hw]
    rfl
  | disconnect =>
    rw [Encoding.writes_octet_iff.1 hw]
    rfl
  | ack s =>
    obtain ⟨x, y, hx, hy, rfl⟩ := Encoding.writes_append_iff.1 hw
    obtain ⟨hs, rfl⟩ := writes_fourBitSequence_iff.1 hx
    rw [Encoding.writes_octet_iff.1 hy]
    exact decode_ack hs
  | nack s =>
    obtain ⟨x, y, hx, hy, rfl⟩ := Encoding.writes_append_iff.1 hw
    obtain ⟨hs, rfl⟩ := writes_fourBitSequence_iff.1 hx
    rw [Encoding.writes_octet_iff.1 hy]
    exact decode_nack hs
  | unknown raw => exact absurd rfl (hknown raw)

/-! ## Writing what was read -/

/-- What is written is as long as it is said to be. -/
theorem length_of_writes {unit : Tpdu} {b : Octets} (h : unit.encode.Writes b) :
    b.length = unit.encodedLength := by
  cases unit with
  | dataUnnumbered apdu =>
    obtain ⟨first, rest, rfl, rfl⟩ := writes_encodeData_iff.1 h
    rfl
  | dataConnected s apdu =>
    obtain ⟨x, y, hx, hy, rfl⟩ := Encoding.writes_append_iff.1 h
    obtain ⟨-, rfl⟩ := writes_fourBitSequence_iff.1 hx
    obtain ⟨first, rest, rfl, rfl⟩ := writes_encodeData_iff.1 hy
    rfl
  | connect | disconnect =>
    rw [Encoding.writes_octet_iff.1 h]
    rfl
  | ack s | nack s =>
    obtain ⟨x, y, hx, hy, rfl⟩ := Encoding.writes_append_iff.1 h
    obtain ⟨-, rfl⟩ := writes_fourBitSequence_iff.1 hx
    rw [Encoding.writes_octet_iff.1 hy]
    rfl
  | unknown raw =>
    rw [Encoding.writes_octets_iff.1 h]
    rfl

theorem toOctets_eq_ok_iff {unit : Tpdu} {b : Octets} :
    unit.toOctets = .ok b ↔ unit.encode.Writes b := by
  rw [toOctets, Encoding.toOctets_eq_ok_iff]
  exact and_iff_left_of_imp fun h => Nat.le_of_eq (length_of_writes h)

/-- The sequence number in a first octet fits into four bits. -/
theorem sequence_le : ∀ first : UInt8, (first >>> 2) &&& 0x0f ≤ 0x0f :=
  Octets.forall_octet (by decide +kernel)

/-- A first octet that was taken apart is put together again. -/
theorem first_eq : ∀ first : UInt8,
    (first &&& 0xfc = 0 → 0x00 ||| (first &&& 0x03) = first) ∧
    (first &&& 0xc3 = 0xc2 → numbered 0xc2 ((first >>> 2) &&& 0x0f) = first) ∧
    (first &&& 0xc3 = 0xc3 → numbered 0xc3 ((first >>> 2) &&& 0x0f) = first) ∧
    (first &&& 0xc0 = 0x40 →
      numbered 0x40 ((first >>> 2) &&& 0x0f) ||| ((first &&& 0x03) &&& 0x03) = first) :=
  Octets.forall_octet (by decide +kernel)

/-- How a unit is read. -/
inductive ReadAs : Octets → Tpdu → Prop where
  /-- Data without a sequence number: the transport bits are clear. -/
  | unnumbered (first : UInt8) (rest : Octets) (bits : first &&& 0xfc = 0) :
      ReadAs (first :: rest) (.dataUnnumbered (first :: rest))
  | connect : ReadAs [0x80] .connect
  | disconnect : ReadAs [0x81] .disconnect
  | ack (first : UInt8) (bits : first &&& 0xc3 = 0xc2) :
      ReadAs [first] (.ack ((first >>> 2) &&& 0x0f))
  | nack (first : UInt8) (bits : first &&& 0xc3 = 0xc3) :
      ReadAs [first] (.nack ((first >>> 2) &&& 0x0f))
  /-- Data with a sequence number; the transport bits are taken off. -/
  | connected (first : UInt8) (rest : Octets) (bits : first &&& 0xc0 = 0x40) :
      ReadAs (first :: rest) (.dataConnected ((first >>> 2) &&& 0x0f) ((first &&& 0x03) :: rest))
  /-- Anything else, as it stands. -/
  | other (raw : Octets) : ReadAs raw (.unknown raw)

/-- A unit without data is read only from its first octet alone. -/
theorem alone_eq_ok {unit unit' : Tpdu} {rest : Octets} (h : alone unit rest = .ok unit') :
    unit' = unit ∧ rest = [] := by
  cases rest with
  | nil =>
    cases h
    exact ⟨rfl, rfl⟩
  | cons _ _ => cases h

theorem readAs_of_decode {b : Octets} {unit : Tpdu} (h : decode b = .ok unit) : ReadAs b unit := by
  cases b with
  | nil => cases h
  | cons first rest =>
    simp only [decode] at h
    split_ifs at h with hdata hconnect hdisconnect hack hnack hnumbered
    · cases h
      exact .unnumbered first rest hdata
    · obtain ⟨rfl, rfl⟩ := alone_eq_ok h
      exact hconnect ▸ .connect
    · obtain ⟨rfl, rfl⟩ := alone_eq_ok h
      exact hdisconnect ▸ .disconnect
    · obtain ⟨rfl, rfl⟩ := alone_eq_ok h
      exact .ack first hack
    · obtain ⟨rfl, rfl⟩ := alone_eq_ok h
      exact .nack first hnack
    · cases h
      exact .connected first rest hnumbered
    · cases h
      exact .other _

/-- An answer is written as its sequence number and its bits. -/
theorem writes_answer {control s first : UInt8} (h : s ≤ 0x0f)
    (hfirst : numbered control s = first) :
    (fourBitSequence s ++ Encoding.octet (numbered control s)).Writes [first] := by
  rw [hfirst]
  exact Encoding.writes_append_iff.2
    ⟨[], [first], writes_fourBitSequence_iff.2 ⟨h, rfl⟩, Encoding.writes_octet_iff.2 rfl, rfl⟩

/-- A unit that was read is written as the octets that it was read from. -/
theorem ReadAs.writes {b : Octets} {unit : Tpdu} (h : ReadAs b unit) : unit.encode.Writes b := by
  cases h with
  | unnumbered first rest bits =>
    exact writes_encodeData_iff.2 ⟨first, rest, rfl, by rw [(first_eq first).1 bits]⟩
  | connect => exact Encoding.writes_octet_iff.2 rfl
  | disconnect => exact Encoding.writes_octet_iff.2 rfl
  | ack first bits => exact writes_answer (sequence_le first) ((first_eq first).2.1 bits)
  | nack first bits => exact writes_answer (sequence_le first) ((first_eq first).2.2.1 bits)
  | connected first rest bits =>
    refine Encoding.writes_append_iff.2 ⟨[], first :: rest,
      writes_fourBitSequence_iff.2 ⟨sequence_le first, rfl⟩, ?_, rfl⟩
    exact writes_encodeData_iff.2 ⟨_, rest, rfl, by rw [(first_eq first).2.2.2 bits]⟩
  | other raw => exact Encoding.writes_octets_iff.2 rfl

/-- **Whatever arrives is written as it arrived**, once it has been read. -/
theorem toOctets_decodeLossy (b : Octets) : (decodeLossy b).toOctets = .ok b := by
  rw [toOctets_eq_ok_iff]
  unfold decodeLossy
  split
  · rename_i unit hread
    exact (readAs_of_decode hread).writes
  · exact (ReadAs.other b).writes

/-! ## Both directions -/

/-- The application layer octets that a unit carries. -/
def apdu : Tpdu → Octets
  | dataUnnumbered apdu | dataConnected _ apdu => apdu
  | _ => []

theorem low_eq_self_iff (first : UInt8) : first &&& 0x03 = first ↔ first ≤ 0x03 := by
  revert first
  exact Octets.forall_octet (by decide +kernel)

theorem masked_eq_self_iff {apdu : Octets} :
    masked apdu = apdu ↔ ∀ first ∈ apdu.head?, first ≤ 0x03 := by
  cases apdu with
  | nil => simp [masked]
  | cons first rest => simp [masked, low_eq_self_iff]

/-- A unit travels unchanged exactly if its application layer octets do not reach into the transport
bits. -/
theorem travelling_eq_self_iff {unit : Tpdu} :
    unit.travelling = unit ↔ ∀ first ∈ unit.apdu.head?, first ≤ 0x03 := by
  cases unit with
  | dataUnnumbered apdu => simp [travelling, Tpdu.apdu, masked_eq_self_iff]
  | dataConnected s apdu => simp [travelling, Tpdu.apdu, masked_eq_self_iff]
  | _ => simp [travelling, Tpdu.apdu]

/-- **Every octet string is a unit, and every unit that can be written is its octets.**

What arrives is read as a unit that is written as what arrived.  A unit that can be written, unless
it is an unknown one, is read back from its octets; it is the same unit exactly if the first octet
that it carries is three at most, and otherwise differs from it in the high bits of that octet
only, which are clear then. -/
theorem units_are_octets :
    (∀ b : Octets, (decodeLossy b).toOctets = .ok b) ∧
    ∀ (unit : Tpdu) (b : Octets), (∀ raw, unit ≠ unknown raw) → unit.toOctets = .ok b →
      (decode b = .ok unit ↔ ∀ first ∈ unit.apdu.head?, first ≤ 0x03) ∧
        decode b = .ok unit.travelling := by
  refine ⟨toOctets_decodeLossy, fun unit b hknown hwritten => ?_⟩
  have hread := decode_of_toOctets hwritten hknown
  refine ⟨?_, hread⟩
  rw [hread, ← travelling_eq_self_iff, Except.ok.injEq]

/-- The fifth unit of a connection is read back.  If its octets came with transport bits, these do
not travel. -/
theorem units_are_octets_fifth :
    let tidy := dataConnected 5 [0x02, 0x81]
    let untidy := dataConnected 5 [0xfe, 0x81]
    (decodeLossy [0x56, 0x81]).toOctets = .ok [0x56, 0x81] ∧
      decode [0x56, 0x81] = .ok tidy ∧ decode [0x56, 0x81] ≠ .ok untidy ∧
        decode [0x56, 0x81] = .ok untidy.travelling := by
  intro tidy untidy
  have htidy := units_are_octets.2 tidy [0x56, 0x81] nofun (toOctets_eq_ok_iff.2 ⟨rfl, rfl⟩)
  have huntidy := units_are_octets.2 untidy [0x56, 0x81] nofun (toOctets_eq_ok_iff.2 ⟨rfl, rfl⟩)
  have hlow : ∀ first ∈ tidy.apdu.head?, first ≤ 0x03 := by
    intro first hfirst
    obtain rfl : 0x02 = first := Option.some.inj hfirst
    decide
  have hhigh : ¬ ∀ first ∈ untidy.apdu.head?, first ≤ 0x03 := fun hall =>
    absurd (hall 0xfe rfl) (by decide)
  exact ⟨units_are_octets.1 _, htidy.1.2 hlow, mt huntidy.1.1 hhigh, huntidy.2⟩

end Tpdu
end KnxBus
