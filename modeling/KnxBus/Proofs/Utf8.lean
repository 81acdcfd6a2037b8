import KnxBus.Text.Utf8
import Mathlib.Tactic.SplitIfs

/-!
# Text that is valid is read back

The machine that reads text is made for octets that may be no text at all.  On octets that are text
it gives the text: each character is announced by its first octet, and the octets after it complete
it (`Utf8.decodeFrom_utf8EncodeChar`).  The ranges for the second octet never get in the way, since
the code points that they rule out are those that have a shorter form, surrogates, and those above
the last one.
-/

namespace KnxBus
namespace Utf8

/-! ## One octet -/

section
variable {b : Nat} {p : Pending} {x : UInt8} {rest : Octets}

theorem decodeFrom_lead (hx : x.toNat = b) (hb : 0x80 ≤ b) (hlead : lead? b = some p) :
    decodeFrom none (x :: rest) = decodeFrom (some p) rest := by
  have hstep : step none b = ([], some p) := by
    rw [step, start, if_neg (by omega), hlead]
  rw [decodeFrom, hx, hstep]
  rfl

theorem decodeFrom_owed (hx : x.toNat = b) (hlow : p.low ≤ b) (hhigh : b ≤ p.high)
    (howed : 1 < p.owed) :
    decodeFrom (some p) (x :: rest) =
      decodeFrom (some ⟨p.owed - 1, 0x80, 0xbf, p.bits * 64 + b % 64⟩) rest := by
  have hstep : step (some p) b = ([], some ⟨p.owed - 1, 0x80, 0xbf, p.bits * 64 + b % 64⟩) := by
    rw [step, if_pos ⟨hlow, hhigh⟩, if_neg (by omega)]
  rw [decodeFrom, hx, hstep]
  rfl

theorem decodeFrom_last (hx : x.toNat = b) (hlow : p.low ≤ b) (hhigh : b ≤ p.high)
    (howed : p.owed = 1) :
    decodeFrom (some p) (x :: rest) =
      Char.ofNat (p.bits * 64 + b % 64) :: decodeFrom none rest := by
  have hstep : step (some p) b = ([Char.ofNat (p.bits * 64 + b % 64)], none) := by
    rw [step, if_pos ⟨hlow, hhigh⟩, if_pos (Nat.le_of_eq howed)]
  rw [decodeFrom, hx, hstep]
  rfl

end

/-! ## What the first octet announces -/

theorem lead_two {v : Nat} (hlow : 0x80 ≤ v) (hhigh : v < 0x800) :
    lead? (v / 64 % 32 + 192) = some ⟨1, 0x80, 0xbf, v / 64⟩ := by
  have hbits : (v / 64 % 32 + 192) % 32 = v / 64 := by omega
  unfold lead?
  rw [if_neg (by omega), if_pos (by omega), hbits]

/-- Of three octets the second has its own range if the character could have a shorter form or be a
surrogate. -/
theorem lead_three {v : Nat} (hlow : 0x800 ≤ v) (hhigh : v < 0x10000)
    (hvalid : v < 0xd800 ∨ 0xdfff < v) :
    ∃ low high, lead? (v / 4096 % 16 + 224) = some ⟨2, low, high, v / 4096⟩ ∧
      low ≤ v / 64 % 64 + 128 ∧ v / 64 % 64 + 128 ≤ high := by
  have hbits : (v / 4096 % 16 + 224) % 16 = v / 4096 := by omega
  unfold lead?
  split_ifs with h1 h2 h3 h4 h5 h6 h7 h8
  · omega
  · omega
  · have hzero : v / 4096 = 0 := by omega
    exact ⟨0xa0, 0xbf, by rw [hzero], by omega, by omega⟩
  · have hsurrogates : v / 4096 = 13 := by omega
    exact ⟨0x80, 0x9f, by rw [hsurrogates], by omega, by omega⟩
  · exact ⟨0x80, 0xbf, by rw [hbits], by omega, by omega⟩
  · omega
  · omega
  · omega
  · omega

/-- Of four octets the second has its own range if the character could have a shorter form or be
above the last code point. -/
theorem lead_four {v : Nat} (hlow : 0x10000 ≤ v) (hhigh : v < 0x110000) :
    ∃ low high, lead? (v / 262144 % 8 + 240) = some ⟨3, low, high, v / 262144⟩ ∧
      low ≤ v / 4096 % 64 + 128 ∧ v / 4096 % 64 + 128 ≤ high := by
  have hbits : (v / 262144 % 8 + 240) % 8 = v / 262144 := by omega
  unfold lead?
  split_ifs with h1 h2 h3 h4 h5 h6 h7 h8
  · omega
  · omega
  · omega
  · omega
  · omega
  · have hzero : v / 262144 = 0 := by omega
    exact ⟨0x90, 0xbf, by rw [hzero], by omega, by omega⟩
  · exact ⟨0x80, 0xbf, by rw [hbits], by omega, by omega⟩
  · have hlast : v / 262144 = 4 := by omega
    exact ⟨0x80, 0x8f, by rw [hlast], by omega, by omega⟩
  · omega

/-! ## Text -/

/-- The octets of a character are read as that character. -/
theorem decodeFrom_utf8EncodeChar (c : Char) (rest : Octets) :
    decodeFrom none (String.utf8EncodeChar c ++ rest) = c :: decodeFrom none rest := by
  obtain ⟨v, hv⟩ : ∃ v, c.val.toNat = v := ⟨_, rfl⟩
  have hchar : Char.ofNat v = c := by
    rw [← hv]
    exact Char.ofNat_toNat c
  have hvalid : v < 0xd800 ∨ 0xdfff < v ∧ v < 0x110000 := hv ▸ c.valid
  have hoctet {n : Nat} (h : n < 256) : (UInt8.ofNat n).toNat = n := by
    rw [UInt8.toNat_ofNat']
    exact Nat.mod_eq_of_lt h
  unfold String.utf8EncodeChar
  rw [hv]
  simp only
  split_ifs with h1 h2 h3
  · have hstart : start v = ([Char.ofNat v], none) := if_pos (by omega)
    rw [List.singleton_append, decodeFrom, hoctet (by omega), step, hstart, hchar]
    rfl
  · have hbits : v / 64 * 64 + (v % 64 + 128) % 64 = v := by omega
    simp only [List.cons_append, List.nil_append]
    rw [decodeFrom_lead (hoctet (by omega)) (by omega) (lead_two (by omega) (by omega)),
      decodeFrom_last (hoctet (by omega)) (by simp) (by simp; omega) rfl, hbits, hchar]
  · obtain ⟨low, high, hlead, hlow, hhigh⟩ :=
      lead_three (v := v) (by omega) (by omega) (by omega)
    have hbits : (v / 4096 * 64 + (v / 64 % 64 + 128) % 64) * 64 + (v % 64 + 128) % 64 = v := by
      omega
    simp only [List.cons_append, List.nil_append]
    rw [decodeFrom_lead (hoctet (by omega)) (by omega) hlead,
      decodeFrom_owed (hoctet (by omega)) hlow hhigh (by simp),
      decodeFrom_last (hoctet (by omega)) (by simp) (by simp; omega) rfl, hbits, hchar]
  · obtain ⟨low, high, hlead, hlow, hhigh⟩ := lead_four (v := v) (by omega) (by omega)
    have hbits : ((v / 262144 * 64 + (v / 4096 % 64 + 128) % 64) * 64 +
        (v / 64 % 64 + 128) % 64) * 64 + (v % 64 + 128) % 64 = v := by omega
    simp only [List.cons_append, List.nil_append]
    rw [decodeFrom_lead (hoctet (by omega)) (by omega) hlead,
      decodeFrom_owed (hoctet (by omega)) hlow hhigh (by simp),
      decodeFrom_owed (hoctet (by omega)) (by simp) (by simp; omega) (by simp),
      decodeFrom_last (hoctet (by omega)) (by simp) (by simp; omega) rfl, hbits, hchar]

/-- **The octets of a text are read as that text.** -/
theorem decode_encode (s : String) : decode (encode s) = s := by
  have hchars (cs : List Char) : decodeFrom none (cs.flatMap String.utf8EncodeChar) = cs := by
    induction cs with
    | nil => rfl
    | cons c cs ih => rw [List.flatMap_cons, decodeFrom_utf8EncodeChar, ih]
  rw [decode, encode, hchars, String.ofList_toList]

end Utf8
end KnxBus
