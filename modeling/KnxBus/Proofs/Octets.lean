import KnxBus.Octets

/-!
# Octets and words

A word and its two octets are the same thing seen twice: taking apart and putting together undo each
other, in both orders.

An octet has two hundred and fifty-six values.  What is said of the bits of one octet and of nothing
else is therefore a finite matter and is checked value by value (`Octets.forall_octet`); facts about
an octet of which only few bits are free are checked for those (`Octets.exists_fin_of_lt`).
-/

namespace KnxBus
namespace Octets

/-- What holds of the numbers below 256 holds of every octet. -/
theorem forall_octet {P : UInt8 → Prop} (h : ∀ n : Fin 256, P (UInt8.ofNat n.val)) (b : UInt8) :
    P b := by
  have hb := h ⟨b.toNat, b.toNat_lt⟩
  rw [UInt8.ofNat_toNat] at hb
  exact hb

/-- An octet below a bound is one of as many. -/
theorem exists_fin_of_lt {b : UInt8} {bound : Nat} (h : b.toNat < bound) :
    ∃ n : Fin bound, b = UInt8.ofNat n.val :=
  ⟨⟨b.toNat, h⟩, UInt8.ofNat_toNat.symm⟩

/-- A word that is taken apart is put together again. -/
theorem word_ofWord (w : UInt16) :
    word (UInt8.ofNat (w.toNat / 256)) (UInt8.ofNat (w.toNat % 256)) = w := by
  have hlt : w.toNat < 65536 := w.toNat_lt
  apply UInt16.toNat_inj.1
  rw [word, UInt16.toNat_ofNat', UInt8.toNat_ofNat', UInt8.toNat_ofNat']
  omega

/-- The word of two octets, as a number. -/
theorem toNat_word (hi lo : UInt8) : (word hi lo).toNat = hi.toNat * 256 + lo.toNat := by
  have hhi := hi.toNat_lt
  have hlo := lo.toNat_lt
  rw [word, UInt16.toNat_ofNat']
  omega

/-- Octets that are put together to a word are got back from it. -/
theorem ofWord_word (hi lo : UInt8) : ofWord (word hi lo) = [hi, lo] := by
  have hlo := lo.toNat_lt
  have hhigh : (hi.toNat * 256 + lo.toNat) / 256 = hi.toNat := by omega
  have hlow : (hi.toNat * 256 + lo.toNat) % 256 = lo.toNat := by omega
  rw [ofWord, toNat_word, hhigh, hlow, UInt8.ofNat_toNat, UInt8.ofNat_toNat]

end Octets
end KnxBus
