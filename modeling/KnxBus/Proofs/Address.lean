import KnxBus.Proofs.Text
import Mathlib.Data.List.Basic

/-!
# Which texts are addresses

Addresses of either kind are written as three numbers with a separator between them; the kinds differ
in the separator and in how large the numbers may be.  The grammar is said in one place, for any
separator: blanks may stand around the text, each number may have a sign and zeros in front, and
nothing else may stand anywhere (`Spells`).

Neither a digit nor a sign is a separator.  Therefore a text that spells three numbers falls apart
into them in one way only (`Spells.unique`), and the reader that splits first and reads the parts
afterwards finds exactly these (`readTriple?_eq_some_iff`).

The rest is arithmetic, and the same for both kinds.  The limits also say how the numbers are packed
into a word: each has as many values as its limit allows, so three numbers are the digits of one
number, and are got back from it by division with remainder (`AddressParts.packed_eq_iff`).  The
limits leave no word over, so every address has a text.
-/

namespace KnxBus

/-- The three numbers of an address. -/
structure AddressParts where
  first : Nat
  second : Nat
  third : Nat
  deriving DecidableEq, Repr

namespace AddressParts

/-- No number is larger than its limit. -/
def Within (p limits : AddressParts) : Prop :=
  p.first ≤ limits.first ∧ p.second ≤ limits.second ∧ p.third ≤ limits.third

instance (p limits : AddressParts) : Decidable (p.Within limits) :=
  inferInstanceAs (Decidable (_ ∧ _ ∧ _))

/-- Three numbers as they are written. -/
def chars (separator : Char) (p : AddressParts) : List Char :=
  Number.decimal p.first ++
    separator :: (Number.decimal p.second ++ separator :: Number.decimal p.third)

/-- Three numbers in one, as its digits: the last counts ones, and each of the others counts as many
as there are values behind it. -/
def packed (p limits : AddressParts) : Nat :=
  (p.first * (limits.second + 1) + p.second) * (limits.third + 1) + p.third

/-- The digits of a number. -/
def unpacked (limits : AddressParts) (w : Nat) : AddressParts :=
  ⟨w / (limits.third + 1) / (limits.second + 1), w / (limits.third + 1) % (limits.second + 1),
    w % (limits.third + 1)⟩

/-- Three numbers that fit are the digits of one number only, and a number has its digits only. -/
theorem packed_eq_iff {limits p : AddressParts} {w : Nat} (h : p.Within limits) :
    p.packed limits = w ↔ p = unpacked limits w := by
  constructor
  · rintro rfl
    obtain ⟨x, y, z⟩ := p
    obtain ⟨-, hy, hz⟩ := h
    have hthird : packed ⟨x, y, z⟩ limits / (limits.third + 1) = x * (limits.second + 1) + y ∧
        packed ⟨x, y, z⟩ limits % (limits.third + 1) = z :=
      (Nat.div_mod_unique (Nat.succ_pos _)).2
        ⟨by rw [packed, Nat.add_comm, Nat.mul_comm], Nat.lt_succ_of_le hz⟩
    have hsecond : (x * (limits.second + 1) + y) / (limits.second + 1) = x ∧
        (x * (limits.second + 1) + y) % (limits.second + 1) = y :=
      (Nat.div_mod_unique (Nat.succ_pos _)).2
        ⟨by rw [Nat.add_comm, Nat.mul_comm], Nat.lt_succ_of_le hy⟩
    rw [unpacked, hthird.1, hthird.2, hsecond.1, hsecond.2]
  · rintro rfl
    simp only [packed, unpacked, Nat.div_add_mod']

/-- Numbers below the number of all values have digits that fit. -/
theorem unpacked_within {limits : AddressParts} {w : Nat}
    (h : w < (limits.first + 1) * (limits.second + 1) * (limits.third + 1)) :
    (unpacked limits w).Within limits := by
  have hrest : w / (limits.third + 1) < (limits.first + 1) * (limits.second + 1) :=
    Nat.div_lt_of_lt_mul (Nat.mul_comm _ _ ▸ h)
  refine ⟨?_, ?_, ?_⟩
  · exact Nat.le_of_lt_succ (Nat.div_lt_of_lt_mul (Nat.mul_comm _ _ ▸ hrest))
  · exact Nat.le_of_lt_succ (Nat.mod_lt _ (Nat.succ_pos _))
  · exact Nat.le_of_lt_succ (Nat.mod_lt _ (Nat.succ_pos _))

end AddressParts

/-! ## Texts that spell three numbers -/

/-- Without the blanks around it, the text is three numerals with a separator between them. -/
def Spells (separator : Char) (cs : List Char) (p : AddressParts) : Prop :=
  ∃ a b c, Blank.Strips cs (a ++ separator :: (b ++ separator :: c)) ∧
    Number.Numeral a p.first ∧ Number.Numeral b p.second ∧ Number.Numeral c p.third

/-- What stands in a numeral is no blank. -/
theorem Number.Numeral.isBlank_eq_false {cs : List Char} {n : Nat} (h : Number.Numeral cs n)
    {c : Char} (hc : c ∈ cs) : Blank.isBlank c = false := by
  obtain rfl | hdigit := h.mem hc
  · rfl
  · have hrange : 48 ≤ c.toNat ∧ c.toNat ≤ 57 := by
      simpa [Char.isDigit, UInt32.le_iff_toNat_le] using hdigit
    simp only [Blank.isBlank, Bool.or_eq_false_iff, Bool.and_eq_false_iff, decide_eq_false_iff_not,
      beq_eq_false_iff_ne]
    omega

/-- Nothing is to be taken away from three numerals. -/
theorem strips_numerals {separator : Char} {a b c : List Char} {p : AddressParts}
    (ha : Number.Numeral a p.first) (hc : Number.Numeral c p.third) :
    Blank.Strips (a ++ separator :: (b ++ separator :: c))
      (a ++ separator :: (b ++ separator :: c)) := by
  refine ⟨⟨[], [], nofun, nofun, (List.append_nil _).symm⟩, fun x hx => ?_, fun x hx => ?_⟩
  · rw [List.head?_append_of_ne_nil _ ha.ne_nil] at hx
    exact ha.isBlank_eq_false (List.mem_of_mem_head? hx)
  · have hlast : a ++ separator :: (b ++ separator :: c) =
        (a ++ separator :: (b ++ [separator])) ++ c := by simp
    rw [hlast, List.getLast?_append_of_ne_nil _ hc.ne_nil] at hx
    exact hc.isBlank_eq_false (List.mem_of_mem_getLast? hx)

/-- What is written spells what it was written from. -/
theorem spells_chars (separator : Char) (p : AddressParts) :
    Spells separator (p.chars separator) p :=
  ⟨_, _, _, strips_numerals (.decimal p.first) (.decimal p.third), .decimal p.first,
    .decimal p.second, .decimal p.third⟩

section
variable {separator : Char} (hplus : separator ≠ '+') (hdigit : separator.isDigit = false)
include hplus hdigit

/-- No separator stands in a numeral. -/
theorem Number.Numeral.not_mem {cs : List Char} {n : Nat} (h : Number.Numeral cs n) :
    separator ∉ cs := fun hmem =>
  (h.mem hmem).elim hplus (ne_true_of_eq_false hdigit)

/-- **What is read are the texts that spell three numbers within the limits.** -/
theorem readTriple?_eq_some_iff {limits p : AddressParts} {cs : List Char} :
    readTriple? separator limits.first limits.second limits.third cs =
        some (p.first, p.second, p.third) ↔
      Spells separator cs p ∧ p.Within limits := by
  constructor
  · intro h
    unfold readTriple? at h
    split at h
    · rename_i a b c hsplit
      split at h
      · rename_i x y z hx hy hz
        cases h
        obtain ⟨hx, hxle⟩ := Number.readUpTo?_eq_some_iff.1 hx
        obtain ⟨hy, hyle⟩ := Number.readUpTo?_eq_some_iff.1 hy
        obtain ⟨hz, hzle⟩ := Number.readUpTo?_eq_some_iff.1 hz
        have hcore := Blank.trim_eq_iff.1 (Blank.eq_of_split_eq_three hsplit)
        exact ⟨⟨a, b, c, hcore, hx, hy, hz⟩, hxle, hyle, hzle⟩
      · cases h
    · cases h
  · rintro ⟨⟨a, b, c, hcore, hx, hy, hz⟩, hxle, hyle, hzle⟩
    have hsplit : Blank.split separator (Blank.trim cs) = [a, b, c] := by
      rw [Blank.trim_eq_iff.2 hcore]
      exact Blank.split_eq_three (hx.not_mem hplus hdigit) (hy.not_mem hplus hdigit)
        (hz.not_mem hplus hdigit)
    rw [readTriple?, hsplit]
    simp only [Number.readUpTo?_eq_some_iff.2 ⟨hx, hxle⟩, Number.readUpTo?_eq_some_iff.2 ⟨hy, hyle⟩,
      Number.readUpTo?_eq_some_iff.2 ⟨hz, hzle⟩]

/-- A text spells three numbers in one way. -/
theorem Spells.unique {cs : List Char} {p q : AddressParts} (hp : Spells separator cs p)
    (hq : Spells separator cs q) : p = q := by
  obtain ⟨a, b, c, hcore, ha, hb, hc⟩ := hp
  obtain ⟨a', b', c', hcore', ha', hb', hc'⟩ := hq
  have hsame : a ++ separator :: (b ++ separator :: c) =
      a' ++ separator :: (b' ++ separator :: c') :=
    (Blank.trim_eq_iff.2 hcore).symm.trans (Blank.trim_eq_iff.2 hcore')
  have hparts := congrArg (Blank.split separator) hsame
  rw [Blank.split_eq_three (ha.not_mem hplus hdigit) (hb.not_mem hplus hdigit)
      (hc.not_mem hplus hdigit),
    Blank.split_eq_three (ha'.not_mem hplus hdigit) (hb'.not_mem hplus hdigit)
      (hc'.not_mem hplus hdigit)] at hparts
  cases hparts
  cases p
  cases q
  obtain rfl := ha.unique ha'
  obtain rfl := hb.unique hb'
  obtain rfl := hc.unique hc'
  rfl

end

/-! ## Addresses -/

/-- How addresses of one kind are read, with a separator between their three numbers and limits for
these. -/
structure ReadByParts {Address : Type} (parse : String → Except AddressError Address)
    (text : Address → String) (raw : Address → UInt16) (separator : Char) (limits : AddressParts) :
    Prop where
  /-- A text is read as an address exactly if it spells three numbers within the limits, and then the
  address is packed from these. -/
  parse_eq_ok_iff (s : String) (a : Address) :
    parse s = .ok a ↔
      ∃ p, Spells separator s.toList p ∧ p.Within limits ∧ (raw a).toNat = p.packed limits
  /-- An address is read from its own text. -/
  parse_text (a : Address) : parse (text a) = .ok a
  /-- Two texts of addresses are read as the same one exactly if they spell the same numbers. -/
  eq_iff_of_parse (s t : String) (a b : Address) (p q : AddressParts) :
    parse s = .ok a → parse t = .ok b → Spells separator s.toList p → Spells separator t.toList q →
      (a = b ↔ p = q)

/-- For addresses to be read by their parts, an address has to be made of the word into which the
numbers are packed and written as the numbers that are found there, and the limits have to make use
of all words. -/
theorem ReadByParts.of_packed {Address : Type} {parse : String → Except AddressError Address}
    {text : Address → String} {raw : Address → UInt16} {separator : Char} {limits : AddressParts}
    (hplus : separator ≠ '+') (hdigit : separator.isDigit = false)
    (hraw : Function.Injective raw) (make : AddressParts → Address)
    (hparse : ∀ s, parse s =
      match readTriple? separator limits.first limits.second limits.third s.toList with
      | some (x, y, z) => .ok (make ⟨x, y, z⟩)
      | none => .error .malformed)
    (hmake : ∀ p, p.Within limits → (raw (make p)).toNat = p.packed limits)
    (htext : ∀ a, (text a).toList = (AddressParts.unpacked limits (raw a).toNat).chars separator)
    (hwords : (limits.first + 1) * (limits.second + 1) * (limits.third + 1) = 65536) :
    ReadByParts parse text raw separator limits := by
  have hmade {p : AddressParts} (hwithin : p.Within limits) (a : Address) :
      make p = a ↔ (raw a).toNat = p.packed limits := by
    rw [← hmake p hwithin, UInt16.toNat_inj, hraw.eq_iff, eq_comm]
  have hread (s : String) (a : Address) : parse s = .ok a ↔
      ∃ p, Spells separator s.toList p ∧ p.Within limits ∧ (raw a).toNat = p.packed limits := by
    rw [hparse]
    constructor
    · intro h
      split at h
      · rename_i x y z hthree
        obtain ⟨hspells, hwithin⟩ :=
          (readTriple?_eq_some_iff (p := ⟨x, y, z⟩) hplus hdigit).1 hthree
        exact ⟨_, hspells, hwithin, (hmade hwithin a).1 (Except.ok.inj h)⟩
      · cases h
    · rintro ⟨p, hspells, hwithin, hpacked⟩
      rw [(readTriple?_eq_some_iff hplus hdigit).2 ⟨hspells, hwithin⟩]
      exact congrArg Except.ok ((hmade hwithin a).2 hpacked)
  refine ⟨hread, fun a => ?_, fun s t a b p q hs ht hp hq => ?_⟩
  · have hwithin : (AddressParts.unpacked limits (raw a).toNat).Within limits :=
      AddressParts.unpacked_within (hwords.symm ▸ (raw a).toNat_lt)
    exact (hread _ a).2 ⟨_, htext a ▸ spells_chars separator _, hwithin,
      ((AddressParts.packed_eq_iff hwithin).2 rfl).symm⟩
  · obtain ⟨p', hp', hpwithin, hppacked⟩ := (hread s a).1 hs
    obtain ⟨q', hq', hqwithin, hqpacked⟩ := (hread t b).1 ht
    obtain rfl := hp.unique hplus hdigit hp'
    obtain rfl := hq.unique hplus hdigit hq'
    constructor
    · rintro rfl
      exact ((AddressParts.packed_eq_iff hpwithin).1 hppacked.symm).trans
        ((AddressParts.packed_eq_iff hqwithin).1 hqpacked.symm).symm
    · rintro rfl
      exact hraw (UInt16.toNat_inj.1 (hppacked.trans hqpacked.symm))

/-! ## The two kinds -/

namespace IndividualAddress

theorem raw_ofParts {p : AddressParts} (h : p.Within ⟨15, 15, 255⟩) :
    (ofParts (UInt8.ofNat p.first) (UInt8.ofNat p.second) (UInt8.ofNat p.third)).raw.toNat =
      p.packed ⟨15, 15, 255⟩ := by
  obtain ⟨hfirst, hsecond, hthird⟩ := h
  dsimp only at hfirst hsecond hthird
  simp only [ofParts, AddressParts.packed, UInt16.toNat_ofNat', UInt8.toNat_ofNat']
  omega

theorem toList_text (a : IndividualAddress) :
    a.text.toList = (AddressParts.unpacked ⟨15, 15, 255⟩ a.raw.toNat).chars '.' := by
  have harea : a.area = a.raw.toNat / 256 / 16 := (Nat.div_div_eq_div_mul _ 256 16).symm
  rw [text, String.toList_ofList, chars, harea]
  rfl

theorem readByParts : ReadByParts parse text raw '.' ⟨15, 15, 255⟩ := by
  refine .of_packed (by decide) (by decide) (fun a b h => congrArg mk h)
    (fun p => ofParts (UInt8.ofNat p.first) (UInt8.ofNat p.second) (UInt8.ofNat p.third))
    (fun s => ?_) (fun p h => raw_ofParts h) toList_text rfl
  unfold parse
  split <;> simp only [*]

end IndividualAddress

namespace GroupAddress

theorem raw_ofParts {p : AddressParts} (h : p.Within ⟨31, 7, 255⟩) :
    (ofParts (UInt8.ofNat p.first) (UInt8.ofNat p.second) (UInt8.ofNat p.third)).raw.toNat =
      p.packed ⟨31, 7, 255⟩ := by
  obtain ⟨hfirst, hsecond, hthird⟩ := h
  dsimp only at hfirst hsecond hthird
  simp only [ofParts, AddressParts.packed, UInt16.toNat_ofNat', UInt8.toNat_ofNat']
  omega

theorem toList_text (g : GroupAddress) :
    g.text.toList = (AddressParts.unpacked ⟨31, 7, 255⟩ g.raw.toNat).chars '/' := by
  have hmain : g.mainGroup = g.raw.toNat / 256 / 8 := (Nat.div_div_eq_div_mul _ 256 8).symm
  rw [text, String.toList_ofList, chars, hmain]
  rfl

theorem readByParts : ReadByParts parse text raw '/' ⟨31, 7, 255⟩ := by
  refine .of_packed (by decide) (by decide) (fun a b h => congrArg mk h)
    (fun p => ofParts (UInt8.ofNat p.first) (UInt8.ofNat p.second) (UInt8.ofNat p.third))
    (fun s => ?_) (fun p h => raw_ofParts h) toList_text rfl
  unfold parse
  split <;> simp only [*]

end GroupAddress

/-- **Addresses are read by their parts.**

A text is read as an individual address exactly if, without the blanks around it, it is three
numerals with points between them that stand for at most 15, 15 and 255, and as a group address
exactly if it is three numerals with strokes between them that stand for at most 31, 7 and 255; the
address is packed from the three numbers, into four, four and eight bits or into five, three and
eight.  So every address is read from its own text, and two texts are read as the same address
exactly if they spell the same numbers. -/
theorem addresses_read_by_parts :
    ReadByParts IndividualAddress.parse IndividualAddress.text IndividualAddress.raw '.'
        ⟨15, 15, 255⟩ ∧
      ReadByParts GroupAddress.parse GroupAddress.text GroupAddress.raw '/' ⟨31, 7, 255⟩ :=
  ⟨IndividualAddress.readByParts, GroupAddress.readByParts⟩

example : IndividualAddress.parse "\u3000+1.0015.+0007 " = .ok ⟨0x1f07⟩ := by decide

example : GroupAddress.parse "1/ 2/3" = .error .malformed := by decide

end KnxBus
