import KnxBus.Address

/-!
# The grammar of numbers in text

Reading a number is a matter of the characters alone, so what is read can be said without saying how:
a numeral is an optional plus sign and then digits, at least one, and it stands for the number that
these digits stand for (`Number.Numeral`).  Zeros in front are digits like others and change nothing.
A number that was written in decimal is a numeral for itself.

Of the text around numbers two things are said.  Blanks around a text are those that can be taken
away from both ends until there is none (`Blank.Strips`), and what is left is determined by that.
And a text that is split at a separator is the text of the parts with the separator between them.
-/

namespace KnxBus

/-! ## Numerals -/

namespace Number

/-- Texts that stand for a number. -/
inductive Numeral : List Char → Nat → Prop where
  /-- One or more digits. -/
  | plain {ds : List Char} (there : ds ≠ []) (digits : ∀ c ∈ ds, c.isDigit = true) :
      Numeral ds (Nat.ofDigitChars 10 ds 0)
  /-- A plus sign, and one or more digits. -/
  | signed {ds : List Char} (there : ds ≠ []) (digits : ∀ c ∈ ds, c.isDigit = true) :
      Numeral ('+' :: ds) (Nat.ofDigitChars 10 ds 0)

theorem digitValue?_of_isDigit {c : Char} (h : c.isDigit = true) :
    digitValue? c = some (c.toNat - '0'.toNat) := by
  simp only [Char.isDigit, Bool.and_eq_true, decide_eq_true_eq] at h
  exact if_pos h

theorem digitValue?_of_not_isDigit {c : Char} (h : ¬ c.isDigit = true) : digitValue? c = none := by
  simp only [Char.isDigit, Bool.and_eq_true, decide_eq_true_eq] at h
  exact if_neg h

/-- A run of digits continues a number, and nothing else does. -/
theorem digitsFrom?_eq_some_iff {cs : List Char} {acc n : Nat} :
    digitsFrom? acc cs = some n ↔
      (∀ c ∈ cs, c.isDigit = true) ∧ Nat.ofDigitChars 10 cs acc = n := by
  induction cs generalizing acc with
  | nil => simp [digitsFrom?]
  | cons c cs ih =>
    rw [digitsFrom?, List.forall_mem_cons, Nat.ofDigitChars_cons]
    by_cases hc : c.isDigit = true
    · rw [digitValue?_of_isDigit hc]
      simp only [ih, hc, true_and]
    · rw [digitValue?_of_not_isDigit hc]
      simp only [hc, false_and, reduceCtorEq]

theorem digits?_eq_some_iff {cs : List Char} {n : Nat} :
    digits? cs = some n ↔
      cs ≠ [] ∧ (∀ c ∈ cs, c.isDigit = true) ∧ Nat.ofDigitChars 10 cs 0 = n := by
  cases cs with
  | nil => simp [digits?]
  | cons c cs =>
    rw [digits?, digitsFrom?_eq_some_iff]
    simp only [ne_eq, reduceCtorEq, not_false_eq_true, true_and]

/-- **Exactly the numerals are read**, and as what they stand for. -/
theorem read?_eq_some_iff {cs : List Char} {n : Nat} : read? cs = some n ↔ Numeral cs n := by
  constructor
  · intro h
    unfold read? at h
    split at h
    · obtain ⟨hthere, hdigits, rfl⟩ := digits?_eq_some_iff.1 h
      exact .signed hthere hdigits
    · obtain ⟨hthere, hdigits, rfl⟩ := digits?_eq_some_iff.1 h
      exact .plain hthere hdigits
  · intro h
    cases h with
    | signed there digits => exact digits?_eq_some_iff.2 ⟨there, digits, rfl⟩
    | plain there digits =>
      have hsign : ∀ rest, cs ≠ '+' :: rest := by
        rintro rest rfl
        exact absurd (digits '+' List.mem_cons_self) (by decide)
      unfold read?
      split
      · exact absurd rfl (hsign _)
      · exact digits?_eq_some_iff.2 ⟨there, digits, rfl⟩

theorem readUpTo?_eq_some_iff {limit : Nat} {cs : List Char} {n : Nat} :
    readUpTo? limit cs = some n ↔ Numeral cs n ∧ n ≤ limit := by
  rw [← read?_eq_some_iff, readUpTo?]
  cases read? cs with
  | none => simp
  | some m =>
    by_cases hm : m ≤ limit
    · simp only [hm, if_true, Option.some.injEq]
      exact ⟨fun h => ⟨h, h ▸ hm⟩, fun h => h.1⟩
    · simp only [hm, if_false, Option.some.injEq, reduceCtorEq, false_iff, not_and]
      exact fun h => h ▸ hm

namespace Numeral

/-- A numeral stands for one number. -/
theorem unique {cs : List Char} {m n : Nat} (hm : Numeral cs m) (hn : Numeral cs n) : m = n :=
  Option.some.inj ((read?_eq_some_iff.2 hm).symm.trans (read?_eq_some_iff.2 hn))

theorem mem {cs : List Char} {n : Nat} (h : Numeral cs n) {c : Char} (hc : c ∈ cs) :
    c = '+' ∨ c.isDigit = true := by
  cases h with
  | plain there digits => exact .inr (digits c hc)
  | signed there digits => exact (List.mem_cons.1 hc).imp_right (digits c)

theorem ne_nil {cs : List Char} {n : Nat} (h : Numeral cs n) : cs ≠ [] := by
  cases h with
  | plain there digits => exact there
  | signed there digits => exact List.cons_ne_nil _ _

/-- A number that was written stands for itself. -/
theorem decimal (n : Nat) : Numeral (Number.decimal n) n := by
  have hnumeral : Numeral (Nat.toDigits 10 n) (Nat.ofDigitChars 10 (Nat.toDigits 10 n) 0) :=
    .plain Nat.toDigits_ne_nil fun c hc => Nat.isDigit_of_mem_toDigits (by decide) (by decide) hc
  rw [Nat.ofDigitChars_ten_toDigits] at hnumeral
  exact hnumeral

end Numeral

end Number

/-! ## Blanks around a text -/

namespace Blank

/-- What is left of a text when all blanks around it are taken away. -/
structure Strips (cs core : List Char) : Prop where
  /-- Blanks are taken away, before it and behind it. -/
  around : ∃ before after, (∀ c ∈ before, isBlank c = true) ∧ (∀ c ∈ after, isBlank c = true) ∧
    cs = before ++ core ++ after
  /-- It does not begin with one. -/
  head : ∀ c ∈ core.head?, isBlank c = false
  /-- It does not end in one. -/
  last : ∀ c ∈ core.getLast?, isBlank c = false

theorem trimStart_eq_iff {cs rest : List Char} :
    trimStart cs = rest ↔
      (∃ before, (∀ c ∈ before, isBlank c = true) ∧ cs = before ++ rest) ∧
        ∀ c ∈ rest.head?, isBlank c = false := by
  constructor
  · rintro rfl
    refine ⟨⟨cs.takeWhile isBlank, fun c hc => List.all_eq_true.1 List.all_takeWhile c hc,
      List.takeWhile_append_dropWhile.symm⟩, fun c hc => ?_⟩
    have hhead := List.head?_dropWhile_not isBlank cs
    have hc : (List.dropWhile isBlank cs).head? = some c := hc
    rw [hc] at hhead
    exact hhead
  · rintro ⟨⟨before, hbefore, rfl⟩, hhead⟩
    rw [trimStart, List.dropWhile_append_of_pos hbefore]
    cases rest with
    | nil => rfl
    | cons c rest => exact List.dropWhile_cons_of_neg (ne_true_of_eq_false (hhead c rfl))

theorem trimEnd_eq_iff {cs core : List Char} :
    trimEnd cs = core ↔
      (∃ after, (∀ c ∈ after, isBlank c = true) ∧ cs = core ++ after) ∧
        ∀ c ∈ core.getLast?, isBlank c = false := by
  rw [trimEnd, List.reverse_eq_iff, trimStart_eq_iff, List.head?_reverse]
  refine and_congr_left' ⟨?_, ?_⟩
  · rintro ⟨before, hbefore, hcs⟩
    refine ⟨before.reverse, fun c hc => hbefore c (List.mem_reverse.1 hc), ?_⟩
    rw [List.reverse_eq_iff.1 hcs, List.reverse_append, List.reverse_reverse]
  · rintro ⟨after, hafter, rfl⟩
    exact ⟨after.reverse, fun c hc => hafter c (List.mem_reverse.1 hc), List.reverse_append⟩

/-- **What is left is what taking blanks away leads to.** -/
theorem trim_eq_iff {cs core : List Char} : trim cs = core ↔ Strips cs core := by
  rw [trim, trimEnd_eq_iff]
  constructor
  · rintro ⟨⟨after, hafter, hrest⟩, hlast⟩
    obtain ⟨⟨before, hbefore, rfl⟩, hhead⟩ := trimStart_eq_iff.1 hrest
    refine ⟨⟨before, after, hbefore, hafter, (List.append_assoc _ _ _).symm⟩, ?_, hlast⟩
    intro c hc
    refine hhead c ?_
    rw [List.head?_append, Option.mem_def.1 hc]
    rfl
  · rintro ⟨⟨before, after, hbefore, hafter, rfl⟩, hhead, hlast⟩
    cases core with
    | nil =>
      -- nothing but blanks is left of the text, before and behind
      refine ⟨⟨[], nofun, ?_⟩, hlast⟩
      refine trimStart_eq_iff.2 ⟨⟨before ++ after, ?_, ?_⟩, nofun⟩
      · exact fun c hc => (List.mem_append.1 hc).elim (hbefore c) (hafter c)
      · rw [List.append_nil, List.append_nil, List.append_nil]
    | cons c core =>
      refine ⟨⟨after, hafter, trimStart_eq_iff.2 ⟨⟨before, hbefore, ?_⟩, ?_⟩⟩, hlast⟩
      · exact List.append_assoc _ _ _
      · exact hhead

/-! ## Parts between separators -/

/-- Splitting is what the library knows as splitting. -/
theorem split_eq_splitOn (sep : Char) (cs : List Char) : split sep cs = cs.splitOn sep := by
  induction cs with
  | nil => rw [List.splitOn_nil]; rfl
  | cons c cs ih =>
    rw [split, ih, List.splitOn, List.splitOn, List.splitOnP_cons_eq_if_modifyHead]
    by_cases hc : c = sep
    · simp only [hc, if_true, beq_self_eq_true]
    · rw [if_neg hc, if_neg (by simpa using hc)]
      cases hparts : List.splitOnP (· == sep) cs with
      | nil => exact absurd hparts (List.splitOnP_ne_nil _ _)
      | cons part parts => rfl

/-- Three parts that hold no separator are found between separators. -/
theorem split_eq_three {sep : Char} {a b c : List Char} (ha : sep ∉ a) (hb : sep ∉ b)
    (hc : sep ∉ c) : split sep (a ++ sep :: (b ++ sep :: c)) = [a, b, c] := by
  have hjoined : a ++ sep :: (b ++ sep :: c) = [sep].intercalate [a, b, c] := by
    simp [List.intercalate]
  rw [hjoined, split_eq_splitOn]
  refine List.splitOn_intercalate sep ?_ (List.cons_ne_nil _ _)
  simp only [List.forall_mem_cons, ha, hb, hc, not_false_eq_true, true_and]
  nofun

/-- Three parts are three parts of the text, with a separator between each two. -/
theorem eq_of_split_eq_three {sep : Char} {cs a b c : List Char} (h : split sep cs = [a, b, c]) :
    cs = a ++ sep :: (b ++ sep :: c) := by
  have hjoined : [sep].intercalate (cs.splitOn sep) = cs := List.intercalate_splitOn sep
  rw [← split_eq_splitOn, h] at hjoined
  rw [← hjoined]
  simp [List.intercalate]

end Blank
end KnxBus
