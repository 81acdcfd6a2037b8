import KnxBus.Proofs.Lpdu

/-!
# One damaged octet

The check octet of a frame is chosen so that the exclusive or over all octets of the frame, the check
octet included, has every bit set.  One octet that arrives as a different one changes that exclusive
or, whichever octet it is and whatever it becomes (`Octets.parity_set_ne`).

It does not matter what the octet meant.  A damaged first octet may turn one format into the other,
and a damaged length may move the end of the payload; but the check is made over all octets as they
came, before anything is known about the parts of the frame (`Frame.ReadAs.validCheck_iff`).  So what
is read from damaged octets, if a frame is read from them at all, fails its check.

The answers to a frame are single octets without a check octet.  Damage does not take octets away,
so a frame is not mistaken for one of them (`Lpdu.decode_of_two_le`).
-/

namespace KnxBus

/-! ## The exclusive or over all octets -/

namespace Octets

/-- The exclusive or over all octets. -/
def parity (b : Octets) : UInt8 := b.foldl (· ^^^ ·) 0

theorem parity_cons (x : UInt8) (b : Octets) : parity (x :: b) = x ^^^ parity b := by
  have hstart : (0 : UInt8) ^^^ x = x ^^^ 0 := UInt8.xor_comm 0 x
  rw [parity, List.foldl_cons, hstart]
  exact List.foldl_assoc

theorem parity_append (a b : Octets) : parity (a ++ b) = parity a ^^^ parity b := by
  induction a with
  | nil => exact UInt8.zero_xor.symm
  | cons x a ih => rw [List.cons_append, parity_cons, parity_cons, ih, UInt8.xor_assoc]

/-- What changing one octet does. -/
theorem parity_set {b : Octets} {i : Nat} (hi : i < b.length) (x : UInt8) :
    parity (b.set i x) = (b[i] ^^^ x) ^^^ parity b := by
  induction b generalizing i with
  | nil => exact absurd hi (Nat.not_lt_zero i)
  | cons y b ih =>
    cases i with
    | zero =>
      rw [List.set_cons_zero, parity_cons, parity_cons, List.getElem_cons_zero,
        UInt8.xor_comm y x, UInt8.xor_assoc x, ← UInt8.xor_assoc y, UInt8.xor_self,
        UInt8.zero_xor]
    | succ i =>
      have hi : i < b.length := Nat.lt_of_succ_lt_succ hi
      rw [List.set_cons_succ, parity_cons, parity_cons, ih hi, List.getElem_cons_succ,
        ← UInt8.xor_assoc, UInt8.xor_comm y, UInt8.xor_assoc]

/-- **Changing one octet changes the exclusive or over all.** -/
theorem parity_set_ne {b : Octets} {i : Nat} (hi : i < b.length) {x : UInt8} (hx : x ≠ b[i]) :
    parity (b.set i x) ≠ parity b := by
  intro h
  have hzero : parity b = 0 ^^^ parity b := UInt8.zero_xor.symm
  have hdifference : b[i] ^^^ x = 0 :=
    (UInt8.xor_left_inj (parity b)).1 ((parity_set hi x).symm.trans (h.trans hzero))
  exact hx (UInt8.xor_eq_zero_iff.1 hdifference).symm

/-- An octet is the check octet of those before it exactly if it sets every bit. -/
theorem checkOctet_eq_iff {b : Octets} {last : UInt8} :
    checkOctet b = last ↔ parity (b ++ [last]) = 0xff := by
  have hparity : parity (b ++ [last]) = parity b ^^^ last := by
    rw [parity_append, parity_cons]
    exact congrArg (parity b ^^^ ·) UInt8.xor_zero
  have hcheck : checkOctet b = parity b ^^^ 0xff := UInt8.xor_neg_one.symm
  rw [hparity, hcheck]
  constructor
  · rintro rfl
    rw [← UInt8.xor_assoc, UInt8.xor_self, UInt8.zero_xor]
  · intro h
    rw [← h, ← UInt8.xor_assoc, UInt8.xor_self, UInt8.zero_xor]

end Octets

/-! ## The check of a frame -/

namespace Frame

/-- **A frame passes its check exactly if every bit is set** in the exclusive or over the octets
that it was read from, whatever its format and its length. -/
theorem ReadAs.validCheck_iff {b : Octets} {f : Frame} (h : ReadAs b f) :
    f.validCheck = true ↔ Octets.parity b = 0xff := by
  have hbehind {header front : Octets} {last : UInt8} :
      (Octets.checkOctet (header ++ front) == last) = true ↔
        Octets.parity (header ++ (front ++ [last])) = 0xff := by
    rw [beq_iff_eq, Octets.checkOctet_eq_iff, List.append_assoc]
  cases h with
  | standard => exact hbehind
  | extended => exact hbehind

/-- A frame has a header, a payload and a check octet. -/
theorem ReadAs.two_le_length {b : Octets} {f : Frame} (h : ReadAs b f) : 2 ≤ b.length := by
  have hbehind (header front : Octets) (last : UInt8) (hheader : 1 ≤ header.length) :
      2 ≤ (header ++ (front ++ [last])).length := by
    rw [List.length_append, List.length_append, List.length_singleton]
    omega
  cases h with
  | standard => exact hbehind _ _ _ (Nat.le_add_left 1 _)
  | extended => exact hbehind _ _ _ (Nat.le_add_left 1 _)

end Frame

/-! ## What is heard of damaged octets -/

namespace Lpdu

/-- More than one octet is heard as a frame or as nothing known. -/
theorem decode_of_two_le {b : Octets} (h : 2 ≤ b.length) :
    (∃ f, decode b = .data f) ∨ decode b = .unknown b := by
  have hlong (x : UInt8) : b ≠ [x] := by
    rintro rfl
    exact Nat.not_succ_le_self 1 h
  unfold decode
  rw [if_neg (hlong _), if_neg (hlong _), if_neg (hlong _)]
  split
  · exact .inr rfl
  · split
    · split
      · rename_i f _
        exact .inl ⟨f, rfl⟩
      · exact .inr rfl
    · exact .inr rfl

/-- What was written of a frame is heard as one that passes its check, whatever is said about the
octets from which the frame itself was read. -/
theorem exists_decode_of_toOctets {f : Frame} {b : Octets} (h : f.toOctets = .ok b) :
    ∃ g, decode b = .data g ∧ g.validCheck = true := by
  obtain ⟨hfits, rfl⟩ := Frame.toOctets_eq_ok_iff.1 h
  exact ⟨f.validated, decode_wire (f := f.validated) hfits ⟨rfl, rfl⟩, rfl⟩

/-- **One damaged octet is always noticed.**

Octets that were heard as a frame which passes its check, as all octets are that were written of a
frame, are no longer heard so when any one of them is replaced by any other.  They are heard as a
frame that fails its check, or they are kept as unknown; in particular they are not taken for one of
the three answers. -/
theorem damage_noticed :
    (∀ (f : Frame) (b : Octets), f.toOctets = .ok b →
      ∃ g, decode b = .data g ∧ g.validCheck = true) ∧
    ∀ (b : Octets) (f : Frame), decode b = .data f → f.validCheck = true →
      ∀ (i : Nat) (hi : i < b.length) (x : UInt8), x ≠ b[i] →
        (∃ g, decode (b.set i x) = .data g ∧ g.validCheck = false) ∨
          decode (b.set i x) = .unknown (b.set i x) := by
  refine ⟨fun f b h => exists_decode_of_toOctets h, ?_⟩
  intro b f hheard hcheck i hi x hx
  have hread := (readAs_of_decode hheard).2
  have hlong : 2 ≤ (b.set i x).length := by
    rw [List.length_set]
    exact hread.two_le_length
  refine (decode_of_two_le hlong).imp_left ?_
  rintro ⟨g, hg⟩
  refine ⟨g, hg, eq_false_of_ne_true fun hpasses => ?_⟩
  have hafter := (readAs_of_decode hg).2.validCheck_iff.1 hpasses
  have hbefore := hread.validCheck_iff.1 hcheck
  exact Octets.parity_set_ne hi hx (hafter.trans hbefore.symm)

/-- The command that switches a group on, damaged in two places: the first octet, after which the
format is the other one and nothing can be read, and the length, after which the payload is taken to
be longer than it is. -/
theorem damage_noticed_switch :
    let f := Frame.addressed (.group ⟨0x0a03⟩) [0x00, 0x81]
    let b : Octets := [0xbc, 0x00, 0x00, 0x0a, 0x03, 0xe1, 0x00, 0x81, 0x2a]
    f.toOctets = .ok b ∧ (∃ g, decode b = .data g ∧ g.validCheck = true) ∧
      ((∃ g, decode (b.set 0 0x2c) = .data g ∧ g.validCheck = false) ∨
        decode (b.set 0 0x2c) = .unknown (b.set 0 0x2c)) ∧
      ((∃ g, decode (b.set 5 0xe7) = .data g ∧ g.validCheck = false) ∨
        decode (b.set 5 0xe7) = .unknown (b.set 5 0xe7)) := by
  intro f b
  have hwritten : f.toOctets = .ok b :=
    Frame.toOctets_eq_ok_iff.2 ⟨by decide, by decide⟩
  have hheard : decode b = .data f := by decide
  refine ⟨hwritten, damage_noticed.1 f b hwritten, ?_, ?_⟩
  · exact damage_noticed.2 b f hheard rfl 0 (by decide) 0x2c (by decide)
  · exact damage_noticed.2 b f hheard rfl 5 (by decide) 0xe7 (by decide)

end Lpdu
end KnxBus
