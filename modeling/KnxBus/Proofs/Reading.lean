import KnxBus.Octets.Reader
import KnxBus.Proofs.Octets

/-!
# What a reading takes

A reading that succeeds takes some octets off the front of what is left and gives a value for them.
`Reading.Takes reading b rest a` says so: where `b` stands before `rest`, the reading takes `b`,
leaves `rest` and gives `a`, wherever the reader stands.

Readings are put together one after the other, and so are the octets that they take
(`Takes.bind`).  That what was written is read back is therefore shown along the reading, one part
of the message at a time, and the octets that have to stand there are found on the way.  Most
readings take the same octets whatever follows; those that take all that is left do so before
nothing only.

In the other direction a reading that succeeded is taken apart one part at a time
(`Reader.exists_of_bind`).
-/

namespace KnxBus

/-! ## Taking octets -/

namespace Reading

/-- Where the octets `b` stand before `rest`, the reading takes `b`, leaves `rest` and gives `a`. -/
def Takes {α : Type} (reading : Reading α) (b rest : Octets) (a : α) : Prop :=
  ∀ position, reading ⟨position, b ++ rest⟩ = .ok (a, ⟨position + b.length, rest⟩)

section
variable {α β : Type} {first : Reading α} {second : α → Reading β} {b c rest : Octets} {a : α}
  {d : β}

/-- What takes nothing gives its value everywhere. -/
theorem takes_pure (a : α) (rest : Octets) : Takes (pure a) [] rest a := fun _ => rfl

/-- One reading after the other takes what the first takes and then what the second takes. -/
theorem Takes.bind (hfirst : first.Takes b (c ++ rest) a) (hsecond : (second a).Takes c rest d) :
    Takes (first >>= second) (b ++ c) rest d := by
  intro position
  show (first ⟨position, b ++ c ++ rest⟩ >>= fun done => second done.1 done.2) = _
  rw [List.append_assoc, hfirst position]
  show second a ⟨position + b.length, c ++ rest⟩ = _
  rw [hsecond (position + b.length), List.length_append, Nat.add_assoc]

/-- If the first takes nothing, the second takes all. -/
theorem Takes.nil_bind (hfirst : first.Takes [] (c ++ rest) a)
    (hsecond : (second a).Takes c rest d) : Takes (first >>= second) c rest d :=
  hfirst.bind hsecond

/-- If the second takes nothing, the first takes all. -/
theorem Takes.bind_nil (hfirst : first.Takes b rest a) (hsecond : (second a).Takes [] rest d) :
    Takes (first >>= second) b rest d := by
  have hbind := Takes.bind (c := []) hfirst hsecond
  rwa [List.append_nil] at hbind

/-- What is made of a value that was read takes nothing more. -/
theorem Takes.map (h : first.Takes b rest a) (f : α → β) :
    Takes (first >>= fun x => pure (f x)) b rest (f a) :=
  h.bind_nil (takes_pure (f a) rest)

/-- A reading that takes octets from the front of an octet string can be run on it. -/
theorem Takes.run (h : first.Takes b rest a) : Reader.run first (b ++ rest) = .ok a := by
  have hread : first (Reader.ofOctets (b ++ rest)) = .ok (a, ⟨0 + b.length, rest⟩) := h 0
  rw [Reader.run, hread]

/-- A reading that takes an octet string as a whole can be run on it. -/
theorem Takes.run_nil (h : first.Takes b [] a) : Reader.run first b = .ok a := by
  have hrun := h.run
  rwa [List.append_nil] at hrun

end

section
variable (rest : Octets)

theorem takes_octet (x : UInt8) : Reader.octet.Takes [x] rest x := fun _ => rfl

theorem takes_word (w : UInt16) : Reader.word.Takes (Octets.ofWord w) rest w := by
  intro position
  show Except.ok (Octets.word _ _, _) = _
  rw [Octets.word_ofWord]
  rfl

theorem takes_exactly {b : Octets} {n : Nat} (h : b.length = n) :
    (Reader.exactly n).Takes b rest b := by
  intro position
  have hlong : ¬ (b ++ rest).length < n := by
    rw [List.length_append]
    omega
  rw [Reader.exactly, if_neg hlong, ← h, List.take_left, List.drop_left]

theorem takes_skip {b : Octets} {n : Nat} (h : b.length = n) :
    (Reader.skip n).Takes b rest () := by
  intro position
  have hlong : ¬ (b ++ rest).length < n := by
    rw [List.length_append]
    omega
  rw [Reader.skip, if_neg hlong, ← h, List.drop_left]

theorem takes_require {c : Bool} (h : c = true) (e : DecodeError) :
    (Reader.require c e).Takes [] rest () := by
  rw [Reader.require, if_pos h]
  exact takes_pure () rest

/-- How many octets are left can be asked without taking any. -/
theorem takes_remaining : Reader.remaining.Takes [] rest rest.length := fun _ => rfl

end

/-- What takes all that is left leaves nothing. -/
theorem takes_remainder (b : Octets) : Reader.remainder.Takes b [] b := by
  intro position
  rw [List.append_nil]
  rfl

end Reading

/-! ## What was taken -/

namespace Reader

/-- One reading after the other succeeds if both do. -/
theorem exists_of_bind {α β : Type} {first : Reading α} {second : α → Reading β}
    {reader last : Reader} {b : β} (h : (first >>= second) reader = .ok (b, last)) :
    ∃ a middle, first reader = .ok (a, middle) ∧ second a middle = .ok (b, last) := by
  have hbind : (first reader >>= fun done => second done.1 done.2) = .ok (b, last) := h
  cases hfirst : first reader with
  | error cause =>
    rw [hfirst] at hbind
    cases hbind
  | ok done =>
    rw [hfirst] at hbind
    exact ⟨done.1, done.2, rfl, hbind⟩

theorem octet_eq_ok {reader last : Reader} {b : UInt8}
    (h : Reader.octet reader = .ok (b, last)) : reader.rest = b :: last.rest := by
  unfold Reader.octet at h
  split at h
  · cases h
  · rename_i hrest
    cases h
    exact hrest

theorem exists_of_run {α : Type} {reading : Reading α} {b : Octets} {a : α}
    (h : Reader.run reading b = .ok a) : ∃ last, reading (Reader.ofOctets b) = .ok (a, last) := by
  unfold Reader.run at h
  split at h
  · rename_i last hread
    cases h
    exact ⟨last, hread⟩
  · cases h

end Reader
end KnxBus
