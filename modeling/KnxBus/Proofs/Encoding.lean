import KnxBus.Octets.Encoding

/-!
# What an encoder leaves behind

An encoder is a list of pieces and possibly a refusal.  On a buffer that is large enough the pieces
are of no account: either the encoder refuses, or its content is what stands in the buffer.
`Encoding.Writes e b` says the latter, and `toOctets_eq_ok_iff` that it is all there is to know
about `Encoding.toOctets`.

Every encoder of the library is put together from few parts.  For each part there is an equivalence
that says what it writes, so the octets of a unit are found by rewriting, and so are the values
that a unit must have had if it could be written.
-/

namespace KnxBus
namespace Encoding

/-- The encoder succeeds, and these are the octets that it writes. -/
def Writes (e : Encoding) (b : Octets) : Prop := e.refusal = none ∧ e.content = b

/-! ## The parts of an encoder -/

theorem writes_octets_iff {b z : Octets} : (octets b).Writes z ↔ z = b := by
  simp [Writes, octets, content, eq_comm]

theorem writes_octet_iff {b : UInt8} {z : Octets} : (octet b).Writes z ↔ z = [b] :=
  writes_octets_iff

theorem writes_word_iff {w : UInt16} {z : Octets} : (word w).Writes z ↔ z = Octets.ofWord w :=
  writes_octets_iff

theorem not_writes_refuse {e : EncodeError} {z : Octets} : ¬ (refuse e).Writes z := by
  rintro ⟨h, -⟩
  cases h

theorem writes_require_iff {c : Bool} {e : EncodeError} {z : Octets} :
    (require c e).Writes z ↔ c = true ∧ z = [] := by
  cases c with
  | false => simp [require, not_writes_refuse]
  | true => simp [require, Writes, empty, content, eq_comm]

/-- Two encoders, one after the other, write what the first writes and then what the second
writes. -/
theorem writes_append_iff {a b : Encoding} {z : Octets} :
    (a ++ b).Writes z ↔ ∃ x y, a.Writes x ∧ b.Writes y ∧ z = x ++ y := by
  change (a.andThen b).Writes z ↔ _
  rcases ha : a.refusal with _ | e
  · have hab : a.andThen b = ⟨a.pieces ++ b.pieces, b.refusal⟩ := by rw [andThen, ha]
    rw [hab]
    constructor
    · rintro ⟨h, rfl⟩
      exact ⟨a.content, b.content, ⟨ha, rfl⟩, ⟨h, rfl⟩, List.flatten_append⟩
    · rintro ⟨x, y, ⟨-, rfl⟩, ⟨hb, rfl⟩, rfl⟩
      exact ⟨hb, List.flatten_append⟩
  · have hab : a.andThen b = ⟨a.pieces, some e⟩ := by rw [andThen, ha]
    rw [hab]
    constructor
    · rintro ⟨h, -⟩
      cases h
    · rintro ⟨x, y, ⟨h, -⟩, -⟩
      rw [ha] at h
      cases h

/-- With its check octet, an encoder writes that octet behind all others. -/
theorem writes_withCheckOctet_iff {e : Encoding} {z : Octets} :
    e.withCheckOctet.Writes z ↔ ∃ x, e.Writes x ∧ z = x ++ [Octets.checkOctet x] := by
  rw [withCheckOctet, writes_append_iff]
  constructor
  · rintro ⟨x, y, hx, hy, rfl⟩
    exact ⟨x, hx, by rw [writes_octet_iff.1 hy, hx.2]⟩
  · rintro ⟨x, hx, rfl⟩
    exact ⟨x, _, hx, writes_octet_iff.2 (by rw [hx.2]), rfl⟩

/-! ## What an encoder refuses

Whether an encoder succeeds can be told without its octets. -/

theorem exists_writes_iff {e : Encoding} : (∃ b, e.Writes b) ↔ e.refusal = none :=
  ⟨fun ⟨_, h, _⟩ => h, fun h => ⟨e.content, h, rfl⟩⟩

@[simp] theorem refusal_octets (b : Octets) : (octets b).refusal = none := rfl

@[simp] theorem refusal_octet (b : UInt8) : (octet b).refusal = none := rfl

@[simp] theorem refusal_word (w : UInt16) : (word w).refusal = none := rfl

@[simp] theorem refusal_require_eq_none_iff {c : Bool} {e : EncodeError} :
    (require c e).refusal = none ↔ c = true := by
  cases c <;> simp [require, refuse, empty]

@[simp] theorem refusal_append_eq_none_iff {a b : Encoding} :
    (a ++ b).refusal = none ↔ a.refusal = none ∧ b.refusal = none := by
  change (a.andThen b).refusal = none ↔ _
  unfold andThen
  split <;> simp [*]

/-! ## Running an encoder on a buffer -/

/-- Pieces that all fit are all written. -/
theorem putAll_of_fits (pieces : List Octets) (w : Writer)
    (h : (w.written ++ pieces.flatten).length ≤ w.capacity) :
    putAll pieces w = (⟨w.capacity, w.written ++ pieces.flatten, h⟩, .ok ()) := by
  induction pieces generalizing w with
  | nil =>
    obtain ⟨capacity, written, fits⟩ := w
    simp only [putAll, List.flatten_nil, List.append_nil]
  | cons piece pieces ih =>
    have hlen : (w.written ++ piece).length ≤ w.capacity := by
      simp only [List.flatten_cons, List.length_append] at h ⊢
      omega
    have hput : w.put piece = .ok ⟨w.capacity, w.written ++ piece, hlen⟩ := by
      rw [Writer.put, dif_pos hlen]
    rw [putAll, hput]
    simp only
    rw [ih ⟨w.capacity, w.written ++ piece, hlen⟩
      (by simpa only [List.flatten_cons, List.append_assoc] using h)]
    simp only [List.flatten_cons, List.append_assoc]

/-- If all pieces have been written, then they stand in the buffer behind what was there. -/
theorem written_of_putAll {pieces : List Octets} {w w' : Writer}
    (h : putAll pieces w = (w', .ok ())) :
    w'.capacity = w.capacity ∧ w'.written = w.written ++ pieces.flatten := by
  induction pieces generalizing w with
  | nil =>
    simp only [putAll, Prod.mk.injEq, and_true] at h
    rw [← h]
    exact ⟨rfl, by rw [List.flatten_nil, List.append_nil]⟩
  | cons piece pieces ih =>
    rw [putAll] at h
    by_cases hlen : (w.written ++ piece).length ≤ w.capacity
    · rw [Writer.put, dif_pos hlen] at h
      obtain ⟨hcap, hwritten⟩ := ih h
      exact ⟨hcap, by rw [hwritten, List.flatten_cons, List.append_assoc]⟩
    · rw [Writer.put, dif_neg hlen] at h
      exact absurd (congrArg Prod.snd h) (by simp)

/-- **What a fresh buffer holds in the end.**  An encoder succeeds on it exactly when it does not
refuse and its content fits, and then the content is the result. -/
theorem toOctets_eq_ok_iff {e : Encoding} {capacity : Nat} {b : Octets} :
    e.toOctets capacity = .ok b ↔ e.Writes b ∧ b.length ≤ capacity := by
  have hwritten : (Writer.ofCapacity capacity).written = [] := rfl
  by_cases hfits : e.content.length ≤ capacity
  · have hput := putAll_of_fits e.pieces (Writer.ofCapacity capacity)
      (by rw [hwritten, List.nil_append]; exact hfits)
    rcases hr : e.refusal with _ | cause
    · have hres : e.toOctets capacity = .ok e.content := by
        simp only [toOctets, writeTo, hput, hr, hwritten, List.nil_append, content]
      rw [hres]
      constructor
      · intro h
        cases h
        exact ⟨⟨hr, rfl⟩, hfits⟩
      · rintro ⟨⟨-, rfl⟩, -⟩
        rfl
    · have hres : e.toOctets capacity = .error cause := by
        simp only [toOctets, writeTo, hput, hr]
      rw [hres]
      constructor
      · intro h
        cases h
      · rintro ⟨⟨h, -⟩, -⟩
        rw [hr] at h
        cases h
  · refine ⟨fun h => absurd ?_ hfits, ?_⟩
    · rcases hp : putAll e.pieces (Writer.ofCapacity capacity) with ⟨w, r⟩
      rcases r with cause | u
      · simp only [toOctets, writeTo, hp] at h
        cases h
      · obtain ⟨hcap, hw⟩ := written_of_putAll hp
        have hle := w.fits
        rw [hcap, hw, hwritten, List.nil_append] at hle
        exact hle
    · rintro ⟨⟨-, rfl⟩, h⟩
      exact absurd h hfits

end Encoding
end KnxBus
