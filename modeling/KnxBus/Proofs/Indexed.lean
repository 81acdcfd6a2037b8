import KnxBus.Proofs.Octets
import KnxBus.Octets.Reader
import KnxBus.Octets.Writer

/-!
# Buffers by index

A reader keeps the octets that are left and takes from their front, and a writer adds at the end of
what is written; neither has an index that could be wrong.  A machine has a buffer that stays where
it is and a position in it, which is a word of sixty-four bits.  It works out where a slice begins
and ends and then takes the slice, and it stops for good if an index is out of range or if a sum does
not fit into a word.

Here readers and writers are machines of this kind, and each operation is shown to do on the machine
what it does on the list (`Agrees`).  So no operation stops the machine, whatever length it is asked
for.

A failure does not stop a machine, and what an operation has changed before it fails stays changed.
That there is no such change is therefore not a matter of course here; it is part of the agreement.
-/

namespace KnxBus

/-! ## Machines -/

/-- What a machine does: it stops (`none`), or it goes on with a result or a failure. -/
abbrev Indexed (σ ε : Type) := ExceptT ε (StateT σ Option)

namespace Indexed

variable {σ ε α β : Type}

/-- The machine stops. -/
def stop : Indexed σ ε α := fun _ => none

/-- A sum, if it fits into a word. -/
def add (a b : UInt64) : Indexed σ ε UInt64 :=
  if a.toNat + b.toNat < UInt64.size then pure (a + b) else stop

/-- The octets from one index up to another, if both are in range. -/
def slice (b : Octets) (first last : UInt64) : Indexed σ ε Octets :=
  if first ≤ last ∧ last.toNat ≤ b.length then pure ((b.take last.toNat).drop first.toNat) else stop

/-- Octets are put in the place of those from one index up to another, if both are in range and there
are as many. -/
def overwrite (b : Octets) (first last : UInt64) (new : Octets) : Indexed σ ε Octets :=
  if first ≤ last ∧ last.toNat ≤ b.length ∧ first.toNat + new.length = last.toNat then
    pure (b.take first.toNat ++ new ++ b.drop last.toNat)
  else stop

theorem get_bind (f : σ → Indexed σ ε α) (s : σ) : (get >>= f) s = f s s := rfl

theorem set_bind (s' : σ) (f : PUnit → Indexed σ ε α) (s : σ) : (set s' >>= f) s = f ⟨⟩ s' := rfl

theorem bind_of_ok {x : Indexed σ ε α} {f : α → Indexed σ ε β} {s s' : σ} {a : α}
    (h : x s = some (.ok a, s')) : (x >>= f) s = f a s' := by
  show (x s >>= _) = _
  rw [h]
  rfl

theorem bind_of_error {x : Indexed σ ε α} {f : α → Indexed σ ε β} {s s' : σ} {e : ε}
    (h : x s = some (.error e, s')) : (x >>= f) s = some (.error e, s') := by
  show (x s >>= _) = _
  rw [h]
  rfl

theorem add_eq {a b : UInt64} (h : a.toNat + b.toNat < UInt64.size) :
    (add a b : Indexed σ ε UInt64) = pure (a + b) := if_pos h

theorem toNat_add_of_lt {a b : UInt64} (h : a.toNat + b.toNat < UInt64.size) :
    (a + b).toNat = a.toNat + b.toNat := by
  rw [UInt64.toNat_add]
  exact Nat.mod_eq_of_lt h

theorem slice_eq {b : Octets} {first last : UInt64} (hle : first.toNat ≤ last.toNat)
    (hlast : last.toNat ≤ b.length) :
    (slice b first last : Indexed σ ε Octets) =
      pure ((b.drop first.toNat).take (last.toNat - first.toNat)) := by
  rw [slice, if_pos ⟨UInt64.le_iff_toNat_le.2 hle, hlast⟩, List.drop_take]

theorem overwrite_eq {b new : Octets} {first last : UInt64}
    (hlength : first.toNat + new.length = last.toNat) (hlast : last.toNat ≤ b.length) :
    (overwrite b first last new : Indexed σ ε Octets) =
      pure (b.take first.toNat ++ new ++ b.drop last.toNat) := by
  have hle : first.toNat ≤ last.toNat := by omega
  rw [overwrite, if_pos ⟨UInt64.le_iff_toNat_le.2 hle, hlast, hlength⟩]

end Indexed

/-! ## Acts and machines that agree -/

/-- An act on a state that may fail, and after whose failure one goes on. -/
abbrev Attempt (τ ε α : Type) := τ → Except ε α × τ

section
variable {σ τ ε α β ι : Type}

/-- A machine does what the act does, on states that belong together; and where the act fails, the
machine is left as it was. -/
def Agrees (belongs : σ → τ → Prop) (indexed : Indexed σ ε α) (act : Attempt τ ε α) : Prop :=
  ∀ s t, belongs s t → ∃ s', indexed s = some ((act t).1, s') ∧ belongs s' (act t).2 ∧
    ∀ e, (act t).1 = .error e → s' = s

/-- Acts done one after the other, whether they fail or not. -/
def Attempt.all : List (Attempt τ ε α) → τ → List (Except ε α) × τ
  | [], t => ([], t)
  | act :: acts, t =>
    let later := Attempt.all acts (act t).2
    ((act t).1 :: later.1, later.2)

/-- What a machine does one after the other, whether it fails or not, unless it stops. -/
def Indexed.all : List (Indexed σ ε α) → σ → Option (List (Except ε α) × σ)
  | [], s => some ([], s)
  | indexed :: rest, s =>
    match indexed s with
    | none => none
    | some (answer, s') =>
      match Indexed.all rest s' with
      | none => none
      | some (answers, last) => some (answer :: answers, last)

variable {belongs : σ → τ → Prop}

/-- **A machine that agrees in each thing agrees in all.** -/
theorem Agrees.all {indexed : ι → Indexed σ ε α} {act : ι → Attempt τ ε α} (items : List ι)
    (h : ∀ i, Agrees belongs (indexed i) (act i)) {s : σ} {t : τ} (hst : belongs s t) :
    ∃ s', Indexed.all (items.map indexed) s = some ((Attempt.all (items.map act) t).1, s') ∧
      belongs s' (Attempt.all (items.map act) t).2 := by
  induction items generalizing s t with
  | nil => exact ⟨s, rfl, hst⟩
  | cons i items ih =>
    obtain ⟨middle, hfirst, hmiddle, -⟩ := h i s t hst
    obtain ⟨last, hlater, hlast⟩ := ih hmiddle
    refine ⟨last, ?_, hlast⟩
    rw [List.map_cons, Indexed.all, hfirst]
    simp only [hlater]
    rfl

/-- What is made of a result is the same on both sides. -/
theorem Agrees.map {indexed : Indexed σ ε α} {act : Attempt τ ε α} {act' : Attempt τ ε β}
    (h : Agrees belongs indexed act) (f : α → β)
    (hact : ∀ t, act' t = ((act t).1.map f, (act t).2)) :
    Agrees belongs (indexed >>= fun a => pure (f a)) act' := by
  intro s t hst
  obtain ⟨s', hindexed, hs', hsame⟩ := h s t hst
  rw [hact]
  cases hanswer : (act t).1 with
  | ok a =>
    refine ⟨s', ?_, hs', nofun⟩
    rw [hanswer] at hindexed
    exact Indexed.bind_of_ok hindexed
  | error e =>
    refine ⟨s', ?_, hs', fun _ _ => hsame e hanswer⟩
    rw [hanswer] at hindexed
    exact Indexed.bind_of_error hindexed

end

/-! ## Readers -/

/-- A reading after whose failure one goes on with the reader from before it. -/
def Reading.attempt {α : Type} (reading : Reading α) : Attempt Reader DecodeError α := fun r =>
  match reading r with
  | .ok (a, r') => (.ok a, r')
  | .error e => (.error e, r)

theorem Reading.attempt_map {α β : Type} (reading : Reading α) (f : α → β) (r : Reader) :
    Reading.attempt (reading >>= fun a => pure (f a)) r =
      ((Reading.attempt reading r).1.map f, (Reading.attempt reading r).2) := by
  have hbind : (reading >>= fun a => pure (f a)) r =
      reading r >>= fun done => .ok (f done.1, done.2) := rfl
  unfold Reading.attempt
  rw [hbind]
  cases reading r <;> rfl

/-- A buffer and a position in it. -/
structure IndexedReader where
  /-- The octets, which nothing moves. -/
  buffer : Octets
  /-- The index of the next octet. -/
  position : UInt64

namespace IndexedReader

open Indexed

/-- How many octets are left; none if the position should be behind the end. -/
def remaining (m : IndexedReader) : Nat := m.buffer.length - m.position.toNat

/-- The next octet, without taking it. -/
def peek : Indexed IndexedReader DecodeError UInt8 := do
  let m ← get
  match m.buffer[m.position.toNat]? with
  | some b => return b
  | none => throw .endOfInput

/-- Takes the next octet. -/
def octet : Indexed IndexedReader DecodeError UInt8 := do
  let b ← peek
  let m ← get
  set { m with position := ← add m.position 1 }
  return b

/-- Takes exactly `n` octets. -/
def exactly (n : UInt64) : Indexed IndexedReader DecodeError Octets := do
  let m ← get
  if m.remaining < n.toNat then throw .endOfInput
  else
    set { m with position := ← add m.position n }
    slice m.buffer m.position (← add m.position n)

/-- Passes over `n` octets. -/
def skip (n : UInt64) : Indexed IndexedReader DecodeError Unit := do
  let _ ← exactly n
  return ()

/-- Takes a word, high octet first. -/
def word : Indexed IndexedReader DecodeError UInt16 := do
  match ← exactly 2 with
  | [hi, lo] => return Octets.word hi lo
  | _ => stop

/-- Takes everything that is left. -/
def remainder : Indexed IndexedReader DecodeError Octets := do
  let m ← get
  let last := UInt64.ofNat m.buffer.length
  set { m with position := last }
  slice m.buffer (min m.position last) last

/-- The machine stands in the buffer where the reader does. -/
structure Stands (buffer : Octets) (m : IndexedReader) (r : Reader) : Prop where
  buffer_eq : m.buffer = buffer
  position_eq : m.position.toNat = r.position
  position_le : r.position ≤ buffer.length
  rest_eq : r.rest = buffer.drop r.position

theorem stands_ofOctets (buffer : Octets) : Stands buffer ⟨buffer, 0⟩ (Reader.ofOctets buffer) :=
  ⟨rfl, rfl, Nat.zero_le _, rfl⟩

variable {buffer : Octets} {m : IndexedReader} {r : Reader}

theorem Stands.length_rest (h : Stands buffer m r) :
    r.rest.length = buffer.length - r.position := by
  rw [h.rest_eq, List.length_drop]

theorem Stands.remaining_eq (h : Stands buffer m r) : m.remaining = r.rest.length := by
  rw [remaining, h.buffer_eq, h.position_eq, h.length_rest]

/-- No sum is too large as long as it is an index in the buffer. -/
theorem Stands.add_lt (h : Stands buffer m r) (hbuffer : buffer.length < UInt64.size) {n : UInt64}
    (hn : n.toNat ≤ r.rest.length) : m.position.toNat + n.toNat < UInt64.size := by
  have hrest := h.length_rest
  have hle := h.position_le
  rw [h.position_eq]
  omega

/-- Both move on by the same number of octets, if there are as many. -/
theorem Stands.advance (h : Stands buffer m r) (hbuffer : buffer.length < UInt64.size) {n : UInt64}
    (hn : n.toNat ≤ r.rest.length) :
    Stands buffer { m with position := m.position + n }
      ⟨r.position + n.toNat, r.rest.drop n.toNat⟩ where
  buffer_eq := h.buffer_eq
  position_eq := by rw [toNat_add_of_lt (h.add_lt hbuffer hn), h.position_eq]
  position_le := by
    have hrest := h.length_rest
    have hle := h.position_le
    show r.position + n.toNat ≤ buffer.length
    omega
  rest_eq := by rw [h.rest_eq, List.drop_drop]

theorem Stands.exactly_of_lt (h : Stands buffer m r) {n : UInt64} (hn : r.rest.length < n.toNat) :
    exactly n m = some (.error .endOfInput, m) := by
  rw [← h.remaining_eq] at hn
  rw [exactly, get_bind, if_pos hn]
  rfl

/-- A slice that is in the buffer is found there. -/
theorem Stands.exactly_of_le (h : Stands buffer m r) (hbuffer : buffer.length < UInt64.size)
    {n : UInt64} (hn : n.toNat ≤ r.rest.length) :
    exactly n m = some (.ok (r.rest.take n.toNat), { m with position := m.position + n }) := by
  have hsum := h.add_lt hbuffer hn
  have hlast := toNat_add_of_lt hsum
  have hend : (m.position + n).toNat ≤ m.buffer.length := by
    rw [← h.remaining_eq, remaining] at hn
    have hle := h.position_le
    rw [← h.position_eq, ← h.buffer_eq] at hle
    omega
  rw [← h.remaining_eq] at hn
  rw [exactly, get_bind, if_neg (Nat.not_lt.2 hn), add_eq hsum, pure_bind, set_bind, pure_bind,
    slice_eq (by omega) hend, hlast, Nat.add_sub_cancel_left, h.buffer_eq, h.position_eq,
    ← h.rest_eq]
  rfl

theorem Stands.peek_eq (h : Stands buffer m r) :
    peek m = match r.rest with
      | [] => some (.error .endOfInput, m)
      | b :: _ => some (.ok b, m) := by
  have hnext : m.buffer[m.position.toNat]? = r.rest.head? := by
    rw [h.buffer_eq, h.position_eq, h.rest_eq, List.head?_drop]
  rw [peek, get_bind, hnext]
  cases r.rest <;> rfl

/-! Every operation does on the machine what it does on the list. -/

theorem agrees_peek : Agrees (Stands buffer) peek Reader.peek.attempt := by
  intro m r h
  rw [h.peek_eq, Reading.attempt, Reader.peek]
  cases r.rest <;> exact ⟨m, rfl, h, fun _ _ => rfl⟩

section
variable (hbuffer : buffer.length < UInt64.size)
include hbuffer

theorem agrees_octet : Agrees (Stands buffer) octet Reader.octet.attempt := by
  intro m r h
  have hpeek := h.peek_eq
  rw [Reading.attempt, Reader.octet]
  cases hrest : r.rest with
  | nil =>
    rw [hrest] at hpeek
    exact ⟨m, bind_of_error hpeek, h, fun _ _ => rfl⟩
  | cons b rest =>
    rw [hrest] at hpeek
    have hone : (1 : UInt64).toNat ≤ r.rest.length := by
      rw [hrest]
      exact Nat.succ_le_succ (Nat.zero_le _)
    refine ⟨{ m with position := m.position + 1 }, ?_, ?_, nofun⟩
    · rw [octet, bind_of_ok hpeek, get_bind, add_eq (h.add_lt hbuffer hone), pure_bind, set_bind]
      rfl
    · have hstands := h.advance hbuffer hone
      rw [hrest] at hstands
      exact hstands

theorem agrees_exactly (n : UInt64) :
    Agrees (Stands buffer) (exactly n) (Reader.exactly n.toNat).attempt := by
  intro m r h
  rw [Reading.attempt, Reader.exactly]
  by_cases hn : r.rest.length < n.toNat
  · rw [if_pos hn]
    exact ⟨m, h.exactly_of_lt hn, h, fun _ _ => rfl⟩
  · rw [if_neg hn]
    have hle := Nat.not_lt.1 hn
    exact ⟨_, h.exactly_of_le hbuffer hle, h.advance hbuffer hle, nofun⟩

theorem agrees_skip (n : UInt64) :
    Agrees (Stands buffer) (skip n) (Reader.skip n.toNat).attempt := by
  refine (agrees_exactly hbuffer n).map (fun _ => ()) fun r => ?_
  rw [Reading.attempt, Reading.attempt, Reader.skip, Reader.exactly]
  by_cases hn : r.rest.length < n.toNat
  · rw [if_pos hn, if_pos hn]
    rfl
  · rw [if_neg hn, if_neg hn]
    rfl

theorem agrees_word : Agrees (Stands buffer) word Reader.word.attempt := by
  intro m r h
  rw [Reading.attempt, Reader.word]
  match hrest : r.rest with
  | [] =>
    have hshort : r.rest.length < (2 : UInt64).toNat := by
      rw [hrest]
      decide
    exact ⟨m, bind_of_error (h.exactly_of_lt hshort), h, fun _ _ => rfl⟩
  | [_] =>
    have hshort : r.rest.length < (2 : UInt64).toNat := by
      rw [hrest]
      exact Nat.lt_succ_self 1
    exact ⟨m, bind_of_error (h.exactly_of_lt hshort), h, fun _ _ => rfl⟩
  | hi :: lo :: rest =>
    have hlong : (2 : UInt64).toNat ≤ r.rest.length := by
      rw [hrest]
      exact Nat.le_add_left 2 rest.length
    have htaken := h.exactly_of_le hbuffer hlong
    have hstands := h.advance hbuffer hlong
    rw [hrest] at htaken hstands
    exact ⟨_, bind_of_ok htaken, hstands, nofun⟩

theorem agrees_remainder : Agrees (Stands buffer) remainder Reader.remainder.attempt := by
  intro m r h
  have hlast : (UInt64.ofNat m.buffer.length).toNat = m.buffer.length := by
    rw [h.buffer_eq]
    exact UInt64.toNat_ofNat_of_lt' hbuffer
  have hle : m.position.toNat ≤ m.buffer.length := by
    rw [h.position_eq, h.buffer_eq]
    exact h.position_le
  have hfirst : min m.position (UInt64.ofNat m.buffer.length) = m.position :=
    if_pos (UInt64.le_iff_toNat_le.2 (by rw [hlast]; exact hle))
  have hrest : (m.buffer.drop m.position.toNat).take (m.buffer.length - m.position.toNat) =
      r.rest := by
    rw [← List.length_drop, List.take_length, h.buffer_eq, h.position_eq, h.rest_eq]
  refine ⟨{ m with position := UInt64.ofNat m.buffer.length }, ?_, ?_, nofun⟩
  · rw [remainder, get_bind, set_bind, hfirst, slice_eq (by omega) (by omega), hlast, hrest]
    rfl
  · have hlength := h.length_rest
    have hposition := h.position_le
    have hend : r.position + r.rest.length = buffer.length := by omega
    refine ⟨h.buffer_eq, ?_, Nat.le_of_eq hend, ?_⟩
    · show (UInt64.ofNat m.buffer.length).toNat = r.position + r.rest.length
      rw [hlast, hend, h.buffer_eq]
    · show [] = buffer.drop (r.position + r.rest.length)
      rw [hend, List.drop_length]

end

end IndexedReader

/-! ## Writers -/

/-- A buffer and a position in it. -/
structure IndexedWriter where
  /-- The octets: those written, and behind them whatever was there before. -/
  buffer : Octets
  /-- The index at which the next octet is written. -/
  position : UInt64

/-- A write after whose failure one goes on with the writer from before it. -/
def Writer.attempt (write : Writer → Except EncodeError Writer) : Attempt Writer EncodeError Unit :=
  fun w =>
    match write w with
    | .ok w' => (.ok (), w')
    | .error e => (.error e, w)

namespace IndexedWriter

open Indexed

/-- How many octets still fit; none if the position should be behind the end. -/
def remaining (m : IndexedWriter) : Nat := m.buffer.length - m.position.toNat

/-- Writes one octet. -/
def octet (b : UInt8) : Indexed IndexedWriter EncodeError Unit := do
  let m ← get
  if m.remaining < 1 then throw .bufferTooSmall
  else
    if m.position.toNat < m.buffer.length then
      set { m with buffer := m.buffer.set m.position.toNat b }
      let m ← get
      set { m with position := ← add m.position 1 }
    else stop

/-- Writes an octet string, whole or not at all. -/
def put (b : Octets) : Indexed IndexedWriter EncodeError Unit := do
  let m ← get
  if m.remaining < b.length then throw .bufferTooSmall
  else
    let last ← add m.position (UInt64.ofNat b.length)
    set { m with buffer := ← overwrite m.buffer m.position last b }
    let m ← get
    set { m with position := last }

/-- Writes a word, high octet first. -/
def word (v : UInt16) : Indexed IndexedWriter EncodeError Unit := put (Octets.ofWord v)

/-- The machine has written what the writer has, over the beginning of what was there. -/
structure Stands (old : Octets) (m : IndexedWriter) (w : Writer) : Prop where
  position_eq : m.position.toNat = w.position
  capacity_eq : w.capacity = old.length
  buffer_eq : m.buffer = w.written ++ old.drop w.position

variable {old : Octets}

theorem stands_ofCapacity (old : Octets) :
    Stands old ⟨old, 0⟩ (Writer.ofCapacity old.length) :=
  ⟨rfl, rfl, rfl⟩

section
variable {m : IndexedWriter} {w : Writer}

theorem Stands.position_le (h : Stands old m w) : w.position ≤ old.length := by
  rw [← h.capacity_eq]
  exact w.fits

theorem Stands.length_buffer (h : Stands old m w) : m.buffer.length = old.length := by
  have hle := h.position_le
  rw [h.buffer_eq, List.length_append, List.length_drop]
  show w.position + (old.length - w.position) = old.length
  omega

theorem Stands.remaining_eq (h : Stands old m w) : m.remaining = w.remaining := by
  rw [remaining, Writer.remaining, h.length_buffer, h.position_eq, h.capacity_eq]
  rfl

/-- Octets for which there is room are as many as a word can say. -/
theorem Stands.add_lt (h : Stands old m w) (hold : old.length < UInt64.size) {b : Octets}
    (hroom : w.position + b.length ≤ old.length) :
    (UInt64.ofNat b.length).toNat = b.length ∧
      m.position.toNat + (UInt64.ofNat b.length).toNat < UInt64.size := by
  have hlength : (UInt64.ofNat b.length).toNat = b.length :=
    UInt64.toNat_ofNat_of_lt' (Nat.lt_of_le_of_lt (Nat.le_of_add_left_le hroom) hold)
  refine ⟨hlength, ?_⟩
  rw [hlength, h.position_eq]
  exact Nat.lt_of_le_of_lt hroom hold

/-- Both have written the same octets, if there is room. -/
theorem Stands.advance (h : Stands old m w) (hold : old.length < UInt64.size) {b : Octets}
    (hroom : w.position + b.length ≤ old.length)
    (hfits : (w.written ++ b).length ≤ w.capacity) :
    Stands old
      ⟨m.buffer.take m.position.toNat ++ b ++ m.buffer.drop (m.position.toNat + b.length),
        m.position + UInt64.ofNat b.length⟩
      ⟨w.capacity, w.written ++ b, hfits⟩ := by
  obtain ⟨hlength, hsum⟩ := h.add_lt hold hroom
  have hposition : (w.written ++ b).length = w.position + b.length := List.length_append
  refine ⟨?_, h.capacity_eq, ?_⟩
  · show (m.position + UInt64.ofNat b.length).toNat = (w.written ++ b).length
    rw [toNat_add_of_lt hsum, hlength, h.position_eq, hposition]
  · show _ = w.written ++ b ++ old.drop (w.written ++ b).length
    rw [h.position_eq, h.buffer_eq, hposition, Writer.position, List.take_left,
      List.drop_length_add_append, List.drop_drop]

end

/-- One octet is written as a string of one octet is. -/
theorem octet_eq_put (b : UInt8) {m : IndexedWriter} (hlength : m.buffer.length < UInt64.size) :
    octet b m = put [b] m := by
  have hsingle : ([b] : Octets).length = 1 := rfl
  by_cases hfull : m.remaining < 1
  · rw [octet, put, get_bind, get_bind, hsingle, if_pos hfull, if_pos hfull]
  · have hin : m.position.toNat < m.buffer.length := by
      rw [remaining] at hfull
      omega
    have hone : (UInt64.ofNat 1).toNat = 1 := rfl
    have hsum : m.position.toNat + (UInt64.ofNat 1).toNat < UInt64.size := by omega
    have hlast : (m.position + UInt64.ofNat 1).toNat = m.position.toNat + 1 := by
      rw [toNat_add_of_lt hsum, hone]
    have hset : m.buffer.set m.position.toNat b =
        m.buffer.take m.position.toNat ++ [b] ++ m.buffer.drop (m.position.toNat + 1) := by
      rw [List.set_eq_take_append_cons_drop, if_pos hin, List.append_assoc]
      rfl
    rw [octet, put, get_bind, get_bind, hsingle, if_neg hfull, if_neg hfull, if_pos hin, set_bind,
      get_bind, hset, add_eq hsum, pure_bind, overwrite_eq hlast.symm (by omega), pure_bind,
      set_bind, get_bind, hlast]
    show (add m.position (UInt64.ofNat 1) >>= _) _ = _
    rw [add_eq hsum, pure_bind]

/-! Every write does on the machine what it does on the list. -/

section
variable (hold : old.length < UInt64.size)
include hold

theorem agrees_put (b : Octets) : Agrees (Stands old) (put b) (Writer.attempt (·.put b)) := by
  intro m w h
  have hposition : (w.written ++ b).length = w.position + b.length := List.length_append
  rw [Writer.attempt, Writer.put]
  by_cases hfits : (w.written ++ b).length ≤ w.capacity
  · rw [dif_pos hfits]
    have hroom : w.position + b.length ≤ old.length := by
      rw [← h.capacity_eq, ← hposition]
      exact hfits
    obtain ⟨hlength, hsum⟩ := h.add_lt hold hroom
    have hlast : (m.position + UInt64.ofNat b.length).toNat = m.position.toNat + b.length := by
      rw [toNat_add_of_lt hsum, hlength]
    have hin : (m.position + UInt64.ofNat b.length).toNat ≤ m.buffer.length := by
      rw [hlast, h.position_eq, h.length_buffer]
      exact hroom
    have hmany : ¬ m.remaining < b.length := by
      rw [remaining]
      omega
    refine ⟨_, ?_, h.advance hold hroom hfits, nofun⟩
    rw [put, get_bind, if_neg hmany, add_eq hsum, pure_bind, overwrite_eq hlast.symm hin, pure_bind,
      set_bind, get_bind, hlast]
    rfl
  · rw [dif_neg hfits]
    have hfew : m.remaining < b.length := by
      have hw := w.fits
      rw [h.remaining_eq, Writer.remaining]
      rw [List.length_append] at hfits
      omega
    refine ⟨m, ?_, h, fun _ _ => rfl⟩
    rw [put, get_bind, if_pos hfew]
    rfl

theorem agrees_octet (b : UInt8) :
    Agrees (Stands old) (octet b) (Writer.attempt (·.octet b)) := by
  intro m w h
  obtain ⟨m', hput, hm', hsame⟩ := agrees_put hold [b] m w h
  refine ⟨m', ?_, hm', hsame⟩
  have hlength : m.buffer.length < UInt64.size := by
    rw [h.length_buffer]
    exact hold
  rw [octet_eq_put b hlength]
  exact hput

theorem agrees_word (v : UInt16) : Agrees (Stands old) (word v) (Writer.attempt (·.word v)) :=
  agrees_put hold (Octets.ofWord v)

end

end IndexedWriter
end KnxBus
