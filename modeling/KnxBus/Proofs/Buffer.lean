import KnxBus.Proofs.Indexed
import KnxBus.Proofs.Reading

/-!
# What is written is read again

Values are written into a buffer of any size, one after the other and whether or not they fit; and
octets that nobody vouches for are read by calls in any order, with any lengths.  Two laws hold,
whatever has failed on the way (`Buffer.mirrored_within_bounds`).

* *What was written is read again* (`Buffer.Mirrored`).  The octets in the buffer are those of the
  values that fitted.  Read with the calls that belong to these values they give the values, in
  order, and then nothing is left.
* *Nothing is read that is not there* (`Buffer.WithinBounds`).  What was given to the callers or
  passed over is exactly the beginning of the buffer, up to the position of the reader.

Both rest on one fact about one call or one write: either it fails and nothing has happened, or so
many octets have gone from what is left to what is done (`Buffer.Call.Course`,
`Buffer.Value.Course`).

That no index is out of range and no sum too large is said of the machine that works by index, which
goes on and on and does the same (`Attempt.all`, `Indexed.all`).
-/

namespace KnxBus

/-- After a reading that takes octets one goes on behind them. -/
theorem Reading.Takes.attempt {α : Type} {reading : Reading α} {b rest : Octets} {a : α}
    (h : reading.Takes b rest a) (position : Nat) :
    Reading.attempt reading ⟨position, b ++ rest⟩ = (.ok a, ⟨position + b.length, rest⟩) := by
  rw [Reading.attempt, h]

namespace Buffer

/-! ## Values and calls -/

/-- What is written at once, or read at once. -/
inductive Value where
  /-- One octet. -/
  | octet (b : UInt8)
  /-- A word. -/
  | word (v : UInt16)
  /-- An octet string. -/
  | octets (b : Octets)
  deriving DecidableEq, Repr

/-- What a reader is asked for. -/
inductive Call where
  /-- The next octet, which is not taken. -/
  | peek
  /-- The next octet. -/
  | octet
  /-- A word. -/
  | word
  /-- So many octets. -/
  | exactly (n : UInt64)
  /-- To pass over so many octets. -/
  | skip (n : UInt64)
  /-- All octets that are left. -/
  | remainder
  deriving DecidableEq, Repr

namespace Value

/-- The octets of a value. -/
def wire : Value → Octets
  | .octet b => [b]
  | .word v => Octets.ofWord v
  | .octets b => b

/-- Writes a value. -/
def write : Value → Writer → Except EncodeError Writer
  | .octet b, w => w.octet b
  | .word v, w => w.word v
  | .octets b, w => w.put b

/-- Writes a value by index. -/
def indexed : Value → Indexed IndexedWriter EncodeError Unit
  | .octet b => IndexedWriter.octet b
  | .word v => IndexedWriter.word v
  | .octets b => IndexedWriter.put b

/-- The call that reads a value. -/
def call : Value → Call
  | .octet _ => .octet
  | .word _ => .word
  | .octets b => .exactly (UInt64.ofNat b.length)

end Value

namespace Call

/-- Reads what is asked for. -/
def reading : Call → Reading Value
  | .peek => do return .octet (← Reader.peek)
  | .octet => do return .octet (← Reader.octet)
  | .word => do return .word (← Reader.word)
  | .exactly n => do return .octets (← Reader.exactly n.toNat)
  | .skip n => do
    let _ ← Reader.skip n.toNat
    return .octets []
  | .remainder => do return .octets (← Reader.remainder)

/-- Reads what is asked for by index. -/
def indexed : Call → Indexed IndexedReader DecodeError Value
  | .peek => do return .octet (← IndexedReader.peek)
  | .octet => do return .octet (← IndexedReader.octet)
  | .word => do return .word (← IndexedReader.word)
  | .exactly n => do return .octets (← IndexedReader.exactly n)
  | .skip n => do
    let _ ← IndexedReader.skip n
    return .octets []
  | .remainder => do return .octets (← IndexedReader.remainder)

/-- How many octets have to be left. -/
def needs : Call → Nat
  | .peek | .octet => 1
  | .word => 2
  | .exactly n | .skip n => n.toNat
  | .remainder => 0

/-- The octets that a call gives to the caller or passes over when it is answered. -/
def yields (c : Call) (r : Reader) (answer : Value) : Octets :=
  match c with
  | .peek => []
  | .skip n => r.rest.take n.toNat
  | _ => answer.wire

/-- The octets that a call gives to the caller or passes over. -/
def passes (c : Call) (r : Reader) : Octets :=
  match (Reading.attempt c.reading r).1 with
  | .error _ => []
  | .ok answer => c.yields r answer

end Call

/-! ## One after the other -/

/-- What comes of writing values into a fresh buffer. -/
def writing (capacity : Nat) (values : List Value) : List (Except EncodeError Unit) × Writer :=
  Attempt.all (values.map fun v => Writer.attempt v.write) (Writer.ofCapacity capacity)

/-- The values that are written, of those that are to be. -/
def accepted : List Value → Writer → List Value
  | [], _ => []
  | v :: values, w =>
    match Writer.attempt v.write w with
    | (.ok _, w') => v :: accepted values w'
    | (.error _, w') => accepted values w'

/-- What comes of reading a buffer from its start. -/
def reading (b : Octets) (calls : List Call) : List (Except DecodeError Value) × Reader :=
  Attempt.all (calls.map fun c => Reading.attempt c.reading) (Reader.ofOctets b)

/-- The octets that the callers are given or pass over, in order. -/
def passed : List Call → Reader → Octets
  | [], _ => []
  | c :: calls, r => c.passes r ++ passed calls (Reading.attempt c.reading r).2

/-! ## Writing -/

namespace Value

/-- How writing a value ends. -/
inductive Course (v : Value) (w : Writer) (done : Except EncodeError Unit × Writer) : Prop where
  /-- It does not fit, and nothing is written. -/
  | refused (full : w.capacity < w.position + v.wire.length)
      (done_eq : done = (.error .bufferTooSmall, w))
  /-- It is written behind what is there. -/
  | written (w' : Writer) (room : w.position + v.wire.length ≤ w.capacity)
      (done_eq : done = (.ok (), w')) (capacity_eq : w'.capacity = w.capacity)
      (written_eq : w'.written = w.written ++ v.wire)

theorem write_eq_put (v : Value) (w : Writer) : v.write w = w.put v.wire := by
  cases v <;> rfl

theorem course (v : Value) (w : Writer) : Course v w (Writer.attempt v.write w) := by
  have hlength : (w.written ++ v.wire).length = w.position + v.wire.length := List.length_append
  rw [Writer.attempt, write_eq_put, Writer.put]
  by_cases hfits : (w.written ++ v.wire).length ≤ w.capacity
  · rw [dif_pos hfits]
    exact .written _ (hlength ▸ hfits) rfl rfl rfl
  · rw [dif_neg hfits]
    exact .refused (by omega) rfl

/-- What was written is what the call that belongs to the value takes. -/
theorem takes_call (v : Value) (hv : v.wire.length < UInt64.size) (rest : Octets) :
    v.call.reading.Takes v.wire rest v := by
  cases v with
  | octet b => exact (Reading.takes_octet rest b).map Value.octet
  | word v => exact (Reading.takes_word rest v).map Value.word
  | octets b =>
    have hlength : b.length = (UInt64.ofNat b.length).toNat := (UInt64.toNat_ofNat_of_lt' hv).symm
    exact (Reading.takes_exactly rest hlength).map Value.octets

end Value

/-- The buffer holds the values that fitted, behind what was there. -/
theorem written_all (values : List Value) (w : Writer) :
    let done := Attempt.all (values.map fun v => Writer.attempt v.write) w
    done.2.capacity = w.capacity ∧
      done.2.written = w.written ++ (accepted values w).flatMap Value.wire := by
  induction values generalizing w with
  | nil => exact ⟨rfl, (List.append_nil _).symm⟩
  | cons v values ih =>
    rw [List.map_cons, Attempt.all, accepted]
    cases v.course w with
    | refused _ done_eq =>
      rw [done_eq]
      exact ih w
    | written w' _ done_eq capacity_eq written_eq =>
      obtain ⟨hcapacity, hwritten⟩ := ih w'
      rw [done_eq]
      refine ⟨hcapacity.trans capacity_eq, hwritten.trans ?_⟩
      rw [written_eq, List.flatMap_cons, List.append_assoc]

/-- Values that stand one behind the other are read one after the other. -/
theorem read_back (values : List Value) (position : Nat)
    (hlength : (values.flatMap Value.wire).length < UInt64.size) :
    Attempt.all ((values.map Value.call).map fun c => Reading.attempt c.reading)
        ⟨position, values.flatMap Value.wire⟩ =
      (values.map .ok, ⟨position + (values.flatMap Value.wire).length, []⟩) := by
  induction values generalizing position with
  | nil => rfl
  | cons v values ih =>
    rw [List.flatMap_cons, List.length_append] at hlength
    have hfirst := (v.takes_call (by omega) (values.flatMap Value.wire)).attempt position
    rw [List.flatMap_cons, List.map_cons, List.map_cons, Attempt.all, hfirst]
    simp only [ih (position + v.wire.length) (by omega), List.map_cons, List.length_append,
      Nat.add_assoc]

/-! ## Reading -/

namespace Call

/-- How a call ends. -/
inductive Course (c : Call) (r : Reader) (done : Except DecodeError Value × Reader) : Prop where
  /-- There are too few octets, and none is taken. -/
  | refused (short : r.rest.length < c.needs) (done_eq : done = (.error .endOfInput, r))
      (passes_eq : c.passes r = [])
  /-- What the caller is given or passes over is the beginning of what was left. -/
  | answered (value : Value) (r' : Reader) (enough : c.needs ≤ r.rest.length)
      (done_eq : done = (.ok value, r')) (rest_eq : r.rest = c.passes r ++ r'.rest)
      (position_eq : r'.position = r.position + (c.passes r).length)

section
variable {c : Call} {r : Reader}

theorem course_of_error (short : r.rest.length < c.needs)
    (herror : c.reading r = .error .endOfInput) : Course c r (Reading.attempt c.reading r) := by
  have hattempt : Reading.attempt c.reading r = (.error .endOfInput, r) := by
    rw [Reading.attempt, herror]
  refine .refused short hattempt ?_
  rw [passes, hattempt]

theorem course_of_takes {b rest : Octets} {value : Value} (enough : c.needs ≤ r.rest.length)
    (hrest : r.rest = b ++ rest) (htakes : c.reading.Takes b rest value)
    (hyields : c.yields r value = b) : Course c r (Reading.attempt c.reading r) := by
  have hattempt : Reading.attempt c.reading r = (.ok value, ⟨r.position + b.length, rest⟩) := by
    obtain ⟨position, left⟩ := r
    obtain rfl : left = b ++ rest := hrest
    exact htakes.attempt position
  have hpassed : c.passes r = b := by
    rw [passes, hattempt]
    exact hyields
  refine .answered value _ enough hattempt ?_ ?_
  · rw [hpassed]
    exact hrest
  · rw [hpassed]

end

theorem course (c : Call) (r : Reader) : Course c r (Reading.attempt c.reading r) := by
  obtain ⟨position, rest⟩ := r
  cases c with
  | peek =>
    cases rest with
    | nil => exact .refused Nat.zero_lt_one rfl rfl
    | cons b rest => exact .answered (.octet b) _ (Nat.le_add_left 1 _) rfl rfl rfl
  | octet =>
    cases rest with
    | nil => exact course_of_error Nat.zero_lt_one rfl
    | cons b rest =>
      exact course_of_takes (Nat.le_add_left 1 _) rfl ((Reading.takes_octet rest b).map Value.octet)
        rfl
  | word =>
    match rest with
    | [] => exact course_of_error Nat.zero_lt_two rfl
    | [_] => exact course_of_error Nat.one_lt_two rfl
    | hi :: lo :: rest =>
      have htakes := Reading.takes_word rest (Octets.word hi lo)
      rw [Octets.ofWord_word] at htakes
      exact course_of_takes (Nat.le_add_left 2 _) rfl (htakes.map Value.word)
        (Octets.ofWord_word hi lo)
  | exactly n =>
    by_cases hn : rest.length < n.toNat
    · refine course_of_error hn ?_
      show (Reader.exactly n.toNat ⟨position, rest⟩ >>= _) = _
      rw [Reader.exactly, if_pos hn]
      rfl
    · have hlength : (rest.take n.toNat).length = n.toNat :=
        List.length_take_of_le (Nat.not_lt.1 hn)
      exact course_of_takes (Nat.not_lt.1 hn) (List.take_append_drop _ _).symm
        ((Reading.takes_exactly (rest.drop n.toNat) hlength).map Value.octets) rfl
  | skip n =>
    by_cases hn : rest.length < n.toNat
    · refine course_of_error hn ?_
      show (Reader.skip n.toNat ⟨position, rest⟩ >>= _) = _
      rw [Reader.skip, if_pos hn]
      rfl
    · have hlength : (rest.take n.toNat).length = n.toNat :=
        List.length_take_of_le (Nat.not_lt.1 hn)
      exact course_of_takes (Nat.not_lt.1 hn) (List.take_append_drop _ _).symm
        ((Reading.takes_skip (rest.drop n.toNat) hlength).map fun _ => Value.octets []) rfl
  | remainder =>
    exact course_of_takes (Nat.zero_le _) (List.append_nil rest).symm
      ((Reading.takes_remainder rest).map Value.octets) rfl

end Call

/-- What the callers are given or pass over is the beginning of what was left. -/
theorem passed_all (calls : List Call) (r : Reader) :
    let done := Attempt.all (calls.map fun c => Reading.attempt c.reading) r
    r.rest = passed calls r ++ done.2.rest ∧
      done.2.position = r.position + (passed calls r).length := by
  induction calls generalizing r with
  | nil => exact ⟨rfl, rfl⟩
  | cons c calls ih =>
    rw [List.map_cons, Attempt.all, passed]
    cases c.course r with
    | refused _ done_eq passes_eq =>
      rw [done_eq, passes_eq]
      exact ih r
    | answered value r' _ done_eq rest_eq position_eq =>
      obtain ⟨hrest, hposition⟩ := ih r'
      rw [done_eq]
      refine ⟨?_, hposition.trans ?_⟩
      · rw [rest_eq, List.append_assoc]
        exact congrArg (c.passes r ++ ·) hrest
      · rw [position_eq, List.length_append, Nat.add_assoc]

/-! ## By index -/

section
variable {buffer : Octets} (hbuffer : buffer.length < UInt64.size)
include hbuffer

theorem Value.agrees (v : Value) :
    Agrees (IndexedWriter.Stands buffer) v.indexed (Writer.attempt v.write) := by
  cases v with
  | octet b => exact IndexedWriter.agrees_octet hbuffer b
  | word v => exact IndexedWriter.agrees_word hbuffer v
  | octets b => exact IndexedWriter.agrees_put hbuffer b

theorem Call.agrees (c : Call) :
    Agrees (IndexedReader.Stands buffer) c.indexed (Reading.attempt c.reading) := by
  cases c with
  | peek => exact IndexedReader.agrees_peek.map Value.octet (Reading.attempt_map _ _)
  | octet => exact (IndexedReader.agrees_octet hbuffer).map Value.octet (Reading.attempt_map _ _)
  | word => exact (IndexedReader.agrees_word hbuffer).map Value.word (Reading.attempt_map _ _)
  | exactly n =>
    exact (IndexedReader.agrees_exactly hbuffer n).map Value.octets (Reading.attempt_map _ _)
  | skip n =>
    exact (IndexedReader.agrees_skip hbuffer n).map (fun _ => Value.octets [])
      (Reading.attempt_map _ _)
  | remainder =>
    exact (IndexedReader.agrees_remainder hbuffer).map Value.octets (Reading.attempt_map _ _)

end

/-! ## What can be relied on -/

/-- What is promised of a writer after some values: in its buffer something else stood before, and
the kept values are those that fitted. -/
structure Mirrored (old : Octets) (values kept : List Value)
    (answers : List (Except EncodeError Unit)) (w : Writer) : Prop where
  /-- What is written are the values that fitted. -/
  written_eq : w.written = kept.flatMap Value.wire
  /-- A value is written next exactly if there is room for it. -/
  ok_iff (v : Value) :
    (Writer.attempt v.write w).1 = .ok () ↔ w.position + v.wire.length ≤ old.length
  /-- If there is no room, nothing is written. -/
  attempt_of_lt (v : Value) : old.length < w.position + v.wire.length →
    Writer.attempt v.write w = (.error .bufferTooSmall, w)
  /-- The machine does not stop.  Behind what is written its buffer is as it was, and a value that
  does not fit changes neither its buffer nor its position. -/
  indexed_eq : ∃ m,
    Indexed.all (values.map Value.indexed) ⟨old, 0⟩ = some (answers, m) ∧
      m.position.toNat = w.position ∧ m.buffer = w.written ++ old.drop w.position ∧
      ∀ v : Value, ∃ answer m', v.indexed m = some (answer, m') ∧ ∀ e, answer = .error e → m' = m
  /-- With the calls that belong to the kept values they are read again, and then nothing is left. -/
  read_back :
    (reading w.written (kept.map Value.call)).1 = kept.map .ok ∧
      (reading w.written (kept.map Value.call)).2.isEmpty = true

/-- What is promised of a reader after some calls, to whose callers some octets were given or which
passed over them. -/
structure WithinBounds (b : Octets) (calls : List Call) (given : Octets)
    (answers : List (Except DecodeError Value)) (r : Reader) : Prop where
  /-- The position is never behind the end. -/
  position_le : r.position ≤ b.length
  /-- What was given or passed over is what stands before the position. -/
  given_eq : given = b.take r.position
  /-- What is left is what stands behind it. -/
  rest_eq : r.rest = b.drop r.position
  /-- A call is answered next exactly if there are as many octets as it needs. -/
  ok_iff (c : Call) :
    (∃ value, (Reading.attempt c.reading r).1 = .ok value) ↔ r.position + c.needs ≤ b.length
  /-- If there are not as many, then nothing is read. -/
  attempt_of_lt (c : Call) : b.length < r.position + c.needs →
    Reading.attempt c.reading r = (.error .endOfInput, r)
  /-- The machine does not stop, and a call that fails leaves it as it is. -/
  indexed_eq : ∃ m,
    Indexed.all (calls.map Call.indexed) ⟨b, 0⟩ = some (answers, m) ∧
      m.position.toNat = r.position ∧ m.buffer = b ∧
      ∀ c : Call, ∃ answer m', c.indexed m = some (answer, m') ∧ ∀ e, answer = .error e → m' = m

theorem mirrored {old : Octets} (hold : old.length < UInt64.size) (values : List Value) :
    Mirrored old values (accepted values (Writer.ofCapacity old.length))
      (writing old.length values).1 (writing old.length values).2 := by
  obtain ⟨hcapacity, hwritten⟩ := written_all values (Writer.ofCapacity old.length)
  obtain ⟨m, hall, hm⟩ := Agrees.all values (Value.agrees hold)
    (IndexedWriter.stands_ofCapacity old)
  rw [← writing] at hcapacity hwritten hall hm
  have hcapacity : (writing old.length values).2.capacity = old.length := hcapacity
  refine ⟨hwritten, fun v => ?_, fun v hfull => ?_, ?_, ?_⟩
  · cases v.course (writing old.length values).2 with
    | refused full done_eq =>
      rw [done_eq]
      exact iff_of_false nofun (by omega)
    | written w' room done_eq _ _ =>
      rw [done_eq]
      exact iff_of_true rfl (by omega)
  · cases v.course (writing old.length values).2 with
    | refused _ done_eq => exact done_eq
    | written w' room _ _ _ => omega
  · refine ⟨m, hall, hm.position_eq, hm.buffer_eq, fun v => ?_⟩
    obtain ⟨m', hnext, -, hsame⟩ := v.agrees hold m _ hm
    exact ⟨_, m', hnext, hsame⟩
  · have hlength : ((accepted values (Writer.ofCapacity old.length)).flatMap Value.wire).length <
        UInt64.size := by
      have hfits := (writing old.length values).2.fits
      rw [hcapacity, hwritten] at hfits
      exact Nat.lt_of_le_of_lt hfits hold
    have hback := read_back (accepted values (Writer.ofCapacity old.length)) 0 hlength
    rw [hwritten, reading, Reader.ofOctets]
    exact ⟨congrArg Prod.fst hback, congrArg (fun done => done.2.isEmpty) hback⟩

theorem withinBounds {b : Octets} (hb : b.length < UInt64.size) (calls : List Call) :
    WithinBounds b calls (passed calls (Reader.ofOctets b)) (reading b calls).1
      (reading b calls).2 := by
  obtain ⟨hsplit, hposition⟩ := passed_all calls (Reader.ofOctets b)
  obtain ⟨m, hall, hm⟩ := Agrees.all calls (Call.agrees hb) (IndexedReader.stands_ofOctets b)
  rw [← reading] at hsplit hposition hall hm
  have hposition : (reading b calls).2.position = (passed calls (Reader.ofOctets b)).length :=
    hposition.trans (Nat.zero_add _)
  have hrest := hm.length_rest
  have hle := hm.position_le
  refine ⟨hle, ?_, hm.rest_eq, fun c => ?_, fun c hshort => ?_, ?_⟩
  · rw [hposition]
    exact (List.prefix_iff_eq_take.1 ⟨_, hsplit.symm⟩)
  · cases c.course (reading b calls).2 with
    | refused short done_eq _ =>
      rw [done_eq]
      exact iff_of_false nofun (by omega)
    | answered value r' enough done_eq _ _ =>
      rw [done_eq]
      exact iff_of_true ⟨value, rfl⟩ (by omega)
  · cases c.course (reading b calls).2 with
    | refused _ done_eq _ => exact done_eq
    | answered value r' enough _ _ _ => omega
  · refine ⟨m, hall, hm.position_eq, hm.buffer_eq, fun c => ?_⟩
    obtain ⟨m', hnext, -, hsame⟩ := c.agrees hb m _ hm
    exact ⟨_, m', hnext, hsame⟩

/-- **What is written is read again, and nothing is read that is not there.**

No buffer of a machine holds more octets than a word of sixty-four bits can say. -/
theorem mirrored_within_bounds (old b : Octets) (hold : old.length < UInt64.size)
    (hb : b.length < UInt64.size) (values : List Value) (calls : List Call) :
    Mirrored old values (accepted values (Writer.ofCapacity old.length))
        (writing old.length values).1 (writing old.length values).2 ∧
      WithinBounds b calls (passed calls (Reader.ofOctets b)) (reading b calls).1
        (reading b calls).2 :=
  ⟨mirrored hold values, withinBounds hb calls⟩

/-- A string that does not fit between a word and an octet that do, and a call for far too much
between others that are answered. -/
theorem mirrored_within_bounds_short :
    let old : Octets := [9, 9, 9, 9]
    let values : List Value := [.word 0x1002, .octets [1, 2, 3], .octet 7]
    let b : Octets := [6, 16, 2]
    let calls : List Call :=
      [.octet, .exactly 0xFFFFFFFFFFFFFFFF, .peek, .skip 1, .word, .remainder]
    (old.length < UInt64.size ∧ b.length < UInt64.size) ∧
      (Mirrored old values (accepted values (Writer.ofCapacity old.length))
          (writing old.length values).1 (writing old.length values).2 ∧
        WithinBounds b calls (passed calls (Reader.ofOctets b)) (reading b calls).1
          (reading b calls).2) ∧
      (writing old.length values).1 = [.ok (), .error .bufferTooSmall, .ok ()] ∧
      (writing old.length values).2.written = [0x10, 0x02, 7] ∧
      (reading b calls).1 = [.ok (.octet 6), .error .endOfInput, .ok (.octet 16), .ok (.octets []),
        .error .endOfInput, .ok (.octets [2])] ∧
      passed calls (Reader.ofOctets b) = b := by
  intro old values b calls
  have hold : old.length < UInt64.size := by decide
  have hb : b.length < UInt64.size := by decide
  exact ⟨⟨hold, hb⟩, mirrored_within_bounds old b hold hb values calls, rfl, rfl, rfl, rfl⟩

end Buffer
end KnxBus
