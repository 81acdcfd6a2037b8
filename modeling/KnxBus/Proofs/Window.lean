/-!
# One message at a time over a lossy way

Three parts of the library send one numbered message at a time, repeat it until it is acknowledged
and number the messages with few bits: a connection, a client of a gateway, and a channel of a
gateway.  What holds of the ways between sender and receiver is the same each time and is stated
here once.

Let the sender have seen `acked` messages acknowledged and the receiver have taken `taken` messages.
The ways keep the order and lose what they like.  Then

* the receiver is level with the sender or one message ahead;
* what is on the way to the receiver are first copies of the message that it has taken last and
  then copies of the message that it expects next;
* what is on the way back are first acknowledgements that the sender has already seen and then
  acknowledgements of the message that is outstanding.

So of all the messages that were ever sent at most two can be met on the way.  Neighbours have
different numbers even where the numbers wrap around, and therefore the number that a message bears
says which of the two it is.

`Window` is this invariant, and the theorems below say that it is kept by whatever can happen: a
message is sent, or sent again; something is lost; a message is taken, or recognised as one that was
taken before; an acknowledgement is seen.
-/

namespace KnxBus

/-! ## Lists in two phases -/

/-- A list of things of one kind, followed by things of another kind. -/
def InPhases {α : Type} (First Second : α → Prop) (l : List α) : Prop :=
  ∃ old new, l = old ++ new ∧ (∀ x ∈ old, First x) ∧ ∀ x ∈ new, Second x

namespace InPhases

variable {α : Type} {First Second First' Second' : α → Prop} {l l' : List α} {x : α}

theorem nil : InPhases First Second ([] : List α) :=
  ⟨[], [], rfl, by simp, by simp⟩

theorem of_forall_first (h : ∀ x ∈ l, First x) : InPhases First Second l :=
  ⟨l, [], (List.append_nil l).symm, h, by simp⟩

theorem mono (h : InPhases First Second l) (hf : ∀ x, First x → First' x)
    (hs : ∀ x, Second x → Second' x) : InPhases First' Second' l := by
  obtain ⟨old, new, rfl, hold, hnew⟩ := h
  exact ⟨old, new, rfl, fun x hx => hf x (hold x hx), fun x hx => hs x (hnew x hx)⟩

/-- Losing things does not mix the phases. -/
theorem sublist (h : InPhases First Second l) (hl : l'.Sublist l) : InPhases First Second l' := by
  obtain ⟨old, new, rfl, hold, hnew⟩ := h
  obtain ⟨old', new', rfl, hold', hnew'⟩ := List.sublist_append_iff.1 hl
  exact ⟨old', new', rfl, fun x hx => hold x (hold'.subset hx),
    fun x hx => hnew x (hnew'.subset hx)⟩

theorem forall_mem (h : InPhases First Second l) : ∀ x ∈ l, First x ∨ Second x := by
  obtain ⟨old, new, rfl, hold, hnew⟩ := h
  intro x hx
  rcases List.mem_append.1 hx with hx | hx
  · exact Or.inl (hold x hx)
  · exact Or.inr (hnew x hx)

theorem concat_second (h : InPhases First Second l) (hx : Second x) :
    InPhases First Second (l ++ [x]) := by
  obtain ⟨old, new, rfl, hold, hnew⟩ := h
  refine ⟨old, new ++ [x], List.append_assoc old new [x], hold, ?_⟩
  intro y hy
  rcases List.mem_append.1 hy with hy | hy
  · exact hnew y hy
  · rw [List.mem_singleton.1 hy]
    exact hx

/-- While nothing can be of the second kind, a thing of the first kind may follow. -/
theorem concat_first (h : InPhases First Second l) (hs : ∀ y, ¬ Second y) (hx : First x) :
    InPhases First Second (l ++ [x]) := by
  refine of_forall_first ?_
  intro y hy
  rcases List.mem_append.1 hy with hy | hy
  · exact (h.forall_mem y hy).resolve_right (hs y)
  · rw [List.mem_singleton.1 hy]
    exact hx

/-- If the front is not of the first kind, then everything is of the second kind. -/
theorem forall_second_of_cons (h : InPhases First Second (x :: l)) (hx : ¬ First x) :
    ∀ y ∈ x :: l, Second y := by
  obtain ⟨old, new, heq, hold, hnew⟩ := h
  cases old with
  | nil =>
    rw [heq]
    exact hnew
  | cons z old =>
    obtain ⟨rfl, -⟩ := List.cons.inj heq
    exact absurd (hold x List.mem_cons_self) hx

end InPhases

/-! ## The invariant -/

/-- A numbering in which neighbours have different numbers. -/
def Alternates (no : Nat → UInt8) : Prop := ∀ i, no (i + 1) ≠ no i

/-- What is on the ways between a sender that has seen `acked` messages acknowledged and a receiver
that has taken `taken` messages.  The messages are numbered by `no`; `carries i m` says that `m` may
be sent as the message with index `i`. -/
structure Window {β : Type} (no : Nat → UInt8) (carries : Nat → β → Prop) (acked taken : Nat)
    (data : List (UInt8 × β)) (acks : List UInt8) : Prop where
  /-- What is acknowledged has been taken. -/
  acked_le : acked ≤ taken
  /-- The receiver is at most one message ahead. -/
  taken_le : taken ≤ acked + 1
  /-- First copies of the message taken last, then copies of the message expected next. -/
  data_phases : InPhases
    (fun x : UInt8 × β => ∃ i, taken = i + 1 ∧ x.1 = no i ∧ carries i x.2)
    (fun x : UInt8 × β => taken = acked ∧ x.1 = no taken ∧ carries taken x.2) data
  /-- First acknowledgements seen before, then acknowledgements of the outstanding message. -/
  acks_phases : InPhases (fun a => ∃ i, acked = i + 1 ∧ a = no i)
    (fun a => taken = acked + 1 ∧ a = no acked) acks

namespace Window

variable {β : Type} {no : Nat → UInt8} {carries carries' : Nat → β → Prop} {acked taken : Nat}
  {data data' : List (UInt8 × β)} {acks acks' : List UInt8} {n a : UInt8} {m : β}

/-- At first nothing has been sent. -/
theorem start : Window no carries 0 0 [] [] :=
  ⟨Nat.le_refl 0, Nat.le_succ 0, InPhases.nil, InPhases.nil⟩

/-- More messages may be sent under a number than before. -/
theorem mono (w : Window no carries acked taken data acks)
    (h : ∀ i m, carries i m → carries' i m) : Window no carries' acked taken data acks := by
  refine ⟨w.acked_le, w.taken_le, w.data_phases.mono ?_ ?_, w.acks_phases⟩
  · rintro x ⟨i, hi, hno, hc⟩
    exact ⟨i, hi, hno, h i x.2 hc⟩
  · rintro x ⟨hi, hno, hc⟩
    exact ⟨hi, hno, h taken x.2 hc⟩

/-- Messages and acknowledgements are lost, or dropped by those they reach. -/
theorem lose (w : Window no carries acked taken data acks) (hd : data'.Sublist data)
    (ha : acks'.Sublist acks) : Window no carries acked taken data' acks' :=
  ⟨w.acked_le, w.taken_le, w.data_phases.sublist hd, w.acks_phases.sublist ha⟩

theorem taken_eq (w : Window no carries acked taken data acks) :
    taken = acked ∨ taken = acked + 1 := by
  have h₁ := w.acked_le
  have h₂ := w.taken_le
  omega

/-- While the receiver is ahead, nothing on the way to it bears the number that it expects. -/
theorem ne_of_ahead (hno : Alternates no) (w : Window no carries acked taken data acks)
    (h : taken = acked + 1) : ∀ x ∈ data, x.1 ≠ no taken := by
  intro x hx heq
  rcases w.data_phases.forall_mem x hx with ⟨i, rfl, hi, -⟩ | ⟨h', -⟩
  · exact hno i (heq.symm.trans hi)
  · omega

/-! ### The sender -/

/-- The sender sends the message that follows the acknowledged ones, for the first time or again. -/
theorem send (w : Window no carries acked taken data acks) (hm : carries acked m) :
    Window no carries acked taken (data ++ [(no acked, m)]) acks := by
  refine ⟨w.acked_le, w.taken_le, ?_, w.acks_phases⟩
  rcases w.taken_eq with rfl | h
  · exact w.data_phases.concat_second ⟨rfl, rfl, hm⟩
  · refine w.data_phases.concat_first ?_ ⟨acked, h, rfl, hm⟩
    rintro x ⟨h', -⟩
    omega

/-- An acknowledgement that bears the number of the outstanding message acknowledges it. -/
theorem acknowledge (hno : Alternates no)
    (w : Window no carries acked taken data (no acked :: acks)) :
    taken = acked + 1 ∧ Window no carries (acked + 1) taken data acks := by
  have hold : ¬ ∃ i, acked = i + 1 ∧ no acked = no i := by
    rintro ⟨i, rfl, h⟩
    exact hno i h
  have hnew := w.acks_phases.forall_second_of_cons hold
  have htaken : taken = acked + 1 := (hnew _ List.mem_cons_self).1
  refine ⟨htaken, by omega, by omega, w.data_phases.mono (fun x hx => hx) ?_, ?_⟩
  · rintro x ⟨h, -⟩
    omega
  · refine InPhases.of_forall_first fun a ha => ?_
    exact ⟨acked, rfl, (hnew a (List.mem_cons_of_mem _ ha)).2⟩

/-! ### The receiver -/

/-- A message that bears the number that is expected is the next message, and it has not been taken
before.  Its acknowledgement goes behind the others. -/
theorem take (hno : Alternates no)
    (w : Window no carries acked taken ((no taken, m) :: data) acks) :
    taken = acked ∧ carries taken m ∧
      Window no carries acked (taken + 1) data (acks ++ [no taken]) := by
  have hold : ¬ ∃ i, taken = i + 1 ∧ no taken = no i ∧ carries i m := by
    rintro ⟨i, rfl, h, -⟩
    exact hno i h
  have hnew := w.data_phases.forall_second_of_cons hold
  obtain ⟨htaken, -, hm⟩ := hnew _ List.mem_cons_self
  subst htaken
  refine ⟨rfl, hm, by omega, by omega, ?_, ?_⟩
  · refine InPhases.of_forall_first fun x hx => ?_
    obtain ⟨-, hnox, hcx⟩ := hnew x (List.mem_cons_of_mem _ hx)
    exact ⟨taken, rfl, hnox, hcx⟩
  · refine (w.acks_phases.mono (fun a ha => ha) ?_).concat_second ⟨rfl, rfl⟩
    rintro a ⟨h, -⟩
    omega

/-- A message that bears another number is the one that was taken last.  It may be acknowledged once
more. -/
theorem again (w : Window no carries acked taken ((n, m) :: data) acks) (hn : n ≠ no taken) :
    (∃ i, taken = i + 1 ∧ n = no i ∧ carries i m) ∧
      Window no carries acked taken data (acks ++ [n]) := by
  have hlost := w.lose (List.sublist_cons_self (n, m) data) (List.Sublist.refl acks)
  rcases w.data_phases.forall_mem _ List.mem_cons_self with h | ⟨-, h, -⟩
  · refine ⟨h, w.acked_le, w.taken_le, hlost.data_phases, ?_⟩
    obtain ⟨i, hi, hni, -⟩ := h
    rcases w.taken_eq with ht | ht
    · refine w.acks_phases.concat_first ?_ ⟨i, by omega, hni⟩
      rintro a ⟨h', -⟩
      omega
    · have hi' : i = acked := by omega
      refine w.acks_phases.concat_second ⟨ht, ?_⟩
      rw [← hi']
      exact hni
  · exact absurd h hn

end Window

/-! ## Prefixes

A receiver has taken a beginning of what the sender has. -/

theorem getElem?_of_prefix {α : Type} {l q : List α} (h : l <+: q) {i : Nat} {x : α}
    (hi : l[i]? = some x) : q[i]? = some x := by
  obtain ⟨t, rfl⟩ := h
  obtain ⟨hlt, -⟩ := List.getElem?_eq_some_iff.1 hi
  rw [List.getElem?_append_left hlt]
  exact hi

theorem prefix_concat {α : Type} {l q : List α} {x : α} (h : l <+: q) (hx : q[l.length]? = some x) :
    l ++ [x] <+: q := by
  obtain ⟨t, rfl⟩ := h
  rw [List.getElem?_append_right (Nat.le_refl _), Nat.sub_self] at hx
  cases t with
  | nil => cases hx
  | cons y t =>
    cases hx
    exact ⟨t, by rw [List.append_assoc]; rfl⟩

/-! ## The numbers in use -/

/-- The number of a message where numbers have four bits. -/
def fourBitNo (i : Nat) : UInt8 := UInt8.ofNat (i % 16)

/-- The number of a message where numbers are whole octets. -/
def octetNo (i : Nat) : UInt8 := UInt8.ofNat i

theorem toNat_fourBitNo (i : Nat) : (fourBitNo i).toNat = i % 16 := by
  rw [fourBitNo, UInt8.toNat_ofNat']
  omega

theorem toNat_octetNo (i : Nat) : (octetNo i).toNat = i % 256 := UInt8.toNat_ofNat'

theorem alternates_fourBitNo : Alternates fourBitNo := by
  intro i h
  have h' := congrArg UInt8.toNat h
  rw [toNat_fourBitNo, toNat_fourBitNo] at h'
  omega

theorem alternates_octetNo : Alternates octetNo := by
  intro i h
  have h' := congrArg UInt8.toNat h
  rw [toNat_octetNo, toNat_octetNo] at h'
  omega

theorem octetNo_succ (i : Nat) : octetNo (i + 1) = octetNo i + 1 := UInt8.ofNat_add i 1

end KnxBus
