import KnxBus.Proofs.Mailbox
import Mathlib.Logic.Function.Basic

/-!
# Mailboxes that share the flags of one loop

A mailroom is any number of mailboxes, each for items of a kind of its own, under the flags of one
loop.  Items are pushed, taken, waited for and thrown away in any order, and the loop may be told to
end at any time.  A wait that something interrupts is one that begins again; so each wait comes with
the time at which it begins, and nothing is assumed about these times.  Other flags may be raised and
lowered by anybody: only the flags of the mailboxes are left to them.

Beside each mailbox a record is kept of what became of its items.  Which items have left is seen from
the queue before and after, and not put into the record; that these are the oldest ones, that takers
were given what was taken, and that a push was answered with `false` for each item that had to make
room, are laws (`MailRecord.Kept`).

## Why no flag lies

An operation moves the flag of its own mailbox only, and leaves it saying whether there is an item.
Since no two mailboxes have the same flag, what is done at one is not seen at another
(`Mailroom.Tended.put`).  So a loop that watches the flags of some mailboxes sleeps exactly as long as
nothing is in any of them (`Mailroom.Tended.wait?_eq_none_iff`).
-/

namespace KnxBus

/-! ## What becomes of items -/

/-- How an item leaves a mailbox. -/
inductive Leaving where
  /-- Somebody takes it. -/
  | taken
  /-- It makes room for another one. -/
  | discarded
  /-- It is thrown away together with all others. -/
  | cleared
  deriving DecidableEq, Repr

/-- A mailbox with what has become of its items. -/
structure MailRecord (α : Type) where
  /-- The mailbox. -/
  box : Mailbox α
  /-- The items that were pushed, oldest first. -/
  pushed : List α
  /-- The items that have left, and how, oldest first. -/
  gone : List (α × Leaving)
  /-- What takers were given, oldest first. -/
  given : List α
  /-- How many pushes were answered with `false`. -/
  denied : Nat
  deriving Repr

namespace MailRecord

variable {α : Type}

/-- A mailbox that has just been made, with or without a bound. -/
def opened (flag : Flag) (capacity : Option Nat) : MailRecord α :=
  { box := match capacity with
      | none => .unbounded flag
      | some n => .bounded flag n
    pushed := []
    gone := []
    given := []
    denied := 0 }

/-- The mailbox is found changed: some items have been pushed, and what is missing has left. -/
def note (r : MailRecord α) (how : Leaving) (arrived : List α) (after : Mailbox α) : MailRecord α :=
  let missing := r.box.queue.length + arrived.length - after.queue.length
  { r with
    box := after
    pushed := r.pushed ++ arrived
    gone := r.gone ++ Mailbox.leaving how (r.box.queue.take missing) }

/-- An item is pushed. -/
def push (r : MailRecord α) (s : Flags) (a : α) : MailRecord α × Flags :=
  let done := r.box.push s a
  ({ r.note .discarded [a] done.1 with denied := r.denied + if done.2.2 then 0 else 1 }, done.2.1)

/-- Somebody has tried to take an item. -/
def take (r : MailRecord α) (got : Option α) (after : Mailbox α × Flags) : MailRecord α × Flags :=
  ({ r.note .taken [] after.1 with given := r.given ++ got.toList }, after.2)

/-- All items are thrown away. -/
def clear (r : MailRecord α) (s : Flags) : MailRecord α × Flags :=
  (r.note .cleared [] (r.box.clear s).1, (r.box.clear s).2)

/-- Nothing is lost but what leaves, and nothing leaves unnoticed. -/
structure Kept (r : MailRecord α) : Prop where
  /-- There is room for an item, and no more items than there is room for. -/
  bounded : r.box.Bounded
  /-- What was pushed has left at the front or is still there. -/
  pushed_eq : r.gone.map Prod.fst ++ r.box.queue = r.pushed
  /-- What was taken was given to takers. -/
  given_eq : Mailbox.leftBy .taken r.gone = r.given
  /-- For each item that made room a push was answered with `false`. -/
  denied_eq : (Mailbox.leftBy .discarded r.gone).length = r.denied

theorem opened_kept (flag : Flag) (capacity : Option Nat) :
    (opened flag capacity : MailRecord α).Kept := by
  refine ⟨fun n hn => ?_, ?_, rfl, rfl⟩
  · cases capacity with
    | none => cases hn
    | some n => cases hn; exact ⟨Nat.le_max_right _ _, Nat.zero_le _⟩
  · cases capacity <;> rfl

section
variable {r : MailRecord α} {s s' : Flags} {left : Nat} {arrived : List α} {after : Mailbox α}

/-- What is noted to have left are the oldest items. -/
theorem note_gone (hmoves : r.box.Moves s left arrived after s') (how : Leaving) :
    (r.note how arrived after).gone = r.gone ++ Mailbox.leaving how (r.box.queue.take left) := by
  have hle := hmoves.left_le
  have hmissing : r.box.queue.length + arrived.length - after.queue.length = left := by
    rw [hmoves.queue_eq, List.length_append, List.length_drop]
    omega
  simp only [note, hmissing]

/-- What was pushed has left at the front or is still there. -/
theorem Kept.note_pushed (h : r.Kept) (hmoves : r.box.Moves s left arrived after s')
    (how : Leaving) :
    (r.note how arrived after).gone.map Prod.fst ++ after.queue = r.pushed ++ arrived := by
  rw [note_gone hmoves, hmoves.queue_eq, List.map_append, Mailbox.map_fst_leaving, ← h.pushed_eq,
    List.append_assoc, ← List.append_assoc (r.box.queue.take left), List.take_append_drop,
    List.append_assoc]

/-- Where nothing arrives, there is as much room as before. -/
theorem Kept.bounded_of_moves (h : r.Kept) (hmoves : r.box.Moves s left [] after s') :
    after.Bounded := by
  intro n hn
  obtain ⟨hroom, hle⟩ := h.bounded n (hmoves.capacity_eq ▸ hn)
  refine ⟨hroom, ?_⟩
  rw [hmoves.queue_eq, List.append_nil, List.length_drop]
  omega

/-- An item for which there is room, or for which the oldest one makes room. -/
theorem Kept.push (h : r.Kept) (s : Flags) (a : α) : (r.push s a).1.Kept := by
  have hmoves := h.bounded.push_moves (s := s) a
  have hgone : (r.push s a).1.gone =
      r.gone ++ Mailbox.leaving .discarded (r.box.queue.take r.box.excess) :=
    note_gone hmoves .discarded
  refine ⟨fun n hn => ?_, h.note_pushed hmoves .discarded, ?_, ?_⟩
  · obtain ⟨hroom, hle⟩ := h.bounded n hn
    have hcapacity : r.box.capacity = some n := hn
    refine ⟨hroom, ?_⟩
    change (r.box.push s a).1.queue.length ≤ n
    rw [hmoves.queue_eq, List.length_append, List.length_drop, List.length_singleton,
      Mailbox.excess, hcapacity]
    dsimp only
    omega
  · rw [hgone, Mailbox.leftBy_append_leaving_of_ne (by decide)]
    exact h.given_eq
  · have hexcess := h.bounded.excess_le
    have hlength : (r.box.queue.take r.box.excess).length = r.box.excess := by
      rw [List.length_take, Nat.min_eq_left hexcess.2]
    have hanswer : r.box.excess = if (r.box.push s a).2.2 then 0 else 1 := by
      have hiff := h.bounded.push_eq_true_iff (s := s) a
      split
      · rename_i htrue
        exact hiff.1 htrue
      · rename_i hfalse
        have hne : r.box.excess ≠ 0 := fun hzero => hfalse (hiff.2 hzero)
        omega
    rw [hgone, Mailbox.leftBy_append_leaving, List.length_append, hlength, h.denied_eq, hanswer]
    rfl

/-- What a taker is given is what has left. -/
theorem Kept.take (h : r.Kept) {got : Option α} {after : Mailbox α × Flags}
    (hgot : got = (r.box.pop s).1) (hafter : after = (r.box.pop s).2) :
    (r.take got after).1.Kept := by
  subst hgot hafter
  have hmoves := r.box.pop_moves s
  have hgone : (r.take (r.box.pop s).1 (r.box.pop s).2).1.gone =
      r.gone ++ Mailbox.leaving .taken (r.box.queue.take (r.box.pop s).1.toList.length) :=
    note_gone hmoves .taken
  have htaken : r.box.queue.take (r.box.pop s).1.toList.length = (r.box.pop s).1.toList :=
    (congrArg (List.take _) (r.box.pop_queue s)).symm.trans List.take_left
  refine ⟨h.bounded_of_moves hmoves, ?_, ?_, ?_⟩
  · exact (h.note_pushed hmoves .taken).trans rfl
  · rw [hgone, Mailbox.leftBy_append_leaving, htaken, h.given_eq]
    rfl
  · rw [hgone, Mailbox.leftBy_append_leaving_of_ne (by decide)]
    exact h.denied_eq

theorem Kept.clear (h : r.Kept) (s : Flags) : (r.clear s).1.Kept := by
  have hmoves := r.box.clear_moves s
  have hgone : (r.clear s).1.gone = _ := note_gone hmoves .cleared
  refine ⟨h.bounded_of_moves hmoves, h.note_pushed hmoves .cleared, ?_, ?_⟩
  · rw [hgone, Mailbox.leftBy_append_leaving_of_ne (by decide)]
    exact h.given_eq
  · rw [hgone, Mailbox.leftBy_append_leaving_of_ne (by decide)]
    exact h.denied_eq

end

/-- The mailbox is the one that was made, its flag says whether there is an item, and no item is
lost. -/
structure InOrder (flag : Flag) (capacity : Option Nat) (s : Flags) (r : MailRecord α) : Prop where
  flag_eq : r.box.flag = flag
  capacity_eq : r.box.capacity = capacity.map (max · 1)
  raised_iff : s.isRaised flag = true ↔ r.box.queue ≠ []
  kept : r.Kept

theorem opened_inOrder (flag : Flag) (capacity : Option Nat) :
    InOrder flag capacity .none (opened flag capacity : MailRecord α) := by
  refine ⟨?_, ?_, ?_, opened_kept flag capacity⟩
  · cases capacity <;> rfl
  · cases capacity <;> rfl
  · refine iff_of_false (ne_true_of_eq_false (Flags.isRaised_none flag)) fun hne => hne ?_
    cases capacity <;> rfl

section
variable {flag : Flag} {capacity : Option Nat} {s : Flags} {r : MailRecord α}

/-- What is done to the mailbox leaves it in order. -/
theorem InOrder.moved (h : InOrder flag capacity s r) {left : Nat} {arrived : List α}
    {after : MailRecord α × Flags} (hmoves : r.box.Moves s left arrived after.1.box after.2)
    (hkept : after.1.Kept) : InOrder flag capacity after.2 after.1 := by
  obtain ⟨rfl, hcapacity, hraised, -⟩ := h
  refine ⟨hmoves.flag_eq, hmoves.capacity_eq.trans hcapacity, ?_, hkept⟩
  have hsignals := hmoves.signals hraised
  rw [Mailbox.Signals, hmoves.flag_eq] at hsignals
  exact hsignals

/-- What is done to other flags does not matter to it. -/
theorem InOrder.withFlags (h : InOrder flag capacity s r) {s' : Flags}
    (hflag : s'.isRaised flag = s.isRaised flag) : InOrder flag capacity s' r :=
  ⟨h.flag_eq, h.capacity_eq, hflag ▸ h.raised_iff, h.kept⟩

end

end MailRecord

/-! ## A mailroom -/

/-- Mailboxes, with what has become of their items, under the flags of one loop. -/
structure Mailroom (ι : Type) (α : ι → Type) where
  /-- The mailboxes. -/
  record : (i : ι) → MailRecord (α i)
  /-- The flags of the loop. -/
  flags : Flags

/-- What can happen in a mailroom. -/
inductive MailEvent (ι : Type) (α : ι → Type) where
  /-- An item is pushed. -/
  | push (i : ι) (a : α i)
  /-- Somebody takes an item, if there is one. -/
  | pop (i : ι)
  /-- Somebody begins to wait for an item, until a deadline, if there is one. -/
  | popWait (i : ι) (deadline : Option Nat) (now : Nat)
  /-- Somebody begins to wait for an item until told to end by either of two sets of flags. -/
  | popUntilStopped (i : ι) (other : Flags) (now : Nat)
  /-- All items are thrown away. -/
  | clear (i : ι)
  /-- A flag is raised by somebody else. -/
  | raise (f : Flag)
  /-- A flag is lowered by somebody else. -/
  | lower (f : Flag)

/-- Nobody but the mailboxes raises or lowers their flags. -/
def MailEvent.Spares {ι : Type} {α : ι → Type} (flag : ι → Flag) : MailEvent ι α → Prop
  | .raise f => ∀ i, f ≠ flag i
  | .lower f => ∀ i, f ≠ flag i
  | _ => True

namespace Mailroom

variable {ι : Type} {α : ι → Type}

/-- A mailroom that has just been made. -/
def opened (flag : ι → Flag) (capacity : ι → Option Nat) : Mailroom ι α :=
  ⟨fun i => .opened (flag i) (capacity i), .none⟩

variable [DecidableEq ι]

/-- Something has been done at one mailbox. -/
def put (room : Mailroom ι α) (i : ι) (after : MailRecord (α i) × Flags) : Mailroom ι α :=
  ⟨Function.update room.record i after.1, after.2⟩

/-- What an event makes of a mailroom. -/
def step (room : Mailroom ι α) : MailEvent ι α → Mailroom ι α
  | .push i a => room.put i ((room.record i).push room.flags a)
  | .pop i =>
    let done := (room.record i).box.pop room.flags
    room.put i ((room.record i).take done.1 done.2)
  | .popWait i deadline now =>
    let done := (room.record i).box.popWait room.flags deadline now
    room.put i ((room.record i).take done.1.item? done.2)
  | .popUntilStopped i other now =>
    let done := (room.record i).box.popUntilStopped room.flags other now
    room.put i ((room.record i).take done.1.item? done.2)
  | .clear i => room.put i ((room.record i).clear room.flags)
  | .raise f => { room with flags := room.flags.raise f }
  | .lower f => { room with flags := room.flags.lower f }

/-- What a sequence of events makes of a mailroom. -/
def run (room : Mailroom ι α) (events : List (MailEvent ι α)) : Mailroom ι α :=
  events.foldl step room

/-- All mailboxes are in order. -/
def Tended (flag : ι → Flag) (capacity : ι → Option Nat) (room : Mailroom ι α) : Prop :=
  ∀ i, (room.record i).InOrder (flag i) (capacity i) room.flags

variable {flag : ι → Flag} {capacity : ι → Option Nat} {room : Mailroom ι α}

omit [DecidableEq ι] in
theorem opened_tended : (opened flag capacity : Mailroom ι α).Tended flag capacity :=
  fun i => MailRecord.opened_inOrder (flag i) (capacity i)

/-- **What is done at one mailbox is not seen at another.** -/
theorem Tended.put (h : room.Tended flag capacity) (hdistinct : Function.Injective flag) {i : ι}
    {left : Nat} {arrived : List (α i)} {after : MailRecord (α i) × Flags}
    (hmoves : (room.record i).box.Moves room.flags left arrived after.1.box after.2)
    (hkept : after.1.Kept) : (room.put i after).Tended flag capacity := by
  intro j
  by_cases hj : j = i
  · subst hj
    have hat : (room.put j after).record j = after.1 := Function.update_self _ _ _
    rw [hat]
    exact (h j).moved hmoves hkept
  · have helse : (room.put i after).record j = room.record j := Function.update_of_ne hj _ _
    have hflag : flag j ≠ (room.record i).box.flag := by
      rw [(h i).flag_eq]
      exact hdistinct.ne hj
    rw [helse]
    exact (h j).withFlags (hmoves.others _ hflag)

/-- Every event keeps a mailroom tended. -/
theorem Tended.step (h : room.Tended flag capacity) (hdistinct : Function.Injective flag)
    {e : MailEvent ι α} (hspares : e.Spares flag) : (room.step e).Tended flag capacity := by
  -- whoever takes an item, waiting or not, does what is done by taking it
  have htakes {i : ι} {got : Option (α i)} {after : Mailbox (α i) × Flags}
      (hgot : got = ((room.record i).box.pop room.flags).1)
      (hafter : after = ((room.record i).box.pop room.flags).2) :
      (room.put i ((room.record i).take got after)).Tended flag capacity :=
    h.put hdistinct (hafter ▸ (room.record i).box.pop_moves room.flags)
      ((h i).kept.take hgot hafter)
  cases e with
  | push i a =>
    exact h.put hdistinct ((h i).kept.bounded.push_moves a) ((h i).kept.push room.flags a)
  | pop i => exact htakes rfl rfl
  | popWait i deadline now =>
    obtain ⟨hgot, hafter⟩ := (room.record i).box.popWait_eq_pop room.flags deadline now
    exact htakes hgot hafter
  | popUntilStopped i other now =>
    obtain ⟨hgot, hafter⟩ := (room.record i).box.popUntilStopped_eq_pop room.flags other now
    exact htakes hgot hafter
  | clear i =>
    exact h.put hdistinct ((room.record i).box.clear_moves room.flags)
      ((h i).kept.clear room.flags)
  | raise f => exact fun i => (h i).withFlags (room.flags.isRaised_raise_of_ne (hspares i).symm)
  | lower f => exact fun i => (h i).withFlags (room.flags.isRaised_lower_of_ne (hspares i).symm)

/-- So does every sequence of events. -/
theorem Tended.run (h : room.Tended flag capacity) (hdistinct : Function.Injective flag)
    {events : List (MailEvent ι α)} (hspares : ∀ e ∈ events, e.Spares flag) :
    (room.run events).Tended flag capacity :=
  List.foldlRecOn (motive := fun room => Tended flag capacity room) events Mailroom.step h
    fun _ hroom e he => hroom.step hdistinct (hspares e he)

omit [DecidableEq ι] in
/-- **A loop sleeps exactly as long as there is nothing for it**: nothing is in the mailboxes that it
watches, and it is not told to end. -/
theorem Tended.wait?_eq_none_iff (h : room.Tended flag capacity) (watched : List ι) :
    room.flags.wait? (watched.map flag) = none ↔
      room.flags.isStopped = false ∧ ∀ i ∈ watched, (room.record i).box.queue = [] := by
  have hquiet (i : ι) : room.flags.isRaised (flag i) = false ↔ (room.record i).box.queue = [] := by
    rw [← Bool.not_eq_true, (h i).raised_iff, ne_eq, Decidable.not_not]
  simp only [Flags.wait?, ite_eq_left_iff, reduceCtorEq, imp_false, Decidable.not_not,
    Flags.isEmpty_among_iff, List.forall_mem_map, hquiet]

/-! ## What can be relied on -/

/-- What is promised of a mailroom, whatever has happened in it. -/
structure Orderly (flag : ι → Flag) (capacity : ι → Option Nat) (room : Mailroom ι α) : Prop where
  /-- A flag is up exactly if there is an item in its mailbox. -/
  raised_iff (i : ι) : room.flags.isRaised (flag i) = true ↔ (room.record i).box.queue ≠ []
  /-- A mailbox with a bound never holds more items, but there is always room for one. -/
  length_le (i : ι) (n : Nat) :
    capacity i = some n → (room.record i).box.queue.length ≤ max n 1
  /-- A push is answered with `false` exactly if the oldest item made room. -/
  push_eq_false_iff (i : ι) (a : α i) :
    let done := (room.record i).box.push room.flags a
    done.2.2 = false ↔
      ∃ oldest rest, (room.record i).box.queue = oldest :: rest ∧ done.1.queue = rest ++ [a]
  /-- It is answered with `true` exactly if nothing had to make room. -/
  push_eq_true_iff (i : ι) (a : α i) :
    let done := (room.record i).box.push room.flags a
    done.2.2 = true ↔ done.1.queue = (room.record i).box.queue ++ [a]
  /-- Every item that was pushed has left, in one way and in its turn, or is still there. -/
  pushed_eq (i : ι) :
    (room.record i).gone.map Prod.fst ++ (room.record i).box.queue = (room.record i).pushed
  /-- Those that were taken were given to takers, in that order and once each. -/
  given_eq (i : ι) : Mailbox.leftBy .taken (room.record i).gone = (room.record i).given
  /-- Those that made room are as many as there were pushes answered with `false`. -/
  denied_eq (i : ι) :
    (Mailbox.leftBy .discarded (room.record i).gone).length = (room.record i).denied
  /-- A wait ends without an item only if there is none, and if it is told to end or its deadline is
  reached when it ends. -/
  queue_eq_nil_of_popWait (i : ι) (deadline : Option Nat) (now time : Nat) :
    ((room.record i).box.popWait room.flags deadline now).1 = .nothing time →
      (room.record i).box.queue = [] ∧ now ≤ time ∧
        (room.flags.isStopped = true ∨ ∃ d, deadline = some d ∧ d ≤ time)

omit [DecidableEq ι] in
theorem Tended.orderly (h : room.Tended flag capacity) (hstop : ∀ i, flag i ≠ .stop) :
    room.Orderly flag capacity := by
  refine ⟨fun i => (h i).raised_iff, fun i n hn => ?_,
    fun i a => (h i).kept.bounded.push_eq_false_iff a,
    fun i a => (h i).kept.bounded.push_eq_true_iff_queue a, fun i => (h i).kept.pushed_eq,
    fun i => (h i).kept.given_eq, fun i => (h i).kept.denied_eq, fun i deadline now time hends => ?_⟩
  · have hcapacity := (h i).capacity_eq
    rw [hn] at hcapacity
    exact ((h i).kept.bounded _ hcapacity).2
  · have hflag : (room.record i).box.flag ≠ .stop := by
      rw [(h i).flag_eq]
      exact hstop i
    exact Mailbox.queue_eq_nil_of_popWait hflag hends

/-- **No flag lies, and no item is lost.**

However many mailboxes stand under the flags of one loop, each under a flag of its own that nobody
else moves and that is not the one for ending: whatever is pushed, taken, waited for and thrown away,
and whenever the loop is told to end, what is promised of a mailroom holds. -/
theorem run_orderly (flag : ι → Flag) (capacity : ι → Option Nat)
    (hdistinct : Function.Injective flag) (hstop : ∀ i, flag i ≠ .stop)
    (events : List (MailEvent ι α)) (hspares : ∀ e ∈ events, e.Spares flag) :
    ((opened flag capacity).run events).Orderly flag capacity :=
  (opened_tended.run hdistinct hspares).orderly hstop

/-- Two mailboxes, one of them with room for a single item, into which two are pushed. -/
theorem run_orderly_twoBoxes :
    let flag : Bool → Flag := fun i => cond i 3 4
    let capacity : Bool → Option Nat := fun i => cond i (some 0) none
    let events : List (MailEvent Bool fun i => cond i Nat Char) :=
      [.push true (5 : Nat), .push true (6 : Nat), .push false 'a', .push false 'b',
        .popWait true (some 20) 10, .raise 9, .raise .stop, .popUntilStopped false .none 30,
        .clear false]
    let room := (opened flag capacity).run events
    (Function.Injective flag ∧ (∀ i, flag i ≠ .stop) ∧ ∀ e ∈ events, e.Spares flag) ∧
      room.Orderly flag capacity ∧
      (room.record true).gone = [((5 : Nat), .discarded), ((6 : Nat), .taken)] ∧
      (room.record false).gone = [('a', .taken), ('b', .cleared)] ∧
      (room.record true).denied = 1 := by
  intro flag capacity events room
  have hdistinct : Function.Injective flag := by
    unfold Function.Injective
    decide
  have hstop : ∀ i, flag i ≠ .stop := by decide
  have hspares : ∀ e ∈ events, e.Spares flag := by
    simp only [events, flag, List.forall_mem_cons, MailEvent.Spares, List.not_mem_nil,
      false_imp_iff, implies_true, true_and, and_true]
    decide
  have hbounded : (room.record true).gone = [((5 : Nat), .discarded), ((6 : Nat), .taken)] := by rfl
  have hunbounded : (room.record false).gone = [('a', .taken), ('b', .cleared)] := by rfl
  have hdenied : (room.record true).denied = 1 := by rfl
  exact ⟨⟨hdistinct, hstop, hspares⟩, run_orderly flag capacity hdistinct hstop events hspares,
    hbounded, hunbounded, hdenied⟩

end Mailroom
end KnxBus
