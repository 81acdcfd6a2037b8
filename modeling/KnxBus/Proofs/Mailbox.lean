import KnxBus.Signal.Mailbox

/-!
# What is done to a mailbox and to its flag

A flag is one bit among others: raising and lowering it leaves all other flags alone, and a wait
sees what is up among the flags that it watches and the one that tells it to end
(`Flags.isRaised_among_iff`).

All that can be done to a mailbox is of one kind: some items leave it at the front, others arrive at
the end, and its flag is moved so that it goes on to say whether there is an item, if it did so before
(`Mailbox.Moves`).  Each operation is described by how many items leave and which ones arrive; nothing
else has to be known of it.

A wait takes an item if there is one.  If there is none, then the flag of the mailbox is down, so it
is only for the flag that tells it to end, or for its deadline, that the wait ends
(`Mailbox.popWait_eq_wait`).
-/

namespace KnxBus

/-! ## Flags -/

namespace Flags

/-- The bit of a flag is at its own place. -/
theorem getLsbD_bit (f g : Flag) : (bit g).getLsbD f.val = decide (f = g) := by
  have hplace : (g.val = f.val) = (f = g) := propext ⟨fun h => Fin.ext h.symm, fun h => h ▸ rfl⟩
  simp only [bit, BitVec.getLsbD_twoPow, g.isLt, decide_true, Bool.true_and, hplace]

theorem isRaised_none (f : Flag) : none.isRaised f = false :=
  BitVec.getLsbD_zero

variable (s : Flags) {f g : Flag}

/-- Raising a flag lowers none. -/
theorem isRaised_raise (f g : Flag) (h : s.isRaised f = true) : (s.raise g).isRaised f = true := by
  unfold isRaised at h
  simp only [isRaised, raise, BitVec.getLsbD_or, h, Bool.true_or]

theorem isRaised_raise_self (f : Flag) : (s.raise f).isRaised f = true := by
  simp only [isRaised, raise, BitVec.getLsbD_or, getLsbD_bit, decide_true, Bool.or_true]

/-- Raising a flag raises no other. -/
theorem isRaised_raise_of_ne (hne : f ≠ g) : (s.raise g).isRaised f = s.isRaised f := by
  simp only [isRaised, raise, BitVec.getLsbD_or, getLsbD_bit, hne, decide_false, Bool.or_false]

theorem isRaised_lower_self (f : Flag) : (s.lower f).isRaised f = false := by
  simp only [isRaised, lower, BitVec.getLsbD_and, BitVec.getLsbD_not, getLsbD_bit, decide_true,
    Bool.not_true, Bool.and_false]

/-- Lowering a flag lowers no other. -/
theorem isRaised_lower_of_ne (hne : f ≠ g) : (s.lower g).isRaised f = s.isRaised f := by
  simp only [isRaised, lower, BitVec.getLsbD_and, BitVec.getLsbD_not, getLsbD_bit, hne,
    decide_false, Bool.not_false, Bool.and_true, f.isLt, decide_true]

/-- What a wait sees. -/
theorem isRaised_among_iff (watched : List Flag) (f : Flag) :
    (s.among watched).isRaised f = true ↔ s.isRaised f = true ∧ (f = .stop ∨ f ∈ watched) := by
  have hmask (mask : BitVec 64) :
      (watched.foldl (fun mask g => mask ||| bit g) mask).getLsbD f.val = true ↔
        mask.getLsbD f.val = true ∨ f ∈ watched := by
    induction watched generalizing mask with
    | nil => exact (or_iff_left List.not_mem_nil).symm
    | cons g watched ih =>
      rw [List.foldl_cons, ih, BitVec.getLsbD_or, Bool.or_eq_true, getLsbD_bit, decide_eq_true_eq,
        List.mem_cons, or_assoc]
  simp only [isRaised, among, BitVec.getLsbD_and, Bool.and_eq_true, hmask, getLsbD_bit,
    decide_eq_true_eq]

theorem isEmpty_iff : s.isEmpty = true ↔ ∀ f, s.isRaised f = false := by
  rw [isEmpty, beq_iff_eq]
  constructor
  · intro h f
    rw [isRaised, h]
    exact BitVec.getLsbD_zero
  · intro h
    refine BitVec.eq_of_getLsbD_eq fun i hi => ?_
    exact (h ⟨i, hi⟩).trans BitVec.getLsbD_zero.symm

/-- **A wait goes on exactly as long as no flag is up** that it watches, nor the one that tells it to
end. -/
theorem isEmpty_among_iff (watched : List Flag) :
    (s.among watched).isEmpty = true ↔
      s.isStopped = false ∧ ∀ f ∈ watched, s.isRaised f = false := by
  rw [isEmpty_iff]
  constructor
  · intro h
    have hdown (f : Flag) (hf : f = .stop ∨ f ∈ watched) : s.isRaised f = false :=
      eq_false_of_ne_true fun hraised =>
        ne_true_of_eq_false (h f) ((s.isRaised_among_iff watched f).2 ⟨hraised, hf⟩)
    exact ⟨hdown .stop (.inl rfl), fun f hf => hdown f (.inr hf)⟩
  · rintro ⟨hstop, hwatched⟩ f
    refine eq_false_of_ne_true fun hseen => ?_
    obtain ⟨hraised, rfl | hf⟩ := (s.isRaised_among_iff watched f).1 hseen
    · exact ne_true_of_eq_false hstop hraised
    · exact ne_true_of_eq_false (hwatched f hf) hraised

end Flags

/-! ## Mailboxes -/

namespace Mailbox

variable {α : Type} (m : Mailbox α) (s : Flags)

/-- The flag of the mailbox says whether there is an item. -/
def Signals : Prop := s.isRaised m.flag = true ↔ m.queue ≠ []

/-- Something is done to a mailbox: so many items leave it at the front, and others arrive. -/
structure Moves (left : Nat) (arrived : List α) (m' : Mailbox α) (s' : Flags) : Prop where
  flag_eq : m'.flag = m.flag
  capacity_eq : m'.capacity = m.capacity
  /-- No more items leave than there are. -/
  left_le : left ≤ m.queue.length
  queue_eq : m'.queue = m.queue.drop left ++ arrived
  /-- The flag goes on to say whether there is an item. -/
  signals : m.Signals s → m'.Signals s'
  /-- No other flag is moved. -/
  others (f : Flag) : f ≠ m.flag → s'.isRaised f = s.isRaised f

/-- How many items make room for another one. -/
def excess : Nat :=
  match m.capacity with
  | none => 0
  | some n => m.queue.length + 1 - n

/-- A mailbox with a bound has room for an item, and never holds more items than there is room
for. -/
def Bounded : Prop := ∀ n, m.capacity = some n → 1 ≤ n ∧ m.queue.length ≤ n

variable {m s} in
/-- Only the oldest item makes room, and only if there is no other room. -/
theorem Bounded.excess_le (h : m.Bounded) : m.excess ≤ 1 ∧ m.excess ≤ m.queue.length := by
  unfold excess
  split
  · exact ⟨Nat.zero_le _, Nat.zero_le _⟩
  · rename_i n hn
    have hroom := h n hn
    omega

theorem keep_eq : keep m.capacity m.queue = m.queue.drop m.excess := by
  unfold keep excess
  cases m.capacity <;> rfl

variable {m s} in
theorem Bounded.push_moves (h : m.Bounded) (a : α) :
    m.Moves s m.excess [a] (m.push s a).1 (m.push s a).2.1 where
  flag_eq := rfl
  capacity_eq := rfl
  left_le := h.excess_le.2
  queue_eq := congrArg (· ++ [a]) m.keep_eq
  signals := fun _ => iff_of_true (s.isRaised_raise_self m.flag) (List.concat_ne_nil _ _)
  others := fun _ hf => s.isRaised_raise_of_ne hf

variable {m s} in
/-- The answer to a push says whether an item had to make room. -/
theorem Bounded.push_eq_true_iff (h : m.Bounded) (a : α) :
    (m.push s a).2.2 = true ↔ m.excess = 0 := by
  have hle := h.excess_le.2
  change ((keep m.capacity m.queue).length == m.queue.length) = true ↔ _
  rw [keep_eq, beq_iff_eq, List.length_drop]
  omega

variable {m s} in
/-- Nothing has to make room exactly if all that was there still is. -/
theorem Bounded.push_eq_true_iff_queue (h : m.Bounded) (a : α) :
    (m.push s a).2.2 = true ↔ (m.push s a).1.queue = m.queue ++ [a] := by
  have hle := h.excess_le.2
  rw [h.push_eq_true_iff, (h.push_moves (s := s) a).queue_eq]
  constructor
  · intro hnone
    rw [hnone, List.drop_zero]
  · intro hqueue
    have hlength := congrArg List.length hqueue
    rw [List.length_append, List.length_append, List.length_drop] at hlength
    omega

variable {m s} in
/-- An item has to make room exactly if the oldest is missing afterwards. -/
theorem Bounded.push_eq_false_iff (h : m.Bounded) (a : α) :
    (m.push s a).2.2 = false ↔
      ∃ oldest rest, m.queue = oldest :: rest ∧ (m.push s a).1.queue = rest ++ [a] := by
  have hone := h.excess_le.1
  have hle := h.excess_le.2
  rw [← Bool.not_eq_true, h.push_eq_true_iff, (h.push_moves (s := s) a).queue_eq]
  constructor
  · intro hsome
    have hexcess : m.excess = 1 := by omega
    rw [hexcess] at hle ⊢
    cases hqueue : m.queue with
    | nil => rw [hqueue] at hle; cases hle
    | cons oldest rest => exact ⟨oldest, rest, rfl, rfl⟩
  · rintro ⟨oldest, rest, hqueue, hafter⟩ hnone
    rw [hnone, hqueue, List.drop_zero, List.append_left_inj] at hafter
    exact List.cons_ne_self oldest rest hafter

/-- What is taken is taken from the front. -/
theorem pop_queue : (m.pop s).1.toList ++ (m.pop s).2.1.queue = m.queue := by
  unfold pop
  split
  · rfl
  · rename_i heq
    exact heq.symm
  · rename_i heq
    exact heq.symm

theorem pop_moves : m.Moves s (m.pop s).1.toList.length [] (m.pop s).2.1 (m.pop s).2.2 where
  flag_eq := by
    unfold pop
    split <;> rfl
  capacity_eq := by
    unfold pop
    split <;> rfl
  left_le := by
    have hlength := congrArg List.length (m.pop_queue s)
    rw [List.length_append] at hlength
    omega
  queue_eq := by
    have hdrop := congrArg (List.drop (m.pop s).1.toList.length) (m.pop_queue s)
    rw [List.drop_left] at hdrop
    rw [hdrop, List.append_nil]
  signals := by
    intro h
    unfold pop
    split
    · rename_i hnone
      exact iff_of_false (ne_true_of_eq_false (s.isRaised_lower_self m.flag)) fun hne => hne hnone
    · exact iff_of_false (ne_true_of_eq_false (s.isRaised_lower_self m.flag)) fun hne => hne rfl
    · rename_i a b rest hmore
      have hraised : s.isRaised m.flag = true := h.2 (hmore ▸ List.cons_ne_nil _ _)
      exact iff_of_true hraised (List.cons_ne_nil _ _)
  others := by
    intro f hf
    unfold pop
    split
    · exact s.isRaised_lower_of_ne hf
    · exact s.isRaised_lower_of_ne hf
    · rfl

theorem clear_moves : m.Moves s m.queue.length [] (m.clear s).1 (m.clear s).2 where
  flag_eq := rfl
  capacity_eq := rfl
  left_le := Nat.le_refl _
  queue_eq := by rw [List.drop_length]; rfl
  signals := fun _ =>
    iff_of_false (ne_true_of_eq_false (s.isRaised_lower_self m.flag)) fun hne => hne rfl
  others := fun _ hf => s.isRaised_lower_of_ne hf

theorem pop_flag : (m.pop s).2.1.flag = m.flag := (m.pop_moves s).flag_eq

theorem pop_capacity : (m.pop s).2.1.capacity = m.capacity := (m.pop_moves s).capacity_eq

/-- Taking an item does not tell a loop to go on that is to end. -/
theorem pop_isStopped (hflag : m.flag ≠ .stop) : (m.pop s).2.2.isStopped = s.isStopped :=
  (m.pop_moves s).others .stop hflag.symm

/-- Nothing is left in a mailbox that is found empty. -/
theorem queue_of_pop_none (h : (m.pop s).1 = none) : (m.pop s).2.1.queue = [] := by
  unfold pop at h ⊢
  split at h
  · assumption
  · cases h
  · cases h

theorem pop_eq_none_iff : (m.pop s).1 = none ↔ m.queue = [] := by
  unfold pop
  split
  · rename_i hnone
    exact iff_of_true rfl hnone
  · rename_i hone
    exact iff_of_false nofun (hone ▸ List.cons_ne_nil _ _)
  · rename_i hmore
    exact iff_of_false nofun (hmore ▸ List.cons_ne_nil _ _)

theorem pop_of_queue_eq_nil (h : m.queue = []) : m.pop s = (none, m, s.lower m.flag) := by
  rw [pop, h]

end Mailbox

/-! ## What has left

What becomes of the items of a mailbox is kept as a list of those that have left, each with the way in
which it left; which ways there are is up to whoever keeps the list. -/

namespace Mailbox

section
variable {α β : Type}

/-- Items that leave in the same way. -/
def leaving (how : β) (items : List α) : List (α × β) := items.map fun a => (a, how)

/-- The items that left in one way. -/
def leftBy [DecidableEq β] (how : β) (gone : List (α × β)) : List α :=
  (gone.filter fun item => item.2 = how).map Prod.fst

theorem map_fst_leaving (how : β) (items : List α) : (leaving how items).map Prod.fst = items := by
  simp [leaving, Function.comp_def]

variable [DecidableEq β]

theorem leftBy_append_leaving (how : β) (gone : List (α × β)) (items : List α) :
    leftBy how (gone ++ leaving how items) = leftBy how gone ++ items := by
  simp [leftBy, leaving, List.filter_map, Function.comp_def]

theorem leftBy_append_leaving_of_ne {how other : β} (h : other ≠ how) (gone : List (α × β))
    (items : List α) : leftBy how (gone ++ leaving other items) = leftBy how gone := by
  simp [leftBy, leaving, List.filter_map, Function.comp_def, h]

end

end Mailbox

/-! ## Waiting -/

/-- The item with which a wait ends. -/
def Waited.item? {α : Type} : Waited α → Option α
  | .item a _ => some a
  | _ => none

namespace Mailbox

variable {α : Type} (m : Mailbox α) (s : Flags)

/-- To wait for an item is to take one, if there is one. -/
theorem popWait_eq_pop (deadline : Option Nat) (now : Nat) :
    (m.popWait s deadline now).1.item? = (m.pop s).1 ∧
      (m.popWait s deadline now).2 = (m.pop s).2 := by
  unfold popWait
  split
  · rename_i hpop
    rw [hpop]
    exact ⟨rfl, rfl⟩
  · rename_i hpop
    rw [hpop]
    split
    · exact ⟨rfl, rfl⟩
    · split <;> exact ⟨rfl, rfl⟩

theorem popUntilStopped_eq_pop (other : Flags) (now : Nat) :
    (m.popUntilStopped s other now).1.item? = (m.pop s).1 ∧
      (m.popUntilStopped s other now).2 = (m.pop s).2 := by
  unfold popUntilStopped
  split
  · rename_i hpop
    rw [hpop]
    exact ⟨rfl, rfl⟩
  · rename_i hpop
    rw [hpop]
    split <;> exact ⟨rfl, rfl⟩

/-- **At an empty mailbox it is the flags that are waited for**: its own, which is down, and the one
that tells the wait to end. -/
theorem popWait_eq_wait (h : m.queue = []) (deadline : Option Nat) (now : Nat) :
    m.popWait s deadline now =
      (match deadline with
        | some d => .nothing ((s.lower m.flag).waitUntil [m.flag] d now).2
        | none =>
          match (s.lower m.flag).wait? [m.flag] with
          | some _ => .nothing now
          | none => .endless, m, s.lower m.flag) := by
  have hgoes : ((s.lower m.flag).among [m.flag]).isEmpty = true ↔
      (s.lower m.flag).isStopped = false := by
    rw [Flags.isEmpty_among_iff, List.forall_mem_singleton]
    exact and_iff_left (s.isRaised_lower_self m.flag)
  have hends : (s.lower m.flag).isStopped = !((s.lower m.flag).among [m.flag]).isEmpty := by
    rw [Bool.eq_iff_iff, Bool.not_eq_true', ← Bool.not_eq_true, hgoes, Bool.not_eq_false]
  rw [popWait, m.pop_of_queue_eq_nil s h]
  simp only [hends, Flags.waitUntil, Flags.wait?]
  cases ((s.lower m.flag).among [m.flag]).isEmpty <;> cases deadline <;> rfl

variable {m s} in
/-- A wait ends without an item only if there is none, and if it is told to end or its deadline is
reached. -/
theorem queue_eq_nil_of_popWait {deadline : Option Nat} {now time : Nat} (hflag : m.flag ≠ .stop)
    (h : (m.popWait s deadline now).1 = .nothing time) :
    m.queue = [] ∧ now ≤ time ∧
      (s.isStopped = true ∨ ∃ d, deadline = some d ∧ d ≤ time) := by
  unfold popWait at h
  split at h
  · cases h
  · rename_i m' s' hpop
    have hqueue : m.queue = [] := (m.pop_eq_none_iff s).1 (congrArg Prod.fst hpop)
    have hstopped : s'.isStopped = s.isStopped := by
      rw [← m.pop_isStopped s hflag, hpop]
    rw [hstopped] at h
    refine ⟨hqueue, ?_⟩
    cases hended : s.isStopped with
    | true =>
      rw [hended, if_pos rfl, Waited.nothing.injEq] at h
      exact ⟨Nat.le_of_eq h, .inl rfl⟩
    | false =>
      rw [hended, if_neg Bool.false_ne_true] at h
      cases deadline with
      | none => cases h
      | some d =>
        rw [Waited.nothing.injEq] at h
        exact ⟨by omega, .inr ⟨d, rfl, by omega⟩⟩

end Mailbox
end KnxBus
