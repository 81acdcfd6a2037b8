import KnxBus.Signal

/-!
# Mailboxes

A mailbox is a queue whose flag is up while there is something in it.  Several mailboxes may share
the flags of one loop, each under a flag of its own, so every operation takes the flags and gives
them back.

A mailbox may be bounded.  It then never refuses a new item, but throws away the oldest ones to make
room: who is too slow loses the past, not the present.
-/

namespace KnxBus

/-- A queue with a flag. -/
structure Mailbox (α : Type) where
  /-- The flag that is up while there is an item. -/
  flag : Flag
  /-- How many items there may be, if there is a bound. -/
  capacity : Option Nat
  /-- The items, oldest first. -/
  queue : List α
  deriving DecidableEq, Repr

/-- How a wait for an item ends. -/
inductive Waited (α : Type) where
  /-- With an item, at a time. -/
  | item (a : α) (time : Nat)
  /-- Without one, at a time. -/
  | nothing (time : Nat)
  /-- Never. -/
  | endless
  deriving DecidableEq, Repr

namespace Mailbox

variable {α : Type}

/-- An empty mailbox without a bound. -/
def unbounded (flag : Flag) : Mailbox α := ⟨flag, none, []⟩

/-- An empty mailbox with a bound; there is always room for one item. -/
def bounded (flag : Flag) (capacity : Nat) : Mailbox α := ⟨flag, some (max capacity 1), []⟩

/-- The items that are kept when another one arrives. -/
def keep (capacity : Option Nat) (queue : List α) : List α :=
  match capacity with
  | none => queue
  | some n => queue.drop (queue.length + 1 - n)

/-- Queues an item.  The answer is whether nothing had to be thrown away. -/
def push (m : Mailbox α) (s : Flags) (a : α) : Mailbox α × Flags × Bool :=
  let kept := keep m.capacity m.queue
  ({ m with queue := kept ++ [a] }, s.raise m.flag, kept.length == m.queue.length)

/-- Takes the oldest item.  A mailbox found or left empty has its flag down. -/
def pop (m : Mailbox α) (s : Flags) : Option α × Mailbox α × Flags :=
  match m.queue with
  | [] => (none, m, s.lower m.flag)
  | [a] => (some a, { m with queue := [] }, s.lower m.flag)
  | a :: b :: rest => (some a, { m with queue := b :: rest }, s)

/-- Throws all items away. -/
def clear (m : Mailbox α) (s : Flags) : Mailbox α × Flags :=
  ({ m with queue := [] }, s.lower m.flag)

/-- Takes the oldest item, waiting for one until a deadline, if there is one.  Nothing arrives
meanwhile, so an empty mailbox ends the wait only by the deadline or by being told to end. -/
def popWait (m : Mailbox α) (s : Flags) (deadline : Option Nat) (now : Nat) :
    Waited α × Mailbox α × Flags :=
  match m.pop s with
  | (some a, m', s') => (.item a now, m', s')
  | (none, m', s') =>
    if s'.isStopped then (.nothing now, m', s')
    else
      match deadline with
      | some d => (.nothing (max now d), m', s')
      | none => (.endless, m', s')

/-- Takes the oldest item, waiting for one until told to end by either of two sets of flags. -/
def popUntilStopped (m : Mailbox α) (s other : Flags) (now : Nat) :
    Waited α × Mailbox α × Flags :=
  match m.pop s with
  | (some a, m', s') => (.item a now, m', s')
  | (none, m', s') =>
    if other.isStopped || s'.isStopped then (.nothing now, m', s') else (.endless, m', s')

end Mailbox
end KnxBus
