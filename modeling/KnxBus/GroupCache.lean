import KnxBus.Apdu.Decode
import KnxBus.Apdu.Encode
import KnxBus.GroupCache.Table
import KnxBus.Socket

/-!
# Group caches

A cache listens to all groups and remembers the last value seen for each.  A reader that asks for
a value is answered from the cache if it can be; otherwise the cache asks the bus, and the reader
waits until somebody answers there or its patience ends.

## Events and turns

All that concerns the entries comes to the cache as an event, and events are handled one at a
time.  A *turn* handles all that have come and then looks whose patience has ended.  What the
cache asks the bus for and what it answers to its readers comes out of the turn as a list.

An entry without a sender stands for "nobody answered".  It is made when the patience of a reader
ends and replaces whatever was there, so a later reader learns at once that nobody answers.

Readers are known by numbers.  A cache that is not enabled does not observe the bus and answers no
reader from its entries.

## Times

Times and spans are natural numbers of milliseconds, and there is no last one.  Real clocks end some
day.  A cache that is asked to wait beyond the end of its clock cannot write down when the patience
of the reader ends, and fails; such spans are left out here.
-/

namespace KnxBus

/-- What comes to a cache. -/
inductive CacheEvent where
  /-- A value was seen on the bus. -/
  | observed (entry : CacheEntry)
  /-- A reader asks for a group, is ready to wait and takes no entry above an age, zero for any. -/
  | read (group : GroupAddress) (timeout maxAge : Nat) (reader : Nat)
  /-- A group is to be forgotten. -/
  | remove (group : GroupAddress)
  /-- All groups are to be forgotten. -/
  | clear
  /-- A reader asks for all entries. -/
  | snapshot (reader : Nat)
  deriving DecidableEq, Repr

/-- A reader who waits for a value. -/
structure CacheWaiter where
  /-- The group. -/
  group : GroupAddress
  /-- When the patience of the reader ends. -/
  deadline : Nat
  /-- The reader. -/
  reader : Nat
  deriving DecidableEq, Repr

/-- Whether the patience of a reader has ended. -/
def CacheWaiter.isDue (w : CacheWaiter) (now : Nat) : Bool := w.deadline ≤ now

/-- What a cache does. -/
inductive CacheAction where
  /-- It asks the bus for the value of a group. -/
  | ask (group : GroupAddress)
  /-- It answers a reader. -/
  | answer (reader : Nat) (entry : CacheEntry)
  /-- It gives a reader all entries. -/
  | list (reader : Nat) (entries : List CacheEntry)
  deriving DecidableEq, Repr

/-- A group cache. -/
structure GroupCache where
  /-- The entries. -/
  table : CacheTable
  /-- Readers who wait, longest first. -/
  waiting : List CacheWaiter
  /-- Events that have not been handled, oldest first. -/
  events : List CacheEvent
  /-- The number of its subscription, while it is enabled. -/
  registration : Option Nat
  deriving DecidableEq, Repr

namespace GroupCache

/-- A cache that is not enabled. -/
def start : GroupCache := ⟨.empty, [], [], none⟩

/-- The frames that an enabled cache subscribes to. -/
def route : Route := .group .broadcast

/-- Whether the cache observes the bus. -/
def isEnabled (c : GroupCache) : Bool := c.registration.isSome

/-- An event comes. -/
def enqueue (c : GroupCache) (e : CacheEvent) : GroupCache := { c with events := c.events ++ [e] }

/-- What is seen in a frame: a value that was sent to a group. -/
def sighting? (now : Nat) (frame : Frame) : Option CacheEntry :=
  match frame.destination, frame.unnumbered? with
  | .group g, some apdu =>
    match Apdu.decode apdu with
    | .ok unit =>
      if unit.groupValue?.isSome then some ⟨g, frame.source, apdu, now⟩ else none
    | .error _ => none
  | _, _ => none

/-- A frame is handed to the cache. -/
def deliver (c : GroupCache) (now : Nat) (frame : Frame) : GroupCache :=
  match sighting? now frame with
  | some entry => c.enqueue (.observed entry)
  | none => c

/-- The cache is not enabled any more and is to forget everything. -/
def disable (c : GroupCache) : GroupCache := ({ c with registration := none }).enqueue .clear

/-- The frame that asks the bus for the value of a group. -/
def question (g : GroupAddress) : Except DispatchError Frame :=
  match Apdu.groupValueRead.toOctets with
  | .ok apdu => Socket.dataFrame (.group g) apdu
  | .error cause => .error (.encode cause)

/-! ## Events -/

/-- The entry of a group, if it is not too old. -/
def fresh? (c : GroupCache) (now : Nat) (g : GroupAddress) (maxAge : Nat) : Option CacheEntry :=
  match c.table.get? g with
  | some entry => if maxAge ≠ 0 ∧ maxAge < entry.age now then none else some entry
  | none => none

/-- A value was seen: whoever waits for it is answered. -/
def onObserved (c : GroupCache) (entry : CacheEntry) : GroupCache × List CacheAction :=
  ({ c with
      table := c.table.insert entry
      waiting := c.waiting.filter fun w => w.group ≠ entry.group },
    (c.waiting.filter fun w => w.group = entry.group).map fun w => .answer w.reader entry)

/-- A reader asks for a value.  The clock has room for the end of its patience. -/
def onRead (c : GroupCache) (now : Nat) (g : GroupAddress) (timeout maxAge reader : Nat) :
    GroupCache × List CacheAction :=
  match c.fresh? now g maxAge with
  | some entry => (c, [.answer reader entry])
  | none =>
    if timeout = 0 then (c, [.answer reader (.unknown g now)])
    else ({ c with waiting := c.waiting ++ [⟨g, now + timeout, reader⟩] }, [.ask g])

/-- Handles one event. -/
def handle (c : GroupCache) (now : Nat) : CacheEvent → GroupCache × List CacheAction
  | .observed entry => c.onObserved entry
  | .read g timeout maxAge reader => c.onRead now g timeout maxAge reader
  | .remove g => ({ c with table := c.table.erase g }, [])
  | .clear => ({ c with table := .empty }, [])
  | .snapshot reader => (c, [.list reader c.table.toList])

/-- Handles events one after the other. -/
def handleAll (now : Nat) : List CacheEvent → GroupCache → GroupCache × List CacheAction
  | [], c => (c, [])
  | e :: later, c =>
    let (c', done) := c.handle now e
    let (last, more) := handleAll now later c'
    (last, done ++ more)

/-! ## Patience -/

/-- Nobody has answered the readers whose patience has ended. -/
def expire (c : GroupCache) (now : Nat) : GroupCache × List CacheAction :=
  let due := c.waiting.filter (·.isDue now)
  ({ c with
      table := due.foldl (fun table w => table.insert (.unknown w.group now)) c.table
      waiting := c.waiting.filter fun w => !w.isDue now },
    due.map fun w => .answer w.reader (.unknown w.group now))

/-! ## Turns -/

/-- One turn. -/
def turn (c : GroupCache) (now : Nat) : GroupCache × List CacheAction :=
  let (c₁, handled) := handleAll now c.events { c with events := [] }
  let (c₂, expired) := c₁.expire now
  (c₂, handled ++ expired)

/-- When turns are due even if nothing comes. -/
def deadlines (c : GroupCache) : List Nat := c.waiting.map (·.deadline)

/-- Whether a turn is due. -/
def isDue (c : GroupCache) (now : Nat) : Bool :=
  !c.events.isEmpty || c.waiting.any (·.isDue now)

/-- A reader asks for a value.  A cache that is not enabled answers at once, and for no group in
particular. -/
def read (c : GroupCache) (now : Nat) (g : GroupAddress) (timeout maxAge reader : Nat) :
    GroupCache × List CacheAction :=
  if c.isEnabled then (c.enqueue (.read g timeout maxAge reader), [])
  else (c, [.answer reader (.unknown .broadcast now)])

/-- Who asks for a value in an event that has not been handled, and for which. -/
def pendingReads (c : GroupCache) : List (GroupAddress × Nat) :=
  c.events.filterMap fun e =>
    match e with
    | .read g _ _ reader => some (g, reader)
    | _ => none

/-- The cache ends: nobody will answer its readers. -/
def finish (c : GroupCache) (now : Nat) : List CacheAction :=
  (c.waiting.map (fun w => (w.group, w.reader)) ++ c.pendingReads).map fun (g, reader) =>
    .answer reader (.unknown g now)

end GroupCache
end KnxBus
