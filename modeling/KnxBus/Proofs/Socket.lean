import KnxBus.Proofs.Mailbox
import KnxBus.Socket

/-!
# What becomes of the items of a socket

A socket with a subscription queues an item for each frame that it makes something of, and its reader
takes the oldest one.  When as many items are queued as are kept, the oldest makes room for the
newest.  So every item that was ever pushed is either still there or has left at the front of the
queue, read or dropped, and it left in the order in which it came.

A record of a socket keeps count of that.  It says which items were pushed, which have left and how,
what the reader was given, and how often something was pushed while the queue was full.  What a
record says is not put into it: which items have been dropped is seen from the queue before and
after, and that they are the oldest ones, as many as there were pushes into a full queue, is a law
(`SocketRecord.Kept`).
-/

namespace KnxBus

/-- An item that a socket makes of a frame goes to the end of its queue. -/
theorem Socket.deliver_of_image {s : Socket} {frame : Frame} {item : SocketItem}
    (h : s.kind.image? frame = some item) :
    (s.deliver frame).queue =
      { s.queue with queue := Mailbox.keep s.queue.capacity s.queue.queue ++ [item] } := by
  rw [deliver, h]
  rfl

/-- How an item leaves the queue of a socket. -/
inductive Departure where
  /-- Its reader took it. -/
  | read
  /-- It made room for another one. -/
  | dropped
  deriving DecidableEq, Repr

namespace Departure

/-- Items that leave in one way. -/
def all (how : Departure) (items : List SocketItem) : List (SocketItem × Departure) :=
  items.map fun item => (item, how)

/-- The items among others that left in one way. -/
def items (how : Departure) (gone : List (SocketItem × Departure)) : List SocketItem :=
  (gone.filter fun item => item.2 = how).map Prod.fst

theorem map_fst_all (how : Departure) (left : List SocketItem) :
    (how.all left).map Prod.fst = left :=
  Mailbox.map_fst_leaving how left

theorem items_append_all (how : Departure) (gone : List (SocketItem × Departure))
    (left : List SocketItem) : how.items (gone ++ how.all left) = how.items gone ++ left :=
  Mailbox.leftBy_append_leaving how gone left

theorem items_append_all_of_ne {how other : Departure} (h : other ≠ how)
    (gone : List (SocketItem × Departure)) (left : List SocketItem) :
    how.items (gone ++ other.all left) = how.items gone :=
  Mailbox.leftBy_append_leaving_of_ne h gone left

end Departure

/-- A socket with a subscription and with what has become of its items. -/
structure SocketRecord where
  /-- The number of its subscription. -/
  number : Nat
  /-- The socket. -/
  socket : Socket
  /-- The items that were pushed, oldest first. -/
  pushed : List SocketItem
  /-- The items that have left the queue, and how, oldest first. -/
  gone : List (SocketItem × Departure)
  /-- What its reader was given, oldest first. -/
  given : List SocketItem
  /-- How many items were pushed while as many were unread as are kept. -/
  overfull : Nat

namespace SocketRecord

/-- A socket that has just been opened. -/
def opened (kind : SocketKind) (number : Nat) : SocketRecord :=
  ⟨number, .readable kind number, [], [], [], 0⟩

/-- What is queued for the reader. -/
def unread (r : SocketRecord) : List SocketItem := r.socket.queue.queue

/-- The items that were dropped. -/
def dropped (r : SocketRecord) : List SocketItem := Departure.dropped.items r.gone

/-- A frame is handed to the socket. -/
def deliver (r : SocketRecord) (frame : Frame) : SocketRecord :=
  let after := r.socket.deliver frame
  match r.socket.kind.image? frame with
  | none => { r with socket := after }
  | some item =>
    let missing := r.unread.length + 1 - after.queue.queue.length
    { r with
      socket := after
      pushed := r.pushed ++ [item]
      gone := r.gone ++ Departure.dropped.all (r.unread.take missing)
      overfull := r.overfull + if r.unread.length = Socket.depth then 1 else 0 }

/-- The reader takes an item. -/
def take (r : SocketRecord) : SocketRecord :=
  { r with
    socket := r.socket.take.2
    gone := r.gone ++ Departure.read.all r.socket.take.1.toList
    given := r.given ++ r.socket.take.1.toList }

/-- The socket with other flags. -/
def withFlags (r : SocketRecord) (flags : Flags) : SocketRecord :=
  { r with socket := { r.socket with flags := flags } }

/-! ## The law of the queue -/

/-- Nothing is lost but what is dropped, and that only when the queue is full. -/
structure Kept (r : SocketRecord) : Prop where
  /-- How many items are kept. -/
  capacity_eq : r.socket.queue.capacity = some Socket.depth
  /-- No more are kept. -/
  unread_le : r.unread.length ≤ Socket.depth
  /-- What was pushed has left at the front or is still there. -/
  pushed_eq : r.gone.map Prod.fst ++ r.unread = r.pushed
  /-- The reader was given what did not leave otherwise. -/
  given_eq : Departure.read.items r.gone = r.given
  /-- An item was dropped for each push into a full queue. -/
  dropped_eq : r.dropped.length = r.overfull

theorem opened_kept (kind : SocketKind) (number : Nat) : (opened kind number).Kept :=
  ⟨rfl, Nat.zero_le _, rfl, rfl, rfl⟩

theorem Kept.withFlags {r : SocketRecord} (h : r.Kept) (flags : Flags) : (r.withFlags flags).Kept :=
  ⟨h.capacity_eq, h.unread_le, h.pushed_eq, h.given_eq, h.dropped_eq⟩

@[simp]
theorem deliver_number (r : SocketRecord) (frame : Frame) : (r.deliver frame).number = r.number := by
  unfold deliver
  split <;> rfl

@[simp]
theorem deliver_kind (r : SocketRecord) (frame : Frame) :
    (r.deliver frame).socket.kind = r.socket.kind := by
  have hsocket : (r.deliver frame).socket = r.socket.deliver frame := by
    unfold deliver
    split <;> rfl
  rw [hsocket, Socket.deliver]
  split <;> rfl

/-- Pushed is what the socket makes of the frame. -/
theorem deliver_pushed (r : SocketRecord) (frame : Frame) :
    (r.deliver frame).pushed = r.pushed ++ (r.socket.kind.image? frame).toList := by
  unfold deliver
  cases r.socket.kind.image? frame with
  | none => exact (List.append_nil _).symm
  | some item => rfl

/-- How many items make room for the next one. -/
def room (r : SocketRecord) : Nat := if r.unread.length = Socket.depth then 1 else 0

theorem room_le (r : SocketRecord) : r.room ≤ r.unread.length := by
  unfold room
  split
  · rename_i hfull
    rw [hfull]
    decide
  · exact Nat.zero_le _

/-- The queue after an item has been pushed. -/
theorem Kept.unread_deliver {r : SocketRecord} (h : r.Kept) {frame : Frame} {item : SocketItem}
    (himage : r.socket.kind.image? frame = some item) :
    (r.socket.deliver frame).queue.queue = r.unread.drop r.room ++ [item] := by
  have hle := h.unread_le
  have hroom : r.unread.length + 1 - Socket.depth = r.room := by
    unfold room
    split <;> omega
  rw [Socket.deliver_of_image himage, h.capacity_eq, Mailbox.keep]
  exact congrArg (fun n => r.unread.drop n ++ [item]) hroom

/-- The record after an item has been pushed: what makes room is at the front. -/
theorem Kept.deliver_eq {r : SocketRecord} (h : r.Kept) {frame : Frame} {item : SocketItem}
    (himage : r.socket.kind.image? frame = some item) :
    r.deliver frame =
      { r with
        socket := r.socket.deliver frame
        pushed := r.pushed ++ [item]
        gone := r.gone ++ Departure.dropped.all (r.unread.take r.room)
        overfull := r.overfull + r.room } := by
  have hmissing : r.unread.length + 1 - (r.socket.deliver frame).queue.queue.length = r.room := by
    have hroom := r.room_le
    rw [h.unread_deliver himage, List.length_append, List.length_drop, List.length_singleton]
    omega
  simp only [SocketRecord.deliver, himage, hmissing]
  rfl

/-- The oldest item makes room when the queue is full, and no item otherwise. -/
theorem Kept.deliver {r : SocketRecord} (h : r.Kept) (frame : Frame) : (r.deliver frame).Kept := by
  cases himage : r.socket.kind.image? frame with
  | none =>
    have hsame : r.deliver frame = r := by
      simp only [SocketRecord.deliver, Socket.deliver, himage]
    rw [hsame]
    exact h
  | some item =>
    have hqueue := h.unread_deliver himage
    have hlength : (r.unread.take r.room).length = r.room := by
      rw [List.length_take, Nat.min_eq_left r.room_le]
    rw [h.deliver_eq himage]
    refine ⟨?_, ?_, ?_, ?_, ?_⟩
    · show (r.socket.deliver frame).queue.capacity = _
      rw [Socket.deliver_of_image himage]
      exact h.capacity_eq
    · show (r.socket.deliver frame).queue.queue.length ≤ _
      have hle := h.unread_le
      rw [hqueue, List.length_append, List.length_drop, List.length_singleton]
      have hdepth : 0 < Socket.depth := by decide
      unfold room
      split <;> omega
    · show (r.gone ++ _).map Prod.fst ++ (r.socket.deliver frame).queue.queue = r.pushed ++ [item]
      rw [List.map_append, Departure.map_fst_all, hqueue, ← h.pushed_eq, List.append_assoc,
        ← List.append_assoc (r.unread.take r.room), List.take_append_drop, List.append_assoc]
    · show Departure.read.items (r.gone ++ _) = r.given
      rw [Departure.items_append_all_of_ne (by decide), h.given_eq]
    · show (Departure.dropped.items (r.gone ++ _)).length = r.overfull + r.room
      rw [Departure.items_append_all, List.length_append, hlength]
      exact congrArg (· + r.room) h.dropped_eq

/-- What the reader takes leaves at the front. -/
theorem Kept.take {r : SocketRecord} (h : r.Kept) : r.take.Kept := by
  have hcapacity : r.socket.take.2.queue.capacity = r.socket.queue.capacity :=
    r.socket.queue.pop_capacity r.socket.flags
  have hqueue : r.socket.take.1.toList ++ r.socket.take.2.queue.queue = r.unread :=
    r.socket.queue.pop_queue r.socket.flags
  refine ⟨hcapacity.trans h.capacity_eq, ?_, ?_, ?_, ?_⟩
  · show r.socket.take.2.queue.queue.length ≤ _
    have hle := h.unread_le
    rw [← hqueue, List.length_append] at hle
    omega
  · show (r.gone ++ _).map Prod.fst ++ r.socket.take.2.queue.queue = r.pushed
    rw [List.map_append, Departure.map_fst_all, List.append_assoc, hqueue, h.pushed_eq]
  · show Departure.read.items (r.gone ++ _) = r.given ++ r.socket.take.1.toList
    rw [Departure.items_append_all, h.given_eq]
  · show (Departure.dropped.items (r.gone ++ _)).length = r.overfull
    rw [Departure.items_append_all_of_ne (by decide)]
    exact h.dropped_eq

end SocketRecord
end KnxBus
