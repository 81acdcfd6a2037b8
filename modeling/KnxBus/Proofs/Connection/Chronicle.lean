import KnxBus.Proofs.Connection.Parts
import KnxBus.Proofs.Run

/-!
# A connection and its past

Something may come to a connection between any two parts of a turn.  The runs considered here are
therefore made of parts: the connection looks at one frame, or at its timers and its queue, or it is
told to end and does so.

## What is kept beside the connection

A connection forgets: it does not know which units it was given to send, how many of them have been
acknowledged, or what was read from it long ago.  A `Chronicle` is a connection together with that.
Nothing in it has an influence on the connection.

## What a part of a turn may do

For the peer only a few things matter: which units and acknowledgements are sent, which are taken
from the frames that wait, and which counters move.  `Chronicle.Effect` lists the five combinations
that occur.  There are no others as long as the numbers of the connection agree with the chronicle
(`Chronicle.Sound`), which they always do.
-/

namespace KnxBus

/-- A connection together with its past. -/
structure Chronicle where
  /-- The connection. -/
  connection : Connection
  /-- The units that it was given to send, oldest first. -/
  queued : List Octets
  /-- The units that were read from it, oldest first. -/
  read : List Octets
  /-- How many of its units have been acknowledged. -/
  acked : Nat
  /-- The units that it has delivered, each with the number that it bore, oldest first. -/
  accepted : List (UInt8 × Octets)
  deriving DecidableEq, Repr

namespace Chronicle

/-- What happens to a connection, frames from the peer apart. -/
inductive Act where
  /-- A unit is queued. -/
  | put (apdu : Octets)
  /-- A unit is read. -/
  | read
  /-- The connection is told to end. -/
  | stop
  /-- The connection looks at a frame. -/
  | look (accepts : Frame → Bool) (now : Nat)
  /-- The connection looks at its timers and its queue. -/
  | proceed (accepts : Frame → Bool) (now : Nat)
  /-- The connection ends. -/
  | leave

/-- What happens to a connection. -/
inductive Event where
  /-- A frame comes from the peer. -/
  | hear (frame : Frame)
  /-- Anything else. -/
  | act (a : Act)

/-- A connection without a past. -/
def start (c : Connection) : Chronicle := ⟨c, [], [], 0, []⟩

/-- All units that were ever delivered, read or not, oldest first. -/
def pushed (r : Chronicle) : List Octets := r.read ++ r.connection.delivered

/-- The unit that has been delivered, with its number, if a frame has brought one. -/
def newlyTaken (before after : Connection) (f : Frame) : List (UInt8 × Octets) :=
  match f.numbered? with
  | some (sequence, apdu) =>
    if after.delivered = before.delivered ++ [apdu] then [(sequence, apdu)] else []
  | none => []

/-- What the connection has become enters into the chronicle, together with what can be seen from
it: whether the number of the next unit has moved on, and whether the frame, if there was one, has
brought a unit. -/
def noting (r : Chronicle) (frame? : Option Frame) (c : Connection) : Chronicle :=
  { r with
    connection := c
    acked := if c.sendNo = r.connection.sendNo then r.acked else r.acked + 1
    accepted := r.accepted ++ frame?.toList.flatMap (newlyTaken r.connection c) }

/-- One thing happens to a connection; the frames that it sends come out.  A connection that has
ended does nothing more. -/
def act (a : Act) (r : Chronicle) : Chronicle × List Frame :=
  match a with
  | .put apdu =>
    match r.connection.put apdu with
    | .ok c => ({ r with connection := c, queued := r.queued ++ [apdu] }, [])
    | .error _ => (r, [])
  | .read =>
    ({ r with connection := r.connection.take.2, read := r.read ++ r.connection.take.1.toList }, [])
  | .stop => ({ r with connection := r.connection.stop }, [])
  | .look accepts now =>
    if r.connection.isClosed then (r, [])
    else
      let (c, sent) := r.connection.look accepts now
      (r.noting r.connection.incoming.head? c, sent)
  | .proceed accepts now =>
    if r.connection.isClosed then (r, [])
    else
      let (c, sent) := (r.connection.proceed accepts now).settle
      (r.noting none c, sent)
  | .leave =>
    if r.connection.isClosed then (r, [])
    else
      let (c, sent) := r.connection.giveUp.settle
      (r.noting none c, sent)

/-- A frame comes from the peer. -/
def hear (f : Frame) (r : Chronicle) : Chronicle :=
  { r with connection := r.connection.deliver f }

/-- One thing happens to a connection. -/
def step (e : Event) (r : Chronicle) : Chronicle × List Frame :=
  match e with
  | .hear f => (r.hear f, [])
  | .act a => r.act a

/-- Things happen to a connection one after the other. -/
def run (events : List Event) (r : Chronicle) : Chronicle × List Frame := runWith step events r

/-! ## Agreement of the connection with its past -/

/-- The connection agrees with its past. -/
structure Sound (r : Chronicle) : Prop where
  /-- The expected number counts the units taken. -/
  receiveNo_eq : r.connection.receiveNo = fourBitNo r.accepted.length
  /-- The next number counts the units acknowledged. -/
  sendNo_eq : r.connection.sendNo = fourBitNo r.acked
  /-- What was taken was delivered. -/
  pushed_eq : r.pushed = r.accepted.map Prod.snd
  /-- The units taken bore consecutive numbers. -/
  numbers_eq : r.accepted.map Prod.fst = (List.range r.accepted.length).map fourBitNo
  /-- No more units have been acknowledged than were queued. -/
  acked_le : r.acked ≤ r.queued.length
  /-- While the connection is open, the units behind the acknowledged ones are those it holds. -/
  waiting_eq : r.connection.isClosed = false →
    r.queued.drop r.acked = r.connection.outstanding ++ r.connection.outgoing

/-- What happens to a connection, as it matters to the peer. -/
inductive Effect (r r' : Chronicle) (sent : List Frame) : Prop where
  /-- Nothing. -/
  | quiet (queued : r.queued <+: r'.queued) (acked : r'.acked = r.acked)
      (accepted : r'.accepted = r.accepted)
      (incoming : r'.connection.incoming.Sublist r.connection.incoming)
      (data : dataOf sent = []) (acks : acksOf sent = [])
  /-- The unit behind the acknowledged ones is sent, for the first time or again. -/
  | sends (apdu : Octets) (queued : r'.queued = r.queued) (acked : r'.acked = r.acked)
      (accepted : r'.accepted = r.accepted)
      (incoming : r'.connection.incoming.Sublist r.connection.incoming)
      (carried : (r.queued.map Tpdu.masked)[r.acked]? = some apdu)
      (data : (dataOf sent).Sublist [(fourBitNo r.acked, apdu)]) (acks : acksOf sent = [])
  /-- The unit that is expected is taken and acknowledged. -/
  | takes (f : Frame) (later : List Frame) (apdu : Octets) (queued : r'.queued = r.queued)
      (acked : r'.acked = r.acked) (front : r.connection.incoming = f :: later)
      (numbered : f.numbered? = some (fourBitNo r.accepted.length, apdu))
      (accepted : r'.accepted = r.accepted ++ [(fourBitNo r.accepted.length, apdu)])
      (incoming : r'.connection.incoming.Sublist later)
      (data : dataOf sent = []) (acks : (acksOf sent).Sublist [fourBitNo r.accepted.length])
  /-- The unit before that is acknowledged once more. -/
  | repeats (f : Frame) (later : List Frame) (apdu : Octets) (queued : r'.queued = r.queued)
      (acked : r'.acked = r.acked) (accepted : r'.accepted = r.accepted)
      (front : r.connection.incoming = f :: later)
      (numbered : f.numbered? = some (Connection.previousNo (fourBitNo r.accepted.length), apdu))
      (incoming : r'.connection.incoming.Sublist later) (data : dataOf sent = [])
      (acks : (acksOf sent).Sublist [Connection.previousNo (fourBitNo r.accepted.length)])
  /-- The unit behind the acknowledged ones is acknowledged. -/
  | acknowledged (f : Frame) (later : List Frame) (queued : r'.queued = r.queued)
      (acked : r'.acked = r.acked + 1) (accepted : r'.accepted = r.accepted)
      (front : r.connection.incoming = f :: later)
      (confirms : f.acknowledged? = some (fourBitNo r.acked))
      (incoming : r'.connection.incoming.Sublist later)
      (data : dataOf sent = []) (acks : acksOf sent = [])

/-! ## Numbers -/

theorem nextNo_fourBitNo (i : Nat) : Connection.nextNo (fourBitNo i) = fourBitNo (i + 1) := by
  apply UInt8.toNat_inj.1
  have hand : (Connection.nextNo (fourBitNo i)).toNat = ((fourBitNo i).toNat + 1) % 256 % 16 := by
    rw [Connection.nextNo, UInt8.toNat_and, UInt8.toNat_add]
    exact Nat.and_two_pow_sub_one_eq_mod _ 4
  rw [hand, toNat_fourBitNo, toNat_fourBitNo]
  omega

private theorem toNat_previousNo (i : Nat) :
    (Connection.previousNo (fourBitNo i)).toNat = (i + 15) % 16 := by
  have hand : (Connection.previousNo (fourBitNo i)).toNat =
      ((fourBitNo i).toNat + 15) % 256 % 16 := by
    rw [Connection.previousNo, UInt8.toNat_and, UInt8.toNat_add]
    exact Nat.and_two_pow_sub_one_eq_mod _ 4
  rw [hand, toNat_fourBitNo]
  omega

theorem previousNo_fourBitNo_succ (i : Nat) :
    Connection.previousNo (fourBitNo (i + 1)) = fourBitNo i := by
  apply UInt8.toNat_inj.1
  rw [toNat_previousNo, toNat_fourBitNo]
  omega

theorem previousNo_fourBitNo_ne (i : Nat) : Connection.previousNo (fourBitNo i) ≠ fourBitNo i := by
  intro h
  have h' := congrArg UInt8.toNat h
  rw [toNat_previousNo, toNat_fourBitNo] at h'
  omega

/-! ## The chronicle after a part of a turn -/

section
variable {r : Chronicle} {c : Connection}

theorem noting_same (hs : c.sendNo = r.connection.sendNo)
    (hd : c.delivered = r.connection.delivered) (frame? : Option Frame) :
    r.noting frame? c = { r with connection := c } := by
  have hnone : ∀ f, newlyTaken r.connection c f = [] := by
    intro f
    unfold newlyTaken
    rw [hd]
    split
    · rw [if_neg (by simp)]
    · rfl
  have hflat : frame?.toList.flatMap (newlyTaken r.connection c) = [] :=
    List.flatMap_eq_nil_iff.2 fun f _ => hnone f
  rw [noting, if_pos hs, hflat, List.append_nil]

theorem noting_taken {f : Frame} {n : UInt8} {apdu : Octets} (hs : c.sendNo = r.connection.sendNo)
    (hd : c.delivered = r.connection.delivered ++ [apdu]) (hf : f.numbered? = some (n, apdu)) :
    r.noting (some f) c = { r with connection := c, accepted := r.accepted ++ [(n, apdu)] } := by
  have hnew : newlyTaken r.connection c f = [(n, apdu)] := by
    unfold newlyTaken
    rw [hf]
    exact if_pos hd
  rw [noting, if_pos hs]
  simp only [Option.toList_some, List.flatMap_cons, List.flatMap_nil, List.append_nil, hnew]

theorem noting_acked {f : Frame} (hs : c.sendNo ≠ r.connection.sendNo)
    (hf : f.numbered? = none) :
    r.noting (some f) c = { r with connection := c, acked := r.acked + 1 } := by
  have hnew : newlyTaken r.connection c f = [] := by
    unfold newlyTaken
    rw [hf]
  rw [noting, if_neg hs]
  simp only [Option.toList_some, List.flatMap_cons, List.flatMap_nil, List.append_nil, hnew]

/-- What the connection has become agrees with the past if none of its counters have moved and it
holds the same units as before. -/
theorem Sound.same (h : r.Sound) (hs : c.sendNo = r.connection.sendNo)
    (hr : c.receiveNo = r.connection.receiveNo) (hd : c.delivered = r.connection.delivered)
    (hw : c.isClosed = false → r.connection.isClosed = false ∧
      c.outstanding ++ c.outgoing = r.connection.outstanding ++ r.connection.outgoing) :
    Sound { r with connection := c } where
  receiveNo_eq := hr.trans h.receiveNo_eq
  sendNo_eq := hs.trans h.sendNo_eq
  pushed_eq := by
    rw [← h.pushed_eq, pushed, pushed, hd]
  numbers_eq := h.numbers_eq
  acked_le := h.acked_le
  waiting_eq := fun hopen => by
    obtain ⟨hwas, heq⟩ := hw hopen
    exact (h.waiting_eq hwas).trans heq.symm

/-- The unit that is outstanding, or would be sent next, is the one behind the acknowledged ones. -/
theorem Sound.next_eq (h : r.Sound) (hopen : r.connection.isClosed = false) {apdu : Octets}
    {rest : List Octets} (hw : r.connection.outstanding ++ r.connection.outgoing = apdu :: rest) :
    r.queued[r.acked]? = some apdu := by
  have hdrop : r.queued.drop r.acked = apdu :: rest := (h.waiting_eq hopen).trans hw
  rw [← List.head?_drop, hdrop, List.head?_cons]

/-- It travels as far as units travel. -/
theorem Sound.carried (h : r.Sound) (hopen : r.connection.isClosed = false) {apdu : Octets}
    {rest : List Octets} (hw : r.connection.outstanding ++ r.connection.outgoing = apdu :: rest) :
    (r.queued.map Tpdu.masked)[r.acked]? = some (Tpdu.masked apdu) := by
  rw [List.getElem?_map, h.next_eq hopen hw, Option.map_some]

end

end Chronicle
end KnxBus
