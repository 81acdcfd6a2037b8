import KnxBus.Proofs.Tpdu
import KnxBus.Socket

/-!
# What a socket listens to

A socket gets the frames that the route of its kind wants and makes an item of each of them, if it
can.  What this comes to is said kind by kind in `SocketKind.Hears`: which frames are meant, what
they must carry, and what the item is.  That the socket acts accordingly is
`SocketKind.heard?_eq_some_iff`.

## Who is meant

A route to a group names it, or names zero and wants the frames to every group; frames to everybody
are for another route (`Route.broadcast_accepts_iff`, `Route.group_accepts_iff`).

A route to an individual address names it, or names zero and means this device.  Three addresses
decide whether it wants a frame: the one that it names, the one that the frame is sent to, and the
one that this device has at that moment.  What one would expect is `IndividualAddress.Means`: the
first two are the same, or zero is named and the frame is sent to this device or to zero.

What happens is decided in two steps, and the first of them forgets something.  An address of this
device is replaced by zero before anybody is asked, so a route that names the address of this device
*by its number* is compared with zero and wants nothing (`IndividualAddress.Deaf`).
-/

namespace KnxBus

/-! ## Addresses -/

theorem GroupAddress.isBroadcast_iff {g : GroupAddress} : g.isBroadcast = true ↔ g = .broadcast := by
  cases g
  simp [isBroadcast, broadcast]

namespace IndividualAddress

variable {named own d : IndividualAddress}

/-- On a device with the address `own`, the address `named` in a subscription means the address
`d` in a frame. -/
def Means (named own d : IndividualAddress) : Prop :=
  named = d ∨ named = .unset ∧ (d = own ∨ d = .unset)

instance : Decidable (Means named own d) := inferInstanceAs (Decidable (_ ∨ _))

/-- The address is that of this device and is named by its number, which never matches. -/
def Deaf (named own : IndividualAddress) : Prop := named = own ∧ named ≠ .unset

instance : Decidable (Deaf named own) := inferInstanceAs (Decidable (_ ∧ _))

theorem isUnset_iff {a : IndividualAddress} : a.isUnset = true ↔ a = .unset := by
  cases a
  simp [isUnset, unset]

/-- The address of a frame as routes see it. -/
def seenFrom (d own : IndividualAddress) : IndividualAddress := if d = own then .unset else d

/-- What a route sees is what it names, exactly if it means the address and is not deaf. -/
theorem eq_seenFrom_iff : named = d.seenFrom own ↔ named.Means own d ∧ ¬ named.Deaf own := by
  unfold seenFrom Means Deaf
  by_cases hown : d = own
  · subst hown
    rw [if_pos rfl]
    constructor
    · rintro rfl
      exact ⟨.inr ⟨rfl, .inl rfl⟩, fun h => h.2 rfl⟩
    · rintro ⟨rfl | ⟨rfl, -⟩, hhears⟩
      · exact Decidable.of_not_not fun hset => hhears ⟨rfl, hset⟩
      · rfl
  · rw [if_neg hown]
    constructor
    · rintro rfl
      exact ⟨.inl rfl, fun h => hown h.1⟩
    · rintro ⟨rfl | ⟨rfl, rfl | rfl⟩, -⟩
      · rfl
      · exact absurd rfl hown
      · rfl

end IndividualAddress

/-! ## Frames as they are seen -/

namespace Frame

variable {frame : Frame} {own d : IndividualAddress}

theorem seenFrom_source : (frame.seenFrom own).source = frame.source := by
  unfold seenFrom
  split <;> rfl

theorem seenFrom_payload : (frame.seenFrom own).payload = frame.payload := by
  unfold seenFrom
  split <;> rfl

/-- A frame is seen as a frame to a group exactly if it is one. -/
theorem seenFrom_destination_eq_group_iff {g : GroupAddress} :
    (frame.seenFrom own).destination = .group g ↔ frame.destination = .group g := by
  unfold seenFrom
  split
  · rename_i hown
    rw [hown]
    constructor <;> intro h <;> cases h
  · rfl

theorem seenFrom_destination_of_individual (h : frame.destination = .individual d) :
    (frame.seenFrom own).destination = .individual (d.seenFrom own) := by
  unfold seenFrom IndividualAddress.seenFrom
  by_cases hown : d = own
  · rw [if_pos (by rw [h, hown]), if_pos hown]
  · rw [if_neg fun heq => hown (Destination.individual.inj (h.symm.trans heq)), if_neg hown, h]

/-- No route sees the address of this device, unless that is zero. -/
theorem seenFrom_destination_ne (hset : own ≠ .unset) :
    (frame.seenFrom own).destination ≠ .individual own := by
  unfold seenFrom
  split
  · exact fun heq => hset (Destination.individual.inj heq).symm
  · assumption

end Frame

/-! ## What routes want -/

namespace Route

variable {frame : Frame} {own source named d : IndividualAddress} {lock : PeerLock}

/-- The route for everybody wants the frames to everybody. -/
theorem broadcast_accepts_iff :
    Route.broadcast.accepts frame = true ↔ frame.destination = .group .broadcast := by
  cases hdestination : frame.destination with
  | individual d => simp [accepts, hdestination]
  | group g =>
    simp only [accepts, hdestination, GroupAddress.isBroadcast_iff, Destination.group.injEq]

/-- A route to a group wants the frames to it, and a route to group zero those to every group; but
never those to everybody. -/
theorem group_accepts_iff {wanted : GroupAddress} :
    (Route.group wanted).accepts frame = true ↔
      ∃ g, frame.destination = .group g ∧ g ≠ .broadcast ∧ (wanted = .broadcast ∨ wanted = g) := by
  cases hdestination : frame.destination with
  | individual d => simp [accepts, hdestination]
  | group g =>
    simp only [accepts, hdestination, Bool.and_eq_true, Bool.not_eq_true', Bool.or_eq_true,
      beq_iff_eq, ← Bool.not_eq_true, GroupAddress.isBroadcast_iff, Destination.group.injEq,
      exists_eq_left', ne_eq]

/-- A route to an individual address wants the frames to it from the senders that it takes. -/
theorem individual_accepts_iff :
    (Route.individual source named lock).accepts frame = true ↔
      frame.destination = .individual named ∧ (source = .unset ∨ source = frame.source) := by
  cases hdestination : frame.destination with
  | individual d =>
    simp only [accepts, hdestination, Bool.and_eq_true, Bool.or_eq_true, beq_iff_eq,
      IndividualAddress.isUnset_iff, Destination.individual.injEq]
    exact and_congr_left' eq_comm
  | group g => simp [accepts, hdestination]

/-- What it wants of the frames that are seen. -/
theorem individual_accepts_seenFrom_iff (h : frame.destination = .individual d) :
    (Route.individual source named lock).accepts (frame.seenFrom own) = true ↔
      (named.Means own d ∧ ¬ named.Deaf own) ∧ (source = .unset ∨ source = frame.source) := by
  rw [individual_accepts_iff, Frame.seenFrom_destination_of_individual h, Frame.seenFrom_source,
    Destination.individual.injEq, eq_comm, IndividualAddress.eq_seenFrom_iff]

/-- Whatever it wants is sent to an individual address. -/
theorem exists_of_individual_accepts_seenFrom
    (h : (Route.individual source named lock).accepts (frame.seenFrom own) = true) :
    ∃ d, frame.destination = .individual d := by
  cases hdestination : frame.destination with
  | individual d => exact ⟨d, rfl⟩
  | group g =>
    have hseen := (individual_accepts_iff.1 h).1
    rw [Frame.seenFrom_destination_eq_group_iff.2 hdestination] at hseen
    cases hseen

/-- A route that names this device by its number wants nothing. -/
theorem not_accepts_of_deaf (hdeaf : named.Deaf own) (frame : Frame) :
    (Route.individual source named lock).accepts (frame.seenFrom own) = false := by
  rw [Bool.eq_false_iff]
  intro h
  obtain ⟨rfl, hset⟩ := hdeaf
  exact Frame.seenFrom_destination_ne hset (individual_accepts_iff.1 h).1

end Route

/-! ## What sockets make of it -/

namespace Frame

variable {frame : Frame} {own : IndividualAddress} {apdu : Octets}

theorem unnumbered?_eq_some :
    frame.unnumbered? = some apdu ↔ Tpdu.decode frame.payload = .ok (.dataUnnumbered apdu) := by
  unfold unnumbered?
  constructor
  · intro h
    split at h
    · rename_i heq
      cases h
      exact heq
    · cases h
  · intro h
    rw [h]

/-- A frame carries application layer octets without a number: it has a first octet, and the bits of
the transport layer in it are clear. -/
def IsPlain (frame : Frame) : Prop := ∃ first ∈ frame.payload.head?, first &&& 0xfc = 0

/-- Then all of its payload is what it carries. -/
theorem unnumbered?_eq_some_iff :
    frame.unnumbered? = some apdu ↔ frame.IsPlain ∧ apdu = frame.payload := by
  rw [unnumbered?_eq_some, IsPlain]
  constructor
  · intro h
    generalize frame.payload = payload at h
    cases Tpdu.readAs_of_decode h with
    | unnumbered first rest bits => exact ⟨⟨first, rfl, bits⟩, rfl⟩
  · rintro ⟨⟨first, hfirst, hbits⟩, rfl⟩
    obtain ⟨rest, hpayload⟩ := List.head?_eq_some_iff.1 hfirst
    rw [hpayload, Tpdu.decode]
    exact if_pos hbits

end Frame

namespace SocketKind

variable {kind : SocketKind} {frame : Frame} {own : IndividualAddress} {item : SocketItem}

/-- What a socket of a kind makes of a frame that is heard while this device has an address. -/
def heard? (kind : SocketKind) (own : IndividualAddress) (frame : Frame) : Option SocketItem :=
  if kind.route.accepts (frame.seenFrom own) then kind.image? (frame.seenFrom own) else none

/-- What a socket of a kind is meant to make of a frame that is heard while this device has an
address. -/
inductive Hears (own : IndividualAddress) (frame : Frame) : SocketKind → SocketItem → Prop where
  /-- A socket for everybody hears the frames to everybody. -/
  | broadcast (destination : frame.destination = .group .broadcast) (plain : frame.IsPlain) :
    Hears own frame .broadcast ⟨frame.payload, frame.source, .group .broadcast⟩
  /-- A socket for a group hears the frames to it, or to every group if it names zero. -/
  | group (wanted g : GroupAddress) (destination : frame.destination = .group g)
      (proper : g ≠ .broadcast) (wants : wanted = .broadcast ∨ wanted = g) (plain : frame.IsPlain) :
    Hears own frame (.group wanted) ⟨frame.payload, frame.source, .group g⟩
  /-- A socket for a device hears what that device sends to this one. -/
  | individual (peer d : IndividualAddress) (destination : frame.destination = .individual d)
      (here : d = own ∨ d = .unset) (sender : peer = .unset ∨ peer = frame.source)
      (plain : frame.IsPlain) :
    Hears own frame (.individual peer) ⟨frame.payload, frame.source, .individual .unset⟩
  /-- A raw socket hears all that is sent to its address, whatever it carries. -/
  | raw (named d : IndividualAddress) (destination : frame.destination = .individual d)
      (means : named.Means own d) (hears : ¬ named.Deaf own) :
    Hears own frame (.raw named) ⟨frame.payload, frame.source, .individual named⟩
  /-- A socket for all groups hears the frames to every group. -/
  | allGroups (g : GroupAddress) (destination : frame.destination = .group g)
      (proper : g ≠ .broadcast) (plain : frame.IsPlain) :
    Hears own frame .allGroups ⟨frame.payload, frame.source, .group g⟩

theorem heard?_eq_some :
    kind.heard? own frame = some item ↔
      kind.route.accepts (frame.seenFrom own) = true ∧
        kind.image? (frame.seenFrom own) = some item := by
  rw [heard?]
  split <;> simp [*]

/-- The item of a frame that carries application layer octets. -/
theorem image?_eq_some_iff (hwanted : kind.route.accepts frame = true)
    (hraw : ∀ named, kind ≠ .raw named) :
    kind.image? frame = some item ↔
      frame.IsPlain ∧ item = ⟨frame.payload, frame.source, frame.destination⟩ := by
  have hitem : (frame.unnumbered?.map fun apdu =>
      (⟨apdu, frame.source, frame.destination⟩ : SocketItem)) = some item ↔
        frame.IsPlain ∧ item = ⟨frame.payload, frame.source, frame.destination⟩ := by
    rw [Option.map_eq_some_iff]
    constructor
    · rintro ⟨apdu, hcarries, rfl⟩
      obtain ⟨hplain, rfl⟩ := Frame.unnumbered?_eq_some_iff.1 hcarries
      exact ⟨hplain, rfl⟩
    · rintro ⟨hplain, rfl⟩
      exact ⟨_, Frame.unnumbered?_eq_some_iff.2 ⟨hplain, rfl⟩, rfl⟩
  cases kind with
  | raw named => exact absurd rfl (hraw named)
  | allGroups =>
    obtain ⟨g, hdestination, -⟩ := Route.group_accepts_iff.1 hwanted
    rw [image?, if_pos (by rw [hdestination, Destination.isGroup])]
    exact hitem
  | _ => exact hitem

/-- What a socket that is not raw makes of a frame, by its route. -/
theorem heard?_eq_some_of_not_raw (hraw : ∀ named, kind ≠ .raw named) :
    kind.heard? own frame = some item ↔
      kind.route.accepts (frame.seenFrom own) = true ∧ frame.IsPlain ∧
        item = ⟨frame.payload, frame.source, (frame.seenFrom own).destination⟩ := by
  rw [heard?_eq_some]
  refine and_congr_right fun hwanted => ?_
  rw [image?_eq_some_iff hwanted hraw, Frame.IsPlain, Frame.IsPlain, Frame.seenFrom_payload,
    Frame.seenFrom_source]

/-- What a socket makes of a frame whose route names a group. -/
theorem heard?_eq_some_of_group {wanted : GroupAddress} (hroute : kind.route = .group wanted) :
    kind.heard? own frame = some item ↔
      ∃ g, (frame.destination = .group g ∧ g ≠ .broadcast ∧ (wanted = .broadcast ∨ wanted = g)) ∧
        frame.IsPlain ∧ item = ⟨frame.payload, frame.source, .group g⟩ := by
  have hraw : ∀ named, kind ≠ .raw named := by
    rintro named rfl
    cases hroute
  rw [heard?_eq_some_of_not_raw hraw, hroute, Route.group_accepts_iff]
  simp only [Frame.seenFrom_destination_eq_group_iff]
  constructor
  · rintro ⟨⟨g, hdestination, hwants⟩, hplain, rfl⟩
    rw [Frame.seenFrom_destination_eq_group_iff.2 hdestination]
    exact ⟨g, ⟨hdestination, hwants⟩, hplain, rfl⟩
  · rintro ⟨g, ⟨hdestination, hwants⟩, hplain, rfl⟩
    rw [Frame.seenFrom_destination_eq_group_iff.2 hdestination]
    exact ⟨⟨g, hdestination, hwants⟩, hplain, rfl⟩

/-- What a socket is meant to hear it hears. -/
theorem Hears.heard (h : Hears own frame kind item) : kind.heard? own frame = some item := by
  cases h with
  | broadcast destination plain =>
    have hseen : (frame.seenFrom own).destination = .group .broadcast :=
      Frame.seenFrom_destination_eq_group_iff.2 destination
    exact (heard?_eq_some_of_not_raw (by simp)).2
      ⟨Route.broadcast_accepts_iff.2 hseen, plain, by rw [hseen]⟩
  | group wanted g destination proper wants plain =>
    exact (heard?_eq_some_of_group rfl).2 ⟨g, ⟨destination, proper, wants⟩, plain, rfl⟩
  | individual peer d destination here sender plain =>
    have hmeans : IndividualAddress.Means .unset own d := .inr ⟨rfl, here⟩
    have hwanted : (Route.individual peer .unset .shared).accepts (frame.seenFrom own) = true :=
      (Route.individual_accepts_seenFrom_iff destination).2 ⟨⟨hmeans, fun h => h.2 rfl⟩, sender⟩
    exact (heard?_eq_some_of_not_raw (by simp)).2
      ⟨hwanted, plain, by rw [(Route.individual_accepts_iff.1 hwanted).1]⟩
  | raw named d destination means hears =>
    have hwanted : (Route.individual .unset named .shared).accepts (frame.seenFrom own) = true :=
      (Route.individual_accepts_seenFrom_iff destination).2 ⟨⟨means, hears⟩, .inl rfl⟩
    refine heard?_eq_some.2 ⟨hwanted, ?_⟩
    rw [image?, Frame.seenFrom_payload, Frame.seenFrom_source,
      (Route.individual_accepts_iff.1 hwanted).1]
  | allGroups g destination proper plain =>
    exact (heard?_eq_some_of_group rfl).2 ⟨g, ⟨destination, proper, .inl rfl⟩, plain, rfl⟩

/-- It hears nothing else. -/
theorem hears_of_heard (h : kind.heard? own frame = some item) : Hears own frame kind item := by
  cases kind with
  | broadcast =>
    obtain ⟨hwanted, hplain, rfl⟩ := (heard?_eq_some_of_not_raw (by simp)).1 h
    have hseen := Route.broadcast_accepts_iff.1 hwanted
    rw [hseen]
    exact .broadcast (Frame.seenFrom_destination_eq_group_iff.1 hseen) hplain
  | group wanted =>
    obtain ⟨g, ⟨hdestination, hproper, hwants⟩, hplain, rfl⟩ := (heard?_eq_some_of_group rfl).1 h
    exact .group wanted g hdestination hproper hwants hplain
  | individual peer =>
    obtain ⟨hwanted, hplain, rfl⟩ := (heard?_eq_some_of_not_raw (by simp)).1 h
    obtain ⟨d, hdestination⟩ := Route.exists_of_individual_accepts_seenFrom hwanted
    obtain ⟨⟨hmeans, -⟩, hsender⟩ := (Route.individual_accepts_seenFrom_iff hdestination).1 hwanted
    rw [(Route.individual_accepts_iff.1 hwanted).1]
    refine .individual peer d hdestination ?_ hsender hplain
    exact hmeans.elim (fun heq => .inr heq.symm) And.right
  | raw named =>
    obtain ⟨hwanted, himage⟩ := heard?_eq_some.1 h
    obtain ⟨d, hdestination⟩ := Route.exists_of_individual_accepts_seenFrom hwanted
    obtain ⟨⟨hmeans, hhears⟩, -⟩ := (Route.individual_accepts_seenFrom_iff hdestination).1 hwanted
    rw [image?, Frame.seenFrom_payload, Frame.seenFrom_source,
      (Route.individual_accepts_iff.1 hwanted).1] at himage
    obtain rfl := Option.some_inj.1 himage
    exact .raw named d hdestination hmeans hhears
  | allGroups =>
    obtain ⟨g, ⟨hdestination, hproper, -⟩, hplain, rfl⟩ := (heard?_eq_some_of_group rfl).1 h
    exact .allGroups g hdestination hproper hplain

/-- **A socket hears what it is meant to hear**, and makes of it what it is meant to make. -/
theorem heard?_eq_some_iff : kind.heard? own frame = some item ↔ Hears own frame kind item :=
  ⟨hears_of_heard, Hears.heard⟩

end SocketKind
end KnxBus
