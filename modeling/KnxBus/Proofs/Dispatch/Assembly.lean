import KnxBus.Proofs.Dispatch.Circuit
import KnxBus.Proofs.Dispatch.Entries

/-!
# Members and onlookers

An assembly is a circuit with those who use it.  Members register for frames or, as monitors, for the
bus itself; onlookers open virtual monitors.  Everybody registers once, under a number that the desk
gives him, and is called by a name that does not depend on it: members are counted among members and
onlookers among onlookers, in the order in which they got their numbers.  Whoever comes when no events
are handled any more gets no number, and no name.

What members are told is the story of the assembly: the frames that are handed to them and the answers
to their requests, in the order in which the desk comes to it (`Assembly.story`).

Numbers wander, from those who draw them into the queue of events and from there into the registry.
Wherever a number is found it belongs to the party that it was drawn for (`Assembly.Kept`), because no
move of a desk makes a registration that nobody has asked for (`Desk.act_entries`).
-/

namespace KnxBus

variable {σ : Type}

/-! ## Parties -/

/-- Who uses a circuit. -/
inductive Party where
  /-- Somebody who registers for frames or for the bus. -/
  | member (name : Nat)
  /-- Somebody who opens a virtual monitor. -/
  | onlooker (name : Nat)
  deriving DecidableEq, Repr

namespace Party

/-- The name of a member. -/
def name? : Party → Option Nat
  | member name => some name
  | onlooker _ => none

/-- Whether a party only looks on. -/
def isOnlooker : Party → Bool
  | member _ => false
  | onlooker _ => true

end Party

/-- What a member can want. -/
inductive Want where
  /-- Frames of a route. -/
  | frames (route : Route)
  /-- The bus for itself, as a monitor. -/
  | bus
  deriving DecidableEq, Repr

/-- The request of a member. -/
def Want.request (sink : σ) : Want → Request σ
  | frames route => .frames route sink
  | bus => .captures false sink

@[simp]
theorem Want.sink_request (sink : σ) (want : Want) : (want.request sink).sink = sink := by
  cases want <;> rfl

/-- Members are subscribers and real monitors, onlookers are virtual monitors. -/
def Request.Suits : Request Party → Prop
  | .frames _ party => party.isOnlooker = false
  | .captures isVirtual party => isVirtual = party.isOnlooker

theorem Want.suits (want : Want) (name : Nat) : (want.request (Party.member name)).Suits := by
  cases want <;> rfl

/-- Something that a member gets to know. -/
inductive Tiding where
  /-- A frame that is handed to it. -/
  | frame (frame : Frame)
  /-- The answer to its request. -/
  | answer (result : Except DispatchError Unit)

/-- The frame in a tiding. -/
def Tiding.frame? : Tiding → Option Frame
  | frame f => some f
  | answer _ => none

/-- The answer in a tiding. -/
def Tiding.answer? : Tiding → Option (Except DispatchError Unit)
  | frame _ => none
  | answer result => some result

/-- What a member gets to know by something that is handed out; members are known by their sinks. -/
def Registry.Handed.tiding? (name? : σ → Option Nat) (x : σ × Registry.Handed) :
    Option (Nat × Tiding) :=
  match x.2 with
  | .frame f => (name? x.1).map fun name => (name, .frame f)
  | _ => none

/-- What members get to know when an event is handled. -/
def DispatchEvent.tidings (name? : σ → Option Nat) (e : DispatchEvent σ) (done : Dispatched σ) :
    List (Nat × Tiding) :=
  done.handed.filterMap (Registry.Handed.tiding? name?) ++
    (e.asks?.bind fun x => name? x.2.sink).toList.map fun name => (name, .answer done.result)

/-- All that members have got to know of what a circuit remembers, oldest first. -/
def Circuit.story (name? : σ → Option Nat) (c : Circuit σ) : List (Nat × Tiding) :=
  c.desk.log.flatMap fun h => h.event.tidings name? h.done

/-! ## The assembly -/

/-- A circuit with those who use it. -/
structure Assembly where
  /-- The circuit. -/
  circuit : Circuit Party
  /-- How many members have got a number. -/
  joined : Nat
  /-- How many onlookers have got a number. -/
  watching : Nat
  /-- The number of each party. -/
  number : Party → Option Nat
  /-- The party of each number. -/
  owner : Nat → Option Party

namespace Assembly

/-- What can happen in an assembly. -/
inductive Move where
  /-- A member comes and wants something. -/
  | joins (want : Want)
  /-- An onlooker comes. -/
  | watches
  /-- The request of a party is handed in. -/
  | submits (party : Party)
  /-- A party leaves. -/
  | leaves (party : Party)
  /-- Something is heard on the bus. -/
  | hears (item : Lpdu)
  /-- A frame is sent. -/
  | sends (frame : Frame)
  /-- The medium is lost. -/
  | disconnects
  /-- The pump takes a turn, if this is what it does next. -/
  | pumps (next : Pump)
  /-- The desk takes a turn. -/
  | serves
  deriving DecidableEq, Repr

/-- An assembly that has just come together. -/
def start (address : IndividualAddress) : Assembly :=
  ⟨.start address, 0, 0, fun _ => none, fun _ => none⟩

/-- Whether events are handled. -/
def running (c : Assembly) : Bool := c.circuit.running

/-- Whoever asks for something draws a number for it. -/
def draws (c : Assembly) (request : Request Party) (id : Nat) : Assembly :=
  { c with
    circuit := c.circuit.draw request
    number := fun other => if other = request.sink then some id else c.number other
    owner := fun other => if other = id then some request.sink else c.owner other }

/-- A member comes.  It is turned away when no events are handled any more. -/
def joins (c : Assembly) (want : Want) : Assembly :=
  match c.circuit.drawing with
  | .ok id =>
    { c.draws (want.request (.member c.joined)) id with joined := c.joined + 1 }
  | .error _ => c

/-- An onlooker comes.  So is he. -/
def watches (c : Assembly) : Assembly :=
  match c.circuit.drawing with
  | .ok id =>
    { c.draws (.captures true (.onlooker c.watching)) id with watching := c.watching + 1 }
  | .error _ => c

/-- What a move other than somebody's coming is to the circuit; nothing, if it is made by a party
that has no number, or if the pump is to do something else. -/
def Move.deed (number : Party → Option Nat) (pump : Pump) : Move → Option Circuit.Act
  | .submits party => (number party).map .submit
  | .leaves party => (number party).map .leave
  | .hears item => some (.inject item)
  | .sends frame => some (.send frame)
  | .disconnects => some .disconnect
  | .pumps next => if pump = next then some .pump else none
  | .serves => some .serve
  | _ => none

/-- Something happens. -/
def step (c : Assembly) : Move → Assembly
  | .joins want => c.joins want
  | .watches => c.watches
  | move =>
    { c with circuit := (move.deed c.number c.circuit.wire.pump).elim c.circuit c.circuit.act }

/-- One thing after the other happens. -/
def run (moves : List Move) (c : Assembly) : Assembly := moves.foldl step c

/-- The pump takes its turn. -/
theorem step_pumps (c : Assembly) :
    c.step (.pumps c.circuit.wire.pump) = { c with circuit := c.circuit.act .pump } :=
  congrArg (fun deed : Option Circuit.Act => { c with circuit := deed.elim c.circuit c.circuit.act })
    (if_pos rfl)

/-- It takes no other. -/
theorem step_pumps_of_ne {c : Assembly} {next : Pump} (h : c.circuit.wire.pump ≠ next) :
    c.step (.pumps next) = c :=
  congrArg (fun deed : Option Circuit.Act => { c with circuit := deed.elim c.circuit c.circuit.act })
    (if_neg h)

/-- All that members have got to know, oldest first. -/
def story (c : Assembly) : List (Nat × Tiding) := c.circuit.story Party.name?

/-- The frames that a member has received, oldest first. -/
def received (c : Assembly) (name : Nat) : List Frame :=
  c.story.filterMap fun x => if x.1 = name then x.2.frame? else none

/-- What a member is told who wanted to register; a request that has not been handled by the end, or
that came later, is turned down. -/
def reply (c : Assembly) (name : Nat) : Option (Except DispatchError Unit) :=
  match c.story.findSome? fun x => if x.1 = name then x.2.answer? else none with
  | some result => some result
  | none => if c.running then none else some (.error .stopped)

/-! ## Whose number it is -/

/-- Numbers belong to those who have drawn them, wherever they are found. -/
structure Owned (c : Assembly) : Prop where
  /-- Nobody has two numbers, and no number two owners. -/
  number_iff : ∀ party id, c.number party = some id ↔ c.owner id = some party
  /-- Only numbers that have been drawn have an owner. -/
  owner_lt : ∀ id party, c.owner id = some party → id < c.circuit.desk.dispatcher.nextId
  /-- Registrations are those that their owners have asked for. -/
  entries : ∀ x ∈ c.circuit.desk.entries, c.owner x.1 = some x.2.sink ∧ x.2.Suits
  /-- Nobody leaves under a number that has no owner. -/
  leaving : ∀ id, .unsubscribe id ∈ c.circuit.events → ∃ party, c.owner id = some party

section
variable {c : Assembly}

theorem Owned.eq_of_owner (h : c.Owned) {a b : Nat} {party : Party} (ha : c.owner a = some party)
    (hb : c.owner b = some party) : a = b :=
  Option.some.inj (((h.number_iff party a).2 ha).symm.trans ((h.number_iff party b).2 hb))

/-- Whoever has drawn a number has it as long as he has not handed in his request. -/
theorem Owned.of_drawn (h : c.Owned) {x : Nat × Request Party} (hx : x ∈ c.circuit.desk.drawn) :
    c.number x.2.sink = some x.1 :=
  (h.number_iff _ _).2 (h.entries x (Desk.mem_entries.2 (.inr (.inr hx)))).1

theorem Owned.of_waiting (h : c.Owned) {e : DispatchEvent Party} (he : e ∈ c.circuit.events)
    {x : Nat × Request Party} (hx : e.asks? = some x) : c.owner x.1 = some x.2.sink ∧ x.2.Suits :=
  h.entries x (Desk.mem_entries.2 (.inr (.inl ⟨e, he, hx⟩)))

theorem Owned.of_registered (h : c.Owned) {x : Nat × Request Party}
    (hx : x ∈ c.circuit.desk.registry.entries) : c.owner x.1 = some x.2.sink ∧ x.2.Suits :=
  h.entries x (Desk.mem_entries.2 (.inl hx))

end

/-- And everybody who has been counted has drawn one. -/
structure Kept (c : Assembly) : Prop extends Owned c where
  /-- Members that have been counted have a number, and no others. -/
  member_iff : ∀ name, (c.number (.member name)).isSome = true ↔ name < c.joined
  /-- No onlooker that has not been counted has one. -/
  onlooker_lt : ∀ name, (c.number (.onlooker name)).isSome = true → name < c.watching

theorem start_kept (address : IndividualAddress) : (start address).Kept where
  number_iff _ _ := ⟨nofun, nofun⟩
  owner_lt _ _ := nofun
  entries _ := nofun
  leaving _ := nofun
  member_iff _ := ⟨nofun, nofun⟩
  onlooker_lt _ := nofun

variable {c : Assembly}

/-- A number that is drawn is the next one. -/
theorem drawing_eq_ok {id : Nat} (h : c.circuit.drawing = .ok id) :
    c.circuit.running = true ∧ id = c.circuit.desk.dispatcher.nextId := by
  unfold Circuit.drawing at h
  split at h
  · rename_i hrunning
    cases h
    exact ⟨hrunning, rfl⟩
  · cases h

/-- Somebody who had no number draws one for his own request. -/
theorem Owned.draws (h : c.Owned) {id : Nat} (hdraw : c.circuit.drawing = .ok id)
    (request : Request Party) (hnew : c.number request.sink = none) (hsuits : request.Suits) :
    (c.draws request id).Owned := by
  obtain ⟨hrunning, rfl⟩ := drawing_eq_ok hdraw
  have hfree : c.owner c.circuit.desk.dispatcher.nextId = none := by
    rw [Option.eq_none_iff_forall_ne_some]
    exact fun party howner => Nat.lt_irrefl _ (h.owner_lt _ party howner)
  have hstill (id : Nat) (party : Party) (howner : c.owner id = some party) :
      (c.draws request c.circuit.desk.dispatcher.nextId).owner id = some party := by
    have hold : id ≠ c.circuit.desk.dispatcher.nextId := Nat.ne_of_lt (h.owner_lt id party howner)
    exact (if_neg hold).trans howner
  have hdesk := Circuit.draw_desk hrunning request
  refine ⟨fun party id => ?_, fun id party howner => ?_, fun x hx => ?_, fun id hleaving => ?_⟩
  · change (if party = _ then _ else _) = _ ↔ (if id = _ then _ else _) = _
    split
    · rename_i hparty
      subst hparty
      split
      · rename_i hid
        simp [hid]
      · rename_i hid
        rw [← h.number_iff, hnew]
        simp [Ne.symm hid]
    · rename_i hparty
      split
      · rename_i hid
        rw [h.number_iff, hid, hfree]
        simp [Ne.symm hparty]
      · exact h.number_iff party id
  · change (if id = _ then _ else _) = _ at howner
    change id < (c.circuit.draw request).desk.dispatcher.nextId
    rw [hdesk]
    split at howner
    · rename_i hid
      rw [hid]
      exact Nat.lt_succ_self _
    · exact Nat.lt_succ_of_lt (h.owner_lt id party howner)
  · obtain hold | rfl := Desk.draw_entries hx
    · obtain ⟨howner, hsuits⟩ := h.entries x hold
      exact ⟨hstill _ _ howner, hsuits⟩
    · exact ⟨if_pos rfl, hsuits⟩
  · change _ ∈ (c.circuit.draw request).desk.dispatcher.events at hleaving
    rw [hdesk] at hleaving
    obtain ⟨party, howner⟩ := h.leaving id hleaving
    exact ⟨party, hstill id party howner⟩

/-- Nothing else changes whose number it is. -/
theorem Owned.act (h : c.Owned) {a : Circuit.Act}
    (hleave : ∀ id, a = .leave id → ∃ party, c.owner id = some party) :
    Owned { c with circuit := c.circuit.act a } := by
  refine ⟨h.number_iff, fun id party howner => ?_, fun x hx => ?_, fun id hleaving => ?_⟩
  · change id < ((c.circuit.atDesk a).elim c.circuit.desk c.circuit.desk.act).dispatcher.nextId
    have hlt := h.owner_lt id party howner
    cases c.circuit.atDesk a with
    | none => exact hlt
    | some d =>
      rw [Option.elim_some, Desk.act_nextId]
      exact hlt
  · change x ∈ ((c.circuit.atDesk a).elim c.circuit.desk c.circuit.desk.act).entries at hx
    cases hdesk : c.circuit.atDesk a with
    | none =>
      rw [hdesk] at hx
      exact h.entries x hx
    | some d =>
      rw [hdesk] at hx
      exact h.entries x (Desk.act_entries hx)
  · change _ ∈ ((c.circuit.atDesk a).elim c.circuit.desk c.circuit.desk.act).dispatcher.events
      at hleaving
    cases hdesk : c.circuit.atDesk a with
    | none =>
      rw [hdesk] at hleaving
      exact h.leaving id hleaving
    | some d =>
      rw [hdesk] at hleaving
      obtain hold | rfl := Desk.leaving_of_act hleaving
      · exact h.leaving id hold
      · exact hleave id (Circuit.eq_leave_of_atDesk hdesk)

/-- A party that has drawn a number owns it. -/
theorem Owned.of_deed (h : c.Owned) {move : Move} {pump : Pump} {id : Nat}
    (hdeed : move.deed c.number pump = some (.leave id)) : ∃ party, c.owner id = some party := by
  cases move with
  | leaves party =>
    obtain ⟨id', hnumber, hid⟩ := Option.map_eq_some_iff.1 hdeed
    cases hid
    exact ⟨party, (h.number_iff party id).1 hnumber⟩
  | submits party =>
    obtain ⟨id', -, hid⟩ := Option.map_eq_some_iff.1 hdeed
    cases hid
  | pumps next =>
    obtain ⟨-, hpump⟩ := Option.ite_none_right_eq_some.1 hdeed
    cases hpump
  | _ => cases hdeed

theorem Kept.joins (h : c.Kept) (want : Want) : (c.joins want).Kept := by
  unfold Assembly.joins
  split
  · rename_i id hdraw
    have hnew : c.number (.member c.joined) = none := by
      rw [← Option.not_isSome_iff_eq_none, h.member_iff]
      exact Nat.lt_irrefl _
    have howned := h.toOwned.draws hdraw (want.request (.member c.joined))
      (by rwa [Want.sink_request]) (want.suits _)
    refine ⟨⟨howned.number_iff, howned.owner_lt, howned.entries, howned.leaving⟩,
      fun name => ?_, fun name hsome => ?_⟩
    · change Option.isSome (if _ then _ else _) = true ↔ name < c.joined + 1
      rw [Want.sink_request]
      split
      · rename_i hname
        cases hname
        exact iff_of_true rfl (Nat.lt_succ_self _)
      · rename_i hname
        rw [h.member_iff]
        have hne : name ≠ c.joined := fun heq => hname (congrArg Party.member heq)
        omega
    · change Option.isSome (if _ then _ else _) = true at hsome
      rw [Want.sink_request, if_neg nofun] at hsome
      exact h.onlooker_lt name hsome
  · exact h

theorem Kept.watches (h : c.Kept) : c.watches.Kept := by
  unfold Assembly.watches
  split
  · rename_i id hdraw
    have hnew : c.number (.onlooker c.watching) = none := by
      rw [← Option.not_isSome_iff_eq_none]
      exact fun hsome => Nat.lt_irrefl _ (h.onlooker_lt _ hsome)
    have howned := h.toOwned.draws hdraw (.captures true (.onlooker c.watching)) hnew rfl
    refine ⟨⟨howned.number_iff, howned.owner_lt, howned.entries, howned.leaving⟩,
      fun name => ?_, fun name hsome => ?_⟩
    · change (if Party.member name = .onlooker c.watching then some id else _).isSome = true ↔ _
      rw [if_neg nofun]
      exact h.member_iff name
    · change Option.isSome (if _ then _ else _) = true at hsome
      split at hsome
      · rename_i hname
        cases hname
        exact Nat.lt_succ_self _
      · exact Nat.lt_succ_of_lt (h.onlooker_lt name hsome)
  · exact h

theorem Kept.step (h : c.Kept) (move : Move) : (c.step move).Kept := by
  have hdeed (hstep : c.step move =
      { c with circuit := (move.deed c.number c.circuit.wire.pump).elim c.circuit c.circuit.act }) :
      (c.step move).Kept := by
    rw [hstep]
    cases hact : move.deed c.number c.circuit.wire.pump with
    | none => exact h
    | some a =>
      have howned := h.toOwned.act (a := a) fun id hleave => h.toOwned.of_deed (hleave ▸ hact)
      exact ⟨howned, h.member_iff, h.onlooker_lt⟩
  cases move with
  | joins want => exact h.joins want
  | watches => exact h.watches
  | _ => exact hdeed rfl

end Assembly
end KnxBus
