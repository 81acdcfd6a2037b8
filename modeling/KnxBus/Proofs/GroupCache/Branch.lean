import KnxBus.Proofs.Dispatch.Delivery
import KnxBus.Proofs.GroupCache.ReadingRoom

/-!
# A cache at a desk

A branch is a reading room whose cache hears of the bus through a desk.  To be enabled the cache
subscribes there like everybody else: a number is drawn and handed in, the desk handles the request
when its turn comes, and the cache counts as enabled once it has been told that the request was
granted.  To be disabled it tells the desk that it leaves and tells itself to forget everything.
These are two queues, and neither waits for the other: the desk goes on handing out frames to the
cache until it comes to the end of the subscription, and the cache goes on handling events until it
comes to the one that says to forget.

Calls of the cache take effect one after the other, but enabling waits for the desk, and while it
waits nobody else can enable the cache, disable it or ask it for a value.  Others use the same desk
for whatever they like; their sinks are of a type of their own.

## What keeps the two together

The subscriptions that lead to the cache are those that it has asked for (`Tied`).  One that is still
to be granted is the one that somebody is enabling the cache with.  One that has been granted is the
registration of the cache, or is about to become it, or its end waits in the queue of the desk.  So a
cache that is not enabled is handed no frames but those that stand before that end.
-/

namespace KnxBus

variable {σ τ : Type}

/-! ## Rooms of caches that are enabled -/

namespace ReadingRoom

/-- A room whose cache has another registration. -/
def withRegistration (room : ReadingRoom) (registration : Option Nat) : ReadingRoom :=
  { room with cache := room.cache.withRegistration registration }

/-- A room whose cache is not enabled. -/
def detached (room : ReadingRoom) : ReadingRoom := room.withRegistration none

/-- What happens in a room does not depend on the registration of the cache. -/
theorem withRegistration_step (room : ReadingRoom) (registration : Option Nat)
    (move : ReadingMove) :
    (room.withRegistration registration).step move =
      (room.step move).withRegistration registration := by
  cases move with
  | deliver now frame =>
    have hdeliver : (room.withRegistration registration).cache.deliver now frame =
        (room.cache.deliver now frame).withRegistration registration := by
      change (room.cache.withRegistration registration).deliver now frame = _
      unfold GroupCache.deliver
      split <;> rfl
    rw [step, hdeliver]
    rfl
  | handle now =>
    cases hqueue : room.cache.events with
    | nil =>
      have hqueue' : (room.withRegistration registration).cache.events = [] := hqueue
      simp only [step, handle, hqueue, hqueue']
    | cons e later =>
      have hqueue' : (room.withRegistration registration).cache.events = e :: later := hqueue
      have hhandle : ((room.withRegistration registration).cache.withEvents later).handle now e =
          (((room.cache.withEvents later).handle now e).1.withRegistration registration,
            ((room.cache.withEvents later).handle now e).2) :=
        (room.cache.withEvents later).handle_withRegistration registration now e
      simp only [step, handle, hqueue, hqueue', hhandle]
      rfl
  | _ => rfl

theorem withRegistration_run (moves : List ReadingMove) (registration : Option Nat)
    (room : ReadingRoom) :
    run moves (room.withRegistration registration) =
      (run moves room).withRegistration registration := by
  induction moves generalizing room with
  | nil => rfl
  | cons move later ih => exact (congrArg (run later) (room.withRegistration_step _ move)).trans (ih _)

theorem Happens.registration_eq {room room' : ReadingRoom} {h : Happening}
    (happens : room.Happens h room') : room'.cache.registration = room.cache.registration := by
  cases happens with
  | handled now e later queue => exact GroupCache.handle_registration _ now e
  | looked now => rfl

/-- Frames are handed to the cache, one after the other. -/
def receive (now : Nat) (frames : List Frame) (room : ReadingRoom) : ReadingRoom :=
  run (frames.map (.deliver now)) room

/-- What frames bring joins the queue, and nothing else changes. -/
theorem receive_eq (now : Nat) (frames : List Frame) (room : ReadingRoom) :
    let brought := frames.filterMap (GroupCache.sighting? now)
    (room.receive now frames).log = room.log ∧
      (room.receive now frames).cache.registration = room.cache.registration ∧
        (room.receive now frames).events = room.events ++ brought.map .observed := by
  induction frames generalizing room with
  | nil => exact ⟨rfl, rfl, (List.append_nil _).symm⟩
  | cons frame later ih =>
    obtain ⟨hlog, hregistration, hevents⟩ := ih (room.step (.deliver now frame))
    refine ⟨hlog, hregistration.trans ?_, hevents.trans ?_⟩
    · change (room.cache.deliver now frame).registration = _
      unfold GroupCache.deliver
      split <;> rfl
    · have hfirst : (room.step (.deliver now frame)).events =
          room.events ++ (GroupCache.sighting? now frame).toList.map .observed := by
        change handledEvents room.log ++ (room.cache.deliver now frame).events = _
        rw [GroupCache.deliver_events, ← List.append_assoc]
        rfl
      rw [hfirst, List.append_assoc, ← List.map_append]
      cases hsighting : GroupCache.sighting? now frame <;> simp [hsighting]

/-- The cache is disabled. -/
def forget (room : ReadingRoom) : ReadingRoom := { room with cache := room.cache.disable }

end ReadingRoom

/-! ## The branch -/

/-- A cache at a desk.  What the desk hands out goes to the cache or to somebody else. -/
structure Branch (τ : Type) where
  /-- The desk.  A sink that is none leads to the cache. -/
  desk : Desk (Option τ)
  /-- The cache and its readers. -/
  room : ReadingRoom
  /-- The number that has been drawn to enable the cache, as long as the answer is waited for. -/
  enabling : Option Nat

namespace Branch

/-- What can happen in a branch. -/
inductive Move (τ : Type) where
  /-- Somebody begins to enable the cache. -/
  | enable
  /-- Whoever enables the cache looks for the answer of the desk. -/
  | inquire
  /-- The cache is disabled. -/
  | disable
  /-- A reader asks for a value. -/
  | read (group : GroupAddress) (timeout maxAge : Nat)
  /-- A reader asks for all entries. -/
  | snapshot
  /-- The cache is to forget a group. -/
  | remove (group : GroupAddress)
  /-- The cache is to forget everything. -/
  | clear
  /-- The cache handles the oldest event. -/
  | handle (now : Nat)
  /-- The cache looks whose patience has ended. -/
  | look (now : Nat)
  /-- Somebody else wants to register at the desk. -/
  | asks (request : Request τ)
  /-- Something happens at the desk, at a time. -/
  | act (now : Nat) (a : Desk.Act)

/-- Nothing has happened. -/
def start : Branch τ := ⟨.start, .start, none⟩

/-- Begins to enable the cache, unless it is enabled or somebody is about it. -/
def enable (b : Branch τ) : Branch τ :=
  if b.room.cache.isEnabled || b.enabling.isSome || !b.desk.dispatcher.running then b
  else
    { b with
      desk := b.desk.draw (.frames GroupCache.route none)
      enabling := some b.desk.dispatcher.nextId }

/-- What the desk has answered to the cache under a number. -/
def answer? (b : Branch τ) (number : Nat) : Option Bool :=
  b.desk.log.findSome? fun x =>
    match x.event with
    | .subscribe s => if s.id = number ∧ s.sink.isNone = true then some x.granted else none
    | _ => none

/-- Looks for the answer of the desk.  There will be none once the desk has ended. -/
def inquire (b : Branch τ) : Branch τ :=
  match b.enabling with
  | none => b
  | some id =>
    match b.answer? id with
    | some true => { b with room := b.room.withRegistration (some id), enabling := none }
    | some false => { b with enabling := none }
    | none => if b.desk.dispatcher.running then b else { b with enabling := none }

/-- Disables the cache, if it is enabled. -/
def disable (b : Branch τ) : Branch τ :=
  match b.room.cache.registration with
  | none => b
  | some id => { b with desk := b.desk.act (.leave id), room := b.room.forget }

/-- A move of the cache by itself. -/
def inRoom (b : Branch τ) (move : ReadingMove) : Branch τ := { b with room := b.room.step move }

/-- A reader asks the cache for a value.  One that is not enabled it does not trouble. -/
def read (b : Branch τ) (g : GroupAddress) (timeout maxAge : Nat) : Branch τ :=
  if b.room.cache.isEnabled then b.inRoom (.read g timeout maxAge) else b

/-- The cache is asked as a cache is. -/
theorem read_cache (b : Branch τ) (now : Nat) (g : GroupAddress) (timeout maxAge : Nat) :
    (b.read g timeout maxAge).room.cache =
      (b.room.cache.read now g timeout maxAge b.room.nextReader).1 := by
  unfold read GroupCache.read
  split <;> rfl

/-- The frame that is handed to the cache, if it is one. -/
def caught? : Option τ × Registry.Handed → Option Frame
  | (none, .frame frame) => some frame
  | _ => none

/-- Something happens. -/
def step (b : Branch τ) : Move τ → Branch τ
  | .enable => b.enable
  | .inquire => b.inquire
  | .disable => b.disable
  | .read g timeout maxAge => b.read g timeout maxAge
  | .snapshot => b.inRoom .snapshot
  | .remove g => b.inRoom (.remove g)
  | .clear => b.inRoom .clear
  | .handle now => b.inRoom (.handle now)
  | .look now => b.inRoom (.look now)
  | .asks request => { b with desk := b.desk.draw (request.map some) }
  | .act now a =>
    { b with
      desk := b.desk.act a
      room := b.room.receive now ((b.desk.handedOut a).filterMap caught?) }

/-- One thing after the other happens. -/
def run (moves : List (Move τ)) (b : Branch τ) : Branch τ := moves.foldl step b

theorem run_concat (moves : List (Move τ)) (move : Move τ) (b : Branch τ) :
    run (moves ++ [move]) b = (run moves b).step move := List.foldl_append

/-- A branch that can come about. -/
def Reachable (b : Branch τ) : Prop := ∃ moves, b = run moves start

theorem Reachable.step {b : Branch τ} (h : b.Reachable) (move : Move τ) :
    (b.step move).Reachable := by
  obtain ⟨moves, rfl⟩ := h
  exact ⟨moves ++ [move], (run_concat moves move start).symm⟩

/-- What holds at first and is kept by every move holds in all branches. -/
theorem Reachable.induction {P : Branch τ → Prop} (hstart : P start)
    (hstep : ∀ b : Branch τ, b.Reachable → P b → ∀ move, P (b.step move))
    {b : Branch τ} (h : b.Reachable) : P b := by
  obtain ⟨moves, rfl⟩ := h
  have hboth : (run moves (start : Branch τ)).Reachable ∧ P (run moves start) :=
    List.foldlRecOn (motive := fun b => b.Reachable ∧ P b) moves Branch.step
      ⟨⟨[], rfl⟩, hstart⟩ fun b ⟨hreach, hP⟩ move _ => ⟨hreach.step move, hstep b hreach hP move⟩
  exact hboth.2

/-! ## What a move can do -/

/-- What a move does. -/
inductive Stepped (b : Branch τ) : Branch τ → Prop where
  /-- Nothing. -/
  | still : Stepped b b
  /-- A number is drawn to enable the cache. -/
  | enabling (idle : b.enabling = none) (disabled : b.room.cache.registration = none) :
    Stepped b
      { b with
        desk := b.desk.draw (.frames GroupCache.route none)
        enabling := some b.desk.dispatcher.nextId }
  /-- The desk has granted the subscription that was waited for. -/
  | enabled (id : Nat) (asked : b.enabling = some id) (x : Handling (Option τ))
    (handled : x ∈ b.desk.log) (s : Subscriber (Option τ)) (event_eq : x.event = .subscribe s)
    (id_eq : s.id = id) (sink_eq : s.sink = none) (granted : x.granted = true) :
    Stepped b { b with room := b.room.withRegistration (some id), enabling := none }
  /-- The desk has refused it, or has ended. -/
  | failed (id : Nat) (asked : b.enabling = some id)
    (refused : b.desk.dispatcher.running = true →
      ∃ x ∈ b.desk.log, ∃ s, x.event = .subscribe s ∧ s.id = id ∧ x.granted = false) :
    Stepped b { b with enabling := none }
  /-- The cache is disabled. -/
  | disabled (id : Nat) (enabled : b.room.cache.registration = some id) :
    Stepped b { b with desk := b.desk.act (.leave id), room := b.room.forget }
  /-- The cache is told something that it has not seen, by a reader only if it is enabled. -/
  | told (e : CacheEvent) (nextReader : Nat) (unseen : e.observed? = none)
    (asks : b.room.cache.registration = none → e.reader? = none) :
    Stepped b { b with room := { b.room.enqueue e with nextReader := nextReader } }
  /-- The cache does something. -/
  | happened (h : Happening) (room : ReadingRoom) (happens : b.room.Happens h room) :
    Stepped b { b with room := room }
  /-- A number is drawn for somebody else. -/
  | asked (request : Request τ) :
    Stepped b { b with desk := b.desk.draw (request.map some) }
  /-- Something happens at the desk, but no event is handled. -/
  | acted (a : Desk.Act) (idle : ∀ verdict own, a ≠ .serve verdict own) :
    Stepped b { b with desk := b.desk.act a }
  /-- The desk handles an event. -/
  | served (now : Nat) (verdict : Verdict) (own : IndividualAddress)
    (e : DispatchEvent (Option τ)) (later : List (DispatchEvent (Option τ)))
    (running : b.desk.dispatcher.running = true) (queue : b.desk.dispatcher.events = e :: later)
    (desk_eq : b.desk.act (.serve verdict own) = b.desk.record (b.desk.handling verdict own e later)) :
    Stepped b
      { b with
        desk := b.desk.act (.serve verdict own)
        room := b.room.receive now
          ((b.desk.handling verdict own e later).done.handed.filterMap caught?) }

/-- What the desk has answered, it has answered when it handled the request. -/
theorem exists_of_answer? {b : Branch τ} {number : Nat} {granted : Bool}
    (h : b.answer? number = some granted) :
    ∃ x ∈ b.desk.log, ∃ s, x.event = .subscribe s ∧ s.id = number ∧ s.sink = none ∧
      x.granted = granted := by
  obtain ⟨x, hx, hanswer⟩ := List.exists_of_findSome?_eq_some h
  split at hanswer
  · rename_i s hevent
    split at hanswer
    · rename_i hown
      exact ⟨x, hx, s, hevent, hown.1, Option.isNone_iff_eq_none.1 hown.2, Option.some.inj hanswer⟩
    · cases hanswer
  · cases hanswer

theorem enable_cases (b : Branch τ) : Stepped b b.enable := by
  unfold enable
  split
  · exact .still
  · rename_i hfree
    simp only [GroupCache.isEnabled, Bool.or_eq_true, not_or, Option.isSome_iff_ne_none, ne_eq,
      Decidable.not_not] at hfree
    exact .enabling hfree.1.2 hfree.1.1

theorem inquire_cases (b : Branch τ) : Stepped b b.inquire := by
  unfold inquire
  split
  · exact .still
  · rename_i id hasked
    split
    · rename_i hanswer
      obtain ⟨x, hx, s, hevent, hid, hsink, hgranted⟩ := exists_of_answer? hanswer
      exact .enabled id hasked x hx s hevent hid hsink hgranted
    · rename_i hanswer
      obtain ⟨x, hx, s, hevent, hid, -, hrefused⟩ := exists_of_answer? hanswer
      exact .failed id hasked fun _ => ⟨x, hx, s, hevent, hid, hrefused⟩
    · split
      · exact .still
      · rename_i hended
        exact .failed id hasked fun hrunning => absurd hrunning hended

theorem act_cases (b : Branch τ) (now : Nat) (a : Desk.Act) : Stepped b (b.step (.act now a)) := by
  cases a with
  | serve verdict own =>
    have hdesk : b.desk.act (.serve verdict own) = b.desk.serve verdict own := rfl
    change Stepped b ⟨b.desk.act (.serve verdict own), b.room.receive now
      ((b.desk.next? verdict own).toList.flatMap (·.done.handed) |>.filterMap caught?), b.enabling⟩
    cases hnext : b.desk.next? verdict own with
    | none =>
      have hsame : b.desk.serve verdict own = b.desk := by rw [Desk.serve, hnext]
      rw [hdesk, hsame]
      exact .still
    | some handled =>
      have hrunning := Desk.running_of_next? hnext
      obtain ⟨e, later, hqueue, rfl⟩ := Desk.next?_eq_some hnext
      rw [Option.toList_some, List.flatMap_singleton]
      exact .served now verdict own e later hrunning hqueue (by rw [hdesk, Desk.serve, hnext])
  | _ => exact .acted _ fun _ _ heq => Desk.Act.noConfusion heq

theorem step_cases (b : Branch τ) (move : Move τ) : Stepped b (b.step move) := by
  cases move with
  | enable => exact b.enable_cases
  | inquire => exact b.inquire_cases
  | disable =>
    change Stepped b b.disable
    unfold disable
    split
    · exact .still
    · rename_i id henabled
      exact .disabled id henabled
  | read g timeout maxAge =>
    change Stepped b (b.read g timeout maxAge)
    unfold read
    split
    · rename_i henabled
      refine .told _ _ rfl fun hnone => ?_
      rw [GroupCache.isEnabled, hnone] at henabled
      cases henabled
    · exact .still
  | snapshot | remove _ | clear => exact .told _ _ rfl fun _ => rfl
  | handle now =>
    cases hqueue : b.room.cache.events with
    | nil =>
      have hstill : b.step (.handle now) = b := by
        simp only [step, inRoom, ReadingRoom.step, ReadingRoom.handle, hqueue]
      rw [hstill]
      exact .still
    | cons e later =>
      have hhandled : b.step (.handle now) =
          { b with
            room := b.room.record now (.handled e)
              ((b.room.cache.withEvents later).handle now e) } := by
        simp only [step, inRoom, ReadingRoom.step, ReadingRoom.handle, hqueue]
      rw [hhandled]
      exact .happened _ _ (.handled now e later hqueue)
  | look now => exact .happened _ _ (.looked now)
  | asks request => exact .asked request
  | act now a => exact b.act_cases now a

/-- A desk with a cache is a desk like any other. -/
theorem Reachable.desk {b : Branch τ} (h : b.Reachable) : b.desk.Reachable := by
  refine h.induction (P := fun b => b.desk.Reachable) ⟨[], rfl⟩ fun b _ hdesk move => ?_
  have hstepped := b.step_cases move
  generalize b.step move = after at hstepped
  cases hstepped with
  | enabling _ _ => exact hdesk.step (.draw _)
  | asked request => exact hdesk.step (.draw _)
  | disabled id _ => exact hdesk.step (.act (.leave id))
  | acted a _ => exact hdesk.step (.act a)
  | served now verdict own _ _ _ _ _ => exact hdesk.step (.act (.serve verdict own))
  | _ => exact hdesk

/-- A cache that is enabled and disabled does what it would do if it only listened and forgot. -/
theorem Reachable.room {b : Branch τ} (h : b.Reachable) : b.room.detached.Reachable := by
  refine h.induction (P := fun b => b.room.detached.Reachable) ⟨[], rfl⟩ fun b _ hroom move => ?_
  have hstep (move : ReadingMove) : (b.room.step move).detached.Reachable := by
    rw [ReadingRoom.detached, ← ReadingRoom.withRegistration_step]
    exact hroom.step move
  cases move with
  | enable =>
    change (b.enable).room.detached.Reachable
    unfold enable
    split <;> exact hroom
  | inquire =>
    change (b.inquire).room.detached.Reachable
    unfold inquire
    split
    · exact hroom
    · split
      · exact hroom
      · exact hroom
      · split <;> exact hroom
  | disable =>
    change (b.disable).room.detached.Reachable
    unfold disable
    split
    · exact hroom
    · exact hroom.step .clear
  | read g timeout maxAge =>
    change (b.read g timeout maxAge).room.detached.Reachable
    unfold read
    split
    · exact hstep _
    · exact hroom
  | snapshot | remove _ | clear | handle _ | look _ => exact hstep _
  | asks request => exact hroom
  | act now a =>
    obtain ⟨moves, hmoves⟩ := hroom
    refine ⟨moves ++ ((b.desk.handedOut a).filterMap caught?).map (.deliver now), ?_⟩
    rw [ReadingRoom.run_append, ← hmoves]
    exact (ReadingRoom.withRegistration_run _ none b.room).symm

/-! ## The subscriptions of the cache -/

/-- How the cache and the desk hang together. -/
structure Tied (b : Branch τ) : Prop where
  /-- Nobody enables a cache that is enabled. -/
  unregistered : b.enabling ≠ none → b.room.cache.registration = none
  /-- What is still to be granted to the cache is what somebody enables it with. -/
  awaited : b.desk.dispatcher.running = true → ∀ x ∈ b.desk.awaited, x.2.sink = none →
    b.enabling = some x.1
  /-- What has been granted to the cache is its registration, or is about to become it, or its end
  waits to be handled. -/
  there : b.desk.dispatcher.running = true → ∀ s ∈ b.desk.registry.subscribers, s.sink = none →
    b.room.cache.registration = some s.id ∨ b.enabling = some s.id ∨
      .unsubscribe s.id ∈ b.desk.dispatcher.events

section
variable {b : Branch τ}

theorem start_tied : (start : Branch τ).Tied where
  unregistered h := absurd rfl h
  awaited _ _ hx := absurd hx List.not_mem_nil
  there _ _ hs := absurd hs List.not_mem_nil

/-- A number that has been answered is not waited for. -/
theorem Tied.not_awaited (hreach : b.desk.Reachable) {x : Handling (Option τ)}
    (hx : x ∈ b.desk.log) {s : Subscriber (Option τ)} (hevent : x.event = .subscribe s) :
    ∀ y ∈ b.desk.awaited, y.1 ≠ s.id := by
  intro y hy heq
  refine (hreach.answered x hx s hevent).not_pending ?_
  rw [Desk.pending_eq, ← heq]
  exact List.mem_map.2 ⟨y, hy, rfl⟩

theorem Tied.enabling (h : b.Tied) (idle : b.enabling = none)
    (disabled : b.room.cache.registration = none) :
    Tied
      { b with
        desk := b.desk.draw (.frames GroupCache.route none)
        enabling := some b.desk.dispatcher.nextId } := by
  obtain ⟨hregistry, hrunning⟩ := b.desk.draw_keeps (.frames GroupCache.route none)
  refine ⟨fun _ => disabled, fun hruns x hx hsink => ?_, fun hruns s hs hsink => ?_⟩
  · obtain hold | rfl := Desk.draw_awaited hx
    · have hasked := h.awaited (hrunning ▸ hruns) x hold hsink
      cases idle.symm.trans hasked
    · rfl
  · obtain hregistration | hasked | hleaves := h.there (hrunning ▸ hruns) s (hregistry ▸ hs) hsink
    · cases disabled.symm.trans hregistration
    · cases idle.symm.trans hasked
    · exact .inr (.inr ((b.desk.draw_events _).symm ▸ hleaves))

theorem Tied.enabled (h : b.Tied) (hreach : b.desk.Reachable) {id : Nat}
    (asked : b.enabling = some id) {x : Handling (Option τ)} (handled : x ∈ b.desk.log)
    {s : Subscriber (Option τ)} (event_eq : x.event = .subscribe s) (id_eq : s.id = id) :
    Tied { b with room := b.room.withRegistration (some id), enabling := none } := by
  refine ⟨fun hne => absurd rfl hne, fun hruns y hy hsink => ?_, fun hruns y hy hsink => ?_⟩
  · have hown := Option.some.inj ((h.awaited hruns y hy hsink).symm.trans asked)
    exact absurd (hown.trans id_eq.symm) (Tied.not_awaited hreach handled event_eq y hy)
  · obtain hregistration | hasked | hleaves := h.there hruns y hy hsink
    · have hnone := h.unregistered (asked ▸ Option.some_ne_none id)
      cases hnone.symm.trans hregistration
    · exact .inl (asked.symm.trans hasked)
    · exact .inr (.inr hleaves)

theorem Tied.failed (h : b.Tied) (hreach : b.desk.Reachable) {id : Nat}
    (asked : b.enabling = some id)
    (refused : b.desk.dispatcher.running = true →
      ∃ x ∈ b.desk.log, ∃ s, x.event = .subscribe s ∧ s.id = id ∧ x.granted = false) :
    Tied { b with enabling := none } := by
  refine ⟨fun hne => absurd rfl hne, fun hruns y hy hsink => ?_, fun hruns y hy hsink => ?_⟩
  · obtain ⟨x, hx, s, hevent, hid, -⟩ := refused hruns
    have hown := Option.some.inj ((h.awaited hruns y hy hsink).symm.trans asked)
    exact absurd (hown.trans hid.symm) (Tied.not_awaited hreach hx hevent y hy)
  · obtain hregistration | hasked | hleaves := h.there hruns y hy hsink
    · exact .inl hregistration
    · obtain ⟨x, hx, s, hevent, hid, hrefused⟩ := refused hruns
      have hgone := (hreach.answered x hx s hevent).refused hrefused
      have hown : y.id = s.id := (Option.some.inj (hasked.symm.trans asked)).trans hid.symm
      exact absurd (List.mem_append_left _ (List.mem_map.2 ⟨y, hy, hown⟩)) hgone
    · exact .inr (.inr hleaves)

/-- Nothing at the desk but the handling of an event makes or ends a subscription. -/
theorem Tied.acted (h : b.Tied) {a : Desk.Act} (idle : ∀ verdict own, a ≠ .serve verdict own) :
    Tied { b with desk := b.desk.act a } := by
  obtain ⟨hregistry, hgrow, -⟩ := b.desk.act_idle idle
  refine ⟨h.unregistered, fun hruns x hx => ?_, fun hruns s hs hsink => ?_⟩
  · exact h.awaited (b.desk.running_of_act idle hruns) x (Desk.act_awaited hx)
  · have hruns := b.desk.running_of_act idle hruns
    obtain hregistration | hasked | hleaves := h.there hruns s (hregistry ▸ hs) hsink
    · exact .inl hregistration
    · exact .inr (.inl hasked)
    · exact .inr (.inr (hgrow.mem hleaves))

theorem Tied.disabled (h : b.Tied) {id : Nat} (enabled : b.room.cache.registration = some id) :
    Tied { b with desk := b.desk.act (.leave id), room := b.room.forget } := by
  have hacted := h.acted (a := .leave id) fun _ _ heq => Desk.Act.noConfusion heq
  refine ⟨fun _ => rfl, hacted.awaited, fun hruns s hs hsink => .inr ?_⟩
  obtain hregistration | hrest := hacted.there hruns s hs hsink
  · refine .inr ?_
    have hown : id = s.id := Option.some.inj (enabled.symm.trans hregistration)
    change .unsubscribe s.id ∈ (b.desk.dispatcher.deregister id).events
    change (b.desk.dispatcher.deregister id).running = true at hruns
    unfold Dispatcher.deregister at hruns ⊢
    split
    · exact hown ▸ List.mem_append_right _ List.mem_cons_self
    · rename_i hended
      rw [if_neg hended] at hruns
      exact absurd hruns hended
  · exact hrest

theorem Tied.served (h : b.Tied) (hreach : b.desk.Reachable) {verdict : Verdict}
    {own : IndividualAddress} {e : DispatchEvent (Option τ)}
    {later : List (DispatchEvent (Option τ))} (running : b.desk.dispatcher.running = true)
    (queue : b.desk.dispatcher.events = e :: later)
    (desk_eq : b.desk.act (.serve verdict own) = b.desk.record (b.desk.handling verdict own e later))
    {room : ReadingRoom} (hroom : room.cache.registration = b.room.cache.registration) :
    Tied { b with desk := b.desk.act (.serve verdict own), room := room } := by
  refine ⟨fun hne => hroom.trans (h.unregistered hne),
    fun _ x hx => h.awaited running x (Desk.act_awaited hx), fun _ s hs hsink => ?_⟩
  change s ∈ (b.desk.act (.serve verdict own)).registry.subscribers at hs
  change room.cache.registration = _ ∨ _ ∨
    _ ∈ (b.desk.act (.serve verdict own)).dispatcher.events
  rw [desk_eq] at hs ⊢
  obtain hold | hnew := Desk.handle_entries (Registry.mem_entries_frames.2 hs)
  · obtain hregistration | hasked | hleaves :=
      h.there running s (Registry.mem_entries_frames.1 hold) hsink
    · exact .inl (hroom.trans hregistration)
    · exact .inr (.inl hasked)
    · refine .inr (.inr ?_)
      change _ ∈ (Dispatcher.handle _ _ _ _).dispatcher.events
      rw [(Desk.handle_queue verdict own (b.desk.dispatcher.withEvents later) e).1]
      -- whoever is still there has not been told of by the event that was handled
      rw [queue] at hleaves
      obtain rfl | hlater := List.mem_cons.1 hleaves
      · exact absurd rfl (Registry.id_ne_of_unsubscribe hreach.fresh.numbers_nodup verdict s.id s hs)
      · exact hlater
  · refine .inr (.inl (h.awaited running (s.id, .frames s.route s.sink) ?_ hsink))
    exact Desk.mem_awaited.2 (.inl ⟨e, queue ▸ List.mem_cons_self, hnew⟩)

end

/-- **The subscriptions that lead to the cache are its own.** -/
theorem Reachable.tied {b : Branch τ} (h : b.Reachable) : b.Tied := by
  refine h.induction start_tied fun b hreach htied move => ?_
  have hdesk := hreach.desk
  have hstepped := b.step_cases move
  generalize b.step move = after at hstepped
  cases hstepped with
  | still => exact htied
  | enabling idle disabled => exact htied.enabling idle disabled
  | enabled id asked x handled s event_eq id_eq _ _ =>
    exact htied.enabled hdesk asked handled event_eq id_eq
  | failed id asked refused => exact htied.failed hdesk asked refused
  | disabled id enabled => exact htied.disabled enabled
  | told e nextReader _ _ => exact ⟨htied.unregistered, htied.awaited, htied.there⟩
  | happened h room happens =>
    have hsame := happens.registration_eq
    exact ⟨fun hne => hsame.trans (htied.unregistered hne), htied.awaited,
      fun hruns s hs hsink => (htied.there hruns s hs hsink).imp_left hsame.trans⟩
  | asked request =>
    obtain ⟨hregistry, hrunning⟩ := b.desk.draw_keeps (request.map some)
    refine ⟨htied.unregistered, fun hruns x hx hsink => ?_, fun hruns s hs hsink => ?_⟩
    · obtain hold | rfl := Desk.draw_awaited hx
      · exact htied.awaited (hrunning ▸ hruns) x hold hsink
      · cases request <;> cases hsink
    · have hthere := htied.there (hrunning ▸ hruns) s (hregistry ▸ hs) hsink
      exact hthere.imp_right fun hrest =>
        hrest.imp_right fun hleaves => (b.desk.draw_events _).symm ▸ hleaves
  | acted a idle => exact htied.acted idle
  | served now verdict own e later running queue desk_eq =>
    exact htied.served hdesk running queue desk_eq (ReadingRoom.receive_eq now _ b.room).2.1

end Branch
end KnxBus
