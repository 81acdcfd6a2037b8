import KnxBus.GroupCache
import KnxBus.Proofs.GroupCache.Table

/-!
# A cache and its readers

A cache handles one event after the other, and looks from time to time whose patience has ended.
What it does then it does at once and forgets.  A *reading room* is a cache with a memory: every
event that was handled and every look is a *happening*, with the entries before and after it and with
all that the cache did.  It also remembers the frames that were handed to the cache, and gives each
reader a number of its own.

Frames, readers and events come in any order, and each happening has a time of its own.  A turn of
the cache is a particular run of happenings: one for each event that has come, then one look
(`turn_run`).  Who asks a cache that is not enabled does not come into the room: it is turned away at
the door and is no event of the cache.

Two facts about happenings are used everywhere.  A happening in the middle of the memory was once its
end, so what is known of the room then holds of the happening (`Reachable.happened`).  And readers
are in custody: whoever is answered in a happening was outstanding before it and is not any more, and
nobody else leaves (`Stepped.custody`).
-/

namespace KnxBus

/-! ## Happenings -/

/-- Why a cache did something. -/
inductive CacheCause where
  /-- It handled an event. -/
  | handled (event : CacheEvent)
  /-- It looked whose patience has ended. -/
  | looked
  deriving DecidableEq, Repr

/-- The value that was seen, if that is the event. -/
def CacheEvent.observed? : CacheEvent → Option CacheEntry
  | .observed entry => some entry
  | _ => none

/-- The reader that asks for a value, if that is the event. -/
def CacheEvent.reader? : CacheEvent → Option Nat
  | .read _ _ _ reader => some reader
  | _ => none

/-- The event that was handled, if that is the cause. -/
def CacheCause.event? : CacheCause → Option CacheEvent
  | .handled event => some event
  | .looked => none

theorem CacheCause.eq_of_event? {cause : CacheCause} {event : CacheEvent}
    (h : cause.event? = some event) : cause = .handled event := by
  cases cause <;> cases h
  rfl

/-- The value that was seen, if that is the cause. -/
def CacheCause.observed? (cause : CacheCause) : Option CacheEntry := cause.event?.bind (·.observed?)

/-- The reader that asks for a value, if that is the cause. -/
def CacheCause.reader? (cause : CacheCause) : Option Nat := cause.event?.bind (·.reader?)

theorem CacheCause.eq_of_reader? {cause : CacheCause} {reader : Nat}
    (h : cause.reader? = some reader) :
    ∃ g timeout maxAge, cause = .handled (.read g timeout maxAge reader) := by
  obtain ⟨event, hevent, hreader⟩ := Option.bind_eq_some_iff.1 h
  rw [CacheCause.eq_of_event? hevent]
  cases event with
  | read g timeout maxAge n =>
    cases hreader
    exact ⟨g, timeout, maxAge, rfl⟩
  | _ => cases hreader

/-- The reader that is answered, and the answer. -/
def CacheAction.answer? : CacheAction → Option (Nat × CacheEntry)
  | .answer reader entry => some (reader, entry)
  | _ => none

/-- What a cache did at one time, and why. -/
structure Happening where
  /-- The entries before. -/
  before : CacheTable
  /-- When it was. -/
  now : Nat
  /-- Why. -/
  cause : CacheCause
  /-- What was done, in order. -/
  done : List CacheAction
  /-- The entries afterwards. -/
  after : CacheTable
  deriving DecidableEq, Repr

namespace Happening

/-- The answers that were given, each with its reader. -/
def answers (h : Happening) : List (Nat × CacheEntry) := h.done.filterMap (·.answer?)

/-- What a reader was answered. -/
def answersTo (h : Happening) (reader : Nat) : List CacheEntry :=
  (h.answers.filter (·.1 = reader)).map (·.2)

/-- The readers that were answered. -/
def answered (h : Happening) : List Nat := h.answers.map (·.1)

theorem filter_eq_nil_of_not_mem {answers : List (Nat × CacheEntry)} {reader : Nat}
    (hnot : reader ∉ answers.map (·.1)) : answers.filter (·.1 = reader) = [] :=
  List.filter_eq_nil_iff.2 fun a ha heq => hnot (List.mem_map.2 ⟨a, ha, of_decide_eq_true heq⟩)

theorem mem_answers {h : Happening} {reader : Nat} {entry : CacheEntry}
    (he : entry ∈ h.answersTo reader) : (reader, entry) ∈ h.answers := by
  obtain ⟨⟨n, e⟩, hmem, rfl⟩ := List.mem_map.1 he
  obtain ⟨hmem, heq⟩ := List.mem_filter.1 hmem
  have hn : n = reader := of_decide_eq_true heq
  rw [← hn]
  exact hmem

/-- If no reader is answered twice, an answer is all that its reader gets. -/
theorem answersTo_eq_singleton {h : Happening} (hnodup : h.answered.Nodup) {reader : Nat}
    {entry : CacheEntry} (hmem : (reader, entry) ∈ h.answers) : h.answersTo reader = [entry] := by
  obtain ⟨pre, post, hsplit⟩ := List.append_of_mem hmem
  have hnot : reader ∉ pre.map (·.1) ++ post.map (·.1) := by
    rw [answered, hsplit, List.map_append, List.map_cons] at hnodup
    exact (List.nodup_cons.1 (List.perm_middle.nodup_iff.1 hnodup)).1
  have hpre := filter_eq_nil_of_not_mem fun h => hnot (List.mem_append_left _ h)
  have hpost := filter_eq_nil_of_not_mem fun h => hnot (List.mem_append_right _ h)
  have hself : ((reader, entry) :: post).filter (·.1 = reader) =
      (reader, entry) :: post.filter (·.1 = reader) := List.filter_cons_of_pos (decide_eq_true rfl)
  rw [answersTo, hsplit, List.filter_append, hself, hpre, hpost]
  rfl

end Happening

/-- The events that were handled, in order. -/
def handledEvents (log : List Happening) : List CacheEvent := log.filterMap (·.cause.event?)

theorem handledEvents_append (a b : List Happening) :
    handledEvents (a ++ b) = handledEvents a ++ handledEvents b := List.filterMap_append

/-! ## What a cache does -/

namespace GroupCache

/-- A cache with another queue and another registration. -/
def elsewhere (c : GroupCache) (events : List CacheEvent) (registration : Option Nat) :
    GroupCache :=
  { c with events := events, registration := registration }

/-- An event is handled without regard to those behind it, and whether the cache is enabled or
not. -/
theorem handle_elsewhere (c : GroupCache) (events : List CacheEvent) (registration : Option Nat)
    (now : Nat) (e : CacheEvent) :
    (c.elsewhere events registration).handle now e =
      ((c.handle now e).1.elsewhere events registration, (c.handle now e).2) := by
  cases e with
  | read g timeout maxAge reader =>
    have hfresh : (c.elsewhere events registration).fresh? now g maxAge = c.fresh? now g maxAge :=
      rfl
    change (c.elsewhere events registration).onRead now g timeout maxAge reader =
      ((c.onRead now g timeout maxAge reader).1.elsewhere events registration,
        (c.onRead now g timeout maxAge reader).2)
    unfold onRead
    rw [hfresh]
    split
    · rfl
    · split <;> rfl
  | _ => rfl

theorem handle_events (c : GroupCache) (now : Nat) (e : CacheEvent) :
    (c.handle now e).1.events = c.events :=
  congrArg (·.1.events) (c.handle_elsewhere c.events c.registration now e)

theorem handle_registration (c : GroupCache) (now : Nat) (e : CacheEvent) :
    (c.handle now e).1.registration = c.registration :=
  congrArg (·.1.registration) (c.handle_elsewhere c.events c.registration now e)

/-- A cache with another queue. -/
def withEvents (c : GroupCache) (events : List CacheEvent) : GroupCache :=
  { c with events := events }

theorem handle_withEvents (c : GroupCache) (events : List CacheEvent) (now : Nat)
    (e : CacheEvent) :
    (c.withEvents events).handle now e =
      ((c.handle now e).1.withEvents events, (c.handle now e).2) := by
  have hsame : (c.handle now e).1.elsewhere events c.registration =
      (c.handle now e).1.withEvents events := by
    rw [elsewhere, withEvents, c.handle_registration now e]
  exact hsame ▸ c.handle_elsewhere events c.registration now e

/-- A cache with another registration. -/
def withRegistration (c : GroupCache) (registration : Option Nat) : GroupCache :=
  { c with registration := registration }

theorem handle_withRegistration (c : GroupCache) (registration : Option Nat) (now : Nat)
    (e : CacheEvent) :
    (c.withRegistration registration).handle now e =
      ((c.handle now e).1.withRegistration registration, (c.handle now e).2) := by
  have hsame : (c.handle now e).1.elsewhere c.events registration =
      (c.handle now e).1.withRegistration registration := by
    rw [elsewhere, withRegistration, c.handle_events now e]
  exact hsame ▸ c.handle_elsewhere c.events registration now e

theorem deliver_table (c : GroupCache) (now : Nat) (frame : Frame) :
    (c.deliver now frame).table = c.table := by
  unfold deliver
  split <;> rfl

theorem deliver_waiting (c : GroupCache) (now : Nat) (frame : Frame) :
    (c.deliver now frame).waiting = c.waiting := by
  unfold deliver
  split <;> rfl

/-- What a frame brings joins the queue. -/
theorem deliver_events (c : GroupCache) (now : Nat) (frame : Frame) :
    (c.deliver now frame).events = c.events ++ (sighting? now frame).toList.map .observed := by
  unfold deliver
  cases hsighting : sighting? now frame with
  | none => exact (List.append_nil _).symm
  | some entry => rfl

/-- Asking for a value changes no entry. -/
theorem onRead_table (c : GroupCache) (now : Nat) (g : GroupAddress)
    (timeout maxAge reader : Nat) : (c.onRead now g timeout maxAge reader).1.table = c.table := by
  unfold onRead
  split
  · rfl
  · split <;> rfl

theorem onObserved_answers (c : GroupCache) (entry : CacheEntry) :
    (c.onObserved entry).2.filterMap (·.answer?) =
      (c.waiting.filter fun w => w.group = entry.group).map fun w => (w.reader, entry) := by
  rw [onObserved, List.filterMap_map, ← List.filterMap_eq_map]
  rfl

theorem expire_answers (c : GroupCache) (now : Nat) :
    (c.expire now).2.filterMap (·.answer?) =
      (c.waiting.filter (·.isDue now)).map fun w => (w.reader, .unknown w.group now) := by
  rw [expire, List.filterMap_map, ← List.filterMap_eq_map]
  rfl

end GroupCache

/-! ## The room -/

/-- A cache, what it was handed, and what it has done. -/
structure ReadingRoom where
  /-- The cache. -/
  cache : GroupCache
  /-- The frames that were handed to it, each with its time. -/
  seen : List (Nat × Frame)
  /-- The number of the next reader. -/
  nextReader : Nat
  /-- What the cache has done, oldest first. -/
  log : List Happening
  deriving DecidableEq, Repr

/-- What can happen to a cache. -/
inductive ReadingMove where
  /-- A frame is handed to it. -/
  | deliver (now : Nat) (frame : Frame)
  /-- A reader asks for a value. -/
  | read (group : GroupAddress) (timeout maxAge : Nat)
  /-- A reader asks for all entries. -/
  | snapshot
  /-- It is to forget a group. -/
  | remove (group : GroupAddress)
  /-- It is to forget everything. -/
  | clear
  /-- It handles the oldest event. -/
  | handle (now : Nat)
  /-- It looks whose patience has ended. -/
  | look (now : Nat)
  deriving DecidableEq, Repr

namespace ReadingRoom

/-- Nothing has happened. -/
def start : ReadingRoom := ⟨.start, [], 0, []⟩

/-- The cache has done something. -/
def record (room : ReadingRoom) (now : Nat) (cause : CacheCause)
    (result : GroupCache × List CacheAction) : ReadingRoom :=
  { room with
    cache := result.1
    log := room.log ++ [⟨room.cache.table, now, cause, result.2, result.1.table⟩] }

/-- The oldest event is handled. -/
def handle (room : ReadingRoom) (now : Nat) : ReadingRoom :=
  match room.cache.events with
  | [] => room
  | e :: later => room.record now (.handled e) ((room.cache.withEvents later).handle now e)

/-- The cache looks whose patience has ended. -/
def look (room : ReadingRoom) (now : Nat) : ReadingRoom :=
  room.record now .looked (room.cache.expire now)

/-- An event comes. -/
def enqueue (room : ReadingRoom) (e : CacheEvent) : ReadingRoom :=
  { room with cache := room.cache.enqueue e }

/-- One move. -/
def step (room : ReadingRoom) : ReadingMove → ReadingRoom
  | .deliver now frame =>
    { room with cache := room.cache.deliver now frame, seen := room.seen ++ [(now, frame)] }
  | .read g timeout maxAge =>
    { room.enqueue (.read g timeout maxAge room.nextReader) with nextReader := room.nextReader + 1 }
  | .snapshot =>
    { room.enqueue (.snapshot room.nextReader) with nextReader := room.nextReader + 1 }
  | .remove g => room.enqueue (.remove g)
  | .clear => room.enqueue .clear
  | .handle now => room.handle now
  | .look now => room.look now

/-- One move after the other. -/
def run (moves : List ReadingMove) (room : ReadingRoom) : ReadingRoom := moves.foldl step room

theorem run_append (a b : List ReadingMove) (room : ReadingRoom) :
    run (a ++ b) room = run b (run a room) := List.foldl_append

theorem run_concat (moves : List ReadingMove) (move : ReadingMove) (room : ReadingRoom) :
    run (moves ++ [move]) room = (run moves room).step move := run_append moves [move] room

/-- A room that can come about. -/
def Reachable (room : ReadingRoom) : Prop := ∃ moves, room = run moves start

/-- All events that have come, those first that were handled. -/
def events (room : ReadingRoom) : List CacheEvent := handledEvents room.log ++ room.cache.events

/-! ## Steps -/

/-- What a move does. -/
inductive Stepped (room : ReadingRoom) : ReadingRoom → Prop where
  /-- Nothing. -/
  | still : Stepped room room
  /-- A frame is looked at, and carries a value or not. -/
  | saw (now : Nat) (frame : Frame) :
    Stepped room
      { room with cache := room.cache.deliver now frame, seen := room.seen ++ [(now, frame)] }
  /-- A reader asks. -/
  | asked (g : GroupAddress) (timeout maxAge : Nat) :
    Stepped room
      { room.enqueue (.read g timeout maxAge room.nextReader) with
        nextReader := room.nextReader + 1 }
  /-- The cache is told something else. -/
  | told (e : CacheEvent) (nextReader : Nat) (unseen : e.observed? = none)
    (unread : e.reader? = none) (later : room.nextReader ≤ nextReader) :
    Stepped room { room.enqueue e with nextReader := nextReader }
  /-- An event is handled. -/
  | handled (now : Nat) (e : CacheEvent) (later : List CacheEvent)
    (queue : room.cache.events = e :: later) :
    Stepped room (room.record now (.handled e) ((room.cache.withEvents later).handle now e))
  /-- The cache looks whose patience has ended. -/
  | looked (now : Nat) : Stepped room (room.look now)

theorem step_cases (room : ReadingRoom) (move : ReadingMove) : Stepped room (room.step move) := by
  cases move with
  | deliver now frame => exact .saw now frame
  | read g timeout maxAge => exact .asked g timeout maxAge
  | snapshot => exact .told _ _ rfl rfl (Nat.le_succ _)
  | remove g => exact .told _ _ rfl rfl (Nat.le_refl _)
  | clear => exact .told _ _ rfl rfl (Nat.le_refl _)
  | handle now =>
    cases hqueue : room.cache.events with
    | nil =>
      have hstill : room.step (.handle now) = room := by
        simp only [step, handle, hqueue]
      rw [hstill]
      exact .still
    | cons e later =>
      have hhandled : room.step (.handle now) =
          room.record now (.handled e) ((room.cache.withEvents later).handle now e) := by
        simp only [step, handle, hqueue]
      rw [hhandled]
      exact .handled now e later hqueue
  | look now => exact .looked now

theorem Reachable.step {room : ReadingRoom} (h : room.Reachable) (move : ReadingMove) :
    (room.step move).Reachable := by
  obtain ⟨moves, rfl⟩ := h
  exact ⟨moves ++ [move], (run_concat moves move start).symm⟩

/-- What holds at first and is kept by every move holds in all rooms. -/
theorem Reachable.induction {P : ReadingRoom → Prop} (hstart : P start)
    (hstep : ∀ room : ReadingRoom, room.Reachable → P room → ∀ move, P (room.step move))
    {room : ReadingRoom} (h : room.Reachable) : P room := by
  obtain ⟨moves, rfl⟩ := h
  have hboth : (run moves start).Reachable ∧ P (run moves start) :=
    List.foldlRecOn (motive := fun room => room.Reachable ∧ P room) moves ReadingRoom.step
      ⟨⟨[], rfl⟩, hstart⟩ fun room ⟨hreach, hP⟩ move _ =>
        ⟨hreach.step move, hstep room hreach hP move⟩
  exact hboth.2

/-! ## The memory -/

/-- What the next happening is. -/
inductive Happens (room : ReadingRoom) : Happening → ReadingRoom → Prop where
  /-- An event is handled. -/
  | handled (now : Nat) (e : CacheEvent) (later : List CacheEvent)
    (queue : room.cache.events = e :: later) :
    Happens room
      ⟨room.cache.table, now, .handled e, ((room.cache.withEvents later).handle now e).2,
        ((room.cache.withEvents later).handle now e).1.table⟩
      (room.record now (.handled e) ((room.cache.withEvents later).handle now e))
  /-- The cache looks whose patience has ended. -/
  | looked (now : Nat) :
    Happens room
      ⟨room.cache.table, now, .looked, (room.cache.expire now).2, (room.cache.expire now).1.table⟩
      (room.look now)

section
variable {room room' : ReadingRoom} {h : Happening}

theorem Happens.log_eq (happens : room.Happens h room') : room'.log = room.log ++ [h] := by
  cases happens <;> rfl

theorem Happens.before_eq (happens : room.Happens h room') : h.before = room.cache.table := by
  cases happens <;> rfl

theorem Happens.after_eq (happens : room.Happens h room') : h.after = room'.cache.table := by
  cases happens <;> rfl

/-- A happening takes the oldest event from the queue into the memory, or none. -/
theorem Happens.events_eq (happens : room.Happens h room') : room'.events = room.events := by
  rw [events, happens.log_eq, handledEvents_append, List.append_assoc, events]
  congr 1
  cases happens with
  | handled now e later queue =>
    rw [queue, record, GroupCache.handle_withEvents]
    rfl
  | looked now => rfl

theorem enqueue_events (room : ReadingRoom) (e : CacheEvent) :
    (room.enqueue e).events = room.events ++ [e] := (List.append_assoc _ _ _).symm

/-- Nothing that has come is lost. -/
theorem Stepped.events_grow (step : room.Stepped room') : room.events <+: room'.events := by
  cases step with
  | still => exact List.prefix_refl _
  | saw now frame =>
    change _ <+: handledEvents room.log ++ (room.cache.deliver now frame).events
    rw [GroupCache.deliver_events, ← List.append_assoc]
    exact List.prefix_append _ _
  | asked g timeout maxAge => exact room.enqueue_events _ ▸ List.prefix_append _ _
  | told e nextReader unseen unread later => exact room.enqueue_events e ▸ List.prefix_append _ _
  | handled now e later queue =>
    exact (Happens.handled now e later queue).events_eq ▸ List.prefix_refl _
  | looked now => exact (Happens.looked now).events_eq ▸ List.prefix_refl _

theorem run_events_grow (moves : List ReadingMove) (room : ReadingRoom) :
    room.events <+: (run moves room).events := by
  induction moves generalizing room with
  | nil => exact List.prefix_refl _
  | cons move later ih => exact (room.step_cases move).events_grow.trans (ih _)

/-- What a step does is remembered as a happening, unless the cache is only told something. -/
theorem Stepped.happens_or (step : room.Stepped room') :
    (∃ h, room.Happens h room') ∨
      room'.log = room.log ∧ room'.cache.table = room.cache.table ∧
        room'.cache.waiting = room.cache.waiting := by
  cases step with
  | still => exact .inr ⟨rfl, rfl, rfl⟩
  | saw now frame =>
    exact .inr ⟨rfl, room.cache.deliver_table now frame, room.cache.deliver_waiting now frame⟩
  | asked g timeout maxAge => exact .inr ⟨rfl, rfl, rfl⟩
  | told e nextReader unseen unread later => exact .inr ⟨rfl, rfl, rfl⟩
  | handled now e later queue => exact .inl ⟨_, .handled now e later queue⟩
  | looked now => exact .inl ⟨_, .looked now⟩

/-- A room has come, by way of a happening, from one with a shorter memory. -/
def CameThrough (room : ReadingRoom) (before : List Happening) (h : Happening) : Prop :=
  ∃ (earlier next : ReadingRoom) (moves : List ReadingMove),
    earlier.Reachable ∧ earlier.log = before ∧ earlier.Happens h next ∧ run moves next = room

theorem CameThrough.step {before : List Happening} (came : room.CameThrough before h)
    (move : ReadingMove) : (room.step move).CameThrough before h := by
  obtain ⟨earlier, next, moves, hearlier, hbefore, happens, hnext⟩ := came
  exact ⟨earlier, next, moves ++ [move], hearlier, hbefore, happens, by rw [run_concat, hnext]⟩

/-- **A happening in the middle of the memory was once the next one**, and the moves behind it have
made the rest of the memory. -/
theorem Reachable.cameThrough {before after : List Happening} (hroom : room.Reachable)
    (hlog : room.log = before ++ h :: after) : room.CameThrough before h := by
  refine Reachable.induction
    (P := fun room => ∀ after, room.log = before ++ h :: after → room.CameThrough before h)
    (fun after hlog => absurd hlog.symm (by simp [start])) ?_ hroom after hlog
  intro room hroom ih move after hlog
  obtain ⟨x, happens⟩ | ⟨hsame, -⟩ := (room.step_cases move).happens_or
  · obtain rfl | ⟨init, last, rfl⟩ := List.eq_nil_or_concat after
    · rw [happens.log_eq] at hlog
      obtain ⟨hbefore, hlast⟩ := List.append_inj' hlog rfl
      cases hlast
      exact ⟨room, _, [], hroom, hbefore, happens, rfl⟩
    · rw [happens.log_eq, List.concat_eq_append, ← List.cons_append, ← List.append_assoc] at hlog
      exact (ih init (List.append_inj' hlog rfl).1).step move
  · exact (ih after (hsame ▸ hlog)).step move

end

/-! ## Turns -/

/-- The moves of one turn: all events that have come are handled, then the cache looks. -/
def turnMoves (room : ReadingRoom) (now : Nat) : List ReadingMove :=
  List.replicate room.cache.events.length (.handle now) ++ [.look now]

/-- Handling one event after the other is handling all of them. -/
theorem run_handle (now : Nat) (events : List CacheEvent) (room : ReadingRoom)
    (hevents : room.cache.events = events) :
    ∃ new : List Happening,
      run (List.replicate events.length (.handle now)) room =
          { room with
            cache := (GroupCache.handleAll now events (room.cache.withEvents [])).1
            log := room.log ++ new } ∧
        new.flatMap (·.done) = (GroupCache.handleAll now events (room.cache.withEvents [])).2 ∧
          new.map (fun h => (h.now, h.cause)) = events.map fun e => (now, .handled e) := by
  induction events generalizing room with
  | nil =>
    refine ⟨[], ?_, rfl, rfl⟩
    have hcache : room.cache.withEvents [] = room.cache := by
      rw [← hevents]
      rfl
    rw [GroupCache.handleAll, hcache, List.append_nil]
    rfl
  | cons e later ih =>
    let h : Happening := ⟨room.cache.table, now, .handled e, (room.cache.handle now e).2,
      (room.cache.handle now e).1.table⟩
    have hstep : room.step (.handle now) =
        { room with
          cache := (room.cache.handle now e).1.withEvents later
          log := room.log ++ [h] } := by
      simp only [step, handle, hevents, record, GroupCache.handle_withEvents]
      rfl
    have hall : GroupCache.handleAll now (e :: later) (room.cache.withEvents []) =
        ((GroupCache.handleAll now later ((room.cache.handle now e).1.withEvents [])).1,
          (room.cache.handle now e).2 ++
            (GroupCache.handleAll now later ((room.cache.handle now e).1.withEvents [])).2) := by
      rw [GroupCache.handleAll, GroupCache.handle_withEvents]
    obtain ⟨new, hrun, hnew, hcauses⟩ := ih (room.step (.handle now)) (by rw [hstep]; rfl)
    have hcache : (room.step (.handle now)).cache.withEvents [] =
        (room.cache.handle now e).1.withEvents [] := by
      rw [hstep]
      rfl
    rw [hcache] at hrun hnew
    refine ⟨h :: new, ?_, ?_, ?_⟩
    · rw [List.length_cons, List.replicate_succ, run, List.foldl_cons, ← run, hrun, hstep, hall,
        List.append_assoc]
      rfl
    · rw [List.flatMap_cons, hnew, hall]
    · rw [List.map_cons, hcauses, List.map_cons]

theorem handleAll_events (now : Nat) (events : List CacheEvent) (c : GroupCache) :
    (GroupCache.handleAll now events c).1.events = c.events := by
  induction events generalizing c with
  | nil => rfl
  | cons e later ih => exact (ih _).trans (c.handle_events now e)

/-- No event is left by a turn. -/
theorem turn_events (c : GroupCache) (now : Nat) : (c.turn now).1.events = [] :=
  handleAll_events now c.events (c.withEvents [])

/-- **A turn is a run of happenings**: one for each event that has come, in order, and then a look.
What is done in it is what is done in them, one after the other. -/
theorem turn_run (room : ReadingRoom) (now : Nat) :
    ∃ (new : List Happening) (last : Happening),
      run (room.turnMoves now) room =
          { room with cache := (room.cache.turn now).1, log := room.log ++ (new ++ [last]) } ∧
        (new ++ [last]).flatMap (·.done) = (room.cache.turn now).2 ∧
          new.map (fun h => (h.now, h.cause)) =
              room.cache.events.map (fun e => (now, .handled e)) ∧
            last.now = now ∧ last.cause = .looked := by
  obtain ⟨new, hrun, hdone, hcauses⟩ := run_handle now room.cache.events room rfl
  let c := (GroupCache.handleAll now room.cache.events (room.cache.withEvents [])).1
  refine ⟨new, ⟨c.table, now, .looked, (c.expire now).2, (c.expire now).1.table⟩,
    ?_, ?_, hcauses, rfl, rfl⟩
  · rw [turnMoves, run_concat, hrun]
    change look _ now = _
    rw [look, record, List.append_assoc]
    rfl
  · rw [List.flatMap_append, hdone, List.flatMap_singleton]
    rfl

end ReadingRoom
end KnxBus
