import KnxBus.Dispatch.Dispatcher
import KnxBus.Proofs.Dispatch.Registry

/-!
# A dispatcher at work

A desk is a dispatcher with its driver and with those who are about to register.  Registering takes
two moves: first a number is drawn, later the request is handed in under that number, and between
the two anything may happen, so requests do not come in the order of their numbers.  Everybody can
leave under any number at any time.  What is heard and the loss of the medium come as events too.
To serve is to handle the oldest event; what the driver says meanwhile to each command, and which
address it has, comes with the move.

A desk remembers what has been handled, with all that went into it and came out of it.  This changes
nothing and is there to be talked about.

## What a move can do

Only two moves touch the driver or the registry: the end of the desk, which closes the driver, and
serving.  `Desk.step_cases` says so once, and every invariant of registry and driver is derived from
it.  Numbers are treated apart, because they wander: from those who have drawn one into the queue
and from there into the registry.  No move makes a copy of a number on the way, and the counter from
which they are drawn never comes round, so a number is in use at most once (`Desk.Reachable.fresh`).
-/

namespace KnxBus

variable {σ : Type}

/-- What somebody asks a dispatcher for. -/
inductive Request (σ : Type) where
  /-- Frames of a route. -/
  | frames (route : Route) (sink : σ)
  /-- Captures. -/
  | captures (isVirtual : Bool) (sink : σ)
  deriving DecidableEq, Repr

/-- The event by which a request is handed in. -/
def Request.event (id : Nat) : Request σ → DispatchEvent σ
  | .frames route sink => .subscribe ⟨id, route, sink⟩
  | .captures isVirtual sink => .monitor ⟨id, isVirtual, sink⟩

/-- The number under which an event registers somebody. -/
def DispatchEvent.number? : DispatchEvent σ → Option Nat
  | .subscribe s => some s.id
  | .monitor m => some m.id
  | _ => none

@[simp]
theorem Request.event_number? (id : Nat) (request : Request σ) :
    (request.event id).number? = some id := by
  cases request <;> rfl

/-- The dispatcher with other events in its queue. -/
def Dispatcher.withEvents (d : Dispatcher σ) (events : List (DispatchEvent σ)) : Dispatcher σ :=
  { d with events := events }

/-- An event that has been handled. -/
structure Handling (σ : Type) where
  /-- The driver before. -/
  driver : Driver
  /-- What the driver said to each command. -/
  verdict : Verdict
  /-- The address of this device. -/
  own : IndividualAddress
  /-- The event. -/
  event : DispatchEvent σ
  /-- What handling it left behind. -/
  done : Dispatched σ

/-- A dispatcher with its driver. -/
structure Desk (σ : Type) where
  /-- The dispatcher. -/
  dispatcher : Dispatcher σ
  /-- The driver. -/
  driver : Driver
  /-- The numbers that have been drawn for requests which are still to be handed in. -/
  drawn : List (Nat × Request σ)
  /-- What has been handled, oldest first. -/
  log : List (Handling σ)

namespace Desk

/-- What can happen at a desk besides drawing a number. -/
inductive Act where
  /-- The request with a number is handed in. -/
  | submit (id : Nat)
  /-- Somebody leaves. -/
  | leave (id : Nat)
  /-- Something is heard. -/
  | hear (heard : Lpdu)
  /-- The medium is lost. -/
  | lose
  /-- The desk is closed, and the driver with it. -/
  | halt (verdict : Verdict)
  /-- The oldest event is handled. -/
  | serve (verdict : Verdict) (own : IndividualAddress)

/-- What can happen at a desk. -/
inductive Move (σ : Type) where
  /-- A number is drawn for a request. -/
  | draw (request : Request σ)
  /-- Anything else. -/
  | act (act : Act)

/-- A desk that has just been opened. -/
def start : Desk σ := ⟨.start, .opened, [], []⟩

/-- Who is registered. -/
def registry (desk : Desk σ) : Registry σ := desk.dispatcher.registry

/-- An event comes. -/
def enqueue (desk : Desk σ) (e : DispatchEvent σ) : Desk σ :=
  { desk with dispatcher := desk.dispatcher.enqueue e }

/-- Draws a number, as long as events are handled. -/
def draw (desk : Desk σ) (request : Request σ) : Desk σ :=
  if desk.dispatcher.running then
    { desk with
      dispatcher := desk.dispatcher.takeId.2
      drawn := desk.drawn ++ [(desk.dispatcher.takeId.1, request)] }
  else desk

/-- Hands in the request with a number. -/
def submit (desk : Desk σ) (id : Nat) : Desk σ :=
  match Registry.takeOut Prod.fst id desk.drawn with
  | none => desk
  | some (found, others) => { desk with drawn := others }.enqueue (found.2.event found.1)

/-- The handling of an event that has been taken from the queue. -/
def handling (verdict : Verdict) (own : IndividualAddress) (desk : Desk σ) (e : DispatchEvent σ)
    (later : List (DispatchEvent σ)) : Handling σ :=
  ⟨desk.driver, verdict, own, e, (desk.dispatcher.withEvents later).handle verdict own e⟩

/-- What is handled next, if anything is. -/
def next? (verdict : Verdict) (own : IndividualAddress) (desk : Desk σ) : Option (Handling σ) :=
  if desk.dispatcher.running then
    match desk.dispatcher.events with
    | [] => none
    | e :: later => some (desk.handling verdict own e later)
  else none

/-- An event has been handled. -/
def record (desk : Desk σ) (h : Handling σ) : Desk σ :=
  { desk with
    dispatcher := h.done.dispatcher
    driver := desk.driver.giveAll h.verdict h.done.commands
    log := desk.log ++ [h] }

/-- Handles the oldest event. -/
def serve (verdict : Verdict) (own : IndividualAddress) (desk : Desk σ) : Desk σ :=
  match desk.next? verdict own with
  | none => desk
  | some h => desk.record h

/-- Something happens besides drawing a number. -/
def act (desk : Desk σ) : Act → Desk σ
  | .submit id => desk.submit id
  | .leave id => { desk with dispatcher := desk.dispatcher.deregister id }
  | .hear heard => desk.enqueue (.heard heard)
  | .lose => desk.enqueue .lost
  | .halt verdict =>
    { desk with
      dispatcher := desk.dispatcher.stop
      driver := desk.driver.give verdict .finish }
  | .serve verdict own => desk.serve verdict own

/-- Something happens. -/
def step (desk : Desk σ) : Move σ → Desk σ
  | .draw request => desk.draw request
  | .act a => desk.act a

/-- One thing after the other happens. -/
def run (moves : List (Move σ)) (desk : Desk σ) : Desk σ := moves.foldl step desk

/-- A desk to which something can have happened since it was opened. -/
def Reachable (desk : Desk σ) : Prop := ∃ moves, desk = run moves start

theorem Reachable.step {desk : Desk σ} (h : desk.Reachable) (move : Move σ) :
    (desk.step move).Reachable := by
  obtain ⟨moves, rfl⟩ := h
  exact ⟨moves ++ [move], by rw [run, run, List.foldl_append]; rfl⟩

/-- What holds of a desk that has just been opened and is kept by every move holds always. -/
theorem Reachable.induction {P : Desk σ → Prop} (hstart : P start)
    (hstep : ∀ desk : Desk σ, desk.Reachable → P desk → ∀ move, P (desk.step move))
    {desk : Desk σ} (h : desk.Reachable) : P desk := by
  obtain ⟨moves, rfl⟩ := h
  have hboth : (run moves (start : Desk σ)).Reachable ∧ P (run moves start) :=
    List.foldlRecOn (motive := fun desk => desk.Reachable ∧ P desk) moves Desk.step
      ⟨⟨[], rfl⟩, hstart⟩ fun desk ⟨hreach, hP⟩ move _ =>
        ⟨hreach.step move, hstep desk hreach hP move⟩
  exact hboth.2

/-- Nothing is handed in under a number under which nothing is left to hand in. -/
theorem submit_of_none {desk : Desk σ} {id : Nat}
    (h : Registry.takeOut Prod.fst id desk.drawn = none) : desk.submit id = desk := by
  rw [submit, h]

theorem submit_of_some {desk : Desk σ} {id : Nat} {found : Nat × Request σ}
    {others : List (Nat × Request σ)}
    (h : Registry.takeOut Prod.fst id desk.drawn = some (found, others)) :
    desk.submit id = { desk with drawn := others }.enqueue (found.2.event found.1) := by
  rw [submit, h]

/-! ## What a move does to registry and driver -/

/-- How registry, driver and memory can change in a move. -/
inductive Stepped (desk : Desk σ) : Move σ → Desk σ → Prop where
  /-- Not at all. -/
  | idle {move : Move σ} {after : Desk σ} (registry_eq : after.registry = desk.registry)
      (driver_eq : after.driver = desk.driver) (log_eq : after.log = desk.log) :
      Stepped desk move after
  /-- The driver is closed. -/
  | halted {verdict : Verdict} {after : Desk σ} (registry_eq : after.registry = desk.registry)
      (driver_eq : after.driver = desk.driver.give verdict .finish)
      (log_eq : after.log = desk.log) : Stepped desk (.act (.halt verdict)) after
  /-- An event is handled. -/
  | served {verdict : Verdict} {own : IndividualAddress} {after : Desk σ} (e : DispatchEvent σ)
      (later : List (DispatchEvent σ)) (eq : after = desk.record (desk.handling verdict own e later)) :
      Stepped desk (.act (.serve verdict own)) after

/-- What is handled next is the oldest event. -/
theorem next?_eq_some {verdict : Verdict} {own : IndividualAddress} {desk : Desk σ}
    {h : Handling σ} (hnext : desk.next? verdict own = some h) :
    ∃ e later, desk.dispatcher.events = e :: later ∧ h = desk.handling verdict own e later := by
  unfold next? at hnext
  split at hnext
  · split at hnext
    · cases hnext
    · rename_i e later hevents
      cases hnext
      exact ⟨e, later, hevents, rfl⟩
  · cases hnext

theorem running_of_next? {verdict : Verdict} {own : IndividualAddress} {desk : Desk σ}
    {h : Handling σ} (hnext : desk.next? verdict own = some h) :
    desk.dispatcher.running = true := by
  unfold next? at hnext
  split at hnext
  · assumption
  · cases hnext

theorem step_cases (desk : Desk σ) (move : Move σ) : Stepped desk move (desk.step move) := by
  cases move with
  | draw request =>
    show Stepped desk _ (desk.draw request)
    unfold draw
    split <;> exact .idle rfl rfl rfl
  | act a =>
    cases a with
    | submit id =>
      show Stepped desk _ (desk.submit id)
      unfold submit
      split <;> exact .idle rfl rfl rfl
    | leave id =>
      refine .idle ?_ rfl rfl
      show (desk.dispatcher.deregister id).registry = _
      unfold Dispatcher.deregister
      split <;> rfl
    | hear heard => exact .idle rfl rfl rfl
    | lose => exact .idle rfl rfl rfl
    | halt verdict => exact .halted rfl rfl rfl
    | serve verdict own =>
      show Stepped desk _ (desk.serve verdict own)
      unfold serve
      split
      · exact .idle rfl rfl rfl
      · rename_i h hnext
        obtain ⟨e, later, -, heq⟩ := next?_eq_some hnext
        exact .served e later (by rw [heq])

/-- Drawing a number changes nothing about who is registered and whether events are handled. -/
theorem draw_keeps (desk : Desk σ) (request : Request σ) :
    (desk.draw request).registry = desk.registry ∧
      (desk.draw request).dispatcher.running = desk.dispatcher.running := by
  unfold draw
  split <;> exact ⟨rfl, rfl⟩

/-- As long as no event is handled, nobody comes, nobody leaves and the queue grows; and only closing
the desk ends it. -/
theorem act_idle (desk : Desk σ) {a : Act} (hserve : ∀ verdict own, a ≠ .serve verdict own) :
    (desk.act a).registry = desk.registry ∧
      desk.dispatcher.events <+: (desk.act a).dispatcher.events ∧
        ((desk.act a).dispatcher.running = desk.dispatcher.running ∨
          (∃ verdict, a = .halt verdict) ∧ (desk.act a).dispatcher.running = false) := by
  have hgrow (e : DispatchEvent σ) : desk.dispatcher.events <+: desk.dispatcher.events ++ [e] :=
    List.prefix_append _ _
  cases a with
  | submit id =>
    change (desk.submit id).registry = _ ∧ _ <+: (desk.submit id).dispatcher.events ∧
      ((desk.submit id).dispatcher.running = _ ∨ _)
    unfold submit
    split
    · exact ⟨rfl, List.prefix_refl _, .inl rfl⟩
    · exact ⟨rfl, hgrow _, .inl rfl⟩
  | leave id =>
    change (desk.dispatcher.deregister id).registry = _ ∧
      _ <+: (desk.dispatcher.deregister id).events ∧
        ((desk.dispatcher.deregister id).running = _ ∨ _)
    unfold Dispatcher.deregister
    split
    · exact ⟨rfl, hgrow _, .inl rfl⟩
    · exact ⟨rfl, List.prefix_refl _, .inl rfl⟩
  | hear heard => exact ⟨rfl, hgrow _, .inl rfl⟩
  | lose => exact ⟨rfl, hgrow _, .inl rfl⟩
  | halt verdict => exact ⟨rfl, List.prefix_refl _, .inr ⟨⟨verdict, rfl⟩, rfl⟩⟩
  | serve verdict own => exact absurd rfl (hserve verdict own)

/-- Nothing but handling an event and closing the desk changes who is registered and whether events
are handled. -/
theorem act_keeps (desk : Desk σ) {a : Act} (hserve : ∀ verdict own, a ≠ .serve verdict own)
    (hhalt : ∀ verdict, a ≠ .halt verdict) :
    (desk.act a).registry = desk.registry ∧
      (desk.act a).dispatcher.running = desk.dispatcher.running := by
  obtain ⟨hregistry, -, hrunning | ⟨⟨verdict, heq⟩, -⟩⟩ := desk.act_idle hserve
  · exact ⟨hregistry, hrunning⟩
  · exact absurd heq (hhalt verdict)

/-- A desk that has ended does not begin again. -/
theorem running_of_act (desk : Desk σ) {a : Act} (hserve : ∀ verdict own, a ≠ .serve verdict own)
    (hruns : (desk.act a).dispatcher.running = true) : desk.dispatcher.running = true := by
  obtain ⟨-, -, hrunning | ⟨-, hended⟩⟩ := desk.act_idle hserve
  · exact hrunning.symm.trans hruns
  · cases hended.symm.trans hruns

/-! ## What is handed out -/

/-- As long as a dispatcher goes on it tells nobody that the medium is lost. -/
theorem handed_ne_lost {verdict : Verdict} {own : IndividualAddress} {d : Dispatcher σ}
    {e : DispatchEvent σ} (hgoes : (d.handle verdict own e).dispatcher.running = true) :
    ∀ h ∈ (d.handle verdict own e).handed, h.2 ≠ .lost := by
  cases e with
  | lost => cases hgoes
  | heard heard =>
    intro h hh
    have hh' : h ∈ d.registry.dispatch own heard := hh
    unfold Registry.dispatch at hh'
    split at hh'
    · obtain ⟨m, -, rfl⟩ := List.mem_map.1 hh'
      exact fun heq => Registry.Handed.noConfusion heq
    · obtain ⟨u, -, rfl⟩ := List.mem_map.1 hh'
      exact fun heq => Registry.Handed.noConfusion heq
    · exact absurd hh' List.not_mem_nil
  | _ => exact fun h hh => absurd hh List.not_mem_nil

/-- A desk that handles something else than the loss of the medium goes on. -/
theorem handle_running (verdict : Verdict) (own : IndividualAddress) (d : Dispatcher σ)
    {e : DispatchEvent σ} (h : e ≠ .lost) :
    (d.handle verdict own e).dispatcher.running = d.running := by
  cases e with
  | lost => exact absurd rfl h
  | _ => rfl

/-! ## The next number -/

/-- The events in the queue and the next number do not depend on the event that is handled. -/
theorem handle_queue (verdict : Verdict) (own : IndividualAddress) (d : Dispatcher σ)
    (e : DispatchEvent σ) :
    (d.handle verdict own e).dispatcher.events = d.events ∧
      (d.handle verdict own e).dispatcher.nextId = d.nextId := by
  cases e <;> exact ⟨rfl, rfl⟩

theorem draw_nextId_le (desk : Desk σ) (request : Request σ) :
    desk.dispatcher.nextId ≤ (desk.draw request).dispatcher.nextId := by
  unfold draw
  split
  · exact Nat.le_succ _
  · exact Nat.le_refl _

theorem draw_log (desk : Desk σ) (request : Request σ) : (desk.draw request).log = desk.log := by
  unfold draw
  split <;> rfl

theorem draw_events (desk : Desk σ) (request : Request σ) :
    (desk.draw request).dispatcher.events = desk.dispatcher.events := by
  unfold draw
  split <;> rfl

theorem act_nextId (desk : Desk σ) (a : Act) :
    (desk.act a).dispatcher.nextId = desk.dispatcher.nextId := by
  cases a with
  | submit id =>
    show (desk.submit id).dispatcher.nextId = _
    unfold submit
    split <;> rfl
  | leave id =>
    show (desk.dispatcher.deregister id).nextId = _
    unfold Dispatcher.deregister
    split <;> rfl
  | hear heard => rfl
  | lose => rfl
  | halt verdict => rfl
  | serve verdict own =>
    show (desk.serve verdict own).dispatcher.nextId = _
    unfold serve
    split
    · rfl
    · rename_i handled hnext
      obtain ⟨e, later, -, heq⟩ := next?_eq_some hnext
      rw [heq]
      exact (handle_queue verdict own (desk.dispatcher.withEvents later) e).2

theorem step_nextId_le (desk : Desk σ) (move : Move σ) :
    desk.dispatcher.nextId ≤ (desk.step move).dispatcher.nextId := by
  cases move with
  | draw request => exact desk.draw_nextId_le request
  | act a => exact Nat.le_of_eq (desk.act_nextId a).symm

/-! ## Numbers in use -/

/-- The numbers in use: of those who are registered, wait in the queue or have drawn one. -/
def numbers (desk : Desk σ) : List Nat :=
  desk.registry.numbers ++ desk.dispatcher.events.filterMap DispatchEvent.number? ++
    desk.drawn.map Prod.fst

/-- No number is in use twice, and none that is still to be drawn. -/
def Fresh (desk : Desk σ) : Prop :=
  ∀ n, desk.numbers.count n ≤ if n < desk.dispatcher.nextId then 1 else 0

/-- Handling an event registers nobody but the one who asks for it. -/
theorem handle_numbers (verdict : Verdict) (own : IndividualAddress) (d : Dispatcher σ)
    (e : DispatchEvent σ) (n : Nat) :
    (d.handle verdict own e).dispatcher.registry.numbers.count n ≤
      d.registry.numbers.count n + e.number?.toList.count n := by
  cases e with
  | subscribe s => exact Registry.subscribe_numbers verdict d.registry s n
  | monitor m => exact Registry.monitor_numbers verdict d.registry m n
  | unsubscribe id => exact Registry.unsubscribe_numbers verdict d.registry id n
  | heard heard => exact Nat.le_add_right _ _
  | lost => exact Nat.le_add_right _ _

theorem enqueue_numbers (desk : Desk σ) (e : DispatchEvent σ) (n : Nat) :
    (desk.enqueue e).numbers.count n = desk.numbers.count n + e.number?.toList.count n := by
  have hevents : (desk.dispatcher.enqueue e).events.filterMap DispatchEvent.number? =
      desk.dispatcher.events.filterMap DispatchEvent.number? ++ e.number?.toList := by
    rw [Dispatcher.enqueue, List.filterMap_append]
    cases h : e.number? <;> simp [h]
  simp only [numbers, registry, enqueue, hevents, List.count_append]
  simp only [Dispatcher.enqueue]
  omega

/-- Handling the oldest event makes no number. -/
theorem record_numbers {desk : Desk σ} {e : DispatchEvent σ} {later : List (DispatchEvent σ)}
    (hevents : desk.dispatcher.events = e :: later) (verdict : Verdict) (own : IndividualAddress)
    (n : Nat) :
    (desk.record (desk.handling verdict own e later)).numbers.count n ≤ desk.numbers.count n := by
  have hregistered := handle_numbers verdict own (desk.dispatcher.withEvents later) e n
  have hqueue := (handle_queue verdict own (desk.dispatcher.withEvents later) e).1
  have hbefore : desk.dispatcher.events.filterMap DispatchEvent.number? =
      e.number?.toList ++ later.filterMap DispatchEvent.number? := by
    rw [hevents]
    cases h : e.number? <;> simp [h]
  simp only [numbers, registry, record, handling, hqueue, hbefore, List.count_append]
  simp only [Dispatcher.withEvents] at hregistered ⊢
  omega

/-- Handing in a request moves its number from those that have been drawn into the queue. -/
theorem submit_numbers (desk : Desk σ) (id n : Nat) :
    (desk.submit id).numbers.count n ≤ desk.numbers.count n := by
  unfold submit
  split
  · exact Nat.le_refl _
  · rename_i found others hsome
    obtain ⟨-, before, after, hall, hothers⟩ := Registry.takeOut_eq_some hsome
    rw [enqueue_numbers, Request.event_number?]
    simp only [numbers, registry, hall, hothers, List.map_append, List.map_cons, List.count_append,
      List.count_cons, Option.toList_some, List.count_nil]
    omega

/-- Only drawing makes a number. -/
theorem act_numbers (desk : Desk σ) (a : Act) (n : Nat) :
    (desk.act a).numbers.count n ≤ desk.numbers.count n := by
  have hquiet {e : DispatchEvent σ} (he : e.number? = none) :
      (desk.enqueue e).numbers.count n ≤ desk.numbers.count n := by
    rw [enqueue_numbers, he]
    exact Nat.le_refl _
  cases a with
  | submit id => exact desk.submit_numbers id n
  | leave id =>
    show (numbers { desk with dispatcher := desk.dispatcher.deregister id }).count n ≤ _
    unfold Dispatcher.deregister
    split
    · exact hquiet rfl
    · exact Nat.le_refl _
  | hear heard => exact hquiet rfl
  | lose => exact hquiet rfl
  | halt verdict => exact Nat.le_refl _
  | serve verdict own =>
    show (desk.serve verdict own).numbers.count n ≤ _
    unfold serve
    split
    · exact Nat.le_refl _
    · rename_i handled hnext
      obtain ⟨e, later, hevents, heq⟩ := next?_eq_some hnext
      rw [heq]
      exact record_numbers hevents verdict own n

theorem Fresh.draw {desk : Desk σ} (h : desk.Fresh) (request : Request σ) :
    (desk.draw request).Fresh := by
  unfold Desk.draw
  split
  · intro n
    have hold := h n
    show _ ≤ if n < desk.dispatcher.nextId + 1 then 1 else 0
    simp only [numbers, registry, Dispatcher.takeId, List.map_append, List.count_append,
      List.map_singleton, List.count_singleton, beq_iff_eq] at hold ⊢
    split at hold <;> split <;> split <;> omega
  · exact h

theorem Fresh.step {desk : Desk σ} (h : desk.Fresh) (move : Move σ) : (desk.step move).Fresh := by
  cases move with
  | draw request => exact h.draw request
  | act a =>
    intro n
    show _ ≤ if n < (desk.act a).dispatcher.nextId then 1 else 0
    rw [act_nextId]
    exact Nat.le_trans (desk.act_numbers a n) (h n)

theorem start_fresh : (start : Desk σ).Fresh := fun _ => Nat.zero_le _

theorem Reachable.fresh {desk : Desk σ} (h : desk.Reachable) : desk.Fresh :=
  h.induction start_fresh fun _ _ hfresh move => hfresh.step move

/-- Nobody is registered under the number of somebody else. -/
theorem Fresh.numbers_nodup {desk : Desk σ} (h : desk.Fresh) : desk.registry.numbers.Nodup := by
  rw [List.nodup_iff_count]
  intro n
  have hn := h n
  simp only [numbers, List.count_append] at hn
  split at hn <;> omega

end Desk
end KnxBus
