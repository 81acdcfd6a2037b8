import KnxBus.Dispatch.Registry

/-!
# The dispatcher

The dispatcher owns the registry.  Everything that concerns it comes to it as an event, and events
are handled one at a time in the order in which they came, so there is always a definite answer to
the question whether a frame was there before a registration.  When the medium is lost the
dispatcher hands on the news and ends; later events are never handled.
-/

namespace KnxBus

/-- What comes to the dispatcher. -/
inductive DispatchEvent (σ : Type) where
  /-- Somebody registers for frames. -/
  | subscribe (subscriber : Subscriber σ)
  /-- Somebody registers for captures. -/
  | monitor (monitor : Monitor σ)
  /-- Somebody leaves. -/
  | unsubscribe (id : Nat)
  /-- Something is heard. -/
  | heard (heard : Lpdu)
  /-- The medium is lost. -/
  | lost
  deriving DecidableEq, Repr

/-- The dispatcher. -/
structure Dispatcher (σ : Type) where
  /-- Who is registered. -/
  registry : Registry σ
  /-- The number of the next registration. -/
  nextId : Nat
  /-- Whether events are handled. -/
  running : Bool
  /-- Events that have not been handled, oldest first. -/
  events : List (DispatchEvent σ)
  deriving DecidableEq, Repr

/-- What handling an event leaves behind. -/
structure Dispatched (σ : Type) where
  /-- The dispatcher afterwards. -/
  dispatcher : Dispatcher σ
  /-- The commands given to the medium. -/
  commands : List Command
  /-- What was handed out. -/
  handed : List (σ × Registry.Handed)
  /-- What a registration was told. -/
  result : Except DispatchError Unit
  deriving Repr

namespace Dispatcher

variable {σ : Type}

/-- A dispatcher that has just been started. -/
def start : Dispatcher σ := ⟨.empty, 1, true, []⟩

/-- An event comes. -/
def enqueue (d : Dispatcher σ) (e : DispatchEvent σ) : Dispatcher σ :=
  { d with events := d.events ++ [e] }

/-- Somebody wants to leave.  Once the dispatcher has ended there is nothing to leave. -/
def deregister (d : Dispatcher σ) (id : Nat) : Dispatcher σ :=
  if d.running then d.enqueue (.unsubscribe id) else d

/-- The dispatcher is told to end. -/
def stop (d : Dispatcher σ) : Dispatcher σ := { d with running := false }

/-- The dispatcher with another registry. -/
def withRegistry (d : Dispatcher σ) (r : Registry σ) : Dispatcher σ := { d with registry := r }

/-- Handles one event. -/
def handle (verdict : Verdict) (own : IndividualAddress) (d : Dispatcher σ) :
    DispatchEvent σ → Dispatched σ
  | .subscribe s =>
    let done := d.registry.subscribe verdict s
    ⟨d.withRegistry done.registry, done.commands, [], done.result⟩
  | .monitor m =>
    let done := d.registry.monitor verdict m
    ⟨d.withRegistry done.registry, done.commands, [], done.result⟩
  | .unsubscribe id =>
    let (registry, commands) := d.registry.unsubscribe verdict id
    ⟨d.withRegistry registry, commands, [], .ok ()⟩
  | .heard heard => ⟨d, [], d.registry.dispatch own heard, .ok ()⟩
  | .lost => ⟨d.stop, [], d.registry.announceLoss, .ok ()⟩

/-- Takes the number for a new registration. -/
def takeId (d : Dispatcher σ) : Nat × Dispatcher σ := (d.nextId, { d with nextId := d.nextId + 1 })

end Dispatcher
end KnxBus
