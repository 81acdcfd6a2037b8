import KnxBus.Dispatch.Error
import KnxBus.Dispatch.Route
import KnxBus.Lpdu
import KnxBus.Medium.Command

/-!
# The registry

The registry knows who wants what from the medium and keeps the medium in step with it: the modes of
monitoring and the address filters follow from the first and the last registration of each kind.

Registering may need the consent of the medium.  What the medium would say to each command at that
moment is a function, its *verdict*; an operation asks for the commands it gives, one after the
other, and leaves behind their list.  A registration that is refused leaves the registry as it was.

## Who excludes whom

Nobody takes part in the bus while a monitor holds it, and no monitor gets the bus while somebody
takes part.  Virtual monitors exclude nobody.  A peer is held by one exclusive subscription at most.
-/

namespace KnxBus

/-- A subscription to frames.  The sink is whatever they are handed to. -/
structure Subscriber (σ : Type) where
  /-- The number of the subscription. -/
  id : Nat
  /-- The frames that are wanted. -/
  route : Route
  /-- Where they go. -/
  sink : σ
  deriving DecidableEq, Repr

/-- A registration for captures. -/
structure Monitor (σ : Type) where
  /-- The number of the registration. -/
  id : Nat
  /-- Whether the monitor leaves the bus in normal operation. -/
  isVirtual : Bool
  /-- Where captures go. -/
  sink : σ
  deriving DecidableEq, Repr

/-- Who is registered, in the order of registration. -/
structure Registry (σ : Type) where
  /-- Those who want frames. -/
  subscribers : List (Subscriber σ)
  /-- Those who want captures. -/
  monitors : List (Monitor σ)
  deriving DecidableEq, Repr

/-- What the medium would say to each command. -/
abbrev Verdict := Command → Except LinkError Unit

/-- What an operation leaves behind. -/
structure Registered (σ : Type) where
  /-- The registry afterwards. -/
  registry : Registry σ
  /-- The commands that were given, in order, whether they were obeyed or not. -/
  commands : List Command
  /-- Whether the operation succeeded. -/
  result : Except DispatchError Unit
  deriving Repr

namespace Registry

variable {σ : Type}

/-- Nobody is registered. -/
def empty : Registry σ := ⟨[], []⟩

/-- Whether somebody wants frames to a group in particular. -/
def tracksGroup (r : Registry σ) (g : GroupAddress) : Bool :=
  r.subscribers.any fun s => s.route == .group g

/-- Whether somebody wants frames to an individual address in particular. -/
def tracksIndividual (r : Registry σ) (a : IndividualAddress) : Bool :=
  r.subscribers.any fun s =>
    match s.route with
    | .individual _ destination _ => destination == a
    | _ => false

/-- Whether somebody holds a peer. -/
def isHeld (r : Registry σ) (peer : IndividualAddress) : Bool :=
  r.subscribers.any fun s =>
    match s.route with
    | .individual source _ .exclusive => source == peer
    | _ => false

/-- Whether there is a monitor of the given kind. -/
def hasMonitor (r : Registry σ) (isVirtual : Bool) : Bool :=
  r.monitors.any fun m => m.isVirtual == isVirtual

/-! ## Subscribing -/

/-- The operation is refused without any command. -/
def refused (r : Registry σ) (cause : DispatchError) : Registered σ := ⟨r, [], .error cause⟩

/-- Adds a subscription. -/
def add (r : Registry σ) (s : Subscriber σ) : Registry σ :=
  { r with subscribers := r.subscribers ++ [s] }

/-- Adds a subscription once the medium has obeyed a command. -/
def addAfter (verdict : Verdict) (r : Registry σ) (c : Command) (s : Subscriber σ) :
    Registered σ :=
  match verdict c with
  | .ok () => ⟨r.add s, [c], .ok ()⟩
  | .error e => ⟨r, [c], .error (.medium e)⟩

/-- Registers for frames. -/
def subscribe (verdict : Verdict) (r : Registry σ) (s : Subscriber σ) : Registered σ :=
  if r.hasMonitor false then r.refused .monitorActive
  else
    match s.route with
    | .broadcast => ⟨r.add s, [], .ok ()⟩
    | .group g =>
      if g.isBroadcast || r.tracksGroup g then ⟨r.add s, [], .ok ()⟩
      else addAfter verdict r (.addGroup g) s
    | .individual source destination lock =>
      if lock = .exclusive ∧ r.isHeld source then r.refused .addressLocked
      else if destination.isUnset || r.tracksIndividual destination then ⟨r.add s, [], .ok ()⟩
      else addAfter verdict r (.addAddress destination) s

/-! ## Monitoring -/

/-- Adds a monitor. -/
def addMonitor (r : Registry σ) (m : Monitor σ) : Registry σ :=
  { r with monitors := r.monitors ++ [m] }

/-- Adds the first monitor that holds the bus.  The medium has to leave normal operation first; if
it then does not enter busmonitor mode, it is told to return. -/
def takeBus (verdict : Verdict) (r : Registry σ) (m : Monitor σ) : Registered σ :=
  match verdict .finish with
  | .error e => ⟨r, [.finish], .error (.medium e)⟩
  | .ok () =>
    match verdict .enterBusmonitor with
    | .error e => ⟨r, [.finish, .enterBusmonitor, .start], .error (.medium e)⟩
    | .ok () => ⟨r.addMonitor m, [.finish, .enterBusmonitor], .ok ()⟩

/-- Adds the first virtual monitor. -/
def openVirtual (verdict : Verdict) (r : Registry σ) (m : Monitor σ) : Registered σ :=
  match verdict .openVirtualMonitor with
  | .error e => ⟨r, [.openVirtualMonitor], .error (.medium e)⟩
  | .ok () => ⟨r.addMonitor m, [.openVirtualMonitor], .ok ()⟩

/-- Registers for captures. -/
def monitor (verdict : Verdict) (r : Registry σ) (m : Monitor σ) : Registered σ :=
  if m.isVirtual then
    if r.hasMonitor true then ⟨r.addMonitor m, [], .ok ()⟩ else openVirtual verdict r m
  else if !r.subscribers.isEmpty then r.refused .normalModeActive
  else if r.hasMonitor false then ⟨r.addMonitor m, [], .ok ()⟩
  else takeBus verdict r m

/-! ## Leaving -/

/-- The filter that nobody needs any more once a subscription with the given route has gone. -/
def releasedFilter (r : Registry σ) : Route → List Command
  | .broadcast => []
  | .group g => if g.isBroadcast || r.tracksGroup g then [] else [.removeGroup g]
  | .individual _ destination _ =>
    if destination.isUnset || r.tracksIndividual destination then []
    else [.removeAddress destination]

/-- The commands that end monitoring once a monitor of the given kind has gone. -/
def releasedMode (verdict : Verdict) (r : Registry σ) (isVirtual : Bool) : List Command :=
  if r.hasMonitor isVirtual then []
  else if isVirtual then [.closeVirtualMonitor]
  else
    match verdict .leaveBusmonitor with
    | .ok () => [.leaveBusmonitor, .start]
    | .error _ => [.leaveBusmonitor]

/-- Takes out the first element with the given number. -/
def takeOut {α : Type} (number : α → Nat) (id : Nat) (all : List α) : Option (α × List α) :=
  match all with
  | [] => none
  | a :: rest =>
    if number a = id then some (a, rest)
    else (takeOut number id rest).map fun (found, others) => (found, a :: others)

/-- Ends a registration of either kind.  What the medium says to it changes nothing. -/
def unsubscribe (verdict : Verdict) (r : Registry σ) (id : Nat) : Registry σ × List Command :=
  match takeOut Subscriber.id id r.subscribers with
  | some (gone, others) =>
    let r' := { r with subscribers := others }
    (r', r'.releasedFilter gone.route)
  | none =>
    match takeOut Monitor.id id r.monitors with
    | some (gone, others) =>
      let r' := { r with monitors := others }
      (r', r'.releasedMode verdict gone.isVirtual)
    | none => (r, [])

/-! ## Dispatching -/

/-- Something handed to a sink. -/
inductive Handed where
  /-- A frame. -/
  | frame (frame : Frame)
  /-- A capture. -/
  | capture (raw : Octets)
  /-- The news that the medium is lost. -/
  | lost
  deriving DecidableEq, Repr

/-- What is handed out when something is heard: captures to all monitors, frames to those who want
them, in the order of registration. -/
def dispatch (r : Registry σ) (own : IndividualAddress) : Lpdu → List (σ × Handed)
  | .capture raw => r.monitors.map fun m => (m.sink, .capture raw)
  | .data frame =>
    let seen := frame.seenFrom own
    (r.subscribers.filter fun s => s.route.accepts seen).map fun s => (s.sink, .frame seen)
  | _ => []

/-- What is handed out when the medium is lost. -/
def announceLoss (r : Registry σ) : List (σ × Handed) :=
  r.subscribers.map (fun s => (s.sink, .lost)) ++ r.monitors.map (fun m => (m.sink, .lost))

end Registry
end KnxBus
