import KnxBus.Station

/-!
# Opening and closing the parts of a station

A part is opened under a name.  First it gets a serial number, then it registers, and only when
that has succeeded does it become a member; a part that fails to open leaves nothing registered.
If there was a part of that name, it is closed after the new one has been opened.  A bare
registration is the exception: it is not closed but forgotten, so what it hears is still recorded
under the name.

A registration is made by an event like all others, after everything that came before it.
-/

namespace KnxBus.Station

/-! ## Registering -/

/-- Hands an event to the dispatcher and waits until it has been handled.  The answer is the number
of the registration. -/
def request (now : Nat) (s : Station) (event : Nat → DispatchEvent Sink) :
    Station × Except DispatchError Nat :=
  let ready := s.dispatch now
  if ready.dispatcher.running then
    let (id, dispatcher) := ready.dispatcher.takeId
    let (after, result) := { ready with dispatcher := dispatcher }.handle now (event id)
    (after, result.map fun _ => id)
  else (ready, .error .stopped)

/-- Registers for frames. -/
def register (now : Nat) (s : Station) (route : Route) (sink : Sink) :
    Station × Except DispatchError Nat :=
  s.request now fun id => .subscribe ⟨id, route, sink⟩

/-- Registers for frames of several routes, when those in `held` have been made already.  If one is
refused, all are given up. -/
def registerAll (now : Nat) (sink : Sink) :
    List Nat → List Route → Station → Station × Except DispatchError (List Nat)
  | held, [], s => (s, .ok held)
  | held, route :: rest, s =>
    match s.register now route sink with
    | (s', .ok id) => registerAll now sink (held ++ [id]) rest s'
    | (s', .error cause) => (performAll now (held.map .leave) s', .error cause)

/-! ## Members -/

/-- Puts a member where its name belongs. -/
def place (m : Member) : List Member → List Member
  | [] => [m]
  | other :: rest => if m.name < other.name then m :: other :: rest else other :: place m rest

/-- Takes a member away. -/
def remove (s : Station) (serial : Nat) : Station :=
  { s with members := s.members.filter fun m => m.serial ≠ serial }

/-- Closes a member. -/
def closeMember (now : Nat) (s : Station) (m : Member) : Station :=
  performAll now (m.part.close now) (s.remove m.serial)

/-- A member makes room for another of its name. -/
def replace (now : Nat) (s : Station) (m : Member) : Station :=
  match m.part with
  | .listener _ => s.remove m.serial
  | _ => s.closeMember now m

/-- Takes a serial number. -/
def takeSerial (s : Station) : Nat × Station :=
  (s.nextSerial, { s with nextSerial := s.nextSerial + 1 })

/-- A part becomes a member, instead of one that had its name. -/
def enroll (now : Nat) (s : Station) (name : String) (serial : Nat) (part : Part) : Station :=
  let old := s.member? name
  let s' := { s with members := place ⟨name, serial, part⟩ s.members }
  match old with
  | none => s'
  | some m => s'.replace now m

/-! ## Opening -/

/-- Opens a bare registration for frames. -/
def listen (now : Nat) (s : Station) (name : String) (route : Route) :
    Station × Except DispatchError Unit :=
  let (serial, s) := s.takeSerial
  match s.register now route (.record name) with
  | (s', .ok id) => (s'.enroll now name serial (.listener id), .ok ())
  | (s', .error cause) => (s', .error cause)

/-- Opens a bare registration for captures. -/
def monitor (now : Nat) (s : Station) (name : String) (isVirtual : Bool) :
    Station × Except DispatchError Unit :=
  let (serial, s) := s.takeSerial
  match s.request now fun id => .monitor ⟨id, isVirtual, .record name⟩ with
  | (s', .ok id) => (s'.enroll now name serial (.listener id), .ok ())
  | (s', .error cause) => (s', .error cause)

/-- Opens a socket.  One that is only written to needs no registration. -/
def openSocket (now : Nat) (s : Station) (name : String) (kind : SocketKind) (writeOnly : Bool) :
    Station × Except DispatchError Unit :=
  let (serial, s) := s.takeSerial
  if writeOnly then (s.enroll now name serial (.socket (.writeOnly kind)), .ok ())
  else
    match s.register now kind.route (.part serial) with
    | (s', .ok id) => (s'.enroll now name serial (.socket (.readable kind id)), .ok ())
    | (s', .error cause) => (s', .error cause)

/-- Greets the peer of a connection. -/
def greet (s : Station) (peer : IndividualAddress) : Station × Except DispatchError Unit :=
  match Connection.frameTo peer .connect .system with
  | .ok frame => s.send frame
  | .error cause => (s, .error cause)

/-- Opens a connection.  It holds its peer before it greets it. -/
def openConnection (now : Nat) (s : Station) (name : String) (peer : IndividualAddress)
    (config : ConnectionConfig) : Station × Except DispatchError Unit :=
  let (serial, s) := s.takeSerial
  match s.register now (Connection.route peer) (.part serial) with
  | (s', .error cause) => (s', .error cause)
  | (s', .ok id) =>
    match s'.greet peer with
    | (s'', .error cause) => (s''.perform now (.leave id), .error cause)
    | (s'', .ok ()) =>
      (s''.enroll now name serial (.connection (.start config peer id now)), .ok ())

/-- Opens a group cache that is not enabled. -/
def openCache (now : Nat) (s : Station) (name : String) : Station :=
  let (serial, s) := s.takeSerial
  s.enroll now name serial (.cache .start)

/-- Opens a gateway. -/
def openGateway (now : Nat) (s : Station) (name : String) (config : GatewayConfig) :
    Station × Except GatewayError Endpoint :=
  let (serial, s) := s.takeSerial
  match Gateway.bind s.host s.ports config with
  | .error cause => (s, .error cause)
  | .ok gateway =>
    let s := { s with joined := s.joined ++ Gateway.joined s.host config.multicast }
    let routes := if config.usesBus then Gateway.routes else []
    match registerAll now (.part serial) [] routes s with
    | (s', .error cause) => (s', .error (.dispatch cause))
    | (s', .ok ids) =>
      (s'.enroll now name serial (.gateway { gateway with registrations := ids }),
        .ok gateway.localEndpoint)

/-! ## Using a group cache -/

/-- Changes the cache with a serial number. -/
def putCache (s : Station) (serial : Nat) (cache : GroupCache) : Station :=
  s.mapPart serial fun _ => .cache cache

/-- Enables a cache, if it is not. -/
def enable (now : Nat) (s : Station) (serial : Nat) (cache : GroupCache) :
    Station × Except DispatchError Unit :=
  if cache.isEnabled then (s, .ok ())
  else
    match s.register now GroupCache.route (.part serial) with
    | (s', .ok id) => (s'.putCache serial { cache with registration := some id }, .ok ())
    | (s', .error cause) => (s', .error cause)

/-- Disables a cache, if it is enabled. -/
def disable (now : Nat) (s : Station) (serial : Nat) (cache : GroupCache) : Station :=
  match cache.registration with
  | none => s
  | some id => (s.perform now (.leave id)).putCache serial cache.disable

/-- A reader asks a cache for a value. -/
def read (now : Nat) (s : Station) (serial : Nat) (cache : GroupCache) (g : GroupAddress)
    (timeout maxAge reader : Nat) : Station :=
  let (cache', done) := cache.read now g timeout maxAge reader
  performAll now (done.flatMap Part.ofCacheAction) (s.putCache serial cache')

end KnxBus.Station
