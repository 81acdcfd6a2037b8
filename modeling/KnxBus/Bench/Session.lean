import KnxBus.Station.Member

/-!
# A bench for stations

The bench puts a station on a simulated machine and works it by hand.  Time stands still but for
steps that let it pass or that wait.  After each step the station settles; while time passes,
timers fire one deadline after the other, and the station settles after each.  Nothing that is
sent ever comes back by itself.

A step that waits does so until it is answered or until its own time has come.  A reader of a group
cache may also be left waiting under a *tag*; its answer is found later among those that the station
has given.
-/

namespace KnxBus

/-- What is done with a station. -/
inductive SessionStep where
  /-- Registers for frames. -/
  | listen (name : String) (route : Route)
  /-- Registers for captures. -/
  | monitor (name : String) (isVirtual : Bool)
  /-- Opens a socket. -/
  | openSocket (name : String) (kind : SocketKind) (writeOnly : Bool)
  /-- Opens a connection. -/
  | openConnection (name : String) (peer : IndividualAddress) (config : ConnectionConfig)
  /-- Opens a group cache. -/
  | openCache (name : String)
  /-- Opens a gateway. -/
  | openGateway (name : String) (config : GatewayConfig)
  /-- Closes a part. -/
  | close (name : String)
  /-- Time passes. -/
  | advance (ms : Nat)
  /-- Something happens at the socket bound to a port, or to the lowest bound port. -/
  | arrive (port : Option UInt16) (arrival : Arrival)
  /-- From now on the line refuses what has one of these names. -/
  | refuse (names : List String)
  /-- A frame is sent. -/
  | send (frame : Frame)
  /-- Something is heard on a loopback, several times. -/
  | inject (heard : Lpdu) (times : Nat)
  /-- A loopback is lost. -/
  | lose
  /-- The station is stopped. -/
  | stop
  /-- Asks for the state of the station. -/
  | state
  /-- Asks for the state of the station in words. -/
  | describe
  /-- Sends through a socket or a connection. -/
  | put (name : String) (data : Octets) (target : UInt16)
  /-- Takes what a socket or a connection has received, waiting for so long, or without end. -/
  | get (name : String) (patience : Option Nat)
  /-- Enables a cache. -/
  | enable (name : String)
  /-- Disables a cache. -/
  | disable (name : String)
  /-- A cache forgets everything. -/
  | clear (name : String)
  /-- A cache forgets a group. -/
  | remove (name : String) (group : GroupAddress)
  /-- Asks a cache for its entries. -/
  | entries (name : String)
  /-- Asks a cache for a value; waits for it unless there is a tag. -/
  | read (name : String) (group : GroupAddress) (timeout maxAge : Nat) (tag : Option String)
  deriving DecidableEq, Repr

/-- What comes of a step. -/
inductive SessionAnswer where
  /-- It was done. -/
  | done
  /-- An address was given. -/
  | address (raw : UInt16)
  /-- The endpoint of a gateway. -/
  | endpoint (endpoint : Endpoint)
  /-- Whether there was a socket. -/
  | found (yes : Bool)
  /-- The state of the station. -/
  | state (running : Bool) (address : IndividualAddress) (sendQueueEmpty : Bool)
  /-- Words. -/
  | words (text : String)
  /-- What a connection has received. -/
  | octets (data : Octets)
  /-- What a socket has received. -/
  | item (kind : SocketKind) (item : SocketItem)
  /-- Nothing was received. -/
  | nothing
  /-- An entry of a cache, at a time. -/
  | entry (entry : CacheEntry) (time : Nat)
  /-- All entries of a cache. -/
  | entries (entries : List CacheEntry)
  /-- The dispatcher or the medium refused. -/
  | failed (cause : DispatchError)
  /-- A gateway did not start. -/
  | gatewayFailed (cause : GatewayError)
  /-- There is no part of that name and kind. -/
  | noSuchPart
  /-- There is no such step on this medium. -/
  | noSuchStep
  deriving DecidableEq, Repr

namespace SessionAnswer

/-- A result without a value. -/
def ofResult : Except DispatchError Unit → SessionAnswer
  | .ok () => done
  | .error cause => failed cause

/-- A result of which the address is to be shown. -/
def ofOpened (raw : UInt16) : Except DispatchError Unit → SessionAnswer
  | .ok () => address raw
  | .error cause => failed cause

/-- What a station said to a reader. -/
def ofReader : Option ReaderAnswer → SessionAnswer
  | some (.entry e time) => entry e time
  | some (.entries es) => entries es
  | none => nothing

end SessionAnswer

/-- A station on a simulated machine. -/
structure Session where
  /-- The time. -/
  now : Nat
  /-- The station. -/
  station : Station
  /-- Whether the medium can be played by hand. -/
  isManual : Bool
  /-- The number of the next reader. -/
  nextReader : Nat
  /-- The readers with a tag. -/
  tagged : List (Nat × String)
  /-- The longest time that a reader with a tag was ready to wait, if there was one. -/
  longest : Option Nat
  deriving Repr

namespace Session

/-- Another station. -/
def withStation (s : Session) (station : Station) : Session := { s with station := station }

/-! ## Time -/

/-- Lets the station settle. -/
def settle (s : Session) : Session := s.withStation (s.station.settle s.now)

/-- The time of the next deadline, with the station settled. -/
def jump (s : Session) (deadline : Nat) : Session := settle { s with now := deadline }

/-- Lets time pass until the station is ready or the time is `target`. -/
def runUntil (ready : Station → Bool) (target : Nat) (s : Session) : Session :=
  if ready s.station then s
  else
    match s.station.nextDeadline? s.now with
    | none => { s with now := max s.now target }
    | some deadline =>
      if s.now < deadline ∧ deadline ≤ target then runUntil ready target (s.jump deadline)
      else { s with now := max s.now target }
termination_by target - s.now
decreasing_by
  show target - deadline < target - s.now
  omega

/-- Lets time pass until the station is ready, for so many deadlines at most. -/
def runOn (ready : Station → Bool) : Nat → Session → Session
  | 0, s => s
  | jumps + 1, s =>
    if ready s.station then s
    else
      match s.station.nextDeadline? s.now with
      | none => s
      | some deadline => runOn ready jumps (s.jump deadline)

/-- Lets time pass. -/
def advance (ms : Nat) (s : Session) : Session := runUntil (fun _ => false) (s.now + ms) s

/-! ## Receiving -/

/-- Takes what a part has received first, where that makes sense. -/
def takeFrom? : Part → Option (SessionAnswer × Part)
  | .socket s =>
    let (item, s') := s.take
    some (((item.map (.item s.kind)).getD .nothing), .socket s')
  | .connection c =>
    let (data, c') := c.take
    some (((data.map .octets).getD .nothing), .connection c')
  | _ => none

/-- Whether a part has something to be taken, or never will. -/
def canTake : Part → Bool
  | .socket s => s.isEnded || !s.queue.queue.isEmpty
  | .connection c => c.isClosed || !c.delivered.isEmpty
  | _ => true

/-- Whether a member has something to be taken. -/
def memberCanTake (name : String) (station : Station) : Bool :=
  match station.member? name with
  | some m => canTake m.part
  | none => true

/-- Takes what a member has received first. -/
def takeNow (s : Session) (name : String) : Session × SessionAnswer :=
  match s.station.member? name with
  | none => (s, .noSuchPart)
  | some m =>
    match takeFrom? m.part with
    | none => (s, .noSuchPart)
    | some (answer, part) => (s.withStation (s.station.mapPart m.serial fun _ => part), answer)

/-- Takes what a member has received first, waiting for it. -/
def get (s : Session) (name : String) (patience : Option Nat) : Session × SessionAnswer :=
  let waited :=
    match patience with
    | some ms => runUntil (memberCanTake name) (s.now + ms) s
    | none => runOn (memberCanTake name) Station.patience s
  waited.takeNow name

/-! ## Sending -/

/-- Sends through a part. -/
def put (s : Session) (name : String) (data : Octets) (target : UInt16) : Session × SessionAnswer :=
  match s.station.member? name with
  | some ⟨_, _, .socket socket⟩ =>
    match socket.frame data target with
    | .error cause => (s, .failed cause)
    | .ok frame =>
      let (station, result) := s.station.send frame
      (s.withStation station, .ofResult result)
  | some ⟨_, serial, .connection c⟩ =>
    match c.put data with
    | .error cause => (s, .failed cause)
    | .ok c' => (s.withStation (s.station.mapPart serial fun _ => .connection c'), .done)
  | _ => (s, .noSuchPart)

/-! ## Group caches -/

/-- Does something with a cache. -/
def onCache (s : Session) (name : String)
    (use : Nat → GroupCache → Session × SessionAnswer) : Session × SessionAnswer :=
  match s.station.member? name with
  | some ⟨_, serial, .cache cache⟩ => use serial cache
  | _ => (s, .noSuchPart)

/-- Hands an event to a cache. -/
def notify (s : Session) (name : String) (event : CacheEvent) : Session × SessionAnswer :=
  s.onCache name fun serial cache =>
    (s.withStation (s.station.putCache serial (cache.enqueue event)), .done)

/-- Takes a number for a reader. -/
def takeReader (s : Session) : Nat × Session :=
  (s.nextReader, { s with nextReader := s.nextReader + 1 })

/-- What the station has said to a reader. -/
def said (reader : Nat) (station : Station) : Option ReaderAnswer := station.answers.lookup reader

/-- Asks a cache for its entries. -/
def entries (s : Session) (name : String) : Session × SessionAnswer :=
  let (reader, s) := s.takeReader
  match s.notify name (.snapshot reader) with
  | (s', .done) =>
    let settled := s'.settle
    (settled, .ofReader (said reader settled.station))
  | other => other

/-- Remembers a reader with a tag. -/
def tag (s : Session) (reader : Nat) (name : String) (timeout : Nat) : Session :=
  { s with
    tagged := s.tagged ++ [(reader, name)]
    longest := some (max timeout (s.longest.getD 0)) }

/-- Asks a cache for a value. -/
def read (s : Session) (name : String) (g : GroupAddress) (timeout maxAge : Nat)
    (tag : Option String) : Session × SessionAnswer :=
  let (reader, s) := s.takeReader
  s.onCache name fun serial cache =>
    let asked := s.withStation (s.station.read s.now serial cache g timeout maxAge reader)
    match tag with
    | some t => (asked.tag reader t timeout, .done)
    | none =>
      let waited :=
        runUntil (fun station => (said reader station).isSome) (s.now + timeout) asked.settle
      (waited, .ofReader (said reader waited.station))

/-- The readers with a tag that have been answered since the last step, each with its entry and the
time. -/
def answered (s : Session) : List (String × CacheEntry × Nat) :=
  s.station.answers.filterMap fun (reader, answer) =>
    match s.tagged.lookup reader, answer with
    | some t, .entry e time => some (t, e, time)
    | _, _ => none

/-! ## Steps -/

/-- A station as it is afterwards, and a result. -/
def outcome (s : Session) (answer : Except DispatchError Unit → SessionAnswer)
    (r : Station × Except DispatchError Unit) : Session × SessionAnswer :=
  (s.withStation r.1, answer r.2)

/-- The address that opening a socket shows. -/
def openedAnswer : SocketKind → Except DispatchError Unit → SessionAnswer
  | .group g => .ofOpened g.raw
  | .individual peer => .ofOpened peer.raw
  | _ => .ofResult

/-- Opens a gateway. -/
def openGateway (s : Session) (name : String) (config : GatewayConfig) :
    Session × SessionAnswer :=
  match s.station.openGateway s.now name config with
  | (station, .ok endpoint) => (s.withStation station, .endpoint endpoint)
  | (station, .error cause) => (s.withStation station, .gatewayFailed cause)

/-- Closes a part. -/
def close (s : Session) (name : String) : Session × SessionAnswer :=
  match s.station.member? name with
  | none => (s, .noSuchPart)
  | some m => (s.withStation (s.station.closeMember s.now m), .done)

/-- Plays a loopback by hand. -/
def byHand (s : Session) (f : Loopback → Loopback) : Session × SessionAnswer :=
  match s.isManual, s.station.line.medium with
  | true, .loopback l =>
    (s.withStation (s.station.mapMedium fun _ => .loopback (f l)), .done)
  | _, _ => (s, .noSuchStep)

/-- The state of the dispatcher in words. -/
def description (running : Bool) : String :=
  "Layer3Handle \x7b running: " ++ (if running then "true" else "false") ++ ", .. \x7d"

/-- The state of the station. -/
def stateOf (station : Station) : SessionAnswer :=
  .state station.dispatcher.running station.address station.line.medium.sendQueueEmpty

/-- Does a step. -/
def act (s : Session) : SessionStep → Session × SessionAnswer
  | .listen name route => s.outcome .ofResult (s.station.listen s.now name route)
  | .monitor name isVirtual => s.outcome .ofResult (s.station.monitor s.now name isVirtual)
  | .openSocket name kind writeOnly =>
    s.outcome (openedAnswer kind) (s.station.openSocket s.now name kind writeOnly)
  | .openConnection name peer config =>
    s.outcome (.ofOpened peer.raw) (s.station.openConnection s.now name peer config)
  | .openCache name => (s.withStation (s.station.openCache s.now name), .done)
  | .openGateway name config => s.openGateway name config
  | .close name => s.close name
  | .advance ms => (s.advance ms, .done)
  | .arrive port arrival =>
    let (station, found) := s.station.arrive port arrival
    (s.withStation station, .found found)
  | .refuse names =>
    (s.withStation { s.station with line := { s.station.line with refused := names } }, .done)
  | .send frame => s.outcome .ofResult (s.station.send frame)
  | .inject heard times => s.byHand fun l => (List.range times).foldl (fun l _ => l.inject heard) l
  | .lose => s.byHand Loopback.disconnect
  | .stop => (s.withStation s.station.stop, .done)
  | .state => (s, stateOf s.station)
  | .describe => (s, .words (description s.station.dispatcher.running))
  | .put name data target => s.put name data target
  | .get name patience => s.get name patience
  | .enable name =>
    s.onCache name fun serial cache =>
      s.outcome .ofResult (s.station.enable s.now serial cache)
  | .disable name =>
    s.onCache name fun serial cache =>
      (s.withStation (s.station.disable s.now serial cache), .done)
  | .clear name => s.notify name .clear
  | .remove name g => s.notify name (.remove g)
  | .entries name => s.entries name
  | .read name g timeout maxAge tag => s.read name g timeout maxAge tag

/-- Forgets what was recorded. -/
def forget (s : Session) : Session := s.withStation s.station.forget

/-- One step.  What is recorded afterwards is what happened in it. -/
def step (s : Session) (what : SessionStep) : Session × SessionAnswer :=
  let (s', answer) := s.forget.act what
  (s'.settle, answer)

/-! ## Beginning and end -/

/-- Starts a station on a medium. -/
def start (host : Host) (medium : Medium) (joined : List Ipv4) (isManual : Bool)
    (refused : List String) : Except DispatchError Session :=
  match Station.start host medium joined refused with
  | .ok station => .ok (settle ⟨0, station, isManual, 1, [], none⟩)
  | .error cause => .error cause

/-- Closes a part and lets the station settle. -/
def closeAndSettle (s : Session) (name : String) : Session := (s.close name).1.settle

/-- The end: readers with a tag are waited for, parts are closed in the order of their names, the
station is stopped, and the medium is given up. -/
def finish (s : Session) : Session :=
  let fresh := s.forget
  let waited := match s.longest with
    | some ms => fresh.advance ms
    | none => fresh
  let closed := (waited.station.members.map (·.name)).foldl closeAndSettle waited
  let stopped := closed.station.stop
  closed.withStation { stopped with line := stopped.line.emit stopped.line.medium.farewell }

end Session
end KnxBus
