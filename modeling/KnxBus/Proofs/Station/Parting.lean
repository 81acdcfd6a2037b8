import KnxBus.Proofs.Connection.Closing
import KnxBus.Proofs.Station.Subscriptions

/-!
# A connection that has ended holds nobody up

When a connection ends it says farewell and gives up its registration, in this order and in one turn
(`Part.turn_leaves`).  What others see of it afterwards is settled at once.  Who sends through it is
refused, and who reads from it is told what was left and never waits (`Session.get_of_closed`).

The peer that it held is free again.  This is not a matter of the connection alone, since a
registration is given up by an event that waits for the dispatcher.  But who opens a connection is
served after everything that has come before, so he is refused only if somebody holds the peer at
that moment.  By the books of the station (`Station.Kept`) every holder is then either an open
connection or a bare registration (`Station.holder_of_addressLocked`).  Bare registrations belong to
nobody, so the books that leave them out are the right ones here, and nothing has to be assumed of
what is done with the station.
-/

namespace KnxBus

/-! ## How a part says farewell -/

namespace Part

variable {c : Connection} (now : Nat)

/-- What a connection does when it ends. -/
def partingEffects (c : Connection) : List Effect :=
  transmitAll c.farewell ++ [.leave c.registration]

/-- **An open connection that ends in a turn says farewell and leaves**, and does nothing more. -/
theorem turn_leaves (accepts : Frame → Bool) (hopen : c.isClosed = false) :
    ∃ before, (∀ g ∈ before, g.isFarewell = false) ∧
      (connection c).turn accepts now = (connection (c.turn accepts now).1,
        transmitAll before ++ if (c.turn accepts now).1.isClosed then partingEffects c else []) := by
  obtain ⟨before, hbefore, hsent⟩ := c.turn_farewell accepts now hopen
  refine ⟨before, hbefore, ?_⟩
  show (connection (c.turn accepts now).1, transmitAll (c.turn accepts now).2 ++
    if (c.turn accepts now).1.isClosed then [.leave c.registration] else []) = _
  rw [hsent]
  cases (c.turn accepts now).1.isClosed with
  | true => simp [partingEffects, transmitAll]
  | false => simp

/-- How a connection leaves, seen from the station. -/
structure Leaving (c : Connection) : Prop where
  /-- If it ends in a turn, it says farewell and leaves at the end of the turn. -/
  turn_eq : ∀ accepts now, c.isClosed = false →
    ∃ before, (∀ g ∈ before, g.isFarewell = false) ∧
      (connection c).turn accepts now = (connection (c.turn accepts now).1,
        transmitAll before ++ if (c.turn accepts now).1.isClosed then partingEffects c else [])
  /-- If it is closed from outside it does the same, unless it has ended before. -/
  close_eq : ∀ now, (connection c).close now = if c.isClosed then [] else partingEffects c
  /-- Once it has ended it takes no turn. -/
  not_isDue : c.isClosed = true → ∀ now, (connection c).isDue now = false

theorem leaving (c : Connection) : Leaving c where
  turn_eq accepts now hopen := turn_leaves now accepts hopen
  close_eq _ := rfl
  not_isDue hclosed now := by
    rw [isDue, Connection.isDue, hclosed]
    rfl

/-- Only an open connection holds a peer. -/
theorem connection_of_held {p : Part} {h : Nat × Route} (hmem : h ∈ p.holds) {sink : Sink}
    {peer : IndividualAddress} (hheld : (Subscriber.mk h.1 h.2 sink).held? = some peer) :
    ∃ c, p = connection c ∧ c.isClosed = false ∧ c.peer = peer := by
  cases p with
  | listener r => exact absurd hmem List.not_mem_nil
  | socket s =>
    obtain ⟨id, -, rfl⟩ := List.mem_map.1 hmem
    cases hkind : s.kind <;> simp [Subscriber.held?, hkind, SocketKind.route] at hheld
  | connection c =>
    rw [holds] at hmem
    split at hmem
    · exact absurd hmem List.not_mem_nil
    · rename_i hopen
      rw [List.mem_singleton.1 hmem] at hheld
      exact ⟨c, rfl, Bool.eq_false_iff.2 hopen, Option.some.inj hheld⟩
  | cache c =>
    obtain ⟨id, -, rfl⟩ := List.mem_map.1 hmem
    cases hheld
  | gateway g =>
    have hroute : h.2 ∈ Gateway.routes := (List.of_mem_zip hmem).2
    simp only [Gateway.routes, List.mem_cons, List.not_mem_nil, or_false] at hroute
    rcases hroute with hroute | hroute | hroute <;> simp [Subscriber.held?, hroute] at hheld

end Part

/-! ## Who holds a peer -/

/-- A registration is refused as locked only if somebody holds the peer. -/
theorem Registry.held_of_addressLocked {σ : Type} {r : Registry σ} {verdict : Verdict}
    {s : Subscriber σ} (h : (r.subscribe verdict s).result = .error .addressLocked) :
    ∃ u ∈ r.subscribers, ∃ peer, u.held? = some peer ∧ s.held? = some peer := by
  have hafter (c : Command) : (r.addAfter verdict c s).result ≠ .error .addressLocked := by
    unfold addAfter
    split <;> exact fun heq => by cases heq
  unfold subscribe at h
  split at h
  · cases h
  · split at h
    · cases h
    · split at h
      · cases h
      · exact absurd h (hafter _)
    · rename_i source destination lock hroute
      split at h
      · rename_i hlocked
        obtain ⟨u, hu, hheld⟩ := List.mem_filterMap.1 (isHeld_iff.1 hlocked.2)
        refine ⟨u, hu, source, hheld, ?_⟩
        rw [Subscriber.held?, hroute, hlocked.1]
      · split at h
        · cases h
        · exact absurd h (hafter _)

namespace Station

variable {s : Station} {scope : Scope} (now : Nat)

/-- As long as nobody waits to be registered, nobody is registered by dispatching. -/
theorem handleAll_subscribers {pending : List (DispatchEvent Sink)}
    (hquiet : ∀ e ∈ pending, e.number? = none) (s : Station) :
    (handleAll now pending s).dispatcher.registry.subscribers.Sublist
      s.dispatcher.registry.subscribers := by
  induction pending generalizing s with
  | nil => exact List.Sublist.refl _
  | cons e later ih =>
    rw [handleAll]
    split
    · refine (ih (fun e' he' => hquiet e' (List.mem_cons_of_mem e he')) _).trans ?_
      obtain ⟨hdispatcher, -, -⟩ := handle_dispatcher now s e
      rw [hdispatcher]
      cases e with
      | subscribe u => cases hquiet _ List.mem_cons_self
      | monitor m => cases hquiet _ List.mem_cons_self
      | unsubscribe id => exact s.dispatcher.registry.unsubscribe_sublist _ id
      | heard heard => exact List.Sublist.refl _
      | lost => exact List.Sublist.refl _
    · exact List.Sublist.refl _

/-- Somebody holds a peer: an open connection, or a bare registration. -/
inductive HeldBy (s : Station) (peer : IndividualAddress) : Prop where
  /-- An open connection does. -/
  | connection (m : Member) (mem : m ∈ s.members) (c : Connection)
      (part_eq : m.part = .connection c) (isOpen : c.isClosed = false) (peer_eq : c.peer = peer)
  /-- A bare registration does. -/
  | bare (u : Subscriber Sink) (mem : u ∈ s.dispatcher.registry.subscribers) (label : String)
      (sink_eq : u.sink = .record label) (held : u.held? = some peer)

/-- Who is refused as locked was refused by the registry, after everything that had come before. -/
theorem held_of_register {peer : IndividualAddress} {sink : Sink}
    (h : (s.register now (Connection.route peer) sink).2 = .error .addressLocked) :
    (s.dispatch now).dispatcher.running = true ∧
      ∃ u ∈ (s.dispatch now).dispatcher.registry.subscribers, u.held? = some peer := by
  obtain ⟨ended, eq⟩ | ⟨running, dispatcher_eq, nextSerial_eq, seats_eq, result_eq⟩ :=
    request_cases now s fun id => .subscribe ⟨id, Connection.route peer, sink⟩
  · have hresult := congrArg Prod.snd eq
    cases h.symm.trans hresult
  · have hrefused : ((s.dispatch now).dispatcher.registry.subscribe (s.dispatch now).line.verdict
        ⟨(s.dispatch now).dispatcher.nextId, Connection.route peer, sink⟩).result =
          .error .addressLocked := by
      revert result_eq
      rw [show (s.request now fun id => .subscribe ⟨id, Connection.route peer, sink⟩).2 =
        .error .addressLocked from h]
      show _ = Except.map _ (Registry.subscribe _ (s.dispatch now).dispatcher.registry _).result → _
      cases (Registry.subscribe (s.dispatch now).line.verdict (s.dispatch now).dispatcher.registry
        ⟨(s.dispatch now).dispatcher.nextId, Connection.route peer, sink⟩).result with
      | ok _ => exact fun heq => by cases heq
      | error cause => exact fun heq => by cases heq; rfl
    obtain ⟨u, hu, other, hheld, hsame⟩ := Registry.held_of_addressLocked hrefused
    cases hsame
    exact ⟨running, u, hu, hheld⟩

/-- To greet a peer needs no registration. -/
theorem greet_ne_addressLocked (s : Station) (peer : IndividualAddress) :
    (s.greet peer).2 ≠ .error .addressLocked := by
  unfold greet
  split
  · show s.verdict _ ≠ _
    unfold verdict
    split
    · exact fun heq => by cases heq
    · split <;> exact fun heq => by cases heq
  · rename_i cause hframe
    unfold Connection.frameTo at hframe
    split at hframe <;> cases hframe
    exact fun heq => by cases heq

/-- **Who cannot open a connection because the peer is locked finds somebody who holds it**, an open
connection or a bare registration. -/
theorem holder_of_addressLocked (hkept : s.Kept .parts) {name : String} {peer : IndividualAddress}
    {config : ConnectionConfig}
    (h : (s.openConnection now name peer config).2 = .error .addressLocked) : s.HeldBy peer := by
  have hregister : (s.takeSerial.2.register now (Connection.route peer)
      (.part s.takeSerial.1)).2 = .error .addressLocked := by
    unfold openConnection at h
    simp only at h
    split at h
    · rename_i s' cause hregister
      rw [hregister]
      cases h
      rfl
    · split at h
      · rename_i s'' cause hgreet
        cases h
        exact absurd (congrArg Prod.snd hgreet) (greet_ne_addressLocked _ peer)
      · cases h
  obtain ⟨hrun, u, hu, hheld⟩ := held_of_register now hregister
  have hrun' : s.dispatcher.running = true := dispatch_running now s.takeSerial.2 hrun
  obtain ⟨-, hbooks⟩ := hkept hrun'
  have hready : (s.takeSerial.2.dispatch now).Keeps .parts (s.nextSerial + 1) s.seats [] :=
    Keeps.dispatch now ⟨rfl, fun _ => rfl, fun _ => hbooks⟩
  cases hsink : u.sink with
  | record label =>
    refine .bare u ?_ label hsink hheld
    exact (handleAll_subscribers now hbooks.quiet
      { s.takeSerial.2 with dispatcher := s.dispatcher.withEvents [] }).subset hu
  | part serial =>
    -- The subscriptions of parts are those that the members hold, now that nothing waits.
    have hstaying := (hready.books hrun).staying_perm
    rw [Dispatcher.counted_of_nil (dispatch_events now _), List.append_nil] at hstaying
    have howed : u ∈ owed s.seats := by
      refine hstaying.mem_iff.1 (List.mem_filter.2 ⟨hu, ?_⟩)
      rw [hsink]
      rfl
    obtain ⟨x, hx, hux⟩ := List.mem_flatMap.1 howed
    obtain ⟨m, hm, rfl⟩ := List.mem_map.1 hx
    obtain ⟨hold, hhold, rfl⟩ := List.mem_map.1 hux
    obtain ⟨c, hpart, hopen, hpeer⟩ := Part.connection_of_held hhold hheld
    exact .connection m hm c hpart hopen hpeer

end Station

namespace Session

variable {s : Session} {name : String} {m : Member} {c : Connection}

/-! ## What others see of a connection that has ended -/

/-- Who sends through a connection that has ended is refused, and nothing happens. -/
theorem put_of_closed (hmember : s.station.member? name = some m) (hpart : m.part = .connection c)
    (hclosed : c.isClosed = true) (data : Octets) (target : UInt16) :
    s.put name data target = (s, .failed .connectionClosed) := by
  obtain ⟨_, serial, _⟩ := m
  cases hpart
  rw [put, hmember]
  simp only [Connection.put, hclosed, if_true]

/-- Who reads from it does not wait. -/
theorem get_eq_takeNow (hready : memberCanTake name s.station = true) (patience : Option Nat) :
    s.get name patience = s.takeNow name := by
  have hon : runOn (memberCanTake name) Station.patience s = s := by
    rw [show Station.patience = 99999 + 1 from rfl, runOn, hready, if_pos rfl]
  have huntil (target : Nat) : runUntil (memberCanTake name) target s = s := by
    rw [runUntil, hready, if_pos rfl]
  cases patience with
  | none => rw [get, hon]
  | some ms => rw [get, huntil]

/-- **Who reads from a connection that has ended is told at once** what was delivered first and has
not been read, or that there is nothing.  What is told is gone, and the rest stays. -/
theorem get_of_closed (hmember : s.station.member? name = some m) (hpart : m.part = .connection c)
    (hclosed : c.isClosed = true) (patience : Option Nat) :
    s.get name patience =
      (s.withStation (s.station.mapPart m.serial fun _ =>
          .connection { c with delivered := c.delivered.drop 1 }),
        ((c.delivered.head?.map .octets).getD .nothing)) := by
  have hready : memberCanTake name s.station = true := by
    rw [memberCanTake, hmember]
    simp only [hpart, canTake, hclosed, Bool.true_or]
  rw [get_eq_takeNow hready, takeNow, hmember]
  simp only [hpart, takeFrom?, Connection.take_eq]

/-- What others see of connections that have ended. -/
structure Parted (s : Session) : Prop where
  /-- Who sends is refused. -/
  put_eq : ∀ {name : String} {m : Member} {c : Connection},
    s.station.member? name = some m → m.part = .connection c → c.isClosed = true →
      ∀ data target, s.put name data target = (s, .failed .connectionClosed)
  /-- Who reads is told at once what is left, or that there is nothing. -/
  get_eq : ∀ {name : String} {m : Member} {c : Connection},
    s.station.member? name = some m → m.part = .connection c → c.isClosed = true →
      ∀ patience, s.get name patience =
        (s.withStation (s.station.mapPart m.serial fun _ =>
            .connection { c with delivered := c.delivered.drop 1 }),
          ((c.delivered.head?.map .octets).getD .nothing))
  /-- Who opens another one is refused as locked only if somebody holds the peer, and nobody who has
  ended does. -/
  heldBy : ∀ {name : String} {peer : IndividualAddress} {config : ConnectionConfig},
    (s.act (.openConnection name peer config)).2 = .failed .addressLocked → s.station.HeldBy peer

theorem Kept.parted (h : s.Kept .parts) : s.Parted where
  put_eq := put_of_closed
  get_eq := get_of_closed
  heldBy {name peer config} hrefused := by
    have hlocked : (s.station.openConnection s.now name peer config).2 =
        .error .addressLocked := by
      revert hrefused
      show SessionAnswer.ofOpened peer.raw (s.station.openConnection s.now name peer config).2 = _ →
        _
      cases (s.station.openConnection s.now name peer config).2 with
      | ok _ => exact fun heq => by cases heq
      | error cause => exact fun heq => by cases heq; rfl
    exact Station.holder_of_addressLocked s.now h hlocked

/-- **The end of a connection is final and complete.**  Whatever happens to a connection, it says
farewell once if it ends, and is over afterwards; until then it says no farewell.  It gives up its
registration in the turn in which it ends, behind the farewell.  And whatever is done with a station,
who uses a connection that has ended is refused or answered at once, and it does not keep its peer
from others. -/
theorem connection_ending_final {host : Host} {medium : Medium} {joined : List Ipv4}
    {isManual : Bool} {refused : List String} {opened : Session}
    (hstart : start host medium joined isManual refused = .ok opened) (moves : List Move) :
    (∀ config peer registration now events,
      (Chronicle.run events (.start (.start config peer registration now))).1.Ending
        (Chronicle.run events (.start (.start config peer registration now))).2) ∧
    (∀ c, Part.Leaving c) ∧ (opened.work moves).Parted := by
  have hkept : (opened.work moves).Kept .parts := (start_kept hstart).work fun h => nomatch h
  refine ⟨fun config peer registration now events => ?_, Part.leaving, hkept.parted⟩
  exact Chronicle.run_ending rfl events

/-! ## A parting -/

/-- A frame from the device that is visited. -/
def fromVisited (payload : Octets) : Frame :=
  { Frame.addressed (.individual .unset) payload with source := visited }

/-- A connection to a device is opened.  The device sends a unit and ends the connection. -/
def parting : List Move :=
  [.act (.openConnection "c" visited .usual), .settle,
    .act (.inject (.data (fromVisited [0x43, 0x00])) 1),
    .act (.inject (.data (fromVisited [0x81])) 1), .settle]

/-- What the connection has then heard and done. -/
def partingEvents : List Chronicle.Event :=
  [.hear (fromVisited [0x43, 0x00]), .hear (fromVisited [0x81]),
    .act (.look (fun _ => true) 0), .act (.look (fun _ => true) 0)]

theorem connection_ending_final_parting :
    ∃ opened m c, start ⟨⟨10, 0, 0, 1⟩, [], []⟩ (.loopback (.ofAddress ⟨0x1101⟩)) [] true [] =
        .ok opened ∧
      (opened.work parting).station.member? "c" = some m ∧ m.part = .connection c ∧
      c.isClosed = true ∧ c.delivered = [[0x03, 0x00]] ∧
      (opened.work parting).Parted ∧
      ((opened.work parting).act (.openConnection "d" visited .usual)).2 =
        .address visited.raw ∧
      (Chronicle.run partingEvents (.start (.start .usual visited 1 0))).1.connection.isClosed =
        true ∧
      (Chronicle.run partingEvents (.start (.start .usual visited 1 0))).1.Ending
        (Chronicle.run partingEvents (.start (.start .usual visited 1 0))).2 := by
  have hstart : start ⟨⟨10, 0, 0, 1⟩, [], []⟩ (.loopback (.ofAddress ⟨0x1101⟩)) [] true [] =
      .ok _ := rfl
  have hfinal := connection_ending_final hstart parting
  exact ⟨_, _, _, hstart, rfl, rfl, by decide +kernel, by decide +kernel, hfinal.2.2,
    by decide +kernel, by decide +kernel, hfinal.1 .usual visited 1 0 partingEvents⟩

end Session
end KnxBus
