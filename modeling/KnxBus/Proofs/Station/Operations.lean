import KnxBus.Proofs.Station.Keeping

/-!
# Every operation keeps the books

A station can be told to open a part, to close one, to enable or disable a group cache, and it goes
on by itself: it takes in what has come, lets its dispatcher handle it and gives turns to its
members.  Each of these is put together from pieces that keep the books right, and so keeps them
right itself, whichever way it ends.

## Openings that fail half-way

An opening draws a serial number and then registers, once or several times.  What has been granted
so far is extra, under the serial number of a member that is not there yet.  If everything goes well
the part sits down with it.  But a connection may not be able to greet its peer, and a gateway may
get only some of its three registrations.  Then all that is extra is given up, and the books are
those of a station at which nothing has happened.
-/

namespace KnxBus
namespace Station

variable {s s' : Station} {scope : Scope} {next : Nat} {seats : List Seat}
  {extra : List (Subscriber Sink)} (now : Nat)

/-! ## Opening -/

/-- A serial number is drawn for a member that is not there yet. -/
theorem Keeps.takeSerial (h : s.Keeps scope s.nextSerial seats extra) :
    s.takeSerial.2.Keeps scope (s.nextSerial + 1) seats extra :=
  ⟨rfl, h.seats_eq, h.books⟩

/-- Extra registrations are given up. -/
theorem Keeps.leaveAll (h : s.Keeps scope next seats extra) :
    (performAll now ((extra.map (·.id)).map .leave) s).Keeps scope next seats [] := by
  obtain ⟨hmembers, hnext, hrunning⟩ :=
    performAll_members now ((extra.map (·.id)).map .leave) s
  refine ⟨hnext.trans h.nextSerial_eq, fun hrun => ?_, fun hrun => ?_⟩
  · exact (congrArg (List.map Member.seat) hmembers).trans (h.seats_eq (hrunning ▸ hrun))
  · have hbooks := h.books (hrunning ▸ hrun)
    refine performAll_gives_up now hbooks (hrunning ▸ hrun) ?_ ?_
    · rw [leavesOf_leaves]
      exact fun u hu => List.mem_map_of_mem hu
    · rw [leavesOf_leaves]
      exact fun id hid => hbooks.ne_of_mem_extra hid

theorem Kept.openSocket (h : s.Kept scope) (name : String) (kind : SocketKind) (writeOnly : Bool) :
    (s.openSocket now name kind writeOnly).1.Kept scope := by
  obtain ⟨seats, hroll, hkeeps⟩ := h.keeps
  have hready := hkeeps.takeSerial
  have hasked := hready.register now kind.route s.takeSerial.1
  unfold Station.openSocket
  simp only
  split
  · exact hready.enroll now hroll rfl (fun _ _ hn => by cases hn) name
  · split
    · rename_i s' id hregister
      rw [hregister] at hasked
      exact (hasked.1 id rfl).enroll now hroll rfl (fun _ _ hn => by cases hn) name
    · rename_i s' cause hregister
      rw [hregister] at hasked
      exact (hasked.2 cause rfl).kept hroll.succ

/-- **A bare registration for frames does not concern the books** if they leave such registrations
out. -/
theorem Kept.listen (h : s.Kept .parts) (name : String) (route : Route) :
    (s.listen now name route).1.Kept .parts := by
  obtain ⟨seats, hroll, hkeeps⟩ := h.keeps
  have hready := hkeeps.takeSerial.dispatch now
  have hasked := hkeeps.takeSerial.registered now route (.record name)
  have hcases := register_cases now s.takeSerial.2 route (.record name)
  unfold Station.listen
  simp only
  split
  · rename_i s' id hregister
    rw [hregister] at hasked hcases
    have hnone : ([(⟨id, route, .record name⟩ : Subscriber Sink)].filter
        fun u => Scope.parts.counts u.sink) = [] := rfl
    have hkept := hasked.1 id rfl
    rw [hnone, List.append_nil] at hkept
    refine hkept.enroll now hroll rfl (fun hrun n hn => ?_) name
    cases hn
    have hrunning := register_running now s.takeSerial.2 route (.record name)
    rw [hregister] at hrunning
    have hbooks := hready.books (hrunning ▸ hrun)
    cases hcases with
    | stopped ended eq => cases eq
    | refused cause result_eq _ _ _ => cases result_eq
    | granted result_eq dispatcher_eq _ _ =>
      cases result_eq
      simp only at dispatcher_eq
      rw [dispatcher_eq]
      refine ⟨Nat.lt_succ_self _, fun u hu hcounts => ?_⟩
      obtain hold | hnew := List.mem_append.1 hu
      · exact Nat.ne_of_lt (hbooks.numbered.lt_nextId u hold)
      · rw [List.mem_singleton.1 hnew] at hcounts
        cases hcounts
  · rename_i s' cause hregister
    rw [hregister] at hasked
    exact (hasked.2 cause rfl).kept hroll.succ

theorem Kept.openCache (h : s.Kept scope) (name : String) : (s.openCache now name).Kept scope := by
  obtain ⟨seats, hroll, hkeeps⟩ := h.keeps
  exact hkeeps.takeSerial.enroll now hroll rfl (fun _ _ hn => by cases hn) name

/-- Sending is a matter of the line. -/
theorem transmit_members (s : Station) (frame : Frame) :
    (s.transmit frame).dispatcher = s.dispatcher ∧ (s.transmit frame).members = s.members ∧
      (s.transmit frame).nextSerial = s.nextSerial := by
  unfold transmit
  split <;> exact ⟨rfl, rfl, rfl⟩

/-- To greet a peer is to send, or to fail. -/
theorem greet_members (s : Station) (peer : IndividualAddress) :
    (s.greet peer).1.dispatcher = s.dispatcher ∧ (s.greet peer).1.members = s.members ∧
      (s.greet peer).1.nextSerial = s.nextSerial := by
  unfold greet
  split
  · exact transmit_members s _
  · exact ⟨rfl, rfl, rfl⟩

theorem Keeps.greet (h : s.Keeps scope next seats extra) (peer : IndividualAddress) :
    (s.greet peer).1.Keeps scope next seats extra := by
  obtain ⟨hdispatcher, hmembers, hnext⟩ := greet_members s peer
  exact h.congr hdispatcher (congrArg (List.map Member.seat) hmembers) hnext

/-- **A connection that cannot greet its peer gives up its registration.** -/
theorem Kept.openConnection (h : s.Kept scope) (name : String) (peer : IndividualAddress)
    (config : ConnectionConfig) : (s.openConnection now name peer config).1.Kept scope := by
  obtain ⟨seats, hroll, hkeeps⟩ := h.keeps
  have hasked := hkeeps.takeSerial.register now (Connection.route peer) s.takeSerial.1
  unfold Station.openConnection
  simp only
  split
  · rename_i s' cause hregister
    rw [hregister] at hasked
    exact (hasked.2 cause rfl).kept hroll.succ
  · rename_i s' id hregister
    rw [hregister] at hasked
    have hgreeted := (hasked.1 id rfl).greet peer
    split
    · rename_i s'' cause hgreet
      rw [hgreet] at hgreeted
      exact (hgreeted.leaveAll now).kept hroll.succ
    · rename_i s'' hgreet
      rw [hgreet] at hgreeted
      exact hgreeted.enroll now hroll rfl (fun _ _ hn => by cases hn) name

/-- **Of several registrations all are granted or none is left.** -/
theorem Keeps.registerAll (serial : Nat) (routes : List Route) (held : List Nat)
    (h : s.Keeps scope next seats extra) (hheld : extra.map (·.id) = held) :
    (∀ ids, (s.registerAll now (.part serial) held routes).2 = .ok ids →
        ∃ new, ids = held ++ new ∧ new.length = routes.length ∧
          (s.registerAll now (.part serial) held routes).1.Keeps scope next seats
            (extra ++ (new.zip routes).map fun x => ⟨x.1, x.2, .part serial⟩)) ∧
      ∀ cause, (s.registerAll now (.part serial) held routes).2 = .error cause →
        (s.registerAll now (.part serial) held routes).1.Keeps scope next seats [] := by
  induction routes generalizing s held extra with
  | nil =>
    refine ⟨fun ids hids => ?_, fun cause hcause => ?_⟩
    · cases hids
      exact ⟨[], (List.append_nil held).symm, rfl, (List.append_nil extra).symm ▸ h⟩
    · cases hcause
  | cons route rest ih =>
    have hasked := h.register now route serial
    unfold Station.registerAll
    split
    · rename_i s' id hregister
      rw [hregister] at hasked
      have hheld' : (extra ++ [Subscriber.mk id route (Sink.part serial)]).map Subscriber.id = held ++ [id] := by
        rw [List.map_append, hheld]
        rfl
      obtain ⟨hok, herror⟩ := ih (held ++ [id]) (hasked.1 id rfl) hheld'
      refine ⟨fun ids hids => ?_, herror⟩
      obtain ⟨new, hnew, hlength, hkeeps⟩ := hok ids hids
      refine ⟨id :: new, ?_, congrArg (· + 1) hlength, ?_⟩
      · rw [hnew, List.append_assoc]
        rfl
      · rw [List.append_assoc] at hkeeps
        exact hkeeps
    · rename_i s' cause hregister
      rw [hregister] at hasked
      refine ⟨fun ids hids => ?_, fun _ _ => ?_⟩
      · cases hids
      · rw [← hheld]
        exact (hasked.2 cause rfl).leaveAll now

/-- **A gateway gets the registrations that it needs, or it leaves none.** -/
theorem Kept.openGateway (h : s.Kept scope) (name : String) (config : GatewayConfig) :
    (s.openGateway now name config).1.Kept scope := by
  obtain ⟨seats, hroll, hkeeps⟩ := h.keeps
  have hready := hkeeps.takeSerial
  unfold Station.openGateway
  simp only
  split
  · exact hready.kept hroll.succ
  · rename_i gateway hbind
    obtain ⟨-, -, hconfig, hstopping, hended⟩ := Gateway.channels_of_bind hbind
    have hjoined (groups : List Ipv4) : ({ s.takeSerial.2 with joined := groups } : Station).Keeps scope
        (s.nextSerial + 1) seats [] := hready.congr rfl rfl rfl
    obtain ⟨hok, herror⟩ := (hjoined (s.takeSerial.2.joined ++
      Gateway.joined s.takeSerial.2.host config.multicast)).registerAll now s.takeSerial.1
        (if config.usesBus then Gateway.routes else []) [] rfl
    split
    · rename_i s' cause hregister
      rw [hregister] at herror
      exact (herror cause rfl).kept hroll.succ
    · rename_i s' ids hregister
      rw [hregister] at hok
      obtain ⟨new, hnew, hlength, hgranted⟩ := hok ids rfl
      rw [List.nil_append] at hnew
      rw [hnew]
      have hlength' : new.length = if config.usesBus then Gateway.routes.length else 0 := by
        rw [hlength]
        split <;> rfl
      have hzip : new.zip (if config.usesBus then Gateway.routes else []) =
          new.zip Gateway.routes := by
        cases hbus : config.usesBus with
        | true => rfl
        | false =>
          rw [hbus] at hlength'
          rw [List.length_eq_zero_iff.1 hlength']
          rfl
      rw [hzip] at hgranted
      refine hgranted.enroll now hroll ?_ (fun _ _ hn => by cases hn) name
      simp [Part.isSound, hstopping, hended, hconfig, hlength']

/-! ## Monitoring -/

/-- A monitor has a number of its own, and there is no subscription under it. -/
theorem Kept.monitor (h : s.Kept scope) (name : String) (isVirtual : Bool) :
    (s.monitor now name isVirtual).1.Kept scope := by
  obtain ⟨seats, hroll, hkeeps⟩ := h.keeps
  have hready := hkeeps.takeSerial.dispatch now
  have hasked := request_cases now s.takeSerial.2 fun id => .monitor ⟨id, isVirtual, .record name⟩
  unfold Station.monitor
  simp only
  generalize s.takeSerial.2.dispatch now = ready at hready hasked
  generalize (s.takeSerial.2.request now fun id => .monitor ⟨id, isVirtual, .record name⟩) = done
    at hasked
  obtain ⟨s', result⟩ := done
  cases hasked with
  | stopped ended eq =>
    cases eq
    exact hready.kept hroll.succ
  | answered running dispatcher_eq nextSerial_eq seats_eq result_eq =>
    simp only [Dispatcher.handle] at dispatcher_eq nextSerial_eq seats_eq result_eq
    have hkeeps' : s'.Keeps scope (s.nextSerial + 1) seats [] := by
      refine ⟨nextSerial_eq.trans hready.nextSerial_eq, fun hrun => ?_, fun _ => ?_⟩
      · exact (seats_eq hrun).trans (hready.seats_eq running)
      · rw [dispatcher_eq]
        exact (hready.books running).monitor _ _
    cases result with
    | error cause => exact hkeeps'.kept hroll.succ
    | ok id =>
      refine hkeeps'.enroll now hroll rfl (fun hrun n hn => ?_) name
      have hid : id = ready.dispatcher.nextId := by
        revert result_eq
        cases (ready.dispatcher.takeId.2.registry.monitor ready.line.verdict
          ⟨ready.dispatcher.nextId, isVirtual, .record name⟩).result with
        | error cause => exact fun heq => by cases heq
        | ok _ => exact fun heq => by cases heq; rfl
      cases hn
      rw [dispatcher_eq, hid]
      refine ⟨Nat.lt_succ_self _, fun u hu _ => Nat.ne_of_lt ?_⟩
      have hsame := ready.dispatcher.registry.monitor_subscribers ready.line.verdict
        ⟨ready.dispatcher.nextId, isVirtual, .record name⟩
      exact (hready.books running).numbered.lt_nextId u (hsame ▸ hu)

/-! ## Members that change -/

/-- A member that holds what it held. -/
theorem Kept.keepHold (h : s.Kept scope) {m : Member} (hm : m ∈ s.members) {p : Part}
    (hstance : p.stance = m.part.stance) : (s.mapPart m.serial fun _ => p).Kept scope := by
  intro hrun
  obtain ⟨hroll, hbooks⟩ := h hrun
  obtain ⟨before, after, hsplit⟩ := exists_seats_split hm
  have hseats : (s.mapPart m.serial fun _ => p).seats = s.seats := by
    refine (seats_mapPart_const hroll hsplit p).trans ?_
    rw [hsplit, hstance]
    rfl
  rw [hseats]
  exact ⟨hroll, hbooks⟩

/-- **A member lets go of what it holds and gives it up.** -/
theorem Kept.letGo (h : s.Kept scope) {m : Member} (hm : m ∈ s.members) {p : Part}
    {effects : List Effect} (hstance : p.stance = { m.part.stance with holds := [] })
    (hleaves : leavesOf effects = m.part.holds.map Prod.fst) :
    (Station.performAll now effects (s.mapPart m.serial fun _ => p)).Kept scope := by
  obtain ⟨hmembers, hnext, hrunning⟩ :=
    performAll_members now effects (s.mapPart m.serial fun _ => p)
  intro hrun
  have hrun' : s.dispatcher.running = true := hrunning ▸ hrun
  obtain ⟨hroll, hbooks⟩ := h hrun'
  obtain ⟨before, after, hsplit⟩ := exists_seats_split hm
  have hmapped : (s.mapPart m.serial fun _ => p).seats =
      before ++ ⟨m.serial, p.stance⟩ :: after := seats_mapPart_const hroll hsplit p
  have hseats : (Station.performAll now effects (s.mapPart m.serial fun _ => p)).seats =
      before ++ ⟨m.serial, p.stance⟩ :: after :=
    (congrArg (List.map Member.seat) hmembers).trans hmapped
  have hserial : (Station.performAll now effects (s.mapPart m.serial fun _ => p)).nextSerial =
      s.nextSerial := hnext
  rw [hseats, hserial]
  rw [hsplit] at hroll hbooks
  have hmember : m.seat ∈ before ++ m.seat :: after :=
    List.mem_append_right before List.mem_cons_self
  have hnothing : (Seat.mk m.serial p.stance).subscribers = [] := by
    rw [Seat.subscribers, hstance]
    rfl
  have hrisen : Books scope (before ++ after)
      ((Seat.mk m.serial p.stance).subscribers ++ m.seat.subscribers) s.dispatcher := by
    rw [hnothing, List.nil_append, ← List.append_nil m.seat.subscribers]
    exact hbooks.rise
  have hlistener : p.stance.listener? = m.part.listener? := congrArg Part.Stance.listener? hstance
  have hsat := hrisen.sit fun n hn => hbooks.apart m.seat hmember n (hlistener.symm.trans hn)
  refine ⟨hroll.change rfl ?_, performAll_gives_up now hsat hrun' ?_ ?_⟩
  · show p.stance.isSound = true
    rw [hstance]
    exact hroll.sound m.seat hmember
  · rw [hleaves]
    exact fun u hu => m.seat.ids_subscribers ▸ List.mem_map_of_mem hu
  · rw [hleaves]
    exact fun id hid => hsat.ne_of_mem_extra (m.seat.ids_subscribers ▸ hid)

/-! ## Group caches -/

/-- A cache takes up the registration that it has asked for. -/
theorem Keeps.takeUp {id : Nat} {m : Member} {cache : GroupCache}
    (h : s'.Keeps scope next s.seats [⟨id, GroupCache.route, .part m.serial⟩]) (hm : m ∈ s.members)
    (hcache : m.part = .cache cache) (hnone : cache.registration = none)
    (hroll : Roll next s.seats) :
    (s'.putCache m.serial { cache with registration := some id }).Kept scope := by
  intro hrun
  obtain ⟨before, after, hsplit⟩ := exists_seats_split hm
  have hseats : s'.seats = before ++ m.seat :: after := (h.seats_eq hrun).trans hsplit
  have hbooks := h.books hrun
  rw [hsplit] at hroll hbooks
  have hroll' : Roll s'.nextSerial s'.seats := by
    rw [h.nextSerial_eq, hseats]
    exact hroll
  have hput : (s'.putCache m.serial { cache with registration := some id }).seats =
      before ++ ⟨m.serial, Part.stance (.cache { cache with registration := some id })⟩ :: after :=
    seats_mapPart_const hroll' hseats _
  have hnothing : m.seat.subscribers = [] := by
    rw [Seat.subscribers, Member.seat, hcache, Part.stance, Part.holds, hnone]
    rfl
  have hrisen := hbooks.rise
  rw [hnothing] at hrisen
  rw [hput]
  refine ⟨?_, hrisen.sit fun n hn => by cases hn⟩
  show Roll s'.nextSerial _
  rw [h.nextSerial_eq]
  exact hroll.change rfl rfl

/-- A cache that is enabled holds the registration that it has asked for. -/
theorem Kept.enable (h : s.Kept scope) {m : Member} (hm : m ∈ s.members) {cache : GroupCache}
    (hcache : m.part = .cache cache) : (s.enable now m.serial cache).1.Kept scope := by
  unfold Station.enable
  split
  · exact h
  · rename_i hdisabled
    have hnone : cache.registration = none := by
      rw [← Option.not_isSome_iff_eq_none]
      exact hdisabled
    by_cases hrun : s.dispatcher.running = true
    · obtain ⟨hroll, hbooks⟩ := h hrun
      have hkeeps : s.Keeps scope s.nextSerial s.seats [] := ⟨rfl, fun _ => rfl, fun _ => hbooks⟩
      have hasked := hkeeps.register now GroupCache.route m.serial
      split
      · rename_i s' id hregister
        rw [hregister] at hasked
        exact (hasked.1 id rfl).takeUp hm hcache hnone hroll
      · rename_i s' cause hregister
        rw [hregister] at hasked
        exact (hasked.2 cause rfl).kept hroll
    · have hended : (s.register now GroupCache.route (.part m.serial)).1.dispatcher.running ≠
          true := fun hrun' => hrun (dispatch_running now s (register_running now s _ _ ▸ hrun'))
      split
      · rename_i s' id hregister
        rw [hregister] at hended
        exact fun hrun' => absurd hrun' hended
      · rename_i s' cause hregister
        rw [hregister] at hended
        exact fun hrun' => absurd hrun' hended

theorem Kept.disable (h : s.Kept scope) {m : Member} (hm : m ∈ s.members) {cache : GroupCache}
    (hcache : m.part = .cache cache) : (s.disable now m.serial cache).Kept scope := by
  unfold Station.disable
  split
  · exact h
  · rename_i id hid
    have hholds : m.part.holds.map Prod.fst = [id] := by
      rw [hcache, Part.holds, hid]
      rfl
    show (Station.performAll now [.leave id]
      (s.mapPart m.serial fun _ => .cache cache.disable)).Kept scope
    refine h.letGo now hm ?_ hholds.symm
    rw [hcache]
    rfl

theorem Kept.read (h : s.Kept scope) {m : Member} (hm : m ∈ s.members) {cache : GroupCache}
    (hcache : m.part = .cache cache) (g : GroupAddress) (timeout maxAge reader : Nat) :
    (s.read now m.serial cache g timeout maxAge reader).Kept scope := by
  refine (h.keepHold hm (p := .cache (cache.read now g timeout maxAge reader).1) ?_).performAll now
    (Part.leavesOf_cacheActions _)
  rw [hcache]
  unfold GroupCache.read
  split <;> rfl

/-! ## What comes from outside -/

theorem Kept.pump (h : s.Kept scope) : (s.pump now).Kept scope := h.congr rfl (pump_seats now s) rfl

/-- What the medium has received, and its loss, registers nobody and lets nobody leave. -/
theorem Kept.receive (h : s.Kept scope) : s.receive.Kept scope := by
  unfold Station.receive
  split
  · exact h
  · intro hrun
    obtain ⟨hroll, hbooks⟩ := h hrun
    have hkinds : ∀ e : DispatchEvent Sink,
        e ∈ s.line.medium.takeAll.1.map .heard ++
          (if s.line.medium.takeAll.2.isLost then [.lost] else []) →
        e.number? = none ∧ e.leaver? = none := by
      intro e he
      obtain hheard | hlost := List.mem_append.1 he
      · obtain ⟨heard, -, rfl⟩ := List.mem_map.1 hheard
        exact ⟨rfl, rfl⟩
      · split at hlost
        · rw [List.mem_singleton.1 hlost]
          exact ⟨rfl, rfl⟩
        · exact absurd hlost List.not_mem_nil
    exact ⟨hroll, hbooks.hear (fun e he => (hkinds e he).1) fun e he => (hkinds e he).2⟩

theorem Kept.absorb (h : s.Kept scope) : (s.absorb now).Kept scope := ((h.pump now).receive).dispatch now

theorem Kept.arrive (h : s.Kept scope) (port : Option UInt16) (a : Arrival) :
    (s.arrive port a).1.Kept scope := by
  unfold Station.arrive
  split
  · exact h.congr rfl (arriveAt_seats s _ a) rfl
  · exact h

theorem Kept.send (h : s.Kept scope) (frame : Frame) : (s.send frame).1.Kept scope := by
  obtain ⟨hdispatcher, hmembers, hnext⟩ := transmit_members s frame
  exact h.congr hdispatcher (congrArg (List.map Member.seat) hmembers) hnext

/-- Once the station has been stopped, there are no books to keep. -/
theorem Kept.stop (h : s.Kept scope) : s.stop.Kept scope := by
  unfold Station.stop
  split
  · exact h
  · exact fun hrun => Bool.noConfusion hrun

/-! ## Rounds -/

/-- **A member that takes a turn gives up what it lets go of.** -/
theorem Kept.turnPart (h : s.Kept scope) (serial : Nat) : (s.turnPart now serial).Kept scope := by
  unfold Station.turnPart
  split
  · exact h
  · rename_i m hfind
    have hm : m ∈ s.members := List.mem_of_find?_eq_some hfind
    have hserial : m.serial = serial := by
      have hfound := List.find?_some hfind
      exact beq_iff_eq.1 hfound
    split
    · rename_i hdue
      obtain ⟨-, -, hrunning⟩ := performAll_members now (m.part.turn s.accepts now).2
        (s.mapPart serial fun _ => (m.part.turn s.accepts now).1)
      intro hrun
      have hrun' : s.dispatcher.running = true := hrunning ▸ hrun
      have hsound : m.part.isSound = true :=
        (h hrun').1.sound m.seat (List.mem_map_of_mem hm)
      subst hserial
      suffices hkept : (Station.performAll now (m.part.turn s.accepts now).2
          (s.mapPart m.serial fun _ => (m.part.turn s.accepts now).1)).Kept scope from hkept hrun
      obtain ⟨hstance, hleaves⟩ | ⟨hstance, hleaves⟩ :=
        m.part.turn_stance now s.accepts hdue hsound
      · exact (h.keepHold hm hstance).performAll now hleaves
      · exact h.letGo now hm hstance hleaves
    · exact h

theorem Kept.turns (h : s.Kept scope) : (s.turns now).Kept scope := by
  have hturned : ({ s with line := s.line.turn now } : Station).Kept scope := h.congr rfl rfl rfl
  exact List.foldlRecOn (motive := fun s => s.Kept scope) (s.members.map (·.serial))
    (Station.turnPart now) hturned
    fun _ hkept serial _ => hkept.turnPart now serial

theorem Kept.settleFor (rounds : Nat) (h : s.Kept scope) : (s.settleFor now rounds).Kept scope := by
  induction rounds generalizing s with
  | zero => exact h.absorb now
  | succ rounds ih =>
    unfold Station.settleFor
    simp only
    split
    · exact ih ((h.absorb now).turns now)
    · exact h.absorb now

/-- **A station that settles keeps its books.** -/
theorem Kept.settle (h : s.Kept scope) : (s.settle now).Kept scope := h.settleFor now patience

/-- When a station has settled nothing waits. -/
theorem settle_events (s : Station) : (s.settle now).dispatcher.events = [] := by
  unfold Station.settle
  induction patience generalizing s with
  | zero => exact dispatch_events now _
  | succ rounds ih =>
    unfold Station.settleFor
    simp only
    split
    · exact ih _
    · exact dispatch_events now _

end Station
end KnxBus
