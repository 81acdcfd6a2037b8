import KnxBus.Bench.Session
import KnxBus.Proofs.Socket
import KnxBus.Proofs.Station.Restoring

/-!
# No subscription is lost and none is left

A station may be worked in any way: parts are opened and closed, caches are enabled and disabled,
openings fail, connections close by themselves, time passes, and between all this the loops take
their turns in any order.  Whenever nothing waits for the dispatcher, its registry has exactly the
subscriptions that the members need, each once: one for a socket that receives, one for a connection
that has not closed, one for a group cache that is enabled, three for a gateway that takes part in
the bus.  What fails leaves the registry as it was, and a monitor gets the bus exactly if no member
needs a subscription.

The books carry this through everything that happens (`Station.Kept`), so all that is left to do is
to read them when nothing waits.  Bare registrations for frames are left out: nobody can say for how
long such a registration is needed, and when another part gets its name it goes on unheard.
Monitors are not left out, since they are no subscriptions.
-/

namespace KnxBus

/-! ## What members need -/

/-- The subscriptions that a part is to have. -/
def Part.subscriptions : Part → List Route
  | listener _ => []
  | socket s => if s.isReadable then [s.kind.route] else []
  | connection c => if c.isClosed then [] else [Connection.route c.peer]
  | cache c => if c.isEnabled then [GroupCache.route] else []
  | gateway g => if g.config.usesBus then Gateway.routes else []

/-- A sound part has the subscriptions that it is to have. -/
theorem Part.subscriptions_eq_holds {p : Part} (hsound : p.isSound = true) :
    p.subscriptions = p.holds.map Prod.snd := by
  cases p with
  | listener r => rfl
  | socket s =>
    rw [subscriptions, holds, ← isSound_socket hsound]
    cases s.registration <;> rfl
  | connection c =>
    rw [subscriptions, holds]
    cases c.isClosed <;> rfl
  | cache c =>
    rw [subscriptions, holds, GroupCache.isEnabled]
    cases c.registration <;> rfl
  | gateway g =>
    obtain ⟨-, -, hlength⟩ := isSound_gateway hsound
    rw [subscriptions, holds]
    cases hbus : g.config.usesBus with
    | true =>
      rw [hbus] at hlength
      exact (List.map_snd_zip (Nat.le_of_eq hlength.symm)).symm
    | false =>
      rw [hbus] at hlength
      rw [List.length_eq_zero_iff.1 hlength]
      rfl

namespace Station

/-- The subscriptions that the members of a station are to have, each with the member. -/
def subscriptions (s : Station) : List (Route × Sink) :=
  s.members.flatMap fun m => m.part.subscriptions.map fun route => (route, .part m.serial)

/-- What sound members hold is what they are to have. -/
theorem owed_eq_subscriptions {s : Station} (hsound : ∀ x ∈ s.seats, x.stance.isSound = true) :
    (owed s.seats).map (fun u => (u.route, u.sink)) = s.subscriptions := by
  unfold owed subscriptions Station.seats
  rw [List.map_flatMap, List.flatMap_map, List.flatMap_def, List.flatMap_def]
  refine congrArg List.flatten (List.map_congr_left fun m hm => ?_)
  rw [Part.subscriptions_eq_holds (hsound m.seat (List.mem_map_of_mem hm))]
  simp [Seat.subscribers, Member.seat, Part.stance]

end Station

/-! ## Working a station -/

/-- The answer says that something failed. -/
def SessionAnswer.isFailure : SessionAnswer → Bool
  | failed _ | gatewayFailed _ => true
  | _ => false

namespace Session

/-- What can happen to a station on the bench. -/
inductive Move where
  /-- Something is done with it. -/
  | act (what : SessionStep)
  /-- Time passes, and it has no chance to do anything. -/
  | wait (ms : Nat)
  /-- What has arrived at sockets is taken in. -/
  | pump
  /-- What the medium has received becomes events. -/
  | receive
  /-- The dispatcher handles what has come to it. -/
  | dispatch
  /-- The loop inside the medium takes a turn. -/
  | turnLine
  /-- A member takes a turn. -/
  | turnPart (serial : Nat)
  /-- The station settles. -/
  | settle
  deriving DecidableEq, Repr

/-- Something happens. -/
def move (s : Session) : Move → Session
  | .act what => (s.act what).1
  | .wait ms => { s with now := s.now + ms }
  | .pump => s.withStation (s.station.pump s.now)
  | .receive => s.withStation s.station.receive
  | .dispatch => s.withStation (s.station.dispatch s.now)
  | .turnLine => s.withStation { s.station with line := s.station.line.turn s.now }
  | .turnPart serial => s.withStation (s.station.turnPart s.now serial)
  | .settle => s.settle

/-- One thing after the other happens. -/
def work (moves : List Move) (s : Session) : Session := moves.foldl move s

/-- The books of the station on the bench. -/
def Kept (s : Session) (scope : Scope) : Prop := s.station.Kept scope

variable {s : Session} {scope : Scope}

/-! ### Time -/

theorem Kept.jump (h : s.Kept scope) (deadline : Nat) : (s.jump deadline).Kept scope :=
  Station.Kept.settle deadline h

theorem Kept.runUntil (h : s.Kept scope) (ready : Station → Bool) (target : Nat) :
    (Session.runUntil ready target s).Kept scope := by
  fun_induction Session.runUntil ready target s with
  | case1 s hready => exact h
  | case2 s hready hnone => exact h
  | case3 s hready deadline hdeadline hdue ih => exact ih (h.jump deadline)
  | case4 s hready deadline hdeadline hdue => exact h

theorem Kept.runOn (h : s.Kept scope) (ready : Station → Bool) (jumps : Nat) :
    (Session.runOn ready jumps s).Kept scope := by
  induction jumps generalizing s with
  | zero => exact h
  | succ jumps ih =>
    unfold Session.runOn
    split
    · exact h
    · split
      · exact h
      · exact ih (h.jump _)

/-! ### Parts that are used -/

theorem member_of_name {name : String} {m : Member} (h : s.station.member? name = some m) :
    m ∈ s.station.members :=
  List.mem_of_find?_eq_some h

/-- Taking what was received lets go of nothing. -/
theorem takeFrom?_stance {p p' : Part} {answer : SessionAnswer}
    (h : takeFrom? p = some (answer, p')) : p'.stance = p.stance := by
  cases p with
  | socket socket =>
    simp only [takeFrom?, Option.some.injEq, Prod.mk.injEq] at h
    have hcapacity : socket.take.2.queue.capacity = socket.queue.capacity :=
      socket.queue.pop_capacity socket.flags
    rw [← h.2, Part.stance, Part.isSound, Socket.isReadable, hcapacity]
    rfl
  | connection c =>
    cases h
    cases c.delivered <;> rfl
  | _ => cases h

theorem Kept.takeNow (h : s.Kept scope) (name : String) : (s.takeNow name).1.Kept scope := by
  unfold Session.takeNow
  split
  · exact h
  · rename_i m hmember
    split
    · exact h
    · rename_i answer part htake
      exact Station.Kept.keepHold h (member_of_name hmember) (takeFrom?_stance htake)

theorem Kept.get (h : s.Kept scope) (name : String) (patience : Option Nat) :
    (s.get name patience).1.Kept scope := by
  unfold Session.get
  cases patience with
  | none => exact (h.runOn _ _).takeNow name
  | some ms => exact (h.runUntil _ _).takeNow name

/-- Queueing octets lets go of nothing. -/
theorem put_stance {c c' : Connection} {data : Octets} (h : c.put data = .ok c') :
    Part.stance (.connection c') = Part.stance (.connection c) := by
  unfold Connection.put at h
  split at h
  · cases h
  · cases h
    rfl

theorem Kept.put (h : s.Kept scope) (name : String) (data : Octets) (target : UInt16) :
    (s.put name data target).1.Kept scope := by
  unfold Session.put
  split
  · split
    · exact h
    · exact Station.Kept.send h _
  · rename_i serial c hmember
    split
    · exact h
    · rename_i c' hput
      exact Station.Kept.keepHold h (member_of_name hmember) (put_stance hput)
  · exact h

/-- What every use of a cache that is a member keeps. -/
theorem Kept.onCache (h : s.Kept scope) (name : String)
    {use : Nat → GroupCache → Session × SessionAnswer}
    (huse : ∀ m ∈ s.station.members, ∀ cache, m.part = .cache cache →
      (use m.serial cache).1.Kept scope) : (s.onCache name use).1.Kept scope := by
  unfold Session.onCache
  split
  · rename_i serial cache hmember
    exact huse _ (member_of_name hmember) cache rfl
  · exact h

theorem Kept.notify (h : s.Kept scope) (name : String) (event : CacheEvent) :
    (s.notify name event).1.Kept scope := by
  refine h.onCache name fun m hm cache hcache => Station.Kept.keepHold h hm ?_
  rw [hcache]
  rfl

theorem Kept.entries (h : s.Kept scope) (name : String) : (s.entries name).1.Kept scope := by
  have hnotified := Kept.notify (s := s.takeReader.2) h name (.snapshot s.takeReader.1)
  unfold Session.entries
  simp only
  split
  · rename_i s' hnotify
    rw [hnotify] at hnotified
    exact Station.Kept.settle _ hnotified
  · exact hnotified

theorem Kept.read (h : s.Kept scope) (name : String) (g : GroupAddress) (timeout maxAge : Nat)
    (tag : Option String) : (s.read name g timeout maxAge tag).1.Kept scope := by
  unfold Session.read
  refine Kept.onCache (s := s.takeReader.2) h name fun m hm cache hcache => ?_
  have hasked : (s.takeReader.2.withStation (s.station.read s.now m.serial cache g timeout maxAge
      s.takeReader.1)).Kept scope := Station.Kept.read s.now h hm hcache g timeout maxAge _
  cases tag with
  | some t => exact hasked
  | none => exact Kept.runUntil (hasked.jump s.now) _ _

/-! ### Everything that can happen -/

/-- **Whatever is done with a station keeps its books**, except that bare registrations for frames
must not be made while the books are about all subscriptions. -/
theorem Kept.act (h : s.Kept scope) {what : SessionStep}
    (hbare : scope = .all → ∀ name route, what ≠ .listen name route) :
    (s.act what).1.Kept scope := by
  have hstation : s.station.Kept scope := h
  cases what with
  | listen name route =>
    cases scope with
    | all => exact absurd rfl (hbare rfl name route)
    | parts => exact hstation.listen s.now name route
  | monitor name isVirtual => exact hstation.monitor s.now name isVirtual
  | openSocket name kind writeOnly => exact hstation.openSocket s.now name kind writeOnly
  | openConnection name peer config => exact hstation.openConnection s.now name peer config
  | openCache name => exact hstation.openCache s.now name
  | openGateway name config =>
    have hopened := hstation.openGateway s.now name config
    show (s.openGateway name config).1.Kept scope
    unfold Session.openGateway
    split
    · rename_i station endpoint hopen
      rw [hopen] at hopened
      exact hopened
    · rename_i station cause hopen
      rw [hopen] at hopened
      exact hopened
  | close name =>
    show (s.close name).1.Kept scope
    unfold Session.close
    split
    · exact h
    · rename_i m hmember
      exact hstation.closeMember s.now (member_of_name hmember)
  | advance ms => exact h.runUntil _ _
  | arrive port arrival => exact hstation.arrive port arrival
  | refuse names => exact hstation.congr rfl rfl rfl
  | send frame => exact hstation.send frame
  | inject heard times =>
    show (s.byHand _).1.Kept scope
    unfold Session.byHand
    split
    · exact hstation.congr rfl rfl rfl
    · exact h
  | lose =>
    show (s.byHand _).1.Kept scope
    unfold Session.byHand
    split
    · exact hstation.congr rfl rfl rfl
    · exact h
  | stop => exact hstation.stop
  | state => exact h
  | describe => exact h
  | put name data target => exact h.put name data target
  | get name patience => exact h.get name patience
  | enable name =>
    exact h.onCache name fun m hm cache hcache => hstation.enable s.now hm hcache
  | disable name =>
    exact h.onCache name fun m hm cache hcache => hstation.disable s.now hm hcache
  | clear name => exact h.notify name .clear
  | remove name g => exact h.notify name (.remove g)
  | entries name => exact h.entries name
  | read name g timeout maxAge tag => exact h.read name g timeout maxAge tag

theorem Kept.move (h : s.Kept scope) {m : Move}
    (hbare : scope = .all → ∀ name route, m ≠ .act (.listen name route)) :
    (s.move m).Kept scope := by
  have hstation : s.station.Kept scope := h
  cases m with
  | act what =>
    exact h.act fun hall name route heq => hbare hall name route (congrArg Move.act heq)
  | wait ms => exact h
  | pump => exact hstation.pump s.now
  | receive => exact hstation.receive
  | dispatch => exact hstation.dispatch s.now
  | turnLine => exact hstation.congr rfl rfl rfl
  | turnPart serial => exact hstation.turnPart s.now serial
  | settle => exact hstation.settle s.now

theorem Kept.work (h : s.Kept scope) {moves : List Move}
    (hbare : scope = .all → ∀ name route, Move.act (.listen name route) ∉ moves) :
    (s.work moves).Kept scope :=
  List.foldlRecOn (motive := fun s => s.Kept scope) moves Session.move h fun _ hkept _ hm =>
    hkept.move fun hall name route heq => hbare hall name route (heq ▸ hm)

theorem start_kept {host : Host} {medium : Medium} {joined : List Ipv4} {isManual : Bool}
    {refused : List String} (h : start host medium joined isManual refused = .ok s) :
    s.Kept scope := by
  unfold start at h
  split at h
  · rename_i station hstation
    cases h
    exact Station.Kept.settle 0 (Station.start_kept hstation)
  · cases h

/-! ### What fails -/

theorem isFailure_ofResult {r : Except DispatchError Unit}
    (h : (SessionAnswer.ofResult r).isFailure = true) : ∃ cause, r = .error cause := by
  cases r with
  | ok _ => cases h
  | error cause => exact ⟨cause, rfl⟩

theorem isFailure_ofOpened {raw : UInt16} {r : Except DispatchError Unit}
    (h : (SessionAnswer.ofOpened raw r).isFailure = true) : ∃ cause, r = .error cause := by
  cases r with
  | ok _ => cases h
  | error cause => exact ⟨cause, rfl⟩

theorem isFailure_openedAnswer {kind : SocketKind} {r : Except DispatchError Unit}
    (h : (openedAnswer kind r).isFailure = true) : ∃ cause, r = .error cause := by
  cases kind with
  | group g => exact isFailure_ofOpened h
  | individual peer => exact isFailure_ofOpened h
  | _ => exact isFailure_ofResult h

theorem not_isFailure_ofReader (answer : Option ReaderAnswer) :
    (SessionAnswer.ofReader answer).isFailure = false := by
  cases answer with
  | none => rfl
  | some said => cases said <;> rfl

/-- Taking never fails: there is something, or there is not. -/
theorem not_isFailure_takeFrom? {p p' : Part} {answer : SessionAnswer}
    (h : takeFrom? p = some (answer, p')) : answer.isFailure = false := by
  cases p with
  | socket socket =>
    simp only [takeFrom?, Option.some.injEq, Prod.mk.injEq] at h
    rw [← h.1]
    cases socket.take.1 <;> rfl
  | connection c =>
    simp only [takeFrom?, Option.some.injEq, Prod.mk.injEq] at h
    rw [← h.1]
    cases c.take.1 <;> rfl
  | _ => cases h

theorem not_isFailure_takeNow (s : Session) (name : String) :
    (s.takeNow name).2.isFailure = false := by
  unfold Session.takeNow
  split
  · rfl
  · split
    · rfl
    · rename_i htake
      exact not_isFailure_takeFrom? htake

theorem not_isFailure_onCache {s : Session} {name : String}
    {use : Nat → GroupCache → Session × SessionAnswer}
    (huse : ∀ serial cache, (use serial cache).2.isFailure = false) :
    (s.onCache name use).2.isFailure = false := by
  unfold Session.onCache
  split
  · exact huse _ _
  · rfl

theorem not_isFailure_entries (s : Session) (name : String) :
    (s.entries name).2.isFailure = false := by
  have hnotify : (s.takeReader.2.notify name (.snapshot s.takeReader.1)).2.isFailure = false :=
    not_isFailure_onCache fun _ _ => rfl
  unfold Session.entries
  simp only
  split
  · exact not_isFailure_ofReader _
  · exact hnotify

theorem not_isFailure_read (s : Session) (name : String) (g : GroupAddress)
    (timeout maxAge : Nat) (tag : Option String) :
    (s.read name g timeout maxAge tag).2.isFailure = false := by
  refine not_isFailure_onCache fun serial cache => ?_
  cases tag with
  | none => exact not_isFailure_ofReader _
  | some t => rfl

theorem not_isFailure_byHand (s : Session) (f : Loopback → Loopback) :
    (s.byHand f).2.isFailure = false := by
  unfold Session.byHand
  split <;> rfl

/-- Sending does not touch the registry. -/
theorem send_returns {s : Station} (hnil : s.dispatcher.events = []) (frame : Frame) :
    (s.send frame).1.Returns s.dispatcher.registry := by
  obtain ⟨hdispatcher, -, -⟩ := Station.transmit_members s frame
  exact Station.returns_of_nil ((congrArg Dispatcher.events hdispatcher).trans hnil)
    (congrArg Dispatcher.registry hdispatcher)

theorem put_returns (hnil : s.station.dispatcher.events = []) (name : String) (data : Octets)
    (target : UInt16) :
    (s.put name data target).1.station.Returns s.station.dispatcher.registry := by
  unfold Session.put
  split
  · split
    · exact Station.returns_of_nil hnil rfl
    · exact send_returns hnil _
  · split
    · exact Station.returns_of_nil hnil rfl
    · exact Station.returns_of_nil hnil rfl
  · exact Station.returns_of_nil hnil rfl

theorem enable_returns (hnil : s.station.dispatcher.events = []) {name : String}
    (hfail : (s.act (.enable name)).2.isFailure = true) :
    (s.act (.enable name)).1.station.Returns s.station.dispatcher.registry := by
  revert hfail
  show (s.onCache name _).2.isFailure = true → (s.onCache name _).1.station.Returns _
  unfold Session.onCache
  split
  · intro hfail
    obtain ⟨cause, herror⟩ := isFailure_ofResult hfail
    exact Station.enable_returns s.now hnil herror
  · exact fun hfail => by cases hfail

theorem openGateway_returns (hnil : s.station.dispatcher.events = [])
    (hnumbered : s.station.dispatcher.Numbered) (hrun : s.station.dispatcher.running = true)
    {name : String} {config : GatewayConfig}
    (hfail : (s.openGateway name config).2.isFailure = true) :
    (s.openGateway name config).1.station.Returns s.station.dispatcher.registry := by
  have hreturns : ∀ cause, (s.station.openGateway s.now name config).2 = .error cause → _ :=
    fun _ h => Station.openGateway_returns s.now hnil hnumbered hrun h
  revert hfail
  unfold Session.openGateway
  split
  · exact fun hfail => by cases hfail
  · rename_i station cause hopen
    rw [hopen] at hreturns
    exact fun _ => hreturns cause rfl

/-- **What fails leaves the registry as it was.** -/
theorem act_returns (hkept : s.Kept scope) (hrun : s.station.dispatcher.running = true)
    (hnil : s.station.dispatcher.events = []) {what : SessionStep}
    (hfail : (s.act what).2.isFailure = true) :
    (s.act what).1.station.Returns s.station.dispatcher.registry := by
  have hnumbered := (hkept hrun).2.numbered
  have hnotified (name : String) (event : CacheEvent) :
      (s.notify name event).2.isFailure = false := not_isFailure_onCache fun _ _ => rfl
  cases what with
  | listen name route =>
    obtain ⟨cause, herror⟩ := isFailure_ofResult hfail
    exact Station.listen_returns s.now hnil herror
  | monitor name isVirtual =>
    obtain ⟨cause, herror⟩ := isFailure_ofResult hfail
    exact Station.monitor_returns s.now hnil hrun herror
  | openSocket name kind writeOnly =>
    obtain ⟨cause, herror⟩ := isFailure_openedAnswer hfail
    exact Station.openSocket_returns s.now hnil herror
  | openConnection name peer config =>
    obtain ⟨cause, herror⟩ := isFailure_ofOpened hfail
    exact Station.openConnection_returns s.now hnil hnumbered hrun herror
  | openCache name => cases hfail
  | openGateway name config => exact openGateway_returns hnil hnumbered hrun hfail
  | close name =>
    have hclosed : (s.close name).2.isFailure = false := by
      unfold Session.close
      split <;> rfl
    exact absurd hfail (Bool.eq_false_iff.1 hclosed)
  | advance ms => cases hfail
  | arrive port arrival => cases hfail
  | refuse names => cases hfail
  | send frame => exact send_returns hnil frame
  | inject heard times => exact absurd hfail (Bool.eq_false_iff.1 (not_isFailure_byHand s _))
  | lose => exact absurd hfail (Bool.eq_false_iff.1 (not_isFailure_byHand s _))
  | stop => cases hfail
  | state => cases hfail
  | describe => cases hfail
  | put name data target => exact put_returns hnil name data target
  | get name patience => exact absurd hfail (Bool.eq_false_iff.1 (not_isFailure_takeNow _ name))
  | enable name => exact enable_returns hnil hfail
  | disable name =>
    have hdisabled : (s.act (.disable name)).2.isFailure = false :=
      not_isFailure_onCache fun _ _ => rfl
    exact absurd hfail (Bool.eq_false_iff.1 hdisabled)
  | clear name => exact absurd hfail (Bool.eq_false_iff.1 (hnotified name _))
  | remove name g => exact absurd hfail (Bool.eq_false_iff.1 (hnotified name _))
  | entries name => exact absurd hfail (Bool.eq_false_iff.1 (not_isFailure_entries s name))
  | read name g timeout maxAge tag =>
    exact absurd hfail (Bool.eq_false_iff.1 (not_isFailure_read s name g timeout maxAge tag))

/-! ## The account -/

/-- The registry has what the members need, each of it once, and nothing else. -/
structure Accounted (s : Session) : Prop where
  /-- The subscriptions are those of the members. -/
  subscribers_perm : (s.station.dispatcher.registry.subscribers.map fun u =>
    (u.route, u.sink)).Perm s.station.subscriptions
  /-- No two members have the same serial number. -/
  serials_nodup : (s.station.members.map (·.serial)).Nodup
  /-- Every gateway goes on. -/
  gateways_go_on : ∀ m ∈ s.station.members, ∀ g, m.part = .gateway g →
    g.stopping = false ∧ g.isEnded = false
  /-- What fails leaves the registry as it was. -/
  returns_of_failure : ∀ what, (s.act what).2.isFailure = true →
    (s.act what).1.station.Returns s.station.dispatcher.registry
  /-- A monitor gets the bus exactly if no member needs a subscription. -/
  monitor_iff : s.station.line.verdict .finish = .ok () →
    s.station.line.verdict .enterBusmonitor = .ok () →
    ∀ name, (s.act (.monitor name false)).2 = .done ↔ s.station.subscriptions = []

theorem Kept.accounted (h : s.Kept .all) (hrun : s.station.dispatcher.running = true)
    (hnil : s.station.dispatcher.events = []) : s.Accounted := by
  obtain ⟨hroll, hbooks⟩ := h hrun
  have hstaying := hbooks.staying_perm
  rw [Dispatcher.counted_all, Dispatcher.staying_of_nil hnil, List.append_nil] at hstaying
  have hperm : (s.station.dispatcher.registry.subscribers.map fun u =>
      (u.route, u.sink)).Perm s.station.subscriptions := by
    rw [← Station.owed_eq_subscriptions hroll.sound]
    exact hstaying.map _
  refine ⟨hperm, ?_, fun m hm g hg => ?_, fun what hfail => act_returns h hrun hnil hfail,
    fun hfinish henter name => ?_⟩
  · have hserials := hroll.nodup
    rw [Station.seats, List.map_map] at hserials
    exact hserials
  · have hsound : m.part.isSound = true := hroll.sound m.seat (List.mem_map_of_mem hm)
    rw [hg] at hsound
    obtain ⟨hgoing, hended, -⟩ := Part.isSound_gateway hsound
    exact ⟨hgoing, hended⟩
  · have hdone : (s.act (.monitor name false)).2 = .done ↔
        (s.station.monitor s.now name false).2 = .ok () := by
      show SessionAnswer.ofResult (s.station.monitor s.now name false).2 = .done ↔ _
      cases (s.station.monitor s.now name false).2 with
      | ok _ => exact iff_of_true rfl rfl
      | error cause => exact iff_of_false (fun h => by cases h) (fun h => by cases h)
    have hempty : s.station.dispatcher.registry.subscribers = [] ↔
        s.station.subscriptions = [] := by
      rw [← List.map_eq_nil_iff]
      exact ⟨fun h => (h ▸ hperm).nil_eq.symm, fun h => (h ▸ hperm).eq_nil⟩
    rw [hdone, Station.monitor_ok_iff s.now hnil hrun hfinish henter name]
    exact hempty

/-- **No subscription is lost and none is left.**  A station may be worked in any way that makes no
bare registration for frames.  When it settles nothing waits for the dispatcher, and whenever
nothing waits and the dispatcher runs, the account is right. -/
theorem subscriptions_accounted {host : Host} {medium : Medium} {joined : List Ipv4}
    {isManual : Bool} {refused : List String} {opened : Session}
    (hstart : start host medium joined isManual refused = .ok opened) (moves : List Move)
    (hbare : ∀ name route, Move.act (.listen name route) ∉ moves) :
    (opened.work moves).settle.station.dispatcher.events = [] ∧
      ((opened.work moves).station.dispatcher.running = true →
        (opened.work moves).station.dispatcher.events = [] → (opened.work moves).Accounted) := by
  have hkept : (opened.work moves).Kept .all := (start_kept hstart).work fun _ => hbare
  exact ⟨Station.settle_events _ _, fun hrun hnil => hkept.accounted hrun hnil⟩

/-! ## A visit -/

/-- The device that is visited. -/
def visited : IndividualAddress := ⟨0x1102⟩

/-- Two connections are tried to the same device.  The second one is refused while the first is
there; it ends the first, and then the second is let in.  Sockets, a cache and a gateway are there
too. -/
def visit : List Move :=
  [.act (.openSocket "s" (.group ⟨0x0901⟩) false), .act (.openSocket "w" .broadcast true),
    .act (.openConnection "c" visited .usual), .settle,
    .act (.openConnection "d" visited .usual),
    .act (.inject (.data { Frame.addressed (.individual .unset) [0x81] with source := visited }) 1),
    .settle,
    .act (.openConnection "d" visited .usual), .act (.openCache "k"), .act (.enable "k"),
    .act (.openGateway "g" { GatewayConfig.usual with tunnel := true }), .settle]

theorem subscriptions_accounted_visit :
    ∃ opened, start ⟨⟨10, 0, 0, 1⟩, [], []⟩ (.loopback (.ofAddress ⟨0x1101⟩)) [] true [] =
        .ok opened ∧
      (∀ name route, Move.act (.listen name route) ∉ visit) ∧
      (opened.work visit).station.dispatcher.running = true ∧
      (opened.work visit).station.dispatcher.events = [] ∧
      (opened.work visit).station.subscriptions =
        [(Connection.route visited, .part 5), (.broadcast, .part 7), (.group .broadcast, .part 7),
          (.individual .unset .unset .shared, .part 7), (GroupCache.route, .part 6),
          (.group ⟨0x0901⟩, .part 1)] ∧
      ((opened.work visit).act (.openConnection "e" visited .usual)).2 = .failed .addressLocked ∧
      (opened.work visit).Accounted := by
  have hbare : ∀ name route, Move.act (.listen name route) ∉ visit := by simp [visit]
  have hstart : start ⟨⟨10, 0, 0, 1⟩, [], []⟩ (.loopback (.ofAddress ⟨0x1101⟩)) [] true [] =
      .ok _ := rfl
  exact ⟨_, hstart, hbare, by decide +kernel, by decide +kernel, by decide +kernel,
    by decide +kernel,
    (subscriptions_accounted hstart _ hbare).2 (by decide +kernel) (by decide +kernel)⟩

end Session
end KnxBus
