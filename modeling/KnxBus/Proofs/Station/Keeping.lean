import KnxBus.Proofs.Station.Books
import KnxBus.Station.Member

/-!
# A station keeps its books

Whatever is done with a station is put together from a few pieces: an effect takes place, the
dispatcher handles what has come to it, a registration is asked for, a member sits down or rises.
Here each piece is shown to keep the books right, as long as the dispatcher runs.  Once it has ended
there is nothing to keep, since nobody is served any more.

In the middle of an operation some registrations are extra ones.  So two predicates are needed.
`Station.Keeps` says of a station in the middle of something which seats there are and what is
extra.  `Station.Kept` says of a station between operations that nothing is extra, and that the roll
of its members is in order: no serial number occurs twice, all have been drawn, and every member is
sound.

Serial numbers matter because a member is found by its number.  What is done to the member with a
number is done to all that have it.
-/

namespace KnxBus

/-- The seat of a member. -/
def Member.seat (m : Member) : Seat := ⟨m.serial, m.part.stance⟩

/-- The roll of the members is in order. -/
structure Roll (next : Nat) (seats : List Seat) : Prop where
  /-- No serial number occurs twice. -/
  nodup : (seats.map (·.serial)).Nodup
  /-- All have been drawn. -/
  lt_next : ∀ x ∈ seats, x.serial < next
  /-- Every member is sound. -/
  sound : ∀ x ∈ seats, x.stance.isSound = true

namespace Roll

variable {next : Nat} {seats seats' before after : List Seat} {x y : Seat}

theorem perm (h : Roll next seats) (hseats : seats.Perm seats') : Roll next seats' where
  nodup := (hseats.map _).nodup_iff.1 h.nodup
  lt_next y hy := h.lt_next y (hseats.mem_iff.2 hy)
  sound y hy := h.sound y (hseats.mem_iff.2 hy)

theorem rise (h : Roll next (before ++ x :: after)) : Roll next (before ++ after) :=
  have hsub : (before ++ after).Sublist (before ++ x :: after) :=
    (List.sublist_cons_self x after).append_left before
  ⟨h.nodup.sublist (hsub.map _), fun y hy => h.lt_next y (hsub.subset hy),
    fun y hy => h.sound y (hsub.subset hy)⟩

/-- Nobody else has the serial number of a member. -/
theorem serial_ne (h : Roll next (before ++ x :: after)) :
    ∀ y ∈ before ++ after, y.serial ≠ x.serial := by
  have hnodup := h.nodup
  rw [List.map_append, List.map_cons] at hnodup
  have hnot := (List.nodup_cons.1 (List.perm_middle.nodup_iff.1 hnodup)).1
  rw [← List.map_append] at hnot
  exact fun y hy heq => hnot (List.mem_map.2 ⟨y, hy, heq⟩)

/-- A new member sits down under the number that was drawn for it. -/
theorem cons (h : Roll next seats) (hserial : x.serial = next)
    (hsound : x.stance.isSound = true) : Roll (next + 1) (x :: seats) where
  nodup := by
    refine List.nodup_cons.2 ⟨fun hmem => ?_, h.nodup⟩
    obtain ⟨y, hy, heq⟩ := List.mem_map.1 hmem
    exact Nat.ne_of_lt (h.lt_next y hy) (heq.trans hserial)
  lt_next y hy := by
    obtain rfl | hold := List.mem_cons.1 hy
    · exact hserial ▸ Nat.lt_succ_self _
    · exact Nat.lt_succ_of_lt (h.lt_next y hold)
  sound y hy := by
    obtain rfl | hold := List.mem_cons.1 hy
    · exact hsound
    · exact h.sound y hold

/-- A member changes its stance. -/
theorem change (h : Roll next (before ++ x :: after)) (hserial : y.serial = x.serial)
    (hsound : y.stance.isSound = true) : Roll next (before ++ y :: after) where
  nodup := by
    have hnodup := h.nodup
    rw [List.map_append, List.map_cons] at hnodup ⊢
    rw [hserial]
    exact hnodup
  lt_next z hz := by
    obtain rfl | hold := List.mem_cons.1 (List.perm_middle.mem_iff.1 hz)
    · rw [hserial]
      exact h.lt_next x (List.mem_append_right before List.mem_cons_self)
    · exact h.rise.lt_next z hold
  sound z hz := by
    obtain rfl | hold := List.mem_cons.1 (List.perm_middle.mem_iff.1 hz)
    · exact hsound
    · exact h.rise.sound z hold

theorem succ (h : Roll next seats) : Roll (next + 1) seats :=
  ⟨h.nodup, fun x hx => Nat.lt_succ_of_lt (h.lt_next x hx), h.sound⟩

end Roll

namespace Station

/-- The seats of the members. -/
def seats (s : Station) : List Seat := s.members.map Member.seat

/-- The books of a station that is in the middle of something. -/
structure Keeps (s : Station) (scope : Scope) (next : Nat) (seats : List Seat)
    (extra : List (Subscriber Sink)) : Prop where
  nextSerial_eq : s.nextSerial = next
  seats_eq : s.dispatcher.running = true → s.seats = seats
  books : s.dispatcher.running = true → Books scope seats extra s.dispatcher

/-- The books of a station between operations. -/
def Kept (s : Station) (scope : Scope) : Prop :=
  s.dispatcher.running = true → Roll s.nextSerial s.seats ∧ Books scope s.seats [] s.dispatcher

variable {s s' : Station} {scope : Scope} {next : Nat} {seats : List Seat}
  {extra : List (Subscriber Sink)} (now : Nat)

theorem Kept.keeps (h : s.Kept scope) :
    ∃ seats, Roll s.nextSerial seats ∧ s.Keeps scope s.nextSerial seats [] := by
  by_cases hrun : s.dispatcher.running = true
  · obtain ⟨hroll, hbooks⟩ := h hrun
    exact ⟨s.seats, hroll, rfl, fun _ => rfl, fun _ => hbooks⟩
  -- Nobody is served any more, so an empty roll will do.
  · refine ⟨[], ⟨List.nodup_nil, ?_, ?_⟩, rfl, fun hrun' => absurd hrun' hrun,
      fun hrun' => absurd hrun' hrun⟩
    · exact fun x hx => absurd hx List.not_mem_nil
    · exact fun x hx => absurd hx List.not_mem_nil

theorem Keeps.kept (h : s.Keeps scope next seats []) (hroll : Roll next seats) : s.Kept scope := by
  intro hrun
  rw [h.seats_eq hrun, h.nextSerial_eq]
  exact ⟨hroll, h.books hrun⟩

/-- Only the dispatcher, the seats and the serial number of the next member matter. -/
theorem Keeps.congr (h : s.Keeps scope next seats extra) (hdispatcher : s'.dispatcher = s.dispatcher)
    (hseats : s'.seats = s.seats) (hnext : s'.nextSerial = s.nextSerial) :
    s'.Keeps scope next seats extra where
  nextSerial_eq := hnext.trans h.nextSerial_eq
  seats_eq hrun := hseats.trans (h.seats_eq (hdispatcher ▸ hrun))
  books hrun := hdispatcher ▸ h.books (hdispatcher ▸ hrun)

theorem Kept.congr (h : s.Kept scope) (hdispatcher : s'.dispatcher = s.dispatcher)
    (hseats : s'.seats = s.seats) (hnext : s'.nextSerial = s.nextSerial) : s'.Kept scope := by
  intro hrun
  rw [hseats, hnext, hdispatcher]
  exact h (hdispatcher ▸ hrun)

/-- A station that has just been started has no members and no subscriptions. -/
theorem start_kept {host : Host} {medium : Medium} {joined : List Ipv4} {refused : List String}
    (h : start host medium joined refused = .ok s) : s.Kept scope := by
  unfold start at h
  simp only at h
  split at h
  · cases h
  · cases h
    exact fun _ => ⟨⟨List.nodup_nil, fun _ hx => absurd hx List.not_mem_nil,
      fun _ hx => absurd hx List.not_mem_nil⟩, Books.start⟩

/-! ## Parts that change without letting go -/

theorem seats_mapPart {f : Part → Part} (hf : ∀ p, (f p).stance = p.stance) (s : Station)
    (serial : Nat) : (s.mapPart serial f).seats = s.seats := by
  unfold Station.seats mapPart
  rw [List.map_map]
  refine List.map_congr_left fun m _ => ?_
  show Member.seat (if m.serial = serial then { m with part := f m.part } else m) = m.seat
  split
  · exact congrArg (Seat.mk m.serial) (hf m.part)
  · rfl

/-- What has arrived at sockets touches no subscription. -/
theorem pump_seats (s : Station) : (s.pump now).seats = s.seats := by
  unfold Station.seats pump
  rw [List.map_map]
  exact List.map_congr_left fun m _ => congrArg (Seat.mk m.serial) (m.part.pump_stance now)

theorem arriveAt_seats (s : Station) (port : UInt16) (a : Arrival) :
    (s.arriveAt port a).seats = s.seats := by
  unfold Station.seats arriveAt
  simp only
  rw [List.map_map]
  refine List.map_congr_left fun m _ => ?_
  simp only [Function.comp_apply]
  split
  · exact congrArg (Seat.mk m.serial) (m.part.arrive_stance a)
  · rfl

/-! ## Effects -/

/-- An effect leaves the members alone. -/
theorem perform_members (s : Station) (e : Effect) :
    (s.perform now e).members = s.members ∧ (s.perform now e).nextSerial = s.nextSerial ∧
      (s.perform now e).dispatcher =
        match e.leaver? with
        | some id => s.dispatcher.deregister id
        | none => s.dispatcher := by
  cases e with
  | transmit frame =>
    show (s.transmit frame).members = _ ∧ (s.transmit frame).nextSerial = _ ∧
      (s.transmit frame).dispatcher = s.dispatcher
    unfold transmit
    split <;> exact ⟨rfl, rfl, rfl⟩
  | _ => exact ⟨rfl, rfl, rfl⟩

theorem performAll_members (effects : List Effect) (s : Station) :
    (performAll now effects s).members = s.members ∧
      (performAll now effects s).nextSerial = s.nextSerial ∧
      (performAll now effects s).dispatcher.running = s.dispatcher.running := by
  induction effects generalizing s with
  | nil => exact ⟨rfl, rfl, rfl⟩
  | cons e later ih =>
    obtain ⟨hmembers, hnext, hdispatcher⟩ := perform_members now s e
    obtain ⟨hmembers', hnext', hrunning'⟩ := ih (s.perform now e)
    refine ⟨hmembers'.trans hmembers, hnext'.trans hnext, hrunning'.trans ?_⟩
    rw [hdispatcher]
    cases e.leaver? with
    | none => rfl
    | some id =>
      show (s.dispatcher.deregister id).running = _
      unfold Dispatcher.deregister
      split <;> rfl

/-- When effects have taken place, the registrations that they give up are not extra any more. -/
theorem performAll_books {effects : List Effect} (h : Books scope seats extra s.dispatcher)
    (hrun : s.dispatcher.running = true)
    (hids : ∀ id ∈ leavesOf effects, ∀ u ∈ owed seats, u.id ≠ id) :
    Books scope seats (extra.filter fun u => u.id ∉ leavesOf effects)
      (performAll now effects s).dispatcher := by
  induction effects generalizing s extra with
  | nil =>
    have hsame : (extra.filter fun u => u.id ∉ leavesOf []) = extra :=
      List.filter_eq_self.2 fun _ _ => decide_eq_true List.not_mem_nil
    rw [hsame]
    exact h
  | cons e later ih =>
    obtain ⟨-, -, hdispatcher⟩ := perform_members now s e
    show Books scope seats _ (performAll now later (s.perform now e)).dispatcher
    cases hleaver : e.leaver? with
    | none =>
      have hleaves : leavesOf (e :: later) = leavesOf later := List.filterMap_cons_none hleaver
      rw [hleaver] at hdispatcher
      rw [hleaves] at hids ⊢
      exact ih (hdispatcher ▸ h) (hdispatcher ▸ hrun) hids
    | some id =>
      have hleaves : leavesOf (e :: later) = id :: leavesOf later :=
        List.filterMap_cons_some hleaver
      have hleft : (s.perform now e).dispatcher = s.dispatcher.enqueue (.unsubscribe id) := by
        rw [hdispatcher, hleaver]
        exact if_pos hrun
      rw [hleaves] at hids ⊢
      have hfirst := h.leave (hids id List.mem_cons_self)
      -- What stays extra has been filtered twice by now, once for `id` and once for the rest.
      have hrest := ih (s := s.perform now e) (hleft ▸ hfirst) (hleft ▸ hrun)
        fun id' hid' => hids id' (List.mem_cons_of_mem id hid')
      rw [List.filter_filter] at hrest
      have hsame : (extra.filter fun u => u.id ∉ id :: leavesOf later) =
          extra.filter fun u => decide (u.id ∉ leavesOf later) && decide (u.id ≠ id) :=
        List.filter_congr fun u _ => by simp [Bool.and_comm]
      rw [hsame]
      exact hrest

/-! ## Handling events -/

/-- Something other than the loss of the medium is handed to a sink. -/
theorem hand_seats (s : Station) {h : Sink × Registry.Handed} (hne : h.2 ≠ .lost) :
    (hand now s h).seats = s.seats := by
  obtain ⟨sink, handed⟩ := h
  cases sink with
  | record name => rfl
  | part serial =>
    cases handed with
    | frame frame => exact seats_mapPart (Part.deliver_stance now frame) s serial
    | capture raw => rfl
    | lost => exact absurd rfl hne

theorem hand_dispatcher (s : Station) (h : Sink × Registry.Handed) :
    (hand now s h).dispatcher = s.dispatcher ∧ (hand now s h).nextSerial = s.nextSerial := by
  obtain ⟨sink, handed⟩ := h
  cases sink with
  | record name => exact ⟨rfl, rfl⟩
  | part serial => cases handed <;> exact ⟨rfl, rfl⟩

theorem hands_dispatcher (handed : List (Sink × Registry.Handed)) (s : Station) :
    (handed.foldl (hand now) s).dispatcher = s.dispatcher ∧
      (handed.foldl (hand now) s).nextSerial = s.nextSerial := by
  induction handed generalizing s with
  | nil => exact ⟨rfl, rfl⟩
  | cons h later ih =>
    obtain ⟨hdispatcher, hnext⟩ := ih (hand now s h)
    obtain ⟨hdispatcher', hnext'⟩ := hand_dispatcher now s h
    exact ⟨hdispatcher.trans hdispatcher', hnext.trans hnext'⟩

theorem hands_seats (handed : List (Sink × Registry.Handed)) (s : Station)
    (hne : ∀ h ∈ handed, h.2 ≠ .lost) : (handed.foldl (hand now) s).seats = s.seats := by
  induction handed generalizing s with
  | nil => rfl
  | cons h later ih =>
    refine (ih (hand now s h) fun h' hh' => hne h' (List.mem_cons_of_mem h hh')).trans ?_
    exact hand_seats now s (hne h List.mem_cons_self)

/-- An event is handled by the dispatcher; members stay as they are unless it ends. -/
theorem handle_dispatcher (s : Station) (e : DispatchEvent Sink) :
    (s.handle now e).1.dispatcher =
        (s.dispatcher.handle s.line.verdict s.address e).dispatcher ∧
      (s.handle now e).1.nextSerial = s.nextSerial ∧
      ((s.handle now e).1.dispatcher.running = true → (s.handle now e).1.seats = s.seats) := by
  obtain ⟨hdispatcher, hnext⟩ := hands_dispatcher now
    (s.dispatcher.handle s.line.verdict s.address e).handed
    { s with
      dispatcher := (s.dispatcher.handle s.line.verdict s.address e).dispatcher
      line := s.line.giveAll (s.dispatcher.handle s.line.verdict s.address e).commands }
  refine ⟨hdispatcher, hnext, fun hgoes => ?_⟩
  have hgoes' : (s.dispatcher.handle s.line.verdict s.address e).dispatcher.running = true :=
    (congrArg Dispatcher.running hdispatcher).symm.trans hgoes
  exact hands_seats now _ _ (Desk.handed_ne_lost hgoes')

/-- The events of a dispatcher are handled one by one. -/
theorem handleAll_keeps (pending : List (DispatchEvent Sink)) (hnext : s.nextSerial = next)
    (hevents : s.dispatcher.events = [])
    (hseats : s.dispatcher.running = true → s.seats = seats)
    (hbooks : s.dispatcher.running = true →
      Books scope seats extra (s.dispatcher.withEvents pending)) :
    (handleAll now pending s).Keeps scope next seats extra := by
  induction pending generalizing s with
  | nil =>
    have hsame : s.dispatcher.withEvents [] = s.dispatcher := by rw [← hevents]; rfl
    exact ⟨hnext, hseats, fun hrun => hsame ▸ hbooks hrun⟩
  | cons e later ih =>
    rw [handleAll]
    split
    · rename_i hrun
      obtain ⟨hdispatcher, hnext', hseats'⟩ := handle_dispatcher now s e
      refine ih (hnext'.trans hnext) ?_ (fun hgoes => ?_) fun hgoes => ?_
      · rw [hdispatcher]
        exact (Desk.handle_queue _ _ s.dispatcher e).1.trans hevents
      · exact (hseats' hgoes).trans (hseats hrun)
      · rw [hdispatcher] at hgoes ⊢
        exact (hbooks hrun).handle _ _ hgoes
    · rename_i hended
      exact ⟨hnext, fun hrun => absurd hrun hended, fun hrun => absurd hrun hended⟩

/-- Nothing new comes while events are handled. -/
theorem handleAll_events (pending : List (DispatchEvent Sink)) (s : Station) :
    (handleAll now pending s).dispatcher.events = s.dispatcher.events := by
  induction pending generalizing s with
  | nil => rfl
  | cons e later ih =>
    rw [handleAll]
    split
    · obtain ⟨hdispatcher, -, -⟩ := handle_dispatcher now s e
      refine (ih (s.handle now e).1).trans ?_
      rw [hdispatcher]
      exact (Desk.handle_queue _ _ s.dispatcher e).1
    · rfl

/-- **Dispatching keeps the books right.** -/
theorem Keeps.dispatch (h : s.Keeps scope next seats extra) :
    (s.dispatch now).Keeps scope next seats extra :=
  handleAll_keeps now s.dispatcher.events h.nextSerial_eq rfl h.seats_eq h.books

/-- Nothing waits afterwards. -/
theorem dispatch_events (s : Station) : (s.dispatch now).dispatcher.events = [] :=
  handleAll_events now s.dispatcher.events { s with dispatcher := s.dispatcher.withEvents [] }

theorem Kept.dispatch (h : s.Kept scope) : (s.dispatch now).Kept scope := by
  obtain ⟨seats, hroll, hkeeps⟩ := h.keeps
  exact (hkeeps.dispatch now).kept hroll

/-- Where nothing waits, nothing is handled. -/
theorem dispatch_of_nil (h : s.dispatcher.events = []) : s.dispatch now = s := by
  have hsame : { s.dispatcher with events := [] } = s.dispatcher := by rw [← h]
  rw [Station.dispatch, h, handleAll, hsame]

/-! ## Registering -/

/-- How asking for a registration can end. -/
inductive Asked (ready : Station) (event : Nat → DispatchEvent Sink)
    (done : Station × Except DispatchError Nat) : Prop where
  /-- The dispatcher has ended. -/
  | stopped (ended : ready.dispatcher.running = false) (eq : done = (ready, .error .stopped))
  /-- The dispatcher has answered. -/
  | answered (running : ready.dispatcher.running = true)
      (dispatcher_eq : done.1.dispatcher = (ready.dispatcher.takeId.2.handle ready.line.verdict
        ready.address (event ready.dispatcher.nextId)).dispatcher)
      (nextSerial_eq : done.1.nextSerial = ready.nextSerial)
      (seats_eq : done.1.dispatcher.running = true → done.1.seats = ready.seats)
      (result_eq : done.2 = (ready.dispatcher.takeId.2.handle ready.line.verdict ready.address
        (event ready.dispatcher.nextId)).result.map fun _ => ready.dispatcher.nextId)

theorem request_cases (s : Station) (event : Nat → DispatchEvent Sink) :
    Asked (s.dispatch now) event (s.request now event) := by
  unfold request
  simp only
  split
  · rename_i hrun
    obtain ⟨hdispatcher, hnext, hseats⟩ := handle_dispatcher now
      { s.dispatch now with dispatcher := (s.dispatch now).dispatcher.takeId.2 }
      (event (s.dispatch now).dispatcher.nextId)
    exact .answered hrun hdispatcher hnext hseats rfl
  · rename_i hended
    exact .stopped (Bool.eq_false_iff.2 hended) rfl

/-- How registering for frames can end, when all that had come before has been handled. -/
inductive Registering (ready : Station) (route : Route) (sink : Sink)
    (done : Station × Except DispatchError Nat) : Prop where
  /-- The dispatcher has ended. -/
  | stopped (ended : ready.dispatcher.running = false) (eq : done = (ready, .error .stopped))
  /-- It is refused, and a number has been drawn in vain. -/
  | refused (cause : DispatchError) (result_eq : done.2 = .error cause)
      (dispatcher_eq : done.1.dispatcher = ready.dispatcher.takeId.2)
      (nextSerial_eq : done.1.nextSerial = ready.nextSerial) (seats_eq : done.1.seats = ready.seats)
  /-- It is granted under the number that was drawn. -/
  | granted (result_eq : done.2 = .ok ready.dispatcher.nextId)
      (dispatcher_eq : done.1.dispatcher = ready.dispatcher.takeId.2.withRegistry
        (ready.dispatcher.registry.add ⟨ready.dispatcher.nextId, route, sink⟩))
      (nextSerial_eq : done.1.nextSerial = ready.nextSerial) (seats_eq : done.1.seats = ready.seats)

theorem register_cases (s : Station) (route : Route) (sink : Sink) :
    Registering (s.dispatch now) route sink (s.register now route sink) := by
  obtain ⟨ended, eq⟩ | ⟨running, dispatcher_eq, nextSerial_eq, seats_eq, result_eq⟩ :=
    request_cases now s fun id => .subscribe ⟨id, route, sink⟩
  · exact .stopped ended eq
  · have hgoes : (s.register now route sink).1.dispatcher.running = true :=
      (congrArg Dispatcher.running dispatcher_eq).trans running
    have hregistry : (s.dispatch now).dispatcher.takeId.2.registry =
      (s.dispatch now).dispatcher.registry := rfl
    simp only [Dispatcher.handle, hregistry] at dispatcher_eq result_eq
    obtain ⟨cause, eq⟩ | ⟨c, e, -, -, eq⟩ | ⟨-, -, -, eq⟩ :=
      Registry.subscribe_cases (s.dispatch now).dispatcher.registry (s.dispatch now).line.verdict
        ⟨(s.dispatch now).dispatcher.nextId, route, sink⟩
    · rw [eq] at dispatcher_eq result_eq
      exact .refused cause result_eq dispatcher_eq nextSerial_eq (seats_eq hgoes)
    · rw [eq] at dispatcher_eq result_eq
      exact .refused (.medium e) result_eq dispatcher_eq nextSerial_eq (seats_eq hgoes)
    · rw [eq] at dispatcher_eq result_eq
      exact .granted result_eq dispatcher_eq nextSerial_eq (seats_eq hgoes)

/-- A dispatcher that has ended does not begin again. -/
theorem dispatch_running (s : Station) (hrun : (s.dispatch now).dispatcher.running = true) :
    s.dispatcher.running = true := by
  unfold Station.dispatch at hrun
  cases hpending : s.dispatcher.events with
  | nil =>
    rw [hpending] at hrun
    exact hrun
  | cons e later =>
    rw [hpending, handleAll] at hrun
    split at hrun
    · rename_i hrunning
      exact hrunning
    · exact hrun

/-- Registering ends no dispatcher but by what had come before. -/
theorem register_running (s : Station) (route : Route) (sink : Sink) :
    (s.register now route sink).1.dispatcher.running = (s.dispatch now).dispatcher.running := by
  obtain ⟨-, eq⟩ | ⟨-, -, dispatcher_eq, -, -⟩ | ⟨-, dispatcher_eq, -, -⟩ :=
    register_cases now s route sink
  · rw [eq]
  · rw [dispatcher_eq]
    rfl
  · rw [dispatcher_eq]
    rfl

/-- A registration that is granted is an extra one at first, if it counts. -/
theorem Keeps.registered (h : s.Keeps scope next seats extra) (route : Route) (sink : Sink) :
    (∀ id, (s.register now route sink).2 = .ok id →
        (s.register now route sink).1.Keeps scope next seats
          (extra ++ [⟨id, route, sink⟩].filter fun u => scope.counts u.sink)) ∧
      ∀ cause, (s.register now route sink).2 = .error cause →
        (s.register now route sink).1.Keeps scope next seats extra := by
  have hready := h.dispatch now
  have hrunning := register_running now s route sink
  obtain ⟨ended, eq⟩ | ⟨cause, result_eq, dispatcher_eq, nextSerial_eq, seats_eq⟩ |
    ⟨result_eq, dispatcher_eq, nextSerial_eq, seats_eq⟩ := register_cases now s route sink
  · rw [eq]
    refine ⟨fun id hid => ?_, fun _ _ => hready⟩
    cases hid
  · rw [result_eq]
    refine ⟨fun id hid => ?_, fun _ _ => ?_⟩
    · cases hid
    · refine ⟨nextSerial_eq.trans hready.nextSerial_eq, fun hrun => ?_, fun hrun => ?_⟩
      · exact seats_eq.trans (hready.seats_eq (hrunning ▸ hrun))
      · rw [dispatcher_eq]
        exact (hready.books (hrunning ▸ hrun)).takeId
  · rw [result_eq]
    refine ⟨fun id hid => ?_, fun cause hcause => ?_⟩
    · cases hid
      refine ⟨nextSerial_eq.trans hready.nextSerial_eq, fun hrun => ?_, fun hrun => ?_⟩
      · exact seats_eq.trans (hready.seats_eq (hrunning ▸ hrun))
      · rw [dispatcher_eq]
        exact (hready.books (hrunning ▸ hrun)).subscribed (dispatch_events now s) rfl
    · cases hcause

/-- That of a part counts. -/
theorem Keeps.register (h : s.Keeps scope next seats extra) (route : Route) (serial : Nat) :
    (∀ id, (s.register now route (.part serial)).2 = .ok id →
        (s.register now route (.part serial)).1.Keeps scope next seats
          (extra ++ [⟨id, route, .part serial⟩])) ∧
      ∀ cause, (s.register now route (.part serial)).2 = .error cause →
        (s.register now route (.part serial)).1.Keeps scope next seats extra := by
  have hcounted := h.registered now route (.part serial)
  refine ⟨fun id hid => ?_, hcounted.2⟩
  have hkept : ([(⟨id, route, .part serial⟩ : Subscriber Sink)].filter
      fun u => scope.counts u.sink) = [⟨id, route, .part serial⟩] := by simp
  exact hkept ▸ hcounted.1 id hid

/-! ## Members come and go -/

theorem place_perm (m : Member) (members : List Member) :
    (place m members).Perm (m :: members) := by
  induction members with
  | nil => exact List.Perm.refl _
  | cons other rest ih =>
    rw [place]
    split
    · exact List.Perm.refl _
    · exact (ih.cons other).trans (List.Perm.swap m other rest)

section
variable {before after : List Seat} {x : Seat}

/-- Only the member with a serial number is taken away. -/
theorem seats_remove (hroll : Roll next s.seats) (hsplit : s.seats = before ++ x :: after) :
    (s.remove x.serial).seats = before ++ after := by
  have hremove : (s.remove x.serial).seats =
      s.seats.filter fun y => y.serial ≠ x.serial := by
    unfold Station.seats remove
    rw [List.filter_map]
    rfl
  have hothers := (hsplit ▸ hroll).serial_ne
  have hkept : (before ++ after).filter (fun y => y.serial ≠ x.serial) = before ++ after :=
    List.filter_eq_self.2 fun y hy => decide_eq_true (hothers y hy)
  rw [List.filter_append] at hkept
  rw [hremove, hsplit, List.filter_append, List.filter_cons_of_neg (by simp)]
  exact hkept

/-- Only the member with a serial number changes. -/
theorem seats_mapPart_const (hroll : Roll next s.seats)
    (hsplit : s.seats = before ++ x :: after) (p : Part) :
    (s.mapPart x.serial fun _ => p).seats = before ++ ⟨x.serial, p.stance⟩ :: after := by
  have hmap : (s.mapPart x.serial fun _ => p).seats =
      s.seats.map fun y => if y.serial = x.serial then ⟨x.serial, p.stance⟩ else y := by
    unfold Station.seats mapPart
    rw [List.map_map, List.map_map]
    refine List.map_congr_left fun m _ => ?_
    show Member.seat (if m.serial = x.serial then { m with part := p } else m) =
      if m.serial = x.serial then ⟨x.serial, p.stance⟩ else m.seat
    split
    · rename_i heq
      rw [← heq]
      rfl
    · rfl
  have hothers := (hsplit ▸ hroll).serial_ne
  have hkept : ∀ l : List Seat, (∀ y ∈ l, y ∈ before ++ after) →
      (l.map fun y => if y.serial = x.serial then ⟨x.serial, p.stance⟩ else y) = l := by
    intro l hl
    refine (List.map_congr_left fun y hy => ?_).trans (List.map_id l)
    exact if_neg (hothers y (hl y hy))
  rw [hmap, hsplit, List.map_append, List.map_cons, if_pos rfl,
    hkept before fun y hy => List.mem_append_left after hy,
    hkept after fun y hy => List.mem_append_right before hy]

end

/-- Effects by which nobody leaves keep the books right. -/
theorem Kept.performAll (h : s.Kept scope) {effects : List Effect} (hnobody : leavesOf effects = []) :
    (performAll now effects s).Kept scope := by
  obtain ⟨hmembers, hnext, hrunning⟩ := performAll_members now effects s
  intro hrun
  obtain ⟨hroll, hbooks⟩ := h (hrunning ▸ hrun)
  have hseats : (Station.performAll now effects s).seats = s.seats :=
    congrArg (List.map Member.seat) hmembers
  rw [hseats, hnext]
  refine ⟨hroll, ?_⟩
  have hnobody' : ∀ id ∈ leavesOf effects, ∀ u ∈ owed s.seats, u.id ≠ id := by
    rw [hnobody]
    exact fun _ hid => absurd hid List.not_mem_nil
  exact performAll_books now hbooks (hrunning ▸ hrun) hnobody'

/-- When all extra registrations are given up, and no others, none is left. -/
theorem performAll_gives_up {effects : List Effect} (h : Books scope seats extra s.dispatcher)
    (hrun : s.dispatcher.running = true) (hall : ∀ u ∈ extra, u.id ∈ leavesOf effects)
    (hids : ∀ id ∈ leavesOf effects, ∀ u ∈ owed seats, u.id ≠ id) :
    Books scope seats [] (performAll now effects s).dispatcher := by
  have hnone : (extra.filter fun u => u.id ∉ leavesOf effects) = [] :=
    List.filter_eq_nil_iff.2 fun u hu hnot => of_decide_eq_true hnot (hall u hu)
  exact hnone ▸ performAll_books now h hrun hids

theorem exists_seats_split {m : Member} (hm : m ∈ s.members) :
    ∃ before after, s.seats = before ++ m.seat :: after :=
  List.append_of_mem (List.mem_map_of_mem hm)

/-- **A member that is closed leaves nothing behind.** -/
theorem Kept.closeMember (h : s.Kept scope) {m : Member} (hm : m ∈ s.members) :
    (s.closeMember now m).Kept scope := by
  obtain ⟨hmembers, hnext, hrunning⟩ :=
    performAll_members now (m.part.close now) (s.remove m.serial)
  intro hrun
  have hrun' : s.dispatcher.running = true := hrunning ▸ hrun
  obtain ⟨hroll, hbooks⟩ := h hrun'
  obtain ⟨before, after, hsplit⟩ := exists_seats_split hm
  have hremoved : (s.remove m.serial).seats = before ++ after := seats_remove hroll hsplit
  have hseats : (s.closeMember now m).seats = before ++ after :=
    (congrArg (List.map Member.seat) hmembers).trans hremoved
  have hserial : (s.closeMember now m).nextSerial = s.nextSerial := hnext
  rw [hseats, hserial]
  rw [hsplit] at hroll hbooks
  have hmember : m.seat ∈ before ++ m.seat :: after :=
    List.mem_append_right before List.mem_cons_self
  have hleaves : leavesOf (m.part.close now) =
      m.seat.subscribers.map (·.id) ++ m.part.listener?.toList := by
    rw [m.seat.ids_subscribers]
    exact m.part.leavesOf_close now (hroll.sound _ hmember)
  -- The member rises, which makes its subscriptions extra ones, and then it gives all of them up.
  have hrisen := hbooks.rise
  rw [List.append_nil] at hrisen
  refine ⟨hroll.rise, performAll_gives_up now (s := s.remove m.serial) hrisen hrun' ?_ ?_⟩
  · rw [hleaves]
    exact fun u hu => List.mem_append_left _ (List.mem_map_of_mem hu)
  · rw [hleaves]
    intro id hid
    obtain hheld | hlistens := List.mem_append.1 hid
    · exact hrisen.ne_of_mem_extra hheld
    · have hne := hbooks.ne_of_listener hmember (Option.mem_toList.1 hlistens)
      exact fun u hu =>
        hne u ((owed_split before after m.seat).mem_iff.2 (List.mem_append_right _ hu))

/-- A bare registration is forgotten, anybody else is closed, when there is another of the name. -/
theorem Kept.replace (h : s.Kept scope) {m : Member} (hm : m ∈ s.members) :
    (s.replace now m).Kept scope := by
  unfold Station.replace
  split
  -- The registration goes on unheard, but it never was a subscription of the member.
  · rename_i r hpart
    intro hrun
    obtain ⟨hroll, hbooks⟩ := h hrun
    obtain ⟨before, after, hsplit⟩ := exists_seats_split hm
    have hremoved : (s.remove m.serial).seats = before ++ after := seats_remove hroll hsplit
    rw [hremoved]
    rw [hsplit] at hroll hbooks
    have hnothing : m.seat.subscribers = [] := by
      rw [Seat.subscribers, Member.seat, hpart]
      rfl
    have hrisen := hbooks.rise
    rw [hnothing] at hrisen
    exact ⟨hroll.rise, hrisen⟩
  · exact h.closeMember now hm

/-- **A part becomes a member** and takes the extra registrations with it. -/
theorem Keeps.enroll {part : Part} {serial : Nat}
    (h : s.Keeps scope (serial + 1) seats (Seat.mk serial part.stance).subscribers)
    (hroll : Roll serial seats) (hsound : part.isSound = true)
    (hlistener : s.dispatcher.running = true → ∀ n, part.listener? = some n →
      n < s.dispatcher.nextId ∧
        ∀ u ∈ s.dispatcher.registry.subscribers, scope.counts u.sink = true → u.id ≠ n)
    (name : String) : (s.enroll now name serial part).Kept scope := by
  have hplaced : ({ s with members := place ⟨name, serial, part⟩ s.members } : Station).Kept scope := by
    intro hrun
    have hseats : (Station.seats
        { s with members := place ⟨name, serial, part⟩ s.members }).Perm
        (⟨serial, part.stance⟩ :: seats) := by
      rw [← h.seats_eq hrun]
      exact (place_perm ⟨name, serial, part⟩ s.members).map Member.seat
    have hbooks : Books scope ([] ++ seats) ((Seat.mk serial part.stance).subscribers ++ [])
        s.dispatcher := (List.append_nil _).symm ▸ h.books hrun
    refine ⟨Roll.perm ?_ hseats.symm, (hbooks.sit (hlistener hrun)).perm hseats.symm⟩
    show Roll s.nextSerial _
    rw [h.nextSerial_eq]
    exact hroll.cons rfl hsound
  unfold Station.enroll
  simp only
  split
  · exact hplaced
  · rename_i m hmember
    have hm : m ∈ s.members := List.mem_of_find?_eq_some hmember
    exact hplaced.replace now ((place_perm _ _).mem_iff.2 (List.mem_cons_of_mem _ hm))

end Station
end KnxBus
