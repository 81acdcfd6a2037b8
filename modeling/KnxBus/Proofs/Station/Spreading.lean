import KnxBus.Proofs.Cemi
import KnxBus.Proofs.Gateway.Offering
import KnxBus.Proofs.Station.Subscriptions

/-!
# From the bus to the network

A frame that is heard on the bus passes three stages before it leaves the host.  The dispatcher
hands it to those whose route accepts it, the gateway writes it as an indication, and the indication
is routed to the multicast group and put into the queue of every open channel.

## Exactly one of three routes

A gateway that takes part in the bus has three subscriptions: for frames to everybody, for frames to
groups, and for frames to this device.  The classes exclude each other, so of the three exactly one
accepts a frame to a group or to this device (`Gateway.routes_accept_once`), and the gateway is
handed the frame once.

## What changes on the way

Before a route sees a frame, the address of this device is replaced by zero where it is the
destination; routes are written in terms of zero, so they need not know the address.  The gateway
gets the frame as routes see it and so do its clients: they find zero where the address of this
device was.  Every other field arrives as it was heard, and so does every other destination.
-/

namespace KnxBus

/-- The frame fits into an indication and was received without an error. -/
structure Frame.Travels (f : Frame) : Prop where
  /-- It has a payload, which is not too long. -/
  length : 0 < f.payload.length ∧ f.payload.length ≤ 254
  /-- The hop count has three bits. -/
  hops : f.hopCount ≤ 7
  /-- The check octet and the length field agreed. -/
  valid : f.validCheck = true ∧ f.validLength = true

namespace Frame

variable {f : Frame}

theorem seenFrom_eq (f : Frame) (own : IndividualAddress) :
    f.seenFrom own = { f with destination :=
      if f.destination = .individual own then .individual .unset else f.destination } := by
  unfold seenFrom
  split <;> rfl

theorem Travels.seenFrom (h : f.Travels) (own : IndividualAddress) : (f.seenFrom own).Travels := by
  rw [seenFrom_eq]
  exact ⟨h.length, h.hops, h.valid⟩

theorem Travels.validated (h : f.Travels) : f.validated = f := by
  obtain ⟨hcheck, hlength⟩ := h.valid
  cases f
  subst hcheck hlength
  rfl

end Frame

/-! ## At the gateway -/

namespace Gateway

variable {g : Gateway}

/-- Frames are handed to a gateway, in order. -/
def deliverAll (frames : List Frame) (g : Gateway) : Gateway :=
  { g with heard := g.heard ++ frames }

/-- **The indication of a frame that travels can be read**, and it says what the frame says. -/
theorem indication?_of_travels {f : Frame} (h : f.Travels) :
    ∃ message, indication? f = some message ∧ Cemi.decode message = .ok ⟨.indication, f⟩ := by
  obtain ⟨message, hwritten⟩ := Cemi.exists_octets (m := ⟨.indication, f⟩) h.length h.hops
  refine ⟨message, by rw [indication?, hwritten]; rfl, ?_⟩
  have hread := Cemi.decode_of_toOctets hwritten
  rw [h.validated] at hread
  exact hread

/-- The gateway after it has looked at the datagrams that it has received, and what it did. -/
def looked (now : Nat) (g : Gateway) : Gateway × List GatewayAction :=
  onPackets now g.received { g with received := [] }

/-- The gateway after it has looked at the frames from the bus as well: their indications are in the
queues of all channels that are open. -/
def spreadAll (now : Nat) (g : Gateway) : Gateway :=
  { (g.looked now).1 with heard := [] }.spread (indications g.heard)

/-- **A turn offers every frame from the bus to every open channel**, and routes it. -/
theorem turn_eq (hstopping : g.stopping = false) (now : Nat) :
    g.turn now =
      ((((g.spreadAll now).expire now).pumpChannels now).1,
        (g.looked now).2 ++ sending ((g.looked now).1.routed (indications g.heard)) ++
          sending (((g.spreadAll now).expire now).pumpChannels now).2) := by
  have hheard : (g.looked now).1.heard = g.heard := onPackets_heard now g.received _
  have hbus : onBusFrames (g.looked now).1.heard { (g.looked now).1 with heard := [] } =
      (g.spreadAll now, (g.looked now).1.routed (indications g.heard)) := by
    rw [hheard]
    exact onBusFrames_eq g.heard _
  have hwork : g.work now =
      ((((onBusFrames (g.looked now).1.heard
          { (g.looked now).1 with heard := [] }).1.expire now).pumpChannels now).1,
        (g.looked now).2 ++
          sending (onBusFrames (g.looked now).1.heard { (g.looked now).1 with heard := [] }).2 ++
          sending (((onBusFrames (g.looked now).1.heard
            { (g.looked now).1 with heard := [] }).1.expire now).pumpChannels now).2) := rfl
  rw [turn, hstopping, if_neg (by decide), hwork, hbus]

/-- Of the three routes one accepts a frame to a group or to this device. -/
theorem routes_accept_once {f : Frame}
    (h : f.destination.isGroup = true ∨ f.destination = .individual .unset) :
    (routes.filter fun r => r.accepts f).length = 1 := by
  cases hd : f.destination with
  | group address =>
    have hany : GroupAddress.broadcast.isBroadcast = true := rfl
    cases hb : address.isBroadcast <;> simp [routes, Route.accepts, hd, hb, hany]
  | individual address =>
    have haddress : address = .unset := by
      rw [hd] at h
      exact h.elim (fun hgroup => by cases hgroup) fun heq => by injection heq
    have hany : IndividualAddress.unset.isUnset = true := rfl
    simp [routes, Route.accepts, hd, haddress, hany]

end Gateway

/-! ## At the station -/

namespace Station

variable {s : Station} (now : Nat)

/-- The routes for which a part is registered. -/
def routesOf (s : Station) (serial : Nat) : List Route :=
  (s.dispatcher.registry.subscribers.filter fun u => u.sink = .part serial).map (·.route)

/-- A gateway is subscribed: it is registered once for each of its routes, and for nothing else. -/
def IsSubscribed (s : Station) (serial : Nat) : Prop := (s.routesOf serial).Perm Gateway.routes

instance (s : Station) (serial : Nat) : Decidable (s.IsSubscribed serial) :=
  inferInstanceAs (Decidable (List.Perm _ _))

/-- **A gateway that takes part in the bus is subscribed** when nothing waits for the dispatcher. -/
theorem Kept.isSubscribed (h : s.Kept .all) (hrun : s.dispatcher.running = true)
    (hnil : s.dispatcher.events = []) {m : Member} (hm : m ∈ s.members) {g : Gateway}
    (hg : m.part = .gateway g) (huses : g.config.usesBus = true) : s.IsSubscribed m.serial := by
  obtain ⟨hroll, hbooks⟩ := h hrun
  obtain ⟨before, after, hsplit⟩ := exists_seats_split hm
  have hperm := hbooks.staying_perm
  rw [Dispatcher.counted_all, Dispatcher.staying_of_nil hnil, List.append_nil, hsplit] at hperm
  rw [hsplit] at hroll
  have hown : ∀ u ∈ m.seat.subscribers, u.sink = .part m.serial := by
    intro u hu
    obtain ⟨held, -, rfl⟩ := List.mem_map.1 hu
    rfl
  have hothers : ∀ u ∈ owed (before ++ after), u.sink ≠ .part m.serial := by
    intro u hu heq
    obtain ⟨x, hx, hux⟩ := List.mem_flatMap.1 hu
    obtain ⟨held, -, rfl⟩ := List.mem_map.1 hux
    have hserial : x.serial = m.serial := by injection heq
    exact hroll.serial_ne x hx hserial
  have hmine := (hperm.trans (owed_split before after m.seat)).filter
    fun u => decide (u.sink = .part m.serial)
  have hall : (m.seat.subscribers.filter fun u => decide (u.sink = .part m.serial)) =
      m.seat.subscribers := List.filter_eq_self.2 fun u hu => decide_eq_true (hown u hu)
  have hnone : ((owed (before ++ after)).filter fun u => decide (u.sink = .part m.serial)) = [] :=
    List.filter_eq_nil_iff.2 fun u hu => by simpa using hothers u hu
  rw [List.filter_append, hall, hnone, List.append_nil] at hmine
  have hroutes : m.seat.subscribers.map (·.route) = Gateway.routes := by
    have hsound : m.part.isSound = true :=
      hroll.sound m.seat (List.mem_append_right before List.mem_cons_self)
    rw [hg] at hsound
    obtain ⟨-, -, hlength⟩ := Part.isSound_gateway hsound
    rw [huses, if_pos rfl] at hlength
    have hholds : m.seat.stance.holds = g.registrations.zip Gateway.routes := by
      show m.part.holds = _
      rw [hg]
      rfl
    rw [Seat.subscribers, List.map_map, hholds]
    exact List.map_snd_zip (Nat.le_of_eq hlength.symm)
  rw [IsSubscribed, routesOf, ← hroutes]
  exact hmine.map _

/-- What is handed out reaches a gateway as often as it is meant for it. -/
theorem hands_gateway (seen : Frame) (handed : List (Sink × Registry.Handed))
    (hseen : ∀ h ∈ handed, h.2 = .frame seen) {m : Member} {g : Gateway} (hm : m ∈ s.members)
    (hg : m.part = .gateway g) {times : Nat}
    (htimes : (handed.filter fun h => h.1 = .part m.serial).length = times) :
    { m with part := .gateway (g.deliverAll (List.replicate times seen)) } ∈
      (handed.foldl (hand now) s).members := by
  induction handed generalizing s m g times with
  | nil =>
    have hsame : { m with part := .gateway (g.deliverAll (List.replicate times seen)) } = m := by
      rw [← htimes, List.filter_nil, List.length_nil, List.replicate_zero, Gateway.deliverAll,
        List.append_nil, ← hg]
    exact hsame.symm ▸ hm
  | cons h later ih =>
    obtain ⟨sink, what⟩ := h
    obtain rfl : what = .frame seen := hseen _ List.mem_cons_self
    have hlater : ∀ h ∈ later, h.2 = .frame seen := fun h hh =>
      hseen h (List.mem_cons_of_mem _ hh)
    by_cases hsink : sink = .part m.serial
    · subst hsink
      have hgot : { m with part := .gateway (g.deliver seen) } ∈
          (hand now s (.part m.serial, .frame seen)).members :=
        List.mem_map.2 ⟨m, hm, by rw [if_pos rfl, hg]; rfl⟩
      have hboth (n : Nat) : (g.deliver seen).deliverAll (List.replicate n seen) =
          g.deliverAll (List.replicate (n + 1) seen) := by
        simp only [Gateway.deliver, Gateway.deliverAll, List.append_assoc, List.singleton_append,
          List.replicate_succ]
      have hrest := ih hlater hgot rfl rfl
      rw [hboth] at hrest
      rw [List.filter_cons_of_pos (by rw [decide_eq_true_iff]), List.length_cons] at htimes
      rw [← htimes]
      exact hrest
    · have hstays : m ∈ (hand now s (sink, .frame seen)).members := by
        cases sink with
        | record name => exact hm
        | part serial =>
          have hne : m.serial ≠ serial := fun heq => hsink (heq ▸ rfl)
          exact List.mem_map.2 ⟨m, hm, if_neg hne⟩
      rw [List.filter_cons_of_neg (by rw [decide_eq_true_iff]; exact hsink)] at htimes
      exact ih hlater hstays hg htimes

/-- **A gateway is handed what it is subscribed to**, once. -/
theorem handle_heard {m : Member} {g : Gateway} (hm : m ∈ s.members) (hg : m.part = .gateway g)
    (hsubscribed : s.IsSubscribed m.serial) {f : Frame}
    (hto : f.destination.isGroup = true ∨ f.destination = .individual s.address) :
    { m with part := .gateway (g.deliver (f.seenFrom s.address)) } ∈
      (s.handle now (.heard (.data f))).1.members := by
  obtain ⟨seen, hseen⟩ : ∃ seen, f.seenFrom s.address = seen := ⟨_, rfl⟩
  have hseenTo : seen.destination.isGroup = true ∨ seen.destination = .individual .unset := by
    rw [← hseen, Frame.seenFrom_eq]
    obtain hgroup | hown := hto
    · have hne : f.destination ≠ .individual s.address := fun heq => by
        rw [heq] at hgroup
        cases hgroup
      exact Or.inl (by rw [if_neg hne]; exact hgroup)
    · exact Or.inr (if_pos hown)
  obtain ⟨handed, hhanded⟩ : ∃ handed, s.dispatcher.registry.dispatch s.address (.data f) =
      handed := ⟨_, rfl⟩
  have hdispatched : handed = (s.dispatcher.registry.subscribers.filter fun u =>
      u.route.accepts seen).map fun u => (u.sink, .frame seen) := by
    rw [← hhanded, ← hseen]
    rfl
  have hcount : (handed.filter fun h => h.1 = .part m.serial).length = 1 := by
    rw [← Gateway.routes_accept_once hseenTo, ← (hsubscribed.filter _).length_eq, routesOf,
      hdispatched, List.filter_map, List.filter_map, List.length_map, List.length_map,
      List.filter_filter, List.filter_filter]
    congr 1
    exact List.filter_congr fun u _ => Bool.and_comm _ _
  have hgot := hands_gateway now seen handed
    (fun h hh => by
      obtain ⟨u, -, rfl⟩ := List.mem_map.1 (hdispatched ▸ hh)
      rfl)
    (s := { s with line := s.line.giveAll [] }) hm hg hcount
  rw [hseen]
  have hhandle : (s.handle now (.heard (.data f))).1 =
      handed.foldl (hand now) { s with line := s.line.giveAll [] } := by
    rw [← hhanded]
    rfl
  rw [hhandle]
  exact hgot

/-- **What the bus says reaches the network**, but for the address of this device.  Take a station
with a gateway that is subscribed, and a frame that travels, to a group or to this device.  When the
dispatcher handles the frame, the gateway is handed it, once.  Whenever a gateway with such a frame
among those that it was handed takes its turn, every channel that is open is offered the same
message, and the message is routed if the gateway routes.  It is an indication of the frame as it
was heard, except that the address of this device is replaced by zero where it is the
destination. -/
theorem bus_frames_spread {m : Member} {g : Gateway} (hm : m ∈ s.members)
    (hg : m.part = .gateway g) (hsubscribed : s.IsSubscribed m.serial) {f : Frame} (hf : f.Travels)
    (hto : f.destination.isGroup = true ∨ f.destination = .individual s.address) :
    let seen : Frame := { f with destination :=
      if f.destination = .individual s.address then .individual .unset else f.destination }
    { m with part := .gateway (g.deliver seen) } ∈
        (s.handle now (.heard (.data f))).1.members ∧
      ∃ message, Cemi.decode message = .ok ⟨.indication, seen⟩ ∧
        ∀ (g' : Gateway) (before later : List Frame) (now' : Nat), g'.stopping = false →
          g'.heard = before ++ seen :: later →
          let messages := Gateway.indications before ++ message :: Gateway.indications later
          let looked := (g'.looked now').1
          let spread := { looked with heard := [] }.spread messages
          g'.turn now' =
            (((spread.expire now').pumpChannels now').1,
              (g'.looked now').2 ++ Gateway.sending (looked.routed messages) ++
                Gateway.sending ((spread.expire now').pumpChannels now').2) := by
  intro seen
  have hseen : f.seenFrom s.address = seen := Frame.seenFrom_eq f s.address
  obtain ⟨message, hmessage, hread⟩ :=
    Gateway.indication?_of_travels (hseen ▸ hf.seenFrom s.address)
  refine ⟨hseen ▸ handle_heard now hm hg hsubscribed hto, message, hread, ?_⟩
  intro g' before later now' hstopping hheard messages looked spread
  have hmessages : Gateway.indications g'.heard = messages := by
    rw [hheard, Gateway.indications, List.filterMap_append, List.filterMap_cons_some hmessage]
    rfl
  rw [Gateway.turn_eq hstopping, Gateway.spreadAll, hmessages]

end Station

/-! ## A note to the device -/

namespace Session

/-- A gateway is opened and a client connects to it. -/
def welcome : List Move :=
  [.act (.openGateway "g" { GatewayConfig.usual with tunnel := true, route := true }), .settle,
    .act (.arrive none (.octets
      [6, 0x10, 2, 5, 0, 0x1a, 8, 1, 10, 0, 0, 2, 0xc3, 0x50, 8, 1, 10, 0, 0, 2, 0xc3, 0x50, 4, 4,
        2, 0] ⟨⟨10, 0, 0, 2⟩, 50000⟩)), .settle]

/-- The gateway then. -/
def welcoming : Gateway :=
  { config := { GatewayConfig.usual with tunnel := true, route := true }
    host := ⟨⟨10, 0, 0, 1⟩, [], []⟩
    socket := .bound 3671 (.allBut (.v4 ⟨⟨10, 0, 0, 1⟩, 3671⟩))
    registrations := [1, 2, 3]
    received := []
    heard := []
    channels := [.fresh 1 ⟨⟨10, 0, 0, 2⟩, 50000⟩ ⟨⟨10, 0, 0, 2⟩, 50000⟩ 0 120000]
    shownCount := 1
    stopping := false
    isEnded := false }

/-- A frame to the device, which has the address 1.1.1. -/
def note : Frame :=
  { Frame.addressed (.individual ⟨0x1101⟩) [0, 0x80] with source := ⟨0x1102⟩ }

/-- The frame as clients see it. -/
def noteSeen : Frame := { note with destination := .individual .unset }

theorem bus_frames_spread_note :
    ∃ opened, start ⟨⟨10, 0, 0, 1⟩, [], []⟩ (.loopback (.ofAddress ⟨0x1101⟩)) [] true [] =
        .ok opened ∧
      (opened.work welcome).station.IsSubscribed 1 ∧ note.Travels ∧
      note.destination = .individual (opened.work welcome).station.address ∧
      ⟨"g", 1, .gateway (welcoming.deliver noteSeen)⟩ ∈
        ((opened.work welcome).station.handle 0 (.heard (.data note))).1.members ∧
      ∃ message, Cemi.decode message = .ok ⟨.indication, noteSeen⟩ ∧
        ((welcoming.deliver noteSeen).turn 0).1.channels.map (·.queue) = [[message]] := by
  have hstart : start ⟨⟨10, 0, 0, 1⟩, [], []⟩ (.loopback (.ofAddress ⟨0x1101⟩)) [] true [] =
      .ok _ := rfl
  have hbare : ∀ name route, Move.act (.listen name route) ∉ welcome := by simp [welcome]
  have hkept : (Session.work welcome _).Kept .all := (start_kept hstart).work fun _ => hbare
  refine ⟨_, hstart, ?_⟩
  generalize hopened : Session.work welcome _ = s at hkept ⊢
  have hm : ⟨"g", 1, .gateway welcoming⟩ ∈ s.station.members := by
    rw [← hopened]
    decide +kernel
  have hsubscribed : s.station.IsSubscribed 1 :=
    Station.Kept.isSubscribed (s := s.station) hkept (by rw [← hopened]; decide +kernel)
      (by rw [← hopened]; decide +kernel) hm rfl rfl
  have htravels : note.Travels := ⟨by decide, by decide, by decide⟩
  have hown : note.destination = .individual s.station.address := by
    rw [← hopened]
    decide +kernel
  obtain ⟨hhanded, message, hread, hturn⟩ :=
    Station.bus_frames_spread 0 hm rfl hsubscribed htravels (Or.inr hown)
  rw [if_pos hown] at hhanded hread hturn
  refine ⟨hsubscribed, htravels, hown, hhanded, message, hread, ?_⟩
  rw [hturn (welcoming.deliver noteSeen) [] [] 0 rfl rfl]
  rfl

/-- The messages that wait in the channels of gateways. -/
def waiting (s : Session) : List (List Octets) :=
  s.station.members.flatMap fun m =>
    match m.part with
    | .gateway g => g.channels.map (·.queue)
    | _ => []

/-- A client does not get the frame as it was heard. -/
theorem note_not_unchanged :
    ∃ opened message,
      start ⟨⟨10, 0, 0, 1⟩, [], []⟩ (.loopback (.ofAddress ⟨0x1101⟩)) [] true [] = .ok opened ∧
        (opened.work (welcome ++ [.act (.inject (.data note) 1), .settle])).waiting =
          [[message]] ∧
        Cemi.decode message = .ok ⟨.indication, noteSeen⟩ ∧
        Cemi.decode message ≠ .ok ⟨.indication, note⟩ := by
  refine ⟨_, [0x29, 0, 0xbc, 0x60, 0x11, 2, 0, 0, 1, 0, 0x80], rfl, ?_, rfl, ?_⟩
  · decide +kernel
  · intro h
    injection h with h
    exact absurd (congrArg (·.frame.destination) h) (by decide)

end Session
end KnxBus
