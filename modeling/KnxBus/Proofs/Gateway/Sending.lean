import KnxBus.Proofs.Gateway.Outcomes

/-!
# How a gateway sends on its channels

Datagrams reach a gateway through its socket, frames reach it from the bus, and from time to time it
takes a turn.  Only turns touch the table of channels, and a turn is a run of its parts
(`turn_eq_run`).  So what every part keeps, and what does not depend on what is waiting, is kept by
every run (`run_kept`).

## One channel

Towards the client of a channel a part of a turn can do one of five things (`Outbound`): the channel
is not there afterwards, it has been opened, it is undisturbed, its front is acknowledged, or its
timer is looked at.  Requests are sent on a channel in the last case only, and then they are those
that the timer sends.  All that is said about the queue of a channel, about the frame under way and
about its number follows from this one list.
-/

namespace KnxBus
namespace Gateway
open GatewayChannel

/-! ## Everything that happens to a gateway -/

/-- What happens to a gateway. -/
inductive Event where
  /-- Something happens at its socket. -/
  | arrive (a : Arrival)
  /-- What has arrived there is taken in. -/
  | takeIn (now : Nat)
  /-- A frame comes from the bus. -/
  | hear (frame : Frame)
  /-- The gateway is told to end. -/
  | stop
  /-- It takes a turn. -/
  | turn (now : Nat)
  deriving DecidableEq, Repr

/-- One thing happens to a gateway; what it does comes out. -/
def step (e : Event) (g : Gateway) : Gateway × List GatewayAction :=
  match e with
  | .arrive a => ({ g with socket := g.socket.arrive a }, [])
  | .takeIn now => (g.pump now, [])
  | .hear frame => (g.deliver frame, [])
  | .stop => (g.stop, [])
  | .turn now => g.turn now

/-- Things happen to a gateway one after the other. -/
def run (events : List Event) (g : Gateway) : Gateway × List GatewayAction := runWith step events g

/-- The parts of a turn before the channels send. -/
def actsBeforePump (now : Nat) (g : Gateway) : List Act :=
  List.replicate g.received.length (.look now) ++
    (List.replicate g.heard.length .listen ++ [.expire now])

/-- The parts of a turn. -/
def turnActs (now : Nat) (g : Gateway) : List Act :=
  if g.stopping then [.finish] else g.actsBeforePump now ++ [.pump now]

theorem turn_eq_run (now : Nat) (g : Gateway) :
    g.turn now = runWith perform (g.turnActs now) g := by
  unfold turn turnActs
  split
  · rw [runWith_singleton]
    rfl
  · rw [work_eq_run, actsBeforePump, List.append_assoc, List.append_assoc]
    rfl

/-- What is outside of turns does nothing, and leaves the table alone. -/
theorem step_calm {e : Event} (h : ∀ now, e ≠ .turn now) (g : Gateway) :
    (g.step e).2 = [] ∧ (g.step e).1.channels = g.channels ∧
      (g.step e).1.shownCount = g.shownCount ∧ (g.step e).1.config = g.config := by
  cases e with
  | turn now => exact absurd rfl (h now)
  | _ => exact ⟨rfl, rfl, rfl, rfl⟩

section
variable {P : Gateway → Prop}
  (hcalm : ∀ g g', g'.channels = g.channels → g'.shownCount = g.shownCount →
    g'.config = g.config → P g → P g')
  (hact : ∀ a g, P g → P (g.perform a).1)

include hcalm hact

/-- What is about the table alone and is kept by every part of a turn is kept by every step. -/
theorem step_kept (e : Event) {g : Gateway} (h : P g) : P (g.step e).1 := by
  by_cases hturn : ∃ now, e = .turn now
  · obtain ⟨now, rfl⟩ := hturn
    have hrun : g.step (.turn now) = runWith perform (g.turnActs now) g := turn_eq_run now g
    rw [hrun]
    exact runWith_invariant perform P hact _ h
  · obtain ⟨-, hchannels, hcount, hconfig⟩ :=
      step_calm (fun now heq => hturn ⟨now, heq⟩) g
    exact hcalm g _ hchannels hcount hconfig h

theorem run_kept (events : List Event) {g : Gateway} (h : P g) : P (g.run events).1 :=
  runWith_invariant step P (fun e _ h => step_kept hcalm hact e h) events h

end

/-! ## Books beside a gateway -/

section
variable {Past : Type} (note : Act → Gateway → Gateway → List GatewayAction → Past → Past)

/-- One thing happens to the gateway, and the parts of a turn enter into the books. -/
def noteStep (e : Event) (b : Gateway × Past) : (Gateway × Past) × List GatewayAction :=
  match e with
  | .turn now => runWith (noted perform note) (b.1.turnActs now) b
  | other => (((b.1.step other).1, b.2), (b.1.step other).2)

/-- Things happen to the gateway one after the other. -/
def noteRun (events : List Event) (b : Gateway × Past) : (Gateway × Past) × List GatewayAction :=
  runWith (noteStep note) events b

theorem noteStep_eq (e : Event) (b : Gateway × Past) :
    ((noteStep note e b).1.1, (noteStep note e b).2) = b.1.step e := by
  cases e with
  | turn now => exact (runWith_noted perform note _ b).trans (turn_eq_run now b.1).symm
  | _ => rfl

/-- The books are about the gateway as it runs. -/
theorem noteRun_eq (events : List Event) (b : Gateway × Past) :
    ((noteRun note events b).1.1, (noteRun note events b).2) = b.1.run events :=
  runWith_view step (noteStep_eq note) events b

/-- So they are in the middle of a turn. -/
theorem noteRun_acts (events : List Event) (acts : List Act) (b : Gateway × Past) :
    (runWith (noted perform note) acts (noteRun note events b).1).1.1 =
      (runWith perform acts (b.1.run events).1).1 := by
  rw [← noteRun_eq note events b]
  exact congrArg Prod.fst (runWith_noted perform note acts (noteRun note events b).1)

variable {note} {P : Gateway × Past → Prop}
  (hcalm : ∀ g g' past, g'.channels = g.channels → g'.shownCount = g.shownCount →
    g'.config = g.config → P (g, past) → P (g', past))
  (hact : ∀ a b, P b → P (noted perform note a b).1)

include hcalm hact in
/-- What every part of a turn keeps of the table and of the books is kept by every run. -/
theorem noteRun_kept (events : List Event) {b : Gateway × Past} (h : P b) :
    P (noteRun note events b).1 := by
  refine runWith_invariant (noteStep note) P (fun e b hb => ?_) events h
  by_cases hturn : ∃ now, e = .turn now
  · obtain ⟨now, rfl⟩ := hturn
    exact runWith_invariant (noted perform note) P hact (b.1.turnActs now) hb
  · obtain ⟨-, hchannels, hcount, hconfig⟩ :=
      step_calm (fun now heq => hturn ⟨now, heq⟩) b.1
    have hstep : (noteStep note e b).1 = ((b.1.step e).1, b.2) := by
      cases e with
      | turn now => exact absurd ⟨now, rfl⟩ hturn
      | _ => rfl
    rw [hstep]
    exact hcalm b.1 _ b.2 hchannels hcount hconfig hb

end

/-! ## What a gateway keeps -/

/-- How the gateway was set up is as it was. -/
structure SameSetup (g g' : Gateway) : Prop where
  config_eq : g'.config = g.config
  host_eq : g'.host = g.host
  socket_eq : g'.socket = g.socket
  registrations_eq : g'.registrations = g.registrations
  stopping_eq : g'.stopping = g.stopping

theorem SameSetup.refl (g : Gateway) : SameSetup g g := ⟨rfl, rfl, rfl, rfl, rfl⟩

theorem SameSetup.trans {g g' g'' : Gateway} (h : SameSetup g g') (h' : SameSetup g' g'') :
    SameSetup g g'' :=
  ⟨h'.config_eq.trans h.config_eq, h'.host_eq.trans h.host_eq, h'.socket_eq.trans h.socket_eq,
    h'.registrations_eq.trans h.registrations_eq, h'.stopping_eq.trans h.stopping_eq⟩

/-- A datagram changes the table at most, and the table keeps its count. -/
theorem onPacket_table (now : Nat) (p : Received) (g : Gateway) :
    ∃ channels count, (g.onPacket now p).1 =
        { g with channels := channels, shownCount := count } ∧
      (g.shownCount = g.channels.length → count = channels.length) := by
  have hsame : ∃ channels count, g = { g with channels := channels, shownCount := count } ∧
      (g.shownCount = g.channels.length → count = channels.length) := ⟨_, _, rfl, id⟩
  have hupdate : ∀ id f, ∃ channels count,
      g.update id f = { g with channels := channels, shownCount := count } ∧
      (g.shownCount = g.channels.length → count = channels.length) := by
    intro id f
    refine ⟨_, g.shownCount, rfl, fun h => ?_⟩
    rw [h, List.length_map]
  unfold onPacket
  simp only
  split
  · split <;> exact hsame
  · split <;> exact hsame
  · split <;> exact hsame
  · split
    · simp only [onlySending]
      unfold onConnect
      split
      · exact hsame
      · simp only
        split
        · exact hsame
        · split
          · exact hsame
          · split
            · exact hsame
            · exact ⟨_, _, rfl, fun _ => rfl⟩
    · exact hsame
  · split
    · simp only [onlySending]
      unfold onState
      split
      · exact hsame
      · exact hupdate _ _
    · exact hsame
  · split
    · simp only [onlySending]
      unfold onDisconnect
      split
      · exact hsame
      · exact ⟨_, _, rfl, fun _ => rfl⟩
    · exact hsame
  · split
    · unfold onTunnelRequest
      split
      · exact hsame
      · split
        · exact hsame
        · exact hupdate _ _
    · exact hsame
  · split
    · simp only
      unfold onTunnelAck
      split
      · exact hsame
      · exact hupdate _ _
    · exact hsame
  · exact hsame

/-- So does a frame from the bus. -/
theorem onBus_table (f : Frame) (g : Gateway) :
    ∃ channels, (g.onBus f).1 = { g with channels := channels } ∧
      channels.length = g.channels.length := by
  unfold onBus
  split
  · exact ⟨_, rfl, rfl⟩
  · exact ⟨_, rfl, List.length_map _⟩

/-- Whatever a gateway does, it stays as it was set up, and it has ended only if that is what it
does. -/
theorem perform_setup (a : Act) (g : Gateway) :
    SameSetup g (g.perform a).1 ∧ (a ≠ .finish → (g.perform a).1.isEnded = g.isEnded) ∧
      (g.shownCount = g.channels.length →
        (g.perform a).1.shownCount = (g.perform a).1.channels.length) := by
  cases a with
  | hear f => exact ⟨⟨rfl, rfl, rfl, rfl, rfl⟩, fun _ => rfl, id⟩
  | look now =>
    unfold perform
    simp only
    split
    · exact ⟨SameSetup.refl g, fun _ => rfl, id⟩
    · rename_i p later _
      obtain ⟨channels, count, heq, hcount⟩ := onPacket_table now p { g with received := later }
      rw [heq]
      exact ⟨⟨rfl, rfl, rfl, rfl, rfl⟩, fun _ => rfl, hcount⟩
  | listen =>
    unfold perform
    simp only
    split
    · exact ⟨SameSetup.refl g, fun _ => rfl, id⟩
    · rename_i f later _
      obtain ⟨channels, heq, hlength⟩ := onBus_table f { g with heard := later }
      rw [onlySending, heq]
      exact ⟨⟨rfl, rfl, rfl, rfl, rfl⟩, fun _ => rfl, fun h => h.trans hlength.symm⟩
  | expire now => exact ⟨⟨rfl, rfl, rfl, rfl, rfl⟩, fun _ => rfl, fun _ => rfl⟩
  | pump now =>
    refine ⟨⟨rfl, rfl, rfl, rfl, rfl⟩, fun _ => rfl, fun h => ?_⟩
    simp only [perform, onlySending, pumpChannels, List.length_map]
    exact h
  | finish => exact ⟨⟨rfl, rfl, rfl, rfl, rfl⟩, fun h => absurd rfl h, fun _ => rfl⟩

/-- A turn leaves the gateway as it was set up, and ends it only if it has been told to end. -/
theorem turn_setup (now : Nat) (g : Gateway) :
    SameSetup g (g.turn now).1 ∧ (g.turn now).1.isEnded = (g.isEnded || g.stopping) := by
  rw [turn_eq_run]
  refine ⟨runWith_invariant perform (SameSetup g)
    (fun a g' h => h.trans (perform_setup a g').1) _ (SameSetup.refl g), ?_⟩
  unfold turnActs
  split
  · rename_i hstopping
    rw [hstopping, Bool.or_true, runWith_singleton]
    rfl
  · rename_i hgoing
    rw [Bool.not_eq_true] at hgoing
    rw [hgoing, Bool.or_false]
    refine runWith_keeps perform (fun g' => g'.isEnded = g.isEnded) (fun a ha g' h => ?_) rfl
    have hne : a ≠ .finish := by
      rintro rfl
      simp [actsBeforePump, List.mem_replicate] at ha
    exact ((perform_setup a g').2.1 hne).trans h

theorem run_config (events : List Event) (g : Gateway) : (g.run events).1.config = g.config :=
  run_kept (P := fun g' => g'.config = g.config) (fun _ _ _ _ h h' => h.trans h')
    (fun a g' h => (perform_setup a g').1.config_eq.trans h) events rfl

/-! ## Requests on a channel -/

/-- The datagram is a request on a channel. -/
def IsRequestOn (id : UInt8) (o : Outgoing) : Prop :=
  o.packet.service = .tunnelRequest ∧ o.packet.body[1]? = some id

instance (id : UInt8) (o : Outgoing) : Decidable (IsRequestOn id o) :=
  inferInstanceAs (Decidable (_ ∧ _))

/-- The requests on a channel among actions. -/
def requestsSent (id : UInt8) (actions : List GatewayAction) : List Outgoing :=
  (datagramsOf actions).filter fun o => IsRequestOn id o

variable {id : UInt8} {g : Gateway}

theorem isRequestOn_request (c : GatewayChannel) (message : Octets) :
    IsRequestOn id (c.request message) ↔ c.id = id :=
  ⟨fun h => Option.some.inj h.2, fun h => ⟨rfl, congrArg some h⟩⟩

theorem requestsSent_eq_nil {actions : List GatewayAction}
    (h : ∀ o ∈ datagramsOf actions, o.packet.service ≠ .tunnelRequest) :
    requestsSent id actions = [] :=
  List.filter_eq_nil_iff.2 fun o ho hon => h o ho (of_decide_eq_true hon).1

theorem requestsSent_asides {out : List Outgoing} (h : ∀ o ∈ out, o.IsAside) :
    requestsSent id (sending out) = [] := by
  refine requestsSent_eq_nil fun o ho => ?_
  rw [datagramsOf_sending] at ho
  exact (h o ho).2.1

/-- To look at a datagram is not to send requests. -/
theorem onPacket_sends_no_requests (hone : AtMostOne (g.held id)) (now : Nat) (p : Received) :
    requestsSent id (g.onPacket now p).2 = [] := by
  unfold onPacket
  simp only
  split
  · split
    · exact requestsSent_asides (onSearch_asides _ _)
    · rfl
  · split
    · exact requestsSent_asides (onDescription_asides _ _)
    · rfl
  · split
    · refine requestsSent_eq_nil fun o ho => ?_
      rw [datagramsOf_forward] at ho
      exact absurd ho List.not_mem_nil
    · rfl
  · split
    · exact requestsSent_asides (onConnect_apart hone now p.packet p.sender).2
    · rfl
  · split
    · exact requestsSent_asides (onState_apart hone now p.packet p.sender).2
    · rfl
  · split
    · exact requestsSent_asides (onDisconnect_apart hone p.packet p.sender).2
    · rfl
  · split
    · unfold onTunnelRequest
      split
      · rfl
      · split
        · rfl
        · rename_i c _
          refine requestsSent_eq_nil fun o ho => ?_
          rw [datagramsOf_append, datagramsOf_forward, datagramsOf_sending, List.nil_append] at ho
          obtain ⟨status, rfl⟩ := onRequest_acks c now _ _ o ho
          exact fun h => Service.noConfusion h
    · rfl
  · split <;> rfl
  · rfl

/-- What a timer sends is on its own channel. -/
theorem filter_pump_sent (c : GatewayChannel) (config : GatewayConfig) (now : Nat) :
    (c.pump config now).2.filter (fun o => IsRequestOn id o) =
      if c.id = id then (c.pump config now).2 else [] := by
  have hiff : ∀ o ∈ (c.pump config now).2, (IsRequestOn id o ↔ c.id = id) := by
    intro o ho
    obtain ⟨message, rfl⟩ := pump_sent c config now o ho
    exact isRequestOn_request c message
  split
  · rename_i hid
    exact List.filter_eq_self.2 fun o ho => decide_eq_true ((hiff o ho).2 hid)
  · rename_i hid
    exact List.filter_eq_nil_iff.2 fun o ho h => hid ((hiff o ho).1 (of_decide_eq_true h))

/-- When the timers are looked at, each channel sends its own requests. -/
theorem requestsSent_pumpChannels (now : Nat) :
    requestsSent id (sending (g.pumpChannels now).2) =
      (g.held id).flatMap fun c => (c.pump g.config now).2 := by
  rw [requestsSent, datagramsOf_sending, pumpChannels, held]
  simp only
  induction g.channels with
  | nil => rfl
  | cons c l ih =>
    rw [List.map_cons, List.flatMap_cons, List.filter_append, filter_pump_sent, ih]
    by_cases hid : c.id = id
    · rw [if_pos hid, List.filter_cons_of_pos (by rw [hid]; exact beq_self_eq_true id),
        List.flatMap_cons]
    · rw [if_neg hid, List.filter_cons_of_neg (by rw [beq_iff_eq]; exact hid), List.nil_append]

/-! ## What happens to a channel, towards its client -/

/-- What a part of a turn does to the channel with a number, towards its client. -/
inductive Outbound (id : UInt8) (a : Act) (g g' : Gateway) (actions : List GatewayAction) :
    Prop where
  /-- There is no such channel afterwards. -/
  | gone (after : g'.held id = []) (quiet : requestsSent id actions = [])
  /-- It has been opened. -/
  | opened (c : GatewayChannel) (before : g.held id = []) (after : g'.held id = [c])
      (sendNo_eq : c.sendNo = 0) (attempts_eq : c.attempts = 0) (queue_eq : c.queue = [])
      (id_ne : c.id ≠ 0) (quiet : requestsSent id actions = [])
  /-- It is as it was, but for messages that join its queue. -/
  | undisturbed (c c' : GatewayChannel) (before : g.held id = [c]) (after : g'.held id = [c'])
      (same : c.Undisturbed c') (quiet : requestsSent id actions = [])
  /-- The gateway has looked at the acknowledgement of its front. -/
  | acknowledged (now : Nat) (p : Received) (later : List Received) (c : GatewayChannel)
      (eq : a = .look now) (front : g.received = p :: later)
      (confirms : TunnelAck.ofPacket p.packet = .ok ⟨id, c.sendNo, Status.ok⟩)
      (busy : c.attempts ≠ 0) (before : g.held id = [c])
      (after : g'.held id = [{ c.advance with sendNo := c.sendNo + 1 }])
      (quiet : requestsSent id actions = [])
  /-- The gateway has looked at its timer. -/
  | pumped (now : Nat) (c : GatewayChannel) (eq : a = .pump now) (before : g.held id = [c])
      (after : g'.held id = [(c.pump g.config now).1])
      (sent : requestsSent id actions = (c.pump g.config now).2)

theorem Outbound.of_apart {a : Act} {g' : Gateway} {actions : List GatewayAction}
    (h : Apart (g.held id) (g'.held id)) (quiet : requestsSent id actions = []) :
    Outbound id a g g' actions := by
  cases h with
  | gone h' => exact .gone h' quiet
  | opened c h h' sendNo_eq _ attempts_eq queue_eq id_ne =>
    exact .opened c h h' sendNo_eq attempts_eq queue_eq id_ne quiet
  | kept c c' h h' unmoved => exact .undisturbed c c' h h' unmoved.toUndisturbed quiet

/-- What a client sends does not disturb what is sent to it. -/
theorem onRequest_undisturbed (c : GatewayChannel) (now timeout : Nat) (q : TunnelRequest) :
    c.Undisturbed (c.onRequest now timeout q).channel := by
  obtain ⟨-, heq⟩ | heq | ⟨-, more, status, heq, -⟩ := c.onRequest_cases now timeout q
  · rw [heq]
    exact Undisturbed.refl c
  · rw [heq]
    exact Undisturbed.refl c
  · rw [heq]
    exact ⟨rfl, rfl, rfl, rfl, rfl, List.prefix_append _ _⟩

/-- **Whatever a gateway does**, towards the client of a channel it is one of these five things. -/
theorem perform_outbound (hone : AtMostOne (g.held id)) (a : Act) :
    Outbound id a g (g.perform a).1 (g.perform a).2 := by
  obtain ⟨now, p, later, rfl, hfront, hperform⟩ | ⟨now, rfl⟩ | ⟨-, hapart, -, out, hout, hasides⟩ :=
    perform_cases hone a
  · rw [hperform]
    have hquiet := onPacket_sends_no_requests (g := g.withWaiting later g.heard) hone now p
    obtain ⟨q, c, -, -, hc, hc', -⟩ | ⟨b, c, hb, hid, hc, hc', -⟩ | ⟨hapart, -, -⟩ :=
      onPacket_cases (g := g.withWaiting later g.heard) hone now p
    · exact .undisturbed c _ hc hc' (onRequest_undisturbed c now _ q) hquiet
    · by_cases hexpected : b.sequence = c.sendNo ∧ b.status = Status.ok ∧ c.attempts ≠ 0
      · rw [onAck, if_pos hexpected] at hc'
        obtain ⟨hsequence, hstatus, hbusy⟩ := hexpected
        have hconfirms : TunnelAck.ofPacket p.packet = .ok ⟨id, c.sendNo, Status.ok⟩ := by
          rw [hb, ← hid, ← hsequence, ← hstatus]
        exact .acknowledged now p later c rfl hfront hconfirms hbusy hc hc' hquiet
      · rw [onAck, if_neg hexpected] at hc'
        exact .undisturbed c c hc hc' (Undisturbed.refl c) hquiet
    · exact .of_apart hapart hquiet
  · have hheld : (g.perform (.pump now)).1.held id =
        (g.held id).map fun c => (c.pump g.config now).1 := held_pumpChannels g now
    have hsent : requestsSent id (g.perform (.pump now)).2 =
        (g.held id).flatMap fun c => (c.pump g.config now).2 := requestsSent_pumpChannels now
    obtain hnone | ⟨c, hc⟩ := hone
    · rw [hnone] at hheld hsent
      exact .gone hheld hsent
    · rw [hc] at hheld hsent
      exact .pumped now c rfl hc hheld (hsent.trans (List.flatMap_singleton _ _))
  · rw [hout]
    exact .of_apart hapart (requestsSent_asides hasides)

/-! ## The order that is kept -/

/-- What is always true of the table of channels. -/
structure Orderly (g : Gateway) : Prop where
  /-- A number is given out once at most. -/
  one : ∀ id, AtMostOne (g.held id)
  /-- The number zero is never given out. -/
  numbered : g.held 0 = []
  /-- What is under way is in the queue. -/
  busy : ∀ id c, g.held id = [c] → c.attempts ≠ 0 → c.queue ≠ []
  /-- It has not been sent more often than it may be. -/
  limited : ∀ id c, g.held id = [c] → c.attempts ≤ g.config.sendAttempts
  /-- The count that others see is right. -/
  shown : g.shownCount = g.channels.length

theorem Orderly.of_table {g g' : Gateway} (h : g.Orderly) (hchannels : g'.channels = g.channels)
    (hcount : g'.shownCount = g.shownCount) (hconfig : g'.config = g.config) : g'.Orderly := by
  have hheld : ∀ id, g'.held id = g.held id := fun id => by rw [held, held, hchannels]
  refine ⟨fun id => ?_, ?_, fun id c hc => ?_, fun id c hc => ?_, ?_⟩
  · rw [hheld]
    exact h.one id
  · rw [hheld]
    exact h.numbered
  · rw [hheld] at hc
    exact h.busy id c hc
  · rw [hheld] at hc
    rw [hconfig]
    exact h.limited id c hc
  · rw [hcount, hchannels]
    exact h.shown

/-- A timer keeps the frame under way in the queue and its count within the limit. -/
theorem pump_orderly {c : GatewayChannel} {config : GatewayConfig}
    (hbusy : c.attempts ≠ 0 → c.queue ≠ []) (hlimited : c.attempts ≤ config.sendAttempts)
    (now : Nat) :
    ((c.pump config now).1.attempts ≠ 0 → (c.pump config now).1.queue ≠ []) ∧
      (c.pump config now).1.attempts ≤ config.sendAttempts := by
  cases c.pump_outcome config now with
  | rests _ eq =>
    rw [eq]
    exact ⟨hbusy, hlimited⟩
  | givesUp _ _ eq =>
    rw [eq]
    exact ⟨fun h => absurd rfl h, Nat.zero_le _⟩
  | sends message rest _ left queue_eq eq =>
    rw [eq]
    exact ⟨fun _ => queue_eq ▸ List.cons_ne_nil message rest, left⟩
  | idles _ _ eq =>
    rw [eq]
    exact ⟨fun h => absurd rfl h, Nat.zero_le _⟩

/-- What is always true of the channel with a number. -/
structure OrderlyAt (id : UInt8) (g : Gateway) : Prop where
  /-- The number has been given out once at most. -/
  one : AtMostOne (g.held id)
  /-- What is under way is in the queue. -/
  busy : ∀ c, g.held id = [c] → c.attempts ≠ 0 → c.queue ≠ []
  /-- It has not been sent more often than it may be. -/
  limited : ∀ c, g.held id = [c] → c.attempts ≤ g.config.sendAttempts

theorem Orderly.at (h : g.Orderly) (id : UInt8) : g.OrderlyAt id :=
  ⟨h.one id, h.busy id, h.limited id⟩

theorem OrderlyAt.of_gone (h : g.held id = []) : g.OrderlyAt id := by
  refine ⟨Or.inl h, fun c hc => ?_, fun c hc => ?_⟩
  · rw [h] at hc
    cases hc
  · rw [h] at hc
    cases hc

theorem OrderlyAt.of_held {c : GatewayChannel} (h : g.held id = [c])
    (hbusy : c.attempts ≠ 0 → c.queue ≠ []) (hlimited : c.attempts ≤ g.config.sendAttempts) :
    g.OrderlyAt id := by
  refine ⟨Or.inr ⟨c, h⟩, fun c' hc' => ?_, fun c' hc' => ?_⟩
  · rw [h] at hc'
    cases hc'
    exact hbusy
  · rw [h] at hc'
    cases hc'
    exact hlimited

/-- Whatever a gateway does, a channel stays in order. -/
theorem OrderlyAt.perform (h : g.OrderlyAt id) (a : Act) : (g.perform a).1.OrderlyAt id := by
  have hconfig := (perform_setup a g).1.config_eq
  cases perform_outbound h.one a with
  | gone after _ => exact .of_gone after
  | opened c _ after _ attempts_eq _ _ _ =>
    refine .of_held after (fun hbusy => absurd attempts_eq hbusy) ?_
    rw [attempts_eq]
    exact Nat.zero_le _
  | undisturbed c c' before after same _ =>
    refine .of_held after (fun hbusy hnil => ?_) ?_
    · rw [same.attempts_eq] at hbusy
      have hprefix := same.queue_prefix
      rw [hnil, List.prefix_nil] at hprefix
      exact h.busy c before hbusy hprefix
    · rw [same.attempts_eq, hconfig]
      exact h.limited c before
  | acknowledged _ _ _ c _ _ _ _ before after _ =>
    exact .of_held after (fun hbusy => absurd rfl hbusy) (Nat.zero_le _)
  | pumped now c _ before after _ =>
    obtain ⟨hbusy, hlimited⟩ := pump_orderly (h.busy c before) (h.limited c before) now
    refine .of_held after hbusy ?_
    rw [hconfig]
    exact hlimited

/-- The number zero stays free. -/
theorem held_zero_perform (h : g.held 0 = []) (a : Act) : (g.perform a).1.held 0 = [] := by
  have hnot : ∀ {c : GatewayChannel}, g.held 0 ≠ [c] := by
    intro c hc
    rw [h] at hc
    cases hc
  cases perform_outbound (Or.inl h) a with
  | gone after _ => exact after
  | opened c _ after _ _ _ id_ne _ =>
    exact absurd (id_of_held (by rw [after]; exact List.mem_singleton_self c)) id_ne
  | undisturbed _ _ before _ _ _ => exact absurd before hnot
  | acknowledged _ _ _ _ _ _ _ _ before _ _ => exact absurd before hnot
  | pumped _ _ _ before _ _ => exact absurd before hnot

theorem Orderly.perform (h : g.Orderly) (a : Act) : (g.perform a).1.Orderly where
  one := fun id => ((h.at id).perform a).one
  numbered := held_zero_perform h.numbered a
  busy := fun id => ((h.at id).perform a).busy
  limited := fun id => ((h.at id).perform a).limited
  shown := (perform_setup a g).2.2 h.shown

/-- **The table is orderly at all times**, if it was at first. -/
theorem Orderly.run (h : g.Orderly) (events : List Event) : (g.run events).1.Orderly :=
  run_kept (P := Orderly)
    (fun _ _ hchannels hcount hconfig h => h.of_table hchannels hcount hconfig)
    (fun a _ h => h.perform a) events h

/-- A gateway that has been bound, and knows its registrations. -/
def registered (ids : List Nat) (g : Gateway) : Gateway := { g with registrations := ids }

/-- A gateway starts with an empty table. -/
theorem channels_of_bind {host : Host} {inUse : List UInt16} {config : GatewayConfig}
    (h : bind host inUse config = .ok g) :
    g.channels = [] ∧ g.shownCount = 0 ∧ g.config = config ∧ g.stopping = false ∧
      g.isEnded = false := by
  unfold bind at h
  split at h
  · cases h
  · split at h
    · cases h
    · cases h
      exact ⟨rfl, rfl, rfl, rfl, rfl⟩

theorem received_of_bind {host : Host} {inUse : List UInt16} {config : GatewayConfig}
    (h : bind host inUse config = .ok g) : g.received = [] := by
  unfold bind at h
  split at h
  · cases h
  · split at h
    · cases h
    · cases h
      rfl

theorem held_of_bind {host : Host} {inUse : List UInt16} {config : GatewayConfig}
    (h : bind host inUse config = .ok g) (ids : List Nat) (id : UInt8) :
    (g.registered ids).held id = [] := by
  have hheld : (g.registered ids).held id = g.channels.filter fun c => c.id == id := rfl
  rw [hheld, (channels_of_bind h).1]
  rfl

theorem orderly_of_bind {host : Host} {inUse : List UInt16} {config : GatewayConfig}
    (h : bind host inUse config = .ok g) (ids : List Nat) : (g.registered ids).Orderly := by
  obtain ⟨hchannels, hcount, -, -, -⟩ := channels_of_bind h
  have hheld := held_of_bind h ids
  refine ⟨fun id => Or.inl (hheld id), hheld 0, fun id c hc => ?_, fun id c hc => ?_, ?_⟩
  · rw [hheld] at hc
    cases hc
  · rw [hheld] at hc
    cases hc
  · exact hcount.trans (congrArg List.length hchannels).symm

end Gateway
end KnxBus
