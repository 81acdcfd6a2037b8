import Mathlib.Data.List.Chain
import KnxBus.Proofs.Gateway.Table
import KnxBus.Proofs.Window

/-!
# What a client is sent

A channel does not remember what it has sent.  An `Outbox` is a gateway together with this past of
one channel, given by its number: the messages that have joined the queue since the channel was
opened, the requests that were sent on it and when, and the messages that have left the queue.  The
last are kept with the requests sent while they were in front and with the datagram that the gateway
was looking at when they left, if it was looking at one.

## Why nothing is lost or confused

A message is sent only while it is in front, and while it is in front neither its number nor the
place that it goes to changes.  Two things take it away.  An acknowledgement does, but only one that
bears the number under way and finds that something is under way; it is also the only thing that
moves the number on.  And the timer does, when the message has been sent as often as it may be and
the last time has passed without an answer.  `Tidy` says this about a whole past, and each of the
five things that can happen to a channel keeps it (`act_sound`).
-/

namespace KnxBus

/-- A request that was sent at a time. -/
structure Outbox.Transmission where
  /-- The time. -/
  time : Nat
  /-- The request. -/
  out : Outgoing
  deriving DecidableEq, Repr

/-- A message that has left the queue. -/
structure Outbox.Departure where
  /-- The message. -/
  message : Octets
  /-- What was sent while it was in front, oldest first. -/
  tries : List Outbox.Transmission
  /-- When it left. -/
  time : Nat
  /-- The datagram that the gateway was looking at. -/
  looked : Option Packet
  deriving DecidableEq, Repr

/-- A gateway together with what one channel has sent. -/
structure Outbox where
  /-- The gateway. -/
  gateway : Gateway
  /-- The messages that have joined the queue, oldest first. -/
  offered : List Octets
  /-- What was sent on the channel, oldest first. -/
  sent : List Outbox.Transmission
  /-- The messages that have left the queue, oldest first. -/
  gone : List Outbox.Departure
  /-- What was sent since the last of them has left. -/
  tries : List Outbox.Transmission
  deriving DecidableEq, Repr

namespace Outbox
open Gateway GatewayChannel

/-! ## Keeping books -/

/-- The time at which something happens, where that matters. -/
def timeOf : Act → Nat
  | .look now | .expire now | .pump now => now
  | .hear _ | .listen | .finish => 0

/-- The datagram that a gateway looks at. -/
def lookedAt (a : Act) (g : Gateway) : Option Packet :=
  match a with
  | .look _ => g.received.head?.map (·.packet)
  | _ => none

/-- What the gateway has become and what it has sent enters into the books.  The queue has become
shorter when its front has left, and otherwise at most longer. -/
def noting (id : UInt8) (a : Act) (g : Gateway) (actions : List GatewayAction) (b : Outbox) :
    Outbox :=
  let fresh := (requestsSent id actions).map (Transmission.mk (timeOf a))
  match b.gateway.held id, g.held id with
  | [], c' :: _ => ⟨g, c'.queue, fresh, [], fresh⟩
  | c :: _, c' :: _ =>
    if c'.queue.length < c.queue.length then
      { gateway := g
        offered := b.offered
        sent := b.sent ++ fresh
        gone := b.gone ++ [⟨c.queue.headD [], b.tries, timeOf a, lookedAt a b.gateway⟩]
        tries := fresh }
    else
      { gateway := g
        offered := b.offered ++ c'.queue.drop c.queue.length
        sent := b.sent ++ fresh
        gone := b.gone
        tries := b.tries ++ fresh }
  | _, [] => { b with gateway := g, sent := b.sent ++ fresh }

/-- A part of a turn takes place. -/
def act (id : UInt8) (b : Outbox) (a : Act) : Outbox :=
  b.noting id a (b.gateway.perform a).1 (b.gateway.perform a).2

/-- One thing happens to the gateway. -/
def step (id : UInt8) (b : Outbox) (e : Event) : Outbox :=
  match e with
  | .turn now => (b.gateway.turnActs now).foldl (act id) b
  | other => { b with gateway := (b.gateway.step other).1 }

/-- Things happen to the gateway one after the other. -/
def run (id : UInt8) (events : List Event) (b : Outbox) : Outbox := events.foldl (step id) b

/-- A gateway on which nothing has been sent. -/
def start (g : Gateway) : Outbox := ⟨g, [], [], [], []⟩

variable {id : UInt8} {b : Outbox}

theorem noting_gateway (a : Act) (g : Gateway) (actions : List GatewayAction) :
    (b.noting id a g actions).gateway = g := by
  unfold noting
  simp only
  split
  · rfl
  · split <;> rfl
  · rfl

theorem acts_gateway (acts : List Act) (b : Outbox) :
    (acts.foldl (act id) b).gateway = (runWith perform acts b.gateway).1 := by
  induction acts generalizing b with
  | nil => rfl
  | cons a later ih =>
    rw [List.foldl_cons, ih, act, noting_gateway]
    rfl

/-- The books are about the gateway as it runs. -/
theorem run_gateway (id : UInt8) (events : List Event) (b : Outbox) :
    (run id events b).gateway = (b.gateway.run events).1 := by
  induction events generalizing b with
  | nil => rfl
  | cons e later ih =>
    have hstep : (step id b e).gateway = (b.gateway.step e).1 := by
      cases e with
      | turn now => exact (acts_gateway _ b).trans (congrArg Prod.fst (turn_eq_run now _).symm)
      | _ => rfl
    have hrun : run id (e :: later) b = run id later (step id b e) := rfl
    rw [hrun, ih, hstep]
    rfl

/-! ## What the books say -/

/-- How many messages have left because they were acknowledged. -/
def acked (gone : List Departure) : Nat := gone.countP fun d => d.looked.isSome

@[simp] theorem acked_nil : acked [] = 0 := rfl

@[simp] theorem acked_concat (gone : List Departure) (d : Departure) :
    acked (gone ++ [d]) = acked gone + if d.looked.isSome then 1 else 0 := by
  rw [acked, List.countP_append, List.countP_singleton]
  rfl

/-- Requests carry a message, all in the same octets and to the same place; there are not more of
them than the limit allows, and each waits for the time that the one before it has for an answer. -/
structure Carry (config : GatewayConfig) (request : TunnelRequest) (data : Endpoint)
    (tries : List Transmission) : Prop where
  same : ∀ t ∈ tries, t.out = ⟨request.toPacket, data⟩
  bounded : tries.length ≤ config.sendAttempts
  spaced : tries.IsChain fun t t' => t.time + config.sendRetry ≤ t'.time

theorem Carry.nil (config : GatewayConfig) (request : TunnelRequest) (data : Endpoint) :
    Carry config request data [] :=
  ⟨fun _ ht => absurd ht List.not_mem_nil, Nat.zero_le _, List.isChain_nil⟩

/-- A message has left under a number: its acknowledgement was looked at, or it was sent as often as
allowed and its last time has passed. -/
structure Leaves (config : GatewayConfig) (id number : UInt8) (data : Endpoint) (d : Departure) :
    Prop where
  carry : Carry config ⟨id, number, d.message⟩ data d.tries
  reason :
    (∃ p, d.looked = some p ∧ TunnelAck.ofPacket p = .ok ⟨id, number, Status.ok⟩ ∧ d.tries ≠ []) ∨
    (d.looked = none ∧ d.tries.length = config.sendAttempts ∧
      ∀ t ∈ d.tries.getLast?, t.time + config.sendRetry ≤ d.time)

/-- A channel and what it has sent fit together. -/
structure Tidy (config : GatewayConfig) (id : UInt8) (b : Outbox) (c : GatewayChannel) : Prop where
  /-- What has joined the queue has left it in order, or is still in it. -/
  order : b.offered = b.gone.map (·.message) ++ c.queue
  /-- What was sent was sent for one message after the other. -/
  log : b.sent = b.gone.flatMap (·.tries) ++ b.tries
  /-- Each message has left with good reason, under a number that counts acknowledgements. -/
  left : ∀ before d after, b.gone = before ++ d :: after →
    Leaves config id (octetNo (acked before)) c.data d
  /-- What was sent since carries the front. -/
  front : ∀ message rest, c.queue = message :: rest →
    Carry config ⟨id, c.sendNo, message⟩ c.data b.tries
  /-- The number of attempts is the number of requests sent since. -/
  count : c.attempts = b.tries.length
  /-- The time is that of the last one. -/
  last : ∀ t ∈ b.tries.getLast?, t.time = c.sentAt
  /-- The number counts acknowledgements. -/
  number : c.sendNo = octetNo (acked b.gone)

/-- The gateway is in order, and the channel fits together with what it has sent. -/
structure Sound (config : GatewayConfig) (id : UInt8) (b : Outbox) : Prop where
  orderly : b.gateway.Orderly
  config_eq : b.gateway.config = config
  tidy : ∀ c, b.gateway.held id = [c] → b.Tidy config id c

/-- The same about one channel, whatever the others are like. -/
structure SoundAt (config : GatewayConfig) (id : UInt8) (b : Outbox) : Prop where
  orderly : b.gateway.OrderlyAt id
  config_eq : b.gateway.config = config
  tidy : ∀ c, b.gateway.held id = [c] → b.Tidy config id c

/-! ## What is kept -/

variable {config : GatewayConfig} {c c' : GatewayChannel} {a : Act} {g : Gateway}
  {actions : List GatewayAction}

theorem noting_of_held (hc : b.gateway.held id = [c]) (hc' : g.held id = [c'])
    (hlonger : ¬ c'.queue.length < c.queue.length) :
    b.noting id a g actions =
      { gateway := g
        offered := b.offered ++ c'.queue.drop c.queue.length
        sent := b.sent ++ (requestsSent id actions).map (Transmission.mk (timeOf a))
        gone := b.gone
        tries := b.tries ++ (requestsSent id actions).map (Transmission.mk (timeOf a)) } := by
  unfold noting
  simp only [hc, hc', if_neg hlonger]

theorem noting_of_left (hc : b.gateway.held id = [c]) (hc' : g.held id = [c'])
    (hshorter : c'.queue.length < c.queue.length) (hquiet : requestsSent id actions = []) :
    b.noting id a g actions =
      { gateway := g
        offered := b.offered
        sent := b.sent
        gone := b.gone ++ [⟨c.queue.headD [], b.tries, timeOf a, lookedAt a b.gateway⟩]
        tries := [] } := by
  unfold noting
  simp only [hc, hc', if_pos hshorter, hquiet, List.map_nil, List.append_nil]

/-- What else becomes of the gateway does not matter to the books. -/
theorem Tidy.withGateway (h : b.Tidy config id c) (g : Gateway) :
    ({ b with gateway := g } : Outbox).Tidy config id c :=
  ⟨h.order, h.log, h.left, h.front, h.count, h.last, h.number⟩

theorem SoundAt.withGateway (h : b.SoundAt config id) {g : Gateway}
    (hchannels : g.channels = b.gateway.channels) (hconfig : g.config = b.gateway.config) :
    ({ b with gateway := g } : Outbox).SoundAt config id := by
  have hheld : g.held id = b.gateway.held id := by rw [held, held, hchannels]
  refine ⟨⟨?_, ?_, ?_⟩, hconfig.trans h.config_eq, fun c hc => ?_⟩
  · simp only [hheld]
    exact h.orderly.one
  · simp only [hheld]
    exact h.orderly.busy
  · simp only [hheld, hconfig]
    exact h.orderly.limited
  · simp only [hheld] at hc
    exact (h.tidy c hc).withGateway g

/-- A channel that is left alone fits together with the same past, whatever joins its queue. -/
theorem Tidy.undisturbed (h : b.Tidy config id c) (hc : b.gateway.held id = [c])
    (hc' : g.held id = [c']) (hsame : c.Undisturbed c') (hbusy : c.attempts ≠ 0 → c.queue ≠ [])
    (hquiet : requestsSent id actions = []) : (b.noting id a g actions).Tidy config id c' := by
  have hjoined : c.queue ++ c'.queue.drop c.queue.length = c'.queue :=
    List.prefix_iff_eq_append.1 hsame.queue_prefix
  rw [noting_of_held hc hc' (Nat.not_lt.2 hsame.queue_prefix.length_le), hquiet]
  simp only [List.map_nil, List.append_nil]
  refine ⟨?_, h.log, ?_, ?_, hsame.attempts_eq.trans h.count, ?_, hsame.sendNo_eq.trans h.number⟩
  · simp only
    rw [h.order, List.append_assoc, hjoined]
  · intro before d after hsplit
    rw [hsame.data_eq]
    exact h.left before d after hsplit
  · intro message rest hqueue
    rw [hsame.sendNo_eq, hsame.data_eq]
    cases hold : c.queue with
    | nil =>
      -- A queue that was empty had nothing under way, so nothing was sent for its new front.
      have hidle : c.attempts = 0 := Decidable.by_contra fun hne => hbusy hne hold
      have hnone : b.tries = [] := List.eq_nil_of_length_eq_zero (h.count.symm.trans hidle)
      simp only [hnone]
      exact Carry.nil _ _ _
    | cons front later =>
      rw [hold, hqueue, List.cons_append] at hjoined
      obtain ⟨rfl, -⟩ := List.cons.inj hjoined
      exact h.front front later hold
  · intro t ht
    exact (h.last t ht).trans hsame.sentAt_eq.symm

/-- The front leaves.  Whatever the reason is, what was sent for it is closed. -/
theorem Tidy.leaves (h : b.Tidy config id c) (hc : b.gateway.held id = [c])
    (hc' : g.held id = [c']) {message : Octets} {rest : List Octets}
    (hqueue : c.queue = message :: rest) (hqueue' : c'.queue = rest) (hidle : c'.attempts = 0)
    (hdata : c'.data = c.data) (hquiet : requestsSent id actions = [])
    (hleaves : Leaves config id c.sendNo c.data
      ⟨message, b.tries, timeOf a, lookedAt a b.gateway⟩)
    (hnumber : c'.sendNo =
      octetNo (acked b.gone + if (lookedAt a b.gateway).isSome then 1 else 0)) :
    (b.noting id a g actions).Tidy config id c' := by
  have hshorter : c'.queue.length < c.queue.length := by
    rw [hqueue, hqueue', List.length_cons]
    omega
  rw [noting_of_left hc hc' hshorter hquiet, hqueue, List.headD_cons]
  refine ⟨?_, ?_, ?_, fun _ _ _ => Carry.nil _ _ _, hidle, fun _ ht => absurd ht (by simp), ?_⟩
  · simp only
    rw [h.order, hqueue, hqueue', List.map_append, List.append_assoc]
    rfl
  · simp only
    rw [h.log, List.flatMap_append, List.flatMap_singleton, List.append_nil]
  · intro before d after hsplit
    rw [hdata]
    rcases List.eq_nil_or_concat after with rfl | ⟨later, last, rfl⟩
    · obtain ⟨rfl, hd⟩ := List.append_inj_left' hsplit rfl, List.append_inj_right' hsplit rfl
      cases hd
      rw [← h.number]
      exact hleaves
    · refine h.left before d later ?_
      rw [List.concat_eq_append, ← List.cons_append, ← List.append_assoc] at hsplit
      exact List.append_inj_left' hsplit rfl
  · simp only [acked_concat]
    exact hnumber

/-- The front is sent. -/
theorem Tidy.sends (h : b.Tidy config id c) (hc : b.gateway.held id = [c]) {now : Nat}
    (hc' : g.held id = [{ c with attempts := c.attempts + 1, sentAt := now }])
    {message : Octets} {rest : List Octets} (hqueue : c.queue = message :: rest)
    (hdue : c.isSendDue config.sendRetry now = true) (hleft : c.attempts + 1 ≤ config.sendAttempts)
    (hsent : requestsSent id actions = [c.request message]) :
    (b.noting id (.pump now) g actions).Tidy config id
      { c with attempts := c.attempts + 1, sentAt := now } := by
  have hid : c.id = id := id_of_held (by rw [hc]; exact List.mem_singleton_self c)
  rw [noting_of_held hc hc' (Nat.lt_irrefl _), hsent]
  simp only [List.drop_length, List.append_nil, List.map_singleton, timeOf]
  refine ⟨h.order, ?_, h.left, ?_, ?_, ?_, h.number⟩
  · simp only
    rw [h.log, List.append_assoc]
  · intro message' rest' hqueue'
    simp only at hqueue' ⊢
    rw [hqueue] at hqueue'
    obtain ⟨rfl, rfl⟩ := List.cons.inj hqueue'
    have hcarry := h.front message rest hqueue
    refine ⟨?_, ?_, ?_⟩
    · intro t ht
      rcases List.mem_append.1 ht with ht | ht
      · exact hcarry.same t ht
      · rw [List.mem_singleton.1 ht, request, hid]
    · rw [List.length_append, List.length_singleton, ← h.count]
      exact hleft
    · refine List.isChain_append.2 ⟨hcarry.spaced, List.isChain_singleton _, ?_⟩
      intro t ht t' ht'
      obtain rfl := Option.some.inj ht'
      have hbusy : c.attempts ≠ 0 := by
        rw [h.count]
        intro hzero
        rw [List.eq_nil_of_length_eq_zero hzero] at ht
        cases ht
      rw [h.last t ht]
      exact (isSendDue_of_busy hbusy _ _).1 hdue
  · simp only
    rw [h.count, List.length_append, List.length_singleton]
  · intro t ht
    simp only [List.getLast?_append, List.getLast?_singleton, Option.some_or, Option.mem_def,
      Option.some.injEq] at ht
    rw [← ht]

/-- The timer of a channel keeps the books in order. -/
theorem pump_tidy (h : b.SoundAt config id) (hc : b.gateway.held id = [c]) {now : Nat}
    (hc' : g.held id = [(c.pump b.gateway.config now).1])
    (hsent : requestsSent id actions = (c.pump b.gateway.config now).2) :
    (b.noting id (.pump now) g actions).Tidy config id (c.pump b.gateway.config now).1 := by
  have htidy := h.tidy c hc
  have hbusy := h.orderly.busy c hc
  have hlimited := h.orderly.limited c hc
  rw [h.config_eq] at hc' hsent hlimited ⊢
  cases c.pump_outcome config now with
  | rests _ eq =>
    rw [eq] at hc' hsent ⊢
    exact htidy.undisturbed hc hc' (Undisturbed.refl c) hbusy hsent
  | givesUp due spent eq =>
    rw [eq] at hc' hsent ⊢
    have hspent : c.attempts = config.sendAttempts := by omega
    have hne : c.queue ≠ [] := by
      by_cases hidle : c.attempts = 0
      · exact (isSendDue_of_idle hidle _ _).1 due
      · exact hbusy hidle
    obtain ⟨message, rest, hqueue⟩ := List.exists_cons_of_ne_nil hne
    refine htidy.leaves hc hc' hqueue (congrArg (List.drop 1) hqueue) rfl rfl hsent ?_ htidy.number
    refine ⟨htidy.front message rest hqueue, Or.inr ⟨rfl, htidy.count.symm.trans hspent, ?_⟩⟩
    intro t ht
    have hsome : c.attempts ≠ 0 := by
      rw [htidy.count]
      intro hzero
      rw [List.eq_nil_of_length_eq_zero hzero] at ht
      cases ht
    rw [htidy.last t ht]
    exact (isSendDue_of_busy hsome _ _).1 due
  | sends message rest due left queue_eq eq =>
    rw [eq] at hc' hsent ⊢
    exact htidy.sends hc hc' queue_eq due left hsent
  | idles queue_eq busy _ => exact absurd queue_eq (hbusy busy)

/-- **Every part of a turn keeps the books in order.** -/
theorem act_soundAt (h : b.SoundAt config id) (a : Act) : (b.act id a).SoundAt config id := by
  have hgateway : (b.act id a).gateway = (b.gateway.perform a).1 := noting_gateway _ _ _
  refine ⟨?_, ?_, fun c hc => ?_⟩
  · rw [hgateway]
    exact h.orderly.perform a
  · rw [hgateway]
    exact (perform_setup a b.gateway).1.config_eq.trans h.config_eq
  · rw [hgateway] at hc
    have hthe : ∀ {c' : GatewayChannel}, (b.gateway.perform a).1.held id = [c'] →
        (b.act id a).Tidy config id c' → (b.act id a).Tidy config id c := by
      intro c' hc' htidy
      rw [hc'] at hc
      cases hc
      exact htidy
    cases perform_outbound h.orderly.one a with
    | gone after _ =>
      rw [after] at hc
      cases hc
    | opened c' before after sendNo_eq attempts_eq queue_eq _ quiet =>
      refine hthe after ?_
      have hnoting : b.act id a = ⟨(b.gateway.perform a).1, [], [], [], []⟩ := by
        unfold act noting
        simp only [before, after, quiet, queue_eq, List.map_nil]
      rw [hnoting]
      refine ⟨queue_eq.symm, rfl, fun before d after hsplit => ?_, fun _ _ _ => Carry.nil _ _ _,
        attempts_eq, fun _ ht => absurd ht (by simp), sendNo_eq⟩
      exact absurd hsplit (by simp)
    | undisturbed c₁ c' before after same quiet =>
      exact hthe after ((h.tidy c₁ before).undisturbed before after same
        (h.orderly.busy c₁ before) quiet)
    | acknowledged now p later c₁ eq front confirms busy before after quiet =>
      refine hthe after ?_
      have htidy := h.tidy c₁ before
      obtain ⟨message, rest, hqueue⟩ :=
        List.exists_cons_of_ne_nil (h.orderly.busy c₁ before busy)
      have hlooked : lookedAt a b.gateway = some p.packet := by
        rw [eq, lookedAt, front]
        rfl
      refine htidy.leaves before after hqueue (congrArg (List.drop 1) hqueue) rfl rfl quiet ?_ ?_
      · refine ⟨htidy.front message rest hqueue, Or.inl ⟨p.packet, hlooked, confirms, ?_⟩⟩
        intro hnone
        simp only at hnone
        rw [htidy.count, hnone] at busy
        exact busy rfl
      · rw [hlooked]
        simp only [Option.isSome_some, if_true, octetNo_succ, htidy.number]
    | pumped now c₁ eq before after sent =>
      refine hthe after ?_
      subst eq
      exact pump_tidy h before after sent

theorem act_sound (h : b.Sound config id) (a : Act) : (b.act id a).Sound config id := by
  have hat := act_soundAt (a := a) ⟨h.orderly.at id, h.config_eq, h.tidy⟩
  refine ⟨?_, hat.config_eq, hat.tidy⟩
  rw [act, noting_gateway]
  exact h.orderly.perform a

theorem acts_sound (h : b.Sound config id) (acts : List Act) :
    (acts.foldl (act id) b).Sound config id :=
  List.foldlRecOn acts (act id) h fun _ hb' a _ => act_sound hb' a

theorem step_sound (h : b.Sound config id) (e : Event) : (b.step id e).Sound config id := by
  cases e with
  | turn now => exact acts_sound h (b.gateway.turnActs now)
  | _ => exact ⟨h.orderly.of_table rfl rfl rfl, h.config_eq,
      fun c hc => (h.tidy c hc).withGateway _⟩

theorem run_sound (h : b.Sound config id) (events : List Event) :
    (run id events b).Sound config id :=
  List.foldlRecOn events (step id) h fun _ hb' e _ => step_sound hb' e

theorem start_sound {host : Host} {inUse : List UInt16} {g₀ : Gateway}
    (h : bind host inUse config = .ok g₀) (registrations : List Nat) (id : UInt8) :
    (start (g₀.registered registrations)).Sound config id := by
  refine ⟨orderly_of_bind h registrations, (channels_of_bind h).2.2.1, fun c hc => ?_⟩
  have hnone : (start (g₀.registered registrations)).gateway.held id = [] :=
    held_of_bind h registrations id
  rw [hnone] at hc
  cases hc

/-! ## What is sent, and when it ends -/

/-- Where there is no channel, nothing is sent. -/
theorem requestsSent_of_closed (hnone : g.held id = []) (a : Act) :
    requestsSent id (g.perform a).2 = [] := by
  cases perform_outbound (Or.inl hnone) a with
  | gone _ quiet => exact quiet
  | opened _ _ _ _ _ _ _ quiet => exact quiet
  | undisturbed _ _ _ _ _ quiet => exact quiet
  | acknowledged _ _ _ _ _ _ _ _ _ _ quiet => exact quiet
  | pumped _ c _ before _ _ =>
    rw [hnone] at before
    cases before

/-- When the gateway looks at the acknowledgement of what is under way, the front leaves. -/
theorem look_acknowledged (hc : g.held id = [c]) {p : Received} {later : List Received}
    (hfront : g.received = p :: later) (htunnel : g.config.tunnel = true)
    (hack : TunnelAck.ofPacket p.packet = .ok ⟨id, c.sendNo, Status.ok⟩) (hbusy : c.attempts ≠ 0)
    (now : Nat) :
    (g.perform (.look now)).1.held id = [{ c.advance with sendNo := c.sendNo + 1 }] ∧
      (g.perform (.look now)).2 = [] := by
  have hservice : p.packet.service = .tunnelResponse := by
    by_contra hne
    rw [TunnelAck.ofPacket, Packet.expect, if_neg hne] at hack
    cases hack
  obtain ⟨g', hg'⟩ : ∃ g', { g with received := later } = g' := ⟨_, rfl⟩
  have hheld : g'.held id = g.held id := by
    rw [← hg']
    rfl
  have hperform : g.perform (.look now) =
      (g'.update id (·.onAck ⟨id, c.sendNo, Status.ok⟩), []) := by
    rw [perform, hfront]
    simp only [hg', onPacket, hservice, htunnel, if_true, onTunnelAck, hack]
  rw [hperform]
  refine ⟨?_, rfl⟩
  simp only
  rw [held_update (fun c' _ => onAck_id c' _), if_pos rfl, hheld, hc, List.map_singleton, onAck,
    if_pos ⟨rfl, rfl, hbusy⟩]

/-- **The queue of a channel is served in order.**  Take a gateway that has been bound, any run, and
any part of a further turn (`acts`).  The books are about the gateway as it is (`b.gateway`), and
whoever has the number of a channel then fits together with them (`Tidy`): what was sent on the
channel carried one message of its queue after the other; each was sent a limited number of times,
always in the same octets, and with enough time between; it left when its acknowledgement was looked
at or when its last time had passed; and the number counts acknowledgements.  Without a channel
nothing is sent, and an acknowledgement of what is under way always makes the front leave. -/
theorem queue_is_served {host : Host} {inUse : List UInt16} {config : GatewayConfig} {g₀ : Gateway}
    (h : bind host inUse config = .ok g₀) (registrations : List Nat) (events : List Event)
    (acts : List Act) (id : UInt8) :
    let g := (runWith perform acts ((g₀.registered registrations).run events).1).1
    let b := acts.foldl (act id) (run id events (start (g₀.registered registrations)))
    b.gateway = g ∧
    (g.held id = [] → ∀ a, requestsSent id (g.perform a).2 = []) ∧
    ∀ c, g.held id = [c] →
      b.Tidy config id c ∧
      (c.attempts ≠ 0 → c.queue ≠ []) ∧
      ∀ now p later, g.received = p :: later → config.tunnel = true →
        TunnelAck.ofPacket p.packet = .ok ⟨id, c.sendNo, Status.ok⟩ → c.attempts ≠ 0 →
        (b.act id (.look now)).gone =
          b.gone ++ [⟨c.queue.headD [], b.tries, now, some p.packet⟩] := by
  intro g b
  have hgateway : b.gateway = g := by
    have hrun := run_gateway id events (start (g₀.registered registrations))
    exact (acts_gateway acts _).trans (by rw [hrun]; rfl)
  have hsound : b.Sound config id :=
    acts_sound (run_sound (start_sound h registrations id) events) acts
  refine ⟨hgateway, fun hnone a => requestsSent_of_closed hnone a, fun c hc => ?_⟩
  rw [← hgateway] at hc ⊢
  refine ⟨hsound.tidy c hc, hsound.orderly.busy id c hc, ?_⟩
  intro now p later hfront htunnel hack hbusy
  rw [← hsound.config_eq] at htunnel
  obtain ⟨hheld, hactions⟩ := look_acknowledged hc hfront htunnel hack hbusy now
  have hshorter : c.advance.queue.length < c.queue.length := by
    obtain ⟨message, rest, hqueue⟩ :=
      List.exists_cons_of_ne_nil (hsound.orderly.busy id c hc hbusy)
    rw [advance, hqueue, List.length_cons]
    exact Nat.lt_succ_self _
  rw [act, noting_of_left hc hheld hshorter (by rw [hactions]; rfl)]
  simp only [lookedAt, hfront, timeOf, List.head?_cons, Option.map_some]

/-! ## An exchange -/

/-- A client gets a channel, and two frames come from the bus.  The first is sent twice and then
acknowledged; the acknowledgement has been taken in but not looked at. -/
def exchange : List Event :=
  [.arrive (.octets askingOctets asker), .takeIn 0, .turn 0, .hear (unitFrame 0),
    .hear (unitFrame 1), .turn 0, .turn 1000,
    .arrive (.octets [0x06, 0x10, 0x04, 0x21, 0, 10, 4, 1, 0, 0] asker), .takeIn 1500]

/-- What was sent on the first channel until then. -/
def exchanged : Outbox := run 1 exchange (start (tunnellingGateway.registered [1, 2, 3]))

theorem queue_is_served_exchange :
    ∃ c, (((tunnellingGateway.registered [1, 2, 3]).run exchange).1.held 1 = [c] ∧
        c.queue.length = 2 ∧ c.attempts = 2) ∧
      exchanged.Tidy tunnellingGateway.config 1 c ∧
      exchanged.sent.map (·.time) = [0, 1000] ∧
      ∃ p, (exchanged.act 1 (.look 1500)).gone =
        [⟨c.queue.headD [], exchanged.tries, 1500, some p⟩] := by
  obtain ⟨hgateway, -, hopen⟩ :=
    queue_is_served bind_tunnellingGateway [1, 2, 3] exchange [] 1
  obtain ⟨c, hc⟩ : ∃ c, ((tunnellingGateway.registered [1, 2, 3]).run exchange).1.held 1 = [c] :=
    List.length_eq_one_iff.1 (by decide +kernel)
  obtain ⟨htidy, -, hleaves⟩ := hopen c hc
  have hqueue : (((tunnellingGateway.registered [1, 2, 3]).run exchange).1.held 1).map
      (fun c => (c.queue.length, c.attempts, c.sendNo)) = [(2, 2, 0)] := by decide +kernel
  rw [hc] at hqueue
  simp only [List.map_singleton, List.cons.injEq, Prod.mk.injEq, and_true] at hqueue
  obtain ⟨hlength, hattempts, hnumber⟩ := hqueue
  rw [List.foldl_nil, ← exchanged] at htidy hleaves
  refine ⟨c, ⟨hc, hlength, hattempts⟩, htidy, by decide +kernel, ?_⟩
  refine ⟨(TunnelAck.mk 1 0 Status.ok).toPacket, ?_⟩
  have hgone : (exchanged.act 1 (.look 1500)).gone = exchanged.gone ++
      [⟨c.queue.headD [], exchanged.tries, 1500, some (TunnelAck.mk 1 0 Status.ok).toPacket⟩] :=
    hleaves 1500 ⟨(TunnelAck.mk 1 0 Status.ok).toPacket, asker⟩ [] (by decide +kernel) rfl
      (by rw [hnumber]; rfl) (by rw [hattempts]; decide)
  have hnone : exchanged.gone = [] := by decide +kernel
  rw [hgone, hnone, List.nil_append]

end Outbox
end KnxBus
