import KnxBus.Proofs.Gateway.Places
import KnxBus.Proofs.Tunnel.Downward

/-!
# Each frame from the bus at most once, and in order

A gateway gives a frame up when it has been sent often enough, and the next one gets the same
number.  Copies of the one that was given up may still be on the way then, and so may be their
acknowledgements: one of them may be taken for an acknowledgement of the next frame, which is then
not delivered at all.  So a client need not get every frame.  What it gets is in the order of the
queue nevertheless, and nothing is in it twice.

## Why

Between the two sides there is a `Window`, and the messages that may be on the way down under an
index are those that are sent with so many acknowledgements before them.  The client takes one
message for each index.  A message that is sent under a higher index has its place further back in
the queue, so the messages that were taken one after the other have their places one behind the
other.

`Receipts` is a session together with its past on both sides: what joined the queue and what left
it, the frames from the bus among that, and the messages that the client has taken.  Nothing reads
it but statements.
-/

namespace KnxBus

/-- A session together with what was to be delivered and what was. -/
structure Receipts where
  /-- The client, the gateway and the ways between them. -/
  dialogue : Dialogue
  /-- What has joined the queue of the channel and what has left it. -/
  outbox : Outbox
  /-- The frames from the bus that were put into the queue, oldest first. -/
  pushed : List Frame
  /-- The messages that the client has taken, oldest first. -/
  taken : List Octets
  deriving DecidableEq, Repr

namespace Receipts
open Gateway Outbox

/-- The message that a client has taken between two moments, if it has: it was the oldest that
waited. -/
def newlyTaken (id : UInt8) (r r' : TunnelChronicle) : List Octets :=
  if r'.taken = r.taken then []
  else (r.waiting.take 1).filterMap fun p => (p.requestOn? id).map Prod.snd

/-- What a move enters into the books of the channel, as long as it is open. -/
def entered (id : UInt8) (m : Dialogue.Move) (b : Receipts) : Outbox :=
  match m with
  | .gateway a => if b.dialogue.gateway.gateway.held id = [] then b.outbox else b.outbox.act id a
  | _ => b.outbox

/-- The frames from the bus that a move puts into the queue. -/
def newlyPushed (id : UInt8) (m : Dialogue.Move) (d : Dialogue) : List Frame :=
  match m with
  | .gateway a =>
    if d.gateway.gateway.held id = [] then [] else d.gateway.gateway.offeredBy a
  | _ => []

/-- Something happens. -/
def step (id : UInt8) (m : Dialogue.Move) (b : Receipts) : Receipts :=
  let d := b.dialogue.step id m
  { dialogue := d
    outbox := { b.entered id m with gateway := d.gateway.gateway }
    pushed := b.pushed ++ newlyPushed id m b.dialogue
    taken := b.taken ++ newlyTaken id b.dialogue.client d.client }

/-- Things happen one after the other. -/
def run (id : UInt8) (moves : List Dialogue.Move) (b : Receipts) : Receipts :=
  moves.foldl (fun b m => b.step id m) b

/-- The channel has been granted, and nothing has been said yet. -/
def start (id : UInt8) (s : Dialogue.Setting) : Receipts :=
  { dialogue := Dialogue.start id s
    outbox := Outbox.start (Dialogue.start id s).gateway.gateway
    pushed := []
    taken := [] }

variable {id : UInt8} {b : Receipts}

/-- The session runs as it does without books. -/
theorem run_dialogue (moves : List Dialogue.Move) (b : Receipts) :
    (run id moves b).dialogue = Dialogue.run id moves b.dialogue := by
  induction moves generalizing b with
  | nil => rfl
  | cons m later ih => exact ih (b.step id m)

/-! ## The invariant -/

/-- The books fit together with the session. -/
structure Sound (id : UInt8) (b : Receipts) : Prop where
  /-- Both sides agree with their pasts. -/
  dialogue : b.dialogue.Sound id
  /-- The channel, if it is still open, fits together with what it has sent. -/
  outbox : ∃ config, b.outbox.SoundAt config id
  /-- The books are about the gateway as it is. -/
  gateway_eq : b.outbox.gateway = b.dialogue.gateway.gateway
  /-- The books count the acknowledgements that the gateway has seen. -/
  acked_eq : b.dialogue.gateway.acked = acked b.outbox.gone
  /-- The indications in the queue are of the frames from the bus. -/
  pushed_eq : b.outbox.offered.filterMap indicated? = b.pushed.map Frame.validated
  /-- What is on the ways fits. -/
  window : Window octetNo b.outbox.SentUnder b.dialogue.gateway.acked b.dialogue.client.taken
    (requestsOn id b.dialogue.downward) (acksOn id b.dialogue.upward)
  /-- The client has taken as many messages as it counts. -/
  taken_length : b.taken.length = b.dialogue.client.taken
  /-- Each of them was sent under its own index. -/
  taken_sent : ∀ i message, b.taken[i]? = some message → b.outbox.SentUnder i message

/-! ## What moves -/

theorem newlyTaken_of_same {r r' : TunnelChronicle} (h : r'.taken = r.taken) :
    newlyTaken id r r' = [] := if_pos h

theorem newlyTaken_of_taken {r r' : TunnelChronicle} (h : r'.taken = r.taken + 1) {p : Packet}
    {later : List Packet} {x : UInt8 × Octets} (hfront : r.waiting = p :: later)
    (hrequest : p.requestOn? id = some x) : newlyTaken id r r' = [x.2] := by
  have hmoved : r'.taken ≠ r.taken := by omega
  rw [newlyTaken, if_neg hmoved, hfront, List.take_succ_cons, List.take_zero,
    List.filterMap_cons_some (by rw [hrequest]; rfl)]
  rfl

/-- What is outside of the two sides touches nothing of the gateway but what waits there. -/
theorem gateway_step_outside (id : UInt8) {m : Dialogue.Move} (hm : m.IsOutside) (d : Dialogue) :
    (d.step id m).gateway.gateway.channels = d.gateway.gateway.channels ∧
      (d.step id m).gateway.gateway.config = d.gateway.gateway.config := by
  cases m with
  | client a => exact absurd hm not_false
  | gateway a => exact absurd hm not_false
  | arriveUp sender =>
    simp only [Dialogue.step]
    split <;> exact ⟨rfl, rfl⟩
  | arriveDown sender =>
    simp only [Dialogue.step]
    split <;> exact ⟨rfl, rfl⟩
  | loseUp n => exact ⟨rfl, rfl⟩
  | loseDown n => exact ⟨rfl, rfl⟩
  | otherUp p =>
    simp only [Dialogue.step]
    split <;> exact ⟨rfl, rfl⟩
  | otherDown p =>
    simp only [Dialogue.step]
    split <;> exact ⟨rfl, rfl⟩

/-- What is not done by the gateway enters nothing into the books of the channel. -/
theorem step_of_not_gateway {m : Dialogue.Move} (hm : ∀ a, m ≠ .gateway a) :
    b.step id m =
      { dialogue := b.dialogue.step id m
        outbox := { b.outbox with gateway := (b.dialogue.step id m).gateway.gateway }
        pushed := b.pushed
        taken := b.taken ++ newlyTaken id b.dialogue.client (b.dialogue.step id m).client } := by
  cases m with
  | gateway a => exact absurd rfl (hm a)
  | _ => simp only [step, entered, newlyPushed, List.append_nil]

theorem step_outside {m : Dialogue.Move} (hm : m.IsOutside) (h : b.Sound id) :
    (b.step id m).Sound id := by
  obtain ⟨hsound, hcarried⟩ := Dialogue.step_carried h.dialogue hm
  obtain ⟨hchannels, hconfig⟩ := gateway_step_outside id hm b.dialogue
  obtain ⟨config, hout⟩ := h.outbox
  have hnot : ∀ a, m ≠ .gateway a := by
    rintro a rfl
    exact hm
  rw [step_of_not_gateway hnot, newlyTaken_of_same hcarried.clientTaken_eq, List.append_nil]
  rw [← h.gateway_eq] at hchannels hconfig
  exact ⟨hsound, ⟨config, hout.withGateway hchannels hconfig⟩, rfl,
    hcarried.gatewayAcked_eq.trans h.acked_eq, h.pushed_eq,
    Dialogue.FitsDown.carried h.window hcarried,
    h.taken_length.trans hcarried.clientTaken_eq.symm, h.taken_sent⟩

/-- The client does something: it takes what the window shows, or nothing. -/
theorem step_client (h : b.Sound id) (a : Tunnel.Act) : (b.step id (.client a)).Sound id := by
  obtain ⟨hsound, heffect⟩ := TunnelChronicle.act_effect h.dialogue.client a
  obtain ⟨config, hout⟩ := h.outbox
  have hwindow := Dialogue.FitsDown.client h.window heffect
  have hbooks := hout.withGateway (g := b.dialogue.gateway.gateway)
    (congrArg Gateway.channels h.gateway_eq.symm) (congrArg Gateway.config h.gateway_eq.symm)
  have hstep : b.step id (.client a) =
      { dialogue := b.dialogue.step id (.client a)
        outbox := { b.outbox with gateway := (b.dialogue.step id (.client a)).gateway.gateway }
        pushed := b.pushed
        taken := b.taken ++
          newlyTaken id b.dialogue.client (b.dialogue.step id (.client a)).client } :=
    step_of_not_gateway fun _ h => nomatch h
  have hsilent : (b.dialogue.client.act a).1.taken = b.dialogue.client.taken →
      (b.step id (.client a)).Sound id := by
    intro htaken
    have hnone : newlyTaken id b.dialogue.client (b.dialogue.step id (.client a)).client = [] :=
      newlyTaken_of_same htaken
    rw [hstep, hnone, List.append_nil]
    exact ⟨⟨hsound, h.dialogue.gateway⟩, ⟨config, hbooks⟩, rfl, h.acked_eq, h.pushed_eq, hwindow,
      h.taken_length.trans htaken.symm, h.taken_sent⟩
  cases heffect with
  | quiet _ _ taken _ _ _ => exact hsilent taken
  | sends _ _ _ taken _ _ _ _ => exact hsilent taken
  | acknowledged _ _ _ _ taken _ _ _ _ _ => exact hsilent taken
  | takes p later message _ _ taken front numbered _ _ _ =>
    obtain ⟨-, hmessage, -⟩ := Dialogue.FitsDown.front h.window front numbered
    have hnew : newlyTaken id b.dialogue.client (b.dialogue.step id (.client a)).client =
        [message] := newlyTaken_of_taken taken front numbered
    rw [hstep, hnew]
    refine ⟨⟨hsound, h.dialogue.gateway⟩, ⟨config, hbooks⟩, rfl, h.acked_eq, h.pushed_eq, hwindow,
      ?_, ?_⟩
    · have hlength : b.taken.length + 1 = (b.dialogue.client.act a).1.taken := by
        rw [taken, h.taken_length]
      rw [List.length_append]
      exact hlength
    · intro i m hi
      rw [← h.taken_length] at hmessage
      rcases Nat.lt_trichotomy i b.taken.length with hlt | rfl | hgt
      · rw [List.getElem?_append_left hlt] at hi
        exact h.taken_sent i m hi
      · rw [List.getElem?_concat_length] at hi
        cases hi
        exact hmessage
      · rw [List.getElem?_eq_none] at hi
        · cases hi
        · rw [List.length_append, List.length_singleton]
          exact hgt

/-- The gateway does something: what it sends on the channel has the place that is next. -/
theorem step_gateway (h : b.Sound id) (a : Gateway.Act) : (b.step id (.gateway a)).Sound id := by
  obtain ⟨config, hout⟩ := h.outbox
  by_cases hheld : b.dialogue.gateway.gateway.held id = []
  · have hstep : b.step id (.gateway a) =
        { b with outbox := { b.outbox with gateway := b.dialogue.gateway.gateway } } := by
      simp only [step, entered, newlyPushed, Dialogue.step, if_pos hheld, newlyTaken_of_same,
        List.append_nil]
    rw [hstep, ← h.gateway_eq]
    exact h
  obtain ⟨c, hc⟩ : ∃ c, b.outbox.gateway.held id = [c] := by
    rcases hout.orderly.one with hnone | hc
    · exact absurd (h.gateway_eq ▸ hnone) hheld
    · exact hc
  have hentry := act_entry hout hc a
  obtain ⟨hsound, heffect⟩ := GatewayChronicle.act_effect h.dialogue.gateway a
  have hgateway : (b.dialogue.gateway.act id a).1.gateway = (b.outbox.act id a).gateway := by
    rw [Outbox.act, Outbox.noting_gateway, h.gateway_eq, GatewayChronicle.act,
      GatewayChronicle.noting_gateway]
  have hstep : b.step id (.gateway a) =
      { dialogue := b.dialogue.step id (.gateway a)
        outbox := b.outbox.act id a
        pushed := b.pushed ++ b.outbox.gateway.offeredBy a
        taken := b.taken } := by
    simp only [step, entered, newlyPushed, Dialogue.step, if_neg hheld, newlyTaken_of_same,
      List.append_nil, hgateway, h.gateway_eq]
  have hsent : ∀ i message, b.outbox.SentUnder i message →
      (b.outbox.act id a).SentUnder i message :=
    fun i message hi => hi.mono hentry.offered_prefix hentry.gone_prefix
  have hacked : b.dialogue.gateway.acked = acked b.outbox.gone := h.acked_eq
  rw [hstep]
  have hdialogue : b.dialogue.step id (.gateway a) = { b.dialogue with
      gateway := (b.dialogue.gateway.act id a).1
      down := b.dialogue.down ++ wireOf (datagramsOf (b.dialogue.gateway.act id a).2) } := by
    rw [Dialogue.step, if_neg hheld]
  rw [hdialogue]
  refine ⟨⟨h.dialogue.client, hsound⟩, ⟨config, act_soundAt hout a⟩, hgateway.symm, ?_, ?_, ?_,
    h.taken_length, fun i message hi => hsent i message (h.taken_sent i message hi)⟩
  · rw [h.gateway_eq] at hc hentry
    exact hentry.acked_chronicle hc h.acked_eq
  · rw [List.map_append, ← h.pushed_eq]
    exact hentry.indicated_offered hc
  · refine Dialogue.FitsDown.gateway (Window.mono h.window hsent) (heffect c (h.gateway_eq ▸ hc)) ?_
    rintro ⟨n, message⟩ hx
    obtain ⟨rest, hqueue⟩ := front_of_sent (h.gateway_eq ▸ hc) a hx
    rw [hacked]
    exact hsent _ _ ((hout.tidy c hc).sentUnder_front hqueue)

theorem step_sound (h : b.Sound id) (m : Dialogue.Move) : (b.step id m).Sound id := by
  cases m with
  | client a => exact step_client h a
  | gateway a => exact step_gateway h a
  | arriveUp sender => exact step_outside trivial h
  | arriveDown sender => exact step_outside trivial h
  | loseUp n => exact step_outside trivial h
  | loseDown n => exact step_outside trivial h
  | otherUp p => exact step_outside trivial h
  | otherDown p => exact step_outside trivial h

theorem run_sound (h : b.Sound id) (moves : List Dialogue.Move) : (run id moves b).Sound id := by
  induction moves generalizing b with
  | nil => exact h
  | cons m later ih => exact ih (step_sound h m)

theorem start_sound (id : UInt8) (s : Dialogue.Setting) : (start id s).Sound id where
  dialogue := Dialogue.start_sound id s
  outbox := by
    have hheld : (start id s).outbox.gateway.held id =
        [.fresh id s.clientControl s.clientData s.openedAt s.gateway.config.channelTimeout] :=
      held_granting id s.clientControl s.clientData s.openedAt s.gateway
    refine ⟨_, .of_held hheld (fun h => absurd rfl h) (Nat.zero_le _), rfl, fun c hc => ?_⟩
    rw [hheld] at hc
    cases hc
    refine ⟨rfl, rfl, fun before d after hsplit => ?_, fun _ _ hqueue => ?_, rfl,
      fun t ht => ?_, rfl⟩
    · exact absurd hsplit.symm (List.append_ne_nil_of_right_ne_nil _ (List.cons_ne_nil d after))
    · cases hqueue
    · cases ht
  gateway_eq := rfl
  acked_eq := rfl
  pushed_eq := rfl
  window := Window.start
  taken_length := rfl
  taken_sent := fun i message hi => by cases hi

/-! ## What the client hears -/

/-- A message is reported as the frame that it indicates. -/
theorem report_eq (mode : MonitorMode) (message : Octets) :
    Tunnel.report mode message =
      ([message].filterMap indicated?).flatMap fun f => mode.framesFor f true := by
  have hone : [message].filterMap indicated? = (indicated? message).toList := by
    cases h : indicated? message <;> simp [h]
  rw [hone, Tunnel.report, indicated?]
  cases Cemi.decode message with
  | error cause => rfl
  | ok m =>
    obtain ⟨code, f⟩ := m
    cases code with
    | indication => exact (List.flatMap_singleton _ _).symm
    | _ => rfl

/-- A client that looks at the request that it expects takes its message and reports it. -/
theorem act_look_expected {r : TunnelChronicle} {s : TunnelSession} {p : Received}
    {later : List Received} {message : Octets} (hconnected : r.tunnel.isConnected = true)
    (hlink : r.tunnel.link = .connected s) (hagrees : r.Agrees id s)
    (hfront : r.tunnel.received = p :: later)
    (hexpected : p.packet.requestOn? s.channel = some (s.receiveNo, message)) (now : Nat) :
    (r.act (.look now)).1.taken = r.taken + 1 ∧
      (r.act (.look now)).1.tunnel.inbox =
        r.tunnel.inbox ++ Tunnel.report r.tunnel.mode message := by
  have hlook := Tunnel.perform_look_cons hfront now
  have hpacket := Tunnel.onPacket_expected
    (show (r.tunnel.withReceived later).link = .connected s from hlink) now hexpected
  have hmoved : s.receiveNo + 1 ≠ s.receiveNo := by
    rw [hagrees.receiveNo_eq, ← octetNo_succ]
    exact alternates_octetNo r.taken
  rw [TunnelChronicle.act_of_connected hconnected, hlook, hpacket,
    TunnelChronicle.noting_of_links hlink rfl]
  exact ⟨if_neg hmoved, rfl⟩

/-- When a client looks at a datagram, it hears the frame in the message that it takes, if it takes
one, and nothing else. -/
theorem act_look_inbox {r : TunnelChronicle} (h : r.Sound id) (now : Nat) :
    (r.act (.look now)).1.tunnel.inbox =
      r.tunnel.inbox ++ ((newlyTaken id r (r.act (.look now)).1).filterMap indicated?).flatMap
        fun f => r.tunnel.mode.framesFor f true := by
  have hnothing : ∀ r' : TunnelChronicle, r'.tunnel.inbox = r.tunnel.inbox → r'.taken = r.taken →
      r'.tunnel.inbox = r.tunnel.inbox ++ ((newlyTaken id r r').filterMap indicated?).flatMap
        fun f => r.tunnel.mode.framesFor f true := by
    intro r' hinbox htaken
    rw [newlyTaken_of_same htaken, hinbox]
    exact (List.append_nil _).symm
  cases hconnected : r.tunnel.isConnected with
  | false =>
    have hact : r.act (.look now) = (r, []) := by
      rw [TunnelChronicle.act, hconnected]
      rfl
    rw [hact]
    exact hnothing r rfl rfl
  | true =>
    obtain ⟨s, hlink, hagrees⟩ := h hconnected
    have heffect := (TunnelChronicle.act_effect h (.look now)).2
    have hact : (r.act (.look now)).1.tunnel = (r.tunnel.perform (.look now)).1 := by
      rw [TunnelChronicle.act_of_connected hconnected, TunnelChronicle.noting]
      split <;> rfl
    cases hfront : r.tunnel.received with
    | nil =>
      refine hnothing _ ?_ ?_
      · rw [hact, Tunnel.perform_look_nil hfront]
      · rw [TunnelChronicle.act_of_connected hconnected, Tunnel.perform_look_nil hfront,
          TunnelChronicle.noting_of_links hlink hlink]
        exact if_pos rfl
    | cons p later =>
      have hwaiting : r.waiting = p.packet :: later.map (·.packet) := by
        rw [TunnelChronicle.waiting, hfront, List.map_cons]
      by_cases hexpected : ∃ message, p.packet.requestOn? s.channel = some (s.receiveNo, message)
      · obtain ⟨message, hexpected⟩ := hexpected
        obtain ⟨htaken, hinbox⟩ := act_look_expected hconnected hlink hagrees hfront hexpected now
        rw [hagrees.channel_eq] at hexpected
        rw [newlyTaken_of_taken htaken hwaiting hexpected, hinbox, report_eq]
      · refine hnothing _ ?_ ?_
        · have hlink' : (r.tunnel.withReceived later).link = .connected s := hlink
          rw [hact, Tunnel.perform_look_cons hfront]
          exact Tunnel.onPacket_inbox hlink' (fun message hm => hexpected ⟨message, hm⟩) now
        · cases heffect with
          | quiet _ _ taken _ _ _ => exact taken
          | sends _ _ _ taken _ _ _ _ => exact taken
          | acknowledged _ _ _ _ taken _ _ _ _ _ => exact taken
          | takes p' _ message _ _ _ front numbered _ _ _ =>
            rw [hwaiting] at front
            obtain ⟨rfl, -⟩ := List.cons.inj front
            refine absurd ⟨message, ?_⟩ hexpected
            rw [hagrees.channel_eq, hagrees.receiveNo_eq]
            exact numbered

/-! ## Order -/

/-- **A client takes frames in the order of the queue, each at most once.**  Take any state of a
session.  What the client has taken is a part of what joined the queue of the channel, in the same
order and at different places; the queue is what has joined it and not left it.  The frames behind
the indications that joined are those that came from the bus while the channel was open (`pushed`),
so the frames that the client has accepted are a part of them, in the same order and each of them
once.  What the client accepts next is what it then hears. -/
theorem taken_sublist_offered (id : UInt8) (s : Dialogue.Setting) (moves : List Dialogue.Move) :
    let b := run id moves (start id s)
    b.dialogue = Dialogue.run id moves (Dialogue.start id s) ∧
    b.taken.length = b.dialogue.client.taken ∧
    b.taken.Sublist b.outbox.offered ∧
    (∀ c, b.dialogue.gateway.gateway.held id = [c] →
      b.outbox.offered = b.outbox.gone.map (·.message) ++ c.queue) ∧
    b.outbox.offered.filterMap indicated? = b.pushed.map Frame.validated ∧
    (b.taken.filterMap indicated?).Sublist (b.pushed.map Frame.validated) ∧
    ∀ now, (b.dialogue.client.act (.look now)).1.tunnel.inbox =
      b.dialogue.client.tunnel.inbox ++
        ((newlyTaken id b.dialogue.client (b.dialogue.client.act (.look now)).1).filterMap
          indicated?).flatMap fun f => b.dialogue.client.tunnel.mode.framesFor f true := by
  intro b
  have hsound : b.Sound id := run_sound (start_sound id s) moves
  obtain ⟨config, hout⟩ := hsound.outbox
  have hsublist : b.taken.Sublist b.outbox.offered := sublist_offered hsound.taken_sent
  refine ⟨run_dialogue moves (start id s), hsound.taken_length, hsublist, fun c hc => ?_,
    hsound.pushed_eq, ?_, act_look_inbox hsound.dialogue.client⟩
  · rw [← hsound.gateway_eq] at hc
    exact (hout.tidy c hc).order
  · rw [← hsound.pushed_eq]
    exact hsublist.filterMap indicated?

/-- A frame with a mark comes from the bus. -/
def marked (mark : UInt8) : Frame := .addressed (.group .broadcast) [0, mark]

/-- The first frame is given up while it is on the way, and the second one gets its number.  The
client takes the first, its acknowledgement is taken for one of the second, and the second is
dropped.  The third frame arrives. -/
def lateAnswer : List Dialogue.Move :=
  [.gateway (.hear (marked 1)), .gateway .listen, .gateway (.pump 0), .gateway (.pump 1000),
    .gateway (.hear (marked 2)), .gateway .listen, .gateway (.pump 1000),
    .arriveDown ⟨⟨10, 0, 0, 1⟩, 3671⟩, .client (.look 1000),
    .arriveUp ⟨⟨10, 0, 0, 2⟩, 50000⟩, .gateway (.look 1000),
    .arriveDown ⟨⟨10, 0, 0, 1⟩, 3671⟩, .client (.look 1000),
    .gateway (.hear (marked 3)), .gateway .listen, .gateway (.pump 2000),
    .arriveDown ⟨⟨10, 0, 0, 1⟩, 3671⟩, .client (.look 2000)]

example :
    (run 1 lateAnswer (start 1 .twoHosts)).pushed = [marked 1, marked 2, marked 3] ∧
      (run 1 lateAnswer (start 1 .twoHosts)).taken.filterMap indicated? =
        [marked 1, marked 3] := by
  decide +kernel

end Receipts
end KnxBus
