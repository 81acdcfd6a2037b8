import KnxBus.Proofs.Gateway.Chronicle
import KnxBus.Proofs.Tunnel.Chronicle

/-!
# A session of a client with a gateway

A client and a gateway have just agreed on a channel.  From then on datagrams go both ways, as
octets; on each way they keep their order and may be lost.  Everything else about the two is left
open: the gateway has other channels, others send datagrams to both, and both do what they do in any
order.

The run ends for a side when the session does: for the client when it has given the channel up or
lost it, for the gateway when the channel is closed.  What a side does afterwards is another
session, perhaps under the same number.

Both directions of the session use the ways alike.  Requests of the client go up and are
acknowledged on the way down, requests of the gateway go down and are acknowledged on the way up.
The two directions do not interfere, so each has its own invariant.  What both need to know is how
the ways treat datagrams, and that is said here.
-/

namespace KnxBus

/-- A client, a gateway and the octets between them. -/
structure Dialogue where
  /-- The client, with the past of its session. -/
  client : TunnelChronicle
  /-- The gateway, with the past of the channel. -/
  gateway : GatewayChronicle
  /-- Datagrams on the way to the gateway, oldest first. -/
  up : List Octets
  /-- Datagrams on the way to the client, oldest first. -/
  down : List Octets
  deriving DecidableEq, Repr

namespace Dialogue

/-- What can happen. -/
inductive Move where
  /-- The client does something. -/
  | client (a : Tunnel.Act)
  /-- The gateway does something. -/
  | gateway (a : Gateway.Act)
  /-- The oldest datagram on the way up reaches the socket of the gateway. -/
  | arriveUp (sender : Endpoint)
  /-- The oldest datagram on the way down reaches the socket of the client. -/
  | arriveDown (sender : Endpoint)
  /-- A datagram on the way up is lost. -/
  | loseUp (n : Nat)
  /-- A datagram on the way down is lost. -/
  | loseDown (n : Nat)
  /-- Somebody else sends a datagram to the gateway. -/
  | otherUp (p : Received)
  /-- Somebody else sends a datagram to the client. -/
  | otherDown (p : Received)

/-- A datagram that is no part of what is said on the channel. -/
def IsForeign (id : UInt8) (p : Packet) : Prop := p.requestOn? id = none ∧ p.ackOn? id = none

instance (id : UInt8) (p : Packet) : Decidable (IsForeign id p) :=
  inferInstanceAs (Decidable (_ ∧ _))

/-- Something happens.  Others may send what they like, but not in the name of this session. -/
def step (id : UInt8) (m : Move) (d : Dialogue) : Dialogue :=
  match m with
  | .client a =>
    { d with client := (d.client.act a).1, up := d.up ++ wireOf (d.client.act a).2 }
  | .gateway a =>
    if d.gateway.gateway.held id = [] then d
    else
      { d with
        gateway := (d.gateway.act id a).1
        down := d.down ++ wireOf (datagramsOf (d.gateway.act id a).2) }
  | .arriveUp sender =>
    match d.up with
    | [] => d
    | content :: later =>
      { d with
        gateway := d.gateway.hear (d.gateway.gateway.socket.accept content sender)
        up := later }
  | .arriveDown sender =>
    match d.down with
    | [] => d
    | content :: later =>
      { d with
        client := d.client.hear (d.client.tunnel.socket.accept content sender)
        down := later }
  | .loseUp n => { d with up := d.up.eraseIdx n }
  | .loseDown n => { d with down := d.down.eraseIdx n }
  | .otherUp p =>
    if IsForeign id p.packet then { d with gateway := d.gateway.hear [p] } else d
  | .otherDown p =>
    if IsForeign id p.packet then { d with client := d.client.hear [p] } else d

/-- Things happen one after the other. -/
def run (id : UInt8) (moves : List Move) (d : Dialogue) : Dialogue :=
  moves.foldl (fun d m => d.step id m) d

/-- What every move keeps, a run keeps. -/
theorem run_invariant {id : UInt8} (Inv : Dialogue → Prop)
    (hstep : ∀ m d, Inv d → Inv (d.step id m)) (moves : List Move) {d : Dialogue} (h : Inv d) :
    Inv (run id moves d) := by
  induction moves generalizing d with
  | nil => exact h
  | cons m later ih => exact ih (hstep m d h)

/-- What the two sides need to agree upon a channel. -/
structure Setting where
  /-- The client, while it waits for the answer. -/
  client : Tunnel
  /-- The gateway, before it has opened the channel. -/
  gateway : Gateway
  /-- Where the client sends data to. -/
  data : Endpoint
  /-- Where the client wants messages about the channel. -/
  clientControl : Endpoint
  /-- Where the client wants data. -/
  clientData : Endpoint
  /-- When the channel was opened. -/
  openedAt : Nat
  /-- When the client has learnt of it. -/
  grantedAt : Nat
  deriving DecidableEq, Repr

/-- The channel has been granted, and nothing has been said yet. -/
def start (id : UInt8) (s : Setting) : Dialogue :=
  { client := ⟨s.client.granted id s.data s.grantedAt, [], 0, 0⟩
    gateway := ⟨s.gateway.granting id s.clientControl s.clientData s.openedAt, [], [], 0, 0⟩
    up := []
    down := [] }

/-! ## What is on the ways -/

/-- The datagrams that the gateway has still to look at, or that are on the way to it. -/
def upward (d : Dialogue) : List Packet := d.gateway.waiting ++ arriving d.up

/-- The datagrams that the client has still to look at, or that are on the way to it. -/
def downward (d : Dialogue) : List Packet := d.client.waiting ++ arriving d.down

/-- Both sides agree with their pasts. -/
structure Sound (id : UInt8) (d : Dialogue) : Prop where
  client : d.client.Sound id
  gateway : d.gateway.Sound id

/-- The ways do nothing but lose datagrams, and others add none that matter. -/
structure Carried (id : UInt8) (d d' : Dialogue) : Prop where
  submitted_eq : d'.client.submitted = d.client.submitted
  clientAcked_eq : d'.client.acked = d.client.acked
  clientTaken_eq : d'.client.taken = d.client.taken
  accepted_eq : d'.gateway.accepted = d.gateway.accepted
  forwarded_eq : d'.gateway.forwarded = d.gateway.forwarded
  gatewayAcked_eq : d'.gateway.acked = d.gateway.acked
  settled : d'.gateway.Settled id → d.gateway.Settled id
  requestsUp : (requestsOn id d'.upward).Sublist (requestsOn id d.upward)
  acksUp : (acksOn id d'.upward).Sublist (acksOn id d.upward)
  requestsDown : (requestsOn id d'.downward).Sublist (requestsOn id d.downward)
  acksDown : (acksOn id d'.downward).Sublist (acksOn id d.downward)

variable {id : UInt8} {d d' : Dialogue}

/-- The sides are as before, and on the ways is no more than before. -/
theorem carried_of_sublists (hclient : d'.client = { d.client with tunnel := d'.client.tunnel })
    (hgateway : d'.gateway = { d.gateway with gateway := d'.gateway.gateway })
    (hheld : d'.gateway.gateway.held id = d.gateway.gateway.held id)
    (hrequestsUp : (requestsOn id d'.upward).Sublist (requestsOn id d.upward))
    (hacksUp : (acksOn id d'.upward).Sublist (acksOn id d.upward))
    (hrequestsDown : (requestsOn id d'.downward).Sublist (requestsOn id d.downward))
    (hacksDown : (acksOn id d'.downward).Sublist (acksOn id d.downward)) : Carried id d d' where
  submitted_eq := by rw [hclient]
  clientAcked_eq := by rw [hclient]
  clientTaken_eq := by rw [hclient]
  accepted_eq := by rw [hgateway]
  forwarded_eq := by rw [hgateway]
  gatewayAcked_eq := by rw [hgateway]
  settled := by
    rintro ⟨habandoned, c, hc, hattempts⟩
    rw [hheld] at hc
    rw [hgateway] at habandoned
    exact ⟨habandoned, c, hc, hattempts⟩
  requestsUp := hrequestsUp
  acksUp := hacksUp
  requestsDown := hrequestsDown
  acksDown := hacksDown

/-- The sides are as before, and fewer datagrams are on the ways. -/
theorem carried_of_ways (hclient : d'.client = { d.client with tunnel := d'.client.tunnel })
    (hgateway : d'.gateway = { d.gateway with gateway := d'.gateway.gateway })
    (hheld : d'.gateway.gateway.held id = d.gateway.gateway.held id)
    (hup : d'.upward.Sublist d.upward) (hdown : d'.downward.Sublist d.downward) :
    Carried id d d' :=
  carried_of_sublists hclient hgateway hheld (requestsOn_sublist hup) (acksOn_sublist hup)
    (requestsOn_sublist hdown) (acksOn_sublist hdown)

theorem Carried.refl (id : UInt8) (d : Dialogue) : Carried id d d :=
  carried_of_ways rfl rfl rfl (List.Sublist.refl _) (List.Sublist.refl _)

/-- What comes out of the way waits to be looked at, unless the socket drops it. -/
theorem arrived_sublist (waiting : List Packet) (s : UdpSocket) (content : Octets)
    (later : List Octets) (sender : Endpoint) :
    ((waiting ++ (s.accept content sender).map (·.packet)) ++ arriving later).Sublist
      (waiting ++ arriving (content :: later)) := by
  have hcons : arriving (content :: later) = arriving [content] ++ arriving later := by
    rw [← arriving_append, List.singleton_append]
  rw [hcons, List.append_assoc]
  exact ((accept_sublist s content sender).append_right _).append_left _

theorem requestsOn_foreign {p : Packet} (hp : IsForeign id p) (waiting later : List Packet) :
    (requestsOn id ((waiting ++ [p]) ++ later)).Sublist (requestsOn id (waiting ++ later)) := by
  have hnone : requestsOn id [p] = [] := List.filterMap_eq_nil_iff.2 fun q hq => by
    rw [List.mem_singleton.1 hq]
    exact hp.1
  have hsame : requestsOn id ((waiting ++ [p]) ++ later) = requestsOn id (waiting ++ later) := by
    rw [requestsOn_append, requestsOn_append, requestsOn_append, hnone, List.append_nil]
  exact hsame ▸ List.Sublist.refl _

theorem acksOn_foreign {p : Packet} (hp : IsForeign id p) (waiting later : List Packet) :
    (acksOn id ((waiting ++ [p]) ++ later)).Sublist (acksOn id (waiting ++ later)) := by
  have hnone : acksOn id [p] = [] := List.filterMap_eq_nil_iff.2 fun q hq => by
    rw [List.mem_singleton.1 hq]
    exact hp.2
  have hsame : acksOn id ((waiting ++ [p]) ++ later) = acksOn id (waiting ++ later) := by
    rw [acksOn_append, acksOn_append, acksOn_append, hnone, List.append_nil]
  exact hsame ▸ List.Sublist.refl _

theorem waiting_hear_client (packets : List Received) :
    (d.client.hear packets).waiting = d.client.waiting ++ packets.map (·.packet) :=
  List.map_append

theorem waiting_hear_gateway (packets : List Received) :
    (d.gateway.hear packets).waiting = d.gateway.waiting ++ packets.map (·.packet) :=
  List.map_append

/-- What is sent goes behind what is on the way already. -/
theorem requestsOn_sent (id : UInt8) (waiting : List Packet) (way : List Octets)
    (sent : List Outgoing) :
    requestsOn id (waiting ++ arriving (way ++ wireOf sent)) =
      requestsOn id (waiting ++ arriving way) ++ requestsOn id (traffic sent) := by
  rw [arriving_append, ← List.append_assoc, requestsOn_append]
  rfl

theorem acksOn_sent (id : UInt8) (waiting : List Packet) (way : List Octets)
    (sent : List Outgoing) :
    acksOn id (waiting ++ arriving (way ++ wireOf sent)) =
      acksOn id (waiting ++ arriving way) ++ acksOn id (traffic sent) := by
  rw [arriving_append, ← List.append_assoc, acksOn_append]
  rfl

/-- What has been looked at was the oldest that waited. -/
theorem sublist_of_front {waiting waiting' later : List Packet} {p : Packet}
    (hfront : waiting = p :: later) (h : waiting' = later) : waiting'.Sublist waiting := by
  rw [h, hfront]
  exact List.sublist_cons_self p later

/-- What has been looked at is no longer on the way. -/
theorem requestsOn_looked {waiting waiting' : List Packet} (h : waiting'.Sublist waiting)
    (way : List Octets) :
    (requestsOn id (waiting' ++ arriving way)).Sublist (requestsOn id (waiting ++ arriving way)) :=
  requestsOn_sublist (h.append_right _)

theorem acksOn_looked {waiting waiting' : List Packet} (h : waiting'.Sublist waiting)
    (way : List Octets) :
    (acksOn id (waiting' ++ arriving way)).Sublist (acksOn id (waiting ++ arriving way)) :=
  acksOn_sublist (h.append_right _)

/-- What has come of a move. -/
inductive Outcome (id : UInt8) (d d' : Dialogue) : Prop where
  /-- The client has done something that matters to the gateway. -/
  | client (r : TunnelChronicle) (sent : List Outgoing)
      (effect : TunnelChronicle.Effect id d.client r sent)
      (eq : d' = { d with client := r, up := d.up ++ wireOf sent })
  /-- The gateway has done something that matters to the client. -/
  | gateway (r : GatewayChronicle) (sent : List Outgoing)
      (effect : GatewayChronicle.Effect id d.gateway r sent)
      (eq : d' = { d with gateway := r, down := d.down ++ wireOf sent })
  /-- At most something is lost. -/
  | carried (h : Carried id d d')

/-- The gateway hears datagrams, and no more is said on the channel than was on the way. -/
theorem heard_by_gateway (h : d.Sound id) (packets : List Received) (later : List Octets)
    (hrequests : (requestsOn id ((d.gateway.waiting ++ packets.map (·.packet)) ++
      arriving later)).Sublist (requestsOn id d.upward))
    (hacks : (acksOn id ((d.gateway.waiting ++ packets.map (·.packet)) ++
      arriving later)).Sublist (acksOn id d.upward)) :
    Sound id { d with gateway := d.gateway.hear packets, up := later } ∧
      Carried id d { d with gateway := d.gateway.hear packets, up := later } := by
  refine ⟨⟨h.client, GatewayChronicle.hear_sound h.gateway packets⟩, ?_⟩
  refine carried_of_sublists rfl rfl rfl ?_ ?_ (List.Sublist.refl _) (List.Sublist.refl _)
  · rw [upward, waiting_hear_gateway]
    exact hrequests
  · rw [upward, waiting_hear_gateway]
    exact hacks

/-- The client hears datagrams, and no more is said on the channel than was on the way. -/
theorem heard_by_client (h : d.Sound id) (packets : List Received) (later : List Octets)
    (hrequests : (requestsOn id ((d.client.waiting ++ packets.map (·.packet)) ++
      arriving later)).Sublist (requestsOn id d.downward))
    (hacks : (acksOn id ((d.client.waiting ++ packets.map (·.packet)) ++
      arriving later)).Sublist (acksOn id d.downward)) :
    Sound id { d with client := d.client.hear packets, down := later } ∧
      Carried id d { d with client := d.client.hear packets, down := later } := by
  refine ⟨⟨TunnelChronicle.hear_sound h.client packets, h.gateway⟩, ?_⟩
  refine carried_of_sublists rfl rfl rfl (List.Sublist.refl _) (List.Sublist.refl _) ?_ ?_
  · rw [downward, waiting_hear_client]
    exact hrequests
  · rw [downward, waiting_hear_client]
    exact hacks

/-- A move that is not made by one of the sides. -/
def Move.IsOutside : Move → Prop
  | .client _ | .gateway _ => False
  | _ => True

/-- What happens outside of the two sides loses datagrams at most. -/
theorem step_carried (h : d.Sound id) {m : Move} (hm : m.IsOutside) :
    (d.step id m).Sound id ∧ Carried id d (d.step id m) := by
  have hnothing : d.Sound id ∧ Carried id d d := ⟨h, Carried.refl id d⟩
  cases m with
  | client a => exact absurd hm not_false
  | gateway a => exact absurd hm not_false
  | arriveUp sender =>
    cases hway : d.up with
    | nil =>
      have hstep : d.step id (.arriveUp sender) = d := by rw [step, hway]
      rw [hstep]
      exact hnothing
    | cons content later =>
      have harrived :=
        arrived_sublist d.gateway.waiting d.gateway.gateway.socket content later sender
      rw [← hway] at harrived
      rw [step, hway]
      exact heard_by_gateway h _ later (requestsOn_sublist harrived) (acksOn_sublist harrived)
  | arriveDown sender =>
    cases hway : d.down with
    | nil =>
      have hstep : d.step id (.arriveDown sender) = d := by rw [step, hway]
      rw [hstep]
      exact hnothing
    | cons content later =>
      have harrived := arrived_sublist d.client.waiting d.client.tunnel.socket content later sender
      rw [← hway] at harrived
      rw [step, hway]
      exact heard_by_client h _ later (requestsOn_sublist harrived) (acksOn_sublist harrived)
  | loseUp n =>
    refine ⟨⟨h.client, h.gateway⟩, ?_⟩
    refine carried_of_ways rfl rfl rfl ?_ (List.Sublist.refl _)
    exact ((List.eraseIdx_sublist d.up n).filterMap _).append_left _
  | loseDown n =>
    refine ⟨⟨h.client, h.gateway⟩, ?_⟩
    refine carried_of_ways rfl rfl rfl (List.Sublist.refl _) ?_
    exact ((List.eraseIdx_sublist d.down n).filterMap _).append_left _
  | otherUp p =>
    by_cases hforeign : IsForeign id p.packet
    · rw [step, if_pos hforeign]
      exact heard_by_gateway h [p] d.up (requestsOn_foreign hforeign _ _)
        (acksOn_foreign hforeign _ _)
    · rw [step, if_neg hforeign]
      exact hnothing
  | otherDown p =>
    by_cases hforeign : IsForeign id p.packet
    · rw [step, if_pos hforeign]
      exact heard_by_client h [p] d.down (requestsOn_foreign hforeign _ _)
        (acksOn_foreign hforeign _ _)
    · rw [step, if_neg hforeign]
      exact hnothing

/-- **Whatever happens is one of three things**, and both sides go on agreeing with their pasts. -/
theorem step_outcome (h : d.Sound id) (m : Move) :
    (d.step id m).Sound id ∧ Outcome id d (d.step id m) := by
  have houtside : m.IsOutside → (d.step id m).Sound id ∧ Outcome id d (d.step id m) := by
    intro hm
    obtain ⟨hsound, hcarried⟩ := step_carried h hm
    exact ⟨hsound, Outcome.carried hcarried⟩
  cases m with
  | client a =>
    obtain ⟨hsound, heffect⟩ := TunnelChronicle.act_effect h.client a
    exact ⟨⟨hsound, h.gateway⟩, Outcome.client _ _ heffect rfl⟩
  | gateway a =>
    by_cases hheld : d.gateway.gateway.held id = []
    · rw [step, if_pos hheld]
      exact ⟨h, Outcome.carried (Carried.refl id d)⟩
    · obtain hnone | ⟨c, hc⟩ := h.gateway.one
      · exact absurd hnone hheld
      · obtain ⟨hsound, heffect⟩ := GatewayChronicle.act_effect h.gateway a
        rw [step, if_neg hheld]
        exact ⟨⟨h.client, hsound⟩, Outcome.gateway _ _ (heffect c hc) rfl⟩
  | arriveUp sender => exact houtside trivial
  | arriveDown sender => exact houtside trivial
  | loseUp n => exact houtside trivial
  | loseDown n => exact houtside trivial
  | otherUp p => exact houtside trivial
  | otherDown p => exact houtside trivial

theorem start_sound (id : UInt8) (s : Setting) : (start id s).Sound id := by
  refine ⟨fun _ => ⟨_, rfl, rfl, rfl, rfl, fun _ => rfl, fun p hp => ?_⟩, ?_⟩
  · cases hp
  · refine GatewayChronicle.sound_of_held (Gateway.held_granting id _ _ _ _) ⟨rfl, rfl, ?_, ?_⟩
    · exact fun h => absurd rfl h
    · intro i q hq
      cases hq

end Dialogue
end KnxBus
