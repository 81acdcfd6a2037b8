import KnxBus.Ip.Socket
import KnxBus.Ip.Tunnel
import KnxBus.Proofs.Cemi
import KnxBus.Proofs.Ip.Packet

/-!
# Datagrams between a client and a gateway

A datagram that leaves a host and is not lost arrives as the same datagram, or is dropped by the
socket because it is too long or comes from the wrong sender.  So what arrives of the datagrams that
were sent is a part of them, in the same order (`traffic`).

Of all datagrams only two kinds move the counters of a channel: requests that carry a frame, and
acknowledgements.  `requestsOn` and `acksOn` take those of one channel out of a list of datagrams.
All others are *asides*.
-/

namespace KnxBus

/-! ## Datagrams that are cut off -/

namespace Packet

/-- What is read from the front of a datagram is the datagram, if all of it is there, and nothing
otherwise. -/
theorem decode_take_of_toOctets {p : Packet} {b : Octets} (h : p.toOctets = .ok b)
    (hcanonical : p.IsCanonical) :
    (decode (b.take maxReceived)).toOption = if b.length ≤ maxReceived then some p else none := by
  obtain ⟨hlength, rfl⟩ := toOctets_eq_ok_iff.1 h
  have hfront := p.length_header
  rw [wire, List.take_append, hfront, List.take_of_length_le (by rw [hfront]; decide),
    decode_header hlength, List.length_append, hfront, hcanonical, List.length_take]
  by_cases hfits : 6 + p.body.length ≤ maxReceived
  · have htake : p.body.take (maxReceived - 6) = p.body := List.take_of_length_le (by omega)
    rw [if_pos (by omega), if_pos hfits, htake]
    rfl
  · have hcut : min (maxReceived - 6) p.body.length ≠ p.body.length := by
      have hmax : maxReceived = 512 := rfl
      omega
    rw [if_neg hcut, if_neg hfits]
    rfl

end Packet

/-! ## Traffic -/

/-- The datagrams that can be read from octets on the way. -/
def arriving (wire : List Octets) : List Packet :=
  wire.filterMap fun b => (Packet.decode (b.take Packet.maxReceived)).toOption

/-- What leaves the host of the datagrams that are to be sent. -/
def wireOf (sent : List Outgoing) : List Octets := (Outgoing.datagrams sent).map Prod.snd

/-- What arrives of the datagrams that are to be sent, if nothing is lost. -/
def traffic (sent : List Outgoing) : List Packet := arriving (wireOf sent)

@[simp] theorem arriving_append (a b : List Octets) :
    arriving (a ++ b) = arriving a ++ arriving b :=
  List.filterMap_append

@[simp] theorem traffic_append (a b : List Outgoing) :
    traffic (a ++ b) = traffic a ++ traffic b := by
  rw [traffic, wireOf, Outgoing.datagrams, List.filterMap_append, List.map_append, arriving_append]
  rfl

/-- Nothing arrives but what was sent. -/
theorem traffic_sublist {sent : List Outgoing} (h : ∀ o ∈ sent, o.packet.IsCanonical) :
    (traffic sent).Sublist (sent.map (·.packet)) := by
  induction sent with
  | nil => exact List.Sublist.refl _
  | cons o sent ih =>
    have hsent := ih fun o' ho' => h o' (List.mem_cons_of_mem o ho')
    have hone : (traffic [o]).Sublist [o.packet] := by
      rcases ho : o.datagram with cause | b
      · simp [traffic, wireOf, Outgoing.datagrams, ho, arriving]
      · have hoctets : o.packet.toOctets = .ok b := by
          unfold Outgoing.datagram at ho
          split at ho
          · cases ho
          · rename_i octets hp
            split at ho
            · cases ho
              exact hp
            · cases ho
        have hdecode := Packet.decode_take_of_toOctets hoctets (h o List.mem_cons_self)
        have hone : traffic [o] = (Packet.decode (b.take Packet.maxReceived)).toOption.toList := by
          cases hd : (Packet.decode (b.take Packet.maxReceived)).toOption <;>
            simp [traffic, wireOf, Outgoing.datagrams, ho, arriving, hd]
        rw [hone, hdecode]
        split
        · exact List.Sublist.refl _
        · exact List.nil_sublist _
    rw [← List.singleton_append, traffic_append, List.map_append]
    exact hone.append hsent

/-- What a socket takes in of octets that arrive is what can be read from them, or nothing. -/
theorem accept_sublist (s : UdpSocket) (content : Octets) (sender : Endpoint) :
    ((s.accept content sender).map (·.packet)).Sublist (arriving [content]) := by
  unfold UdpSocket.accept arriving
  cases hd : Packet.decode (content.take Packet.maxReceived) with
  | error cause => exact List.nil_sublist _
  | ok p =>
    simp only [List.filterMap_cons, hd, Except.toOption, List.filterMap_nil]
    split
    · exact List.Sublist.refl _
    · exact List.nil_sublist _

/-! ## The counters of a channel -/

/-- The request that a datagram carries on a channel. -/
def Packet.requestOn? (channel : UInt8) (p : Packet) : Option (UInt8 × Octets) :=
  match TunnelRequest.ofPacket p with
  | .ok r => if r.channel = channel then some (r.sequence, r.message) else none
  | .error _ => none

/-- The number that a datagram acknowledges on a channel. -/
def Packet.ackOn? (channel : UInt8) (p : Packet) : Option UInt8 :=
  match TunnelAck.ofPacket p with
  | .ok a => if a.channel = channel then some a.sequence else none
  | .error _ => none

/-- The requests on a channel, in order. -/
def requestsOn (channel : UInt8) (packets : List Packet) : List (UInt8 × Octets) :=
  packets.filterMap (Packet.requestOn? channel)

/-- The numbers acknowledged on a channel, in order. -/
def acksOn (channel : UInt8) (packets : List Packet) : List UInt8 :=
  packets.filterMap (Packet.ackOn? channel)

section
variable {channel : UInt8} {a b : List Packet} {p : Packet}

@[simp] theorem requestsOn_append :
    requestsOn channel (a ++ b) = requestsOn channel a ++ requestsOn channel b :=
  List.filterMap_append

@[simp] theorem acksOn_append : acksOn channel (a ++ b) = acksOn channel a ++ acksOn channel b :=
  List.filterMap_append

theorem requestsOn_sublist (h : a.Sublist b) :
    (requestsOn channel a).Sublist (requestsOn channel b) :=
  h.filterMap _

theorem acksOn_sublist (h : a.Sublist b) : (acksOn channel a).Sublist (acksOn channel b) :=
  h.filterMap _

theorem requestsOn_cons {x : UInt8 × Octets} (hp : p.requestOn? channel = some x) :
    requestsOn channel (p :: a) = x :: requestsOn channel a :=
  List.filterMap_cons_some hp

theorem acksOn_cons {n : UInt8} (hp : p.ackOn? channel = some n) :
    acksOn channel (p :: a) = n :: acksOn channel a :=
  List.filterMap_cons_some hp

theorem requestOn?_eq_none_of_service (h : p.service ≠ .tunnelRequest) :
    p.requestOn? channel = none := by
  have hof : TunnelRequest.ofPacket p = .error .invalidValue := by
    rw [TunnelRequest.ofPacket, Packet.expect, if_neg h]
    rfl
  rw [Packet.requestOn?, hof]

theorem ackOn?_eq_none_of_service (h : p.service ≠ .tunnelResponse) : p.ackOn? channel = none := by
  have hof : TunnelAck.ofPacket p = .error .invalidValue := by
    rw [TunnelAck.ofPacket, Packet.expect, if_neg h]
    rfl
  rw [Packet.ackOn?, hof]

end

/-- A service that moves no counter. -/
def Service.IsAside (s : Service) : Prop :=
  Service.ofWord s.word = s ∧ s ≠ .tunnelRequest ∧ s ≠ .tunnelResponse

instance (s : Service) : Decidable s.IsAside :=
  inferInstanceAs (Decidable (_ ∧ _ ∧ _))

/-- A datagram that moves no counter. -/
def Outgoing.IsAside (o : Outgoing) : Prop := o.packet.service.IsAside

/-- A message that is built for a service that moves no counter. -/
theorem Outgoing.ofBuilt_asides {service : Service} (h : service.IsAside) (target : Endpoint)
    (body : Encoding) (length : Nat) :
    ∀ o ∈ Outgoing.ofBuilt target (Packet.build service body length), o.IsAside := by
  intro o ho
  unfold Packet.build at ho
  cases hb : body.toOctets length with
  | error cause =>
    rw [hb] at ho
    cases ho
  | ok octets =>
    rw [hb] at ho
    rw [List.mem_singleton.1 ho]
    exact h

/-- A datagram that moves no counter of a channel: it may concern another one. -/
structure Outgoing.IsSilentOn (channel : UInt8) (o : Outgoing) : Prop where
  /-- It is the same datagram when it arrives. -/
  canonical : o.packet.IsCanonical
  /-- It carries no request on the channel. -/
  request_none : o.packet.requestOn? channel = none
  /-- It acknowledges nothing on the channel. -/
  ack_none : o.packet.ackOn? channel = none

theorem Outgoing.IsAside.silentOn {o : Outgoing} (h : o.IsAside) (channel : UInt8) :
    o.IsSilentOn channel :=
  ⟨h.1, requestOn?_eq_none_of_service h.2.1, ackOn?_eq_none_of_service h.2.2⟩

section
variable {channel : UInt8} {sent : List Outgoing}

theorem requestsOn_traffic_sublist (h : ∀ o ∈ sent, o.packet.IsCanonical) :
    (requestsOn channel (traffic sent)).Sublist (requestsOn channel (sent.map (·.packet))) :=
  requestsOn_sublist (traffic_sublist h)

theorem acksOn_traffic_sublist (h : ∀ o ∈ sent, o.packet.IsCanonical) :
    (acksOn channel (traffic sent)).Sublist (acksOn channel (sent.map (·.packet))) :=
  acksOn_sublist (traffic_sublist h)

theorem requestsOn_traffic_silent (h : ∀ o ∈ sent, o.IsSilentOn channel) :
    requestsOn channel (traffic sent) = [] := by
  have hnone : requestsOn channel (sent.map (·.packet)) = [] := by
    refine List.filterMap_eq_nil_iff.2 fun p hp => ?_
    obtain ⟨o, ho, rfl⟩ := List.mem_map.1 hp
    exact (h o ho).request_none
  rw [← List.sublist_nil, ← hnone]
  exact requestsOn_traffic_sublist fun o ho => (h o ho).canonical

theorem acksOn_traffic_silent (h : ∀ o ∈ sent, o.IsSilentOn channel) :
    acksOn channel (traffic sent) = [] := by
  have hnone : acksOn channel (sent.map (·.packet)) = [] := by
    refine List.filterMap_eq_nil_iff.2 fun p hp => ?_
    obtain ⟨o, ho, rfl⟩ := List.mem_map.1 hp
    exact (h o ho).ack_none
  rw [← List.sublist_nil, ← hnone]
  exact acksOn_traffic_sublist fun o ho => (h o ho).canonical

end

section
variable (channel : UInt8) (target : Endpoint) (r : TunnelRequest) (a : TunnelAck)

theorem requestOn?_toPacket :
    r.toPacket.requestOn? channel =
      if 2 ≤ r.message.length ∧ r.channel = channel then some (r.sequence, r.message)
      else none := by
  by_cases hlength : r.message.length < 2
  · have hof : TunnelRequest.ofPacket r.toPacket = .error .endOfInput := by
      simp only [TunnelRequest.ofPacket, TunnelRequest.toPacket, Packet.expect, if_pos, hlength]
      rfl
    rw [Packet.requestOn?, hof, if_neg (by omega)]
  · have hof : TunnelRequest.ofPacket r.toPacket = .ok r := by
      simp only [TunnelRequest.ofPacket, TunnelRequest.toPacket, Packet.expect, if_pos, hlength,
        if_false, ne_eq, not_true]
      rfl
    rw [Packet.requestOn?, hof]
    simp only [show 2 ≤ r.message.length by omega, true_and]

theorem ackOn?_toPacket :
    a.toPacket.ackOn? channel = if a.channel = channel then some a.sequence else none := rfl

theorem ackOn?_request : r.toPacket.ackOn? channel = none := rfl

theorem requestOn?_ack : a.toPacket.requestOn? channel = none := rfl

/-- A request concerns no channel but its own. -/
theorem request_silentOn (h : r.channel ≠ channel) :
    (Outgoing.mk r.toPacket target).IsSilentOn channel :=
  ⟨rfl, by rw [requestOn?_toPacket, if_neg fun h' => h h'.2], ackOn?_request channel r⟩

/-- An acknowledgement concerns no channel but its own. -/
theorem ack_silentOn (h : a.channel ≠ channel) :
    (Outgoing.mk a.toPacket target).IsSilentOn channel :=
  ⟨rfl, requestOn?_ack channel a, by rw [ackOn?_toPacket, if_neg h]⟩

private theorem canonical_request :
    ∀ o ∈ [Outgoing.mk r.toPacket target], o.packet.IsCanonical := by
  intro o ho
  rw [List.mem_singleton.1 ho]
  rfl

private theorem canonical_ack :
    ∀ o ∈ [Outgoing.mk a.toPacket target], o.packet.IsCanonical := by
  intro o ho
  rw [List.mem_singleton.1 ho]
  rfl

/-- Of a request arrives the request, or nothing. -/
theorem requestsOn_request :
    (requestsOn r.channel (traffic [⟨r.toPacket, target⟩])).Sublist [(r.sequence, r.message)] := by
  refine (requestsOn_traffic_sublist (canonical_request target r)).trans ?_
  simp only [List.map_singleton, requestsOn, List.filterMap_cons, requestOn?_toPacket,
    List.filterMap_nil]
  split
  · exact List.nil_sublist _
  · rename_i heq
    exact Option.some.inj (Option.ite_none_right_eq_some.1 heq).2 ▸ List.Sublist.refl _

theorem acksOn_request : acksOn channel (traffic [⟨r.toPacket, target⟩]) = [] :=
  List.sublist_nil.1 (acksOn_traffic_sublist (canonical_request target r))

/-- Of an acknowledgement arrives the acknowledgement, or nothing. -/
theorem acksOn_ack : (acksOn a.channel (traffic [⟨a.toPacket, target⟩])).Sublist [a.sequence] := by
  refine (acksOn_traffic_sublist (canonical_ack target a)).trans ?_
  simp only [List.map_singleton, acksOn, List.filterMap_cons, ackOn?_toPacket, List.filterMap_nil,
    if_true]
  exact List.Sublist.refl _

theorem requestsOn_ack : requestsOn channel (traffic [⟨a.toPacket, target⟩]) = [] :=
  List.sublist_nil.1 (requestsOn_traffic_sublist (canonical_ack target a))

end

end KnxBus
