import KnxBus.Ip.Channel
import KnxBus.Ip.Tunnel
import KnxBus.Proofs.Ip.Blocks
import KnxBus.Proofs.Ip.Packet

/-!
# Which messages are read back

A message is written as the row of its blocks (`wire`), and that it is read back is shown block by
block.  But those who read messages also ask for a least length, and those who write them do not.  A
message is therefore lost, or changed, on the way in a few cases only.

* A request for a channel has to say which kind of channel it wants; one without any information is
  refused by the reader, though it can be written.
* The same holds for an answer that grants a channel.  An answer that refuses one may say nothing
  more, but then its endpoint is not looked at, and the refusal is read with none.
* A frame in a channel has two octets at least.
* The name of a device is cut (`DeviceInfo.shortened`).

What is about a channel only, or only asks for an answer, has a fixed form and is always read back.
-/

namespace KnxBus

/-! ## Opening a channel -/

namespace ConnectRequest

/-- The octets of a request. -/
def wire (r : ConnectRequest) : Octets :=
  r.control.wire ++ (r.data.wire ++ countedWire r.information)

variable {r : ConnectRequest} {p : Packet}

theorem length_wire : r.wire.length = 17 + r.information.length := by
  simp only [wire, countedWire, List.length_append, List.length_cons, Endpoint.length_wire,
    Endpoint.blockLength]
  omega

theorem toPacket_eq_ok_iff :
    r.toPacket = .ok p ↔ r.information.length ≤ 254 ∧ p = ⟨.connectRequest, r.wire⟩ := by
  refine Packet.build_eq_ok_iff_of_wire (fun b => ?_) length_wire
  simp only [wire, Encoding.writes_append_iff, Endpoint.writes_iff, writes_countedBlock_iff,
    exists_and_left, exists_eq_left, and_assoc, List.append_assoc]

/-- A request is read back unless it says nothing about the channel. -/
theorem ofPacket_wire (h : r.information.length ≤ 254) :
    ofPacket ⟨.connectRequest, r.wire⟩ =
      if r.information = [] then .error .endOfInput else .ok r := by
  have hshort : r.wire.length < 18 ↔ r.information = [] := by
    rw [length_wire, ← List.length_eq_zero_iff]
    omega
  have hread : Reading.Takes
      (do return ⟨← Endpoint.reading, ← Endpoint.reading, ← readCountedBlock⟩) r.wire [] r :=
    (Endpoint.takes_wire r.control _).bind ((Endpoint.takes_wire r.data _).bind
      ((takes_countedWire h).map _))
  have hofPacket : ofPacket ⟨.connectRequest, r.wire⟩ =
      if r.wire.length < 18 then .error .endOfInput
      else Reader.run
        (do return ⟨← Endpoint.reading, ← Endpoint.reading, ← readCountedBlock⟩) r.wire := rfl
  rw [hofPacket, hread.run_nil]
  simp only [hshort]

theorem ofPacket_eq_iff (h : r.toPacket = .ok p) : ofPacket p = .ok r ↔ r.information ≠ [] := by
  obtain ⟨hfits, rfl⟩ := toPacket_eq_ok_iff.1 h
  rw [ofPacket_wire hfits]
  by_cases hempty : r.information = []
  · rw [if_pos hempty]
    exact ⟨nofun, fun hne => absurd hempty hne⟩
  · rw [if_neg hempty]
    exact ⟨fun _ => hempty, fun _ => rfl⟩

end ConnectRequest

namespace ConnectResponse

/-- The octets of an answer. -/
def wire (r : ConnectResponse) : Octets :=
  r.channel :: r.status :: (r.data.wire ++ countedWire r.information)

variable {r : ConnectResponse} {p : Packet}

theorem length_wire : r.wire.length = 11 + r.information.length := by
  simp only [wire, countedWire, List.length_append, List.length_cons, Endpoint.length_wire,
    Endpoint.blockLength]
  omega

theorem toPacket_eq_ok_iff :
    r.toPacket = .ok p ↔ r.information.length ≤ 254 ∧ p = ⟨.connectResponse, r.wire⟩ := by
  refine Packet.build_eq_ok_iff_of_wire (fun b => ?_) length_wire
  simp only [wire, Encoding.writes_append_iff, Encoding.writes_octet_iff, Endpoint.writes_iff,
    writes_countedBlock_iff, exists_and_left, exists_eq_left, and_assoc, List.cons_append,
    List.nil_append]

/-- With further information there are always octets enough for the endpoint and a block that is not
empty, so endpoint and information are read whatever the status is. -/
theorem takes_body (hfits : r.information.length ≤ 254) (hne : r.information ≠ []) :
    (readBody r.wire.length r.channel r.status).Takes (r.data.wire ++ countedWire r.information) []
      r := by
  have hpos : 0 < r.information.length := List.length_pos_iff.2 hne
  have hroom : ¬ (r.status ≠ Status.ok ∧
      (r.data.wire ++ countedWire r.information ++ []).length < Endpoint.blockLength + 2) := by
    simp only [List.append_nil, List.length_append, Endpoint.length_wire, countedWire,
      List.length_cons]
    omega
  have hlong : decide (12 ≤ r.wire.length) = true := by
    rw [decide_eq_true_iff, length_wire]
    omega
  refine (Reading.takes_remaining _).nil_bind ?_
  rw [if_neg hroom]
  refine (Reading.takes_require _ hlong _).nil_bind ?_
  exact (Endpoint.takes_wire r.data _).bind ((takes_countedWire hfits).map _)

/-- A refusal with nothing but an empty block behind its endpoint is read as if it stopped after the
status. -/
theorem takes_refusal {length : Nat} {channel status : UInt8} {rest : Octets}
    (hstatus : status ≠ Status.ok) (hrest : rest.length < Endpoint.blockLength + 2) :
    Reading.Takes (do readBody length (← Reader.octet) (← Reader.octet)) [channel, status] rest
      ⟨channel, status, .unspecified, []⟩ := by
  refine (Reading.takes_octet _ channel).bind ((Reading.takes_octet _ status).bind_nil ?_)
  refine (Reading.takes_remaining rest).nil_bind ?_
  rw [if_pos ⟨hstatus, hrest⟩]
  exact Reading.takes_pure _ rest

/-- What is read of an answer.  One that grants a channel is read back only with further
information; of a refusal without any, the endpoint is lost. -/
theorem ofPacket_wire (h : r.information.length ≤ 254) :
    ofPacket ⟨.connectResponse, r.wire⟩ =
      if r.information ≠ [] then .ok r
      else if r.status = Status.ok then .error .endOfInput
      else .ok ⟨r.channel, r.status, .unspecified, []⟩ := by
  have hofPacket : ofPacket ⟨.connectResponse, r.wire⟩ = Reader.run
      (do readBody r.wire.length (← Reader.octet) (← Reader.octet)) r.wire := rfl
  by_cases hne : r.information ≠ []
  · rw [if_pos hne, hofPacket]
    exact ((Reading.takes_octet _ r.channel).bind ((Reading.takes_octet _ r.status).bind
      (takes_body h hne))).run_nil
  · obtain ⟨channel, status, data, information⟩ := r
    obtain rfl : information = [] := Decidable.of_not_not hne
    rw [if_neg hne]
    by_cases hstatus : status = Status.ok
    · rw [if_pos hstatus]
      subst hstatus
      rfl
    · rw [if_neg hstatus, hofPacket]
      have hrest : (data.wire ++ countedWire []).length < Endpoint.blockLength + 2 :=
        Nat.lt_succ_self 9
      exact (takes_refusal hstatus hrest).run

theorem ofPacket_eq_iff (h : r.toPacket = .ok p) :
    ofPacket p = .ok r ↔ r.information ≠ [] ∨ r.status ≠ Status.ok ∧ r.data = .unspecified := by
  obtain ⟨hfits, rfl⟩ := toPacket_eq_ok_iff.1 h
  rw [ofPacket_wire hfits]
  by_cases hne : r.information ≠ []
  · rw [if_pos hne]
    exact ⟨fun _ => .inl hne, fun _ => rfl⟩
  · obtain ⟨channel, status, data, information⟩ := r
    obtain rfl : information = [] := Decidable.of_not_not hne
    rw [if_neg hne]
    by_cases hstatus : status = Status.ok
    · simp [hstatus]
    · simp [hstatus, eq_comm]

end ConnectResponse

/-! ## Keeping and closing a channel -/

namespace ChannelRequest

/-- The octets of a request; the second is of no account. -/
def wire (r : ChannelRequest) : Octets := r.channel :: 0 :: r.control.wire

theorem toPacket_eq (r : ChannelRequest) (service : Service) :
    r.toPacket service = .ok ⟨service, r.wire⟩ := by
  refine Packet.build_eq_ok_iff.2 ⟨rfl, ?_, Nat.le_refl 10⟩
  simp only [wire, Encoding.writes_append_iff, Encoding.writes_octet_iff, Endpoint.writes_iff,
    exists_and_left, exists_eq_left, List.cons_append, List.nil_append]

theorem ofPacket_wire (r : ChannelRequest) (service : Service) :
    ofPacket ⟨service, r.wire⟩ service = .ok r := by
  have hofPacket : ofPacket ⟨service, r.wire⟩ service = Reader.run (do
      let channel ← Reader.octet
      Reader.skip 1
      return ⟨channel, ← Endpoint.reading⟩) r.wire := by
    unfold ofPacket
    rw [Packet.expect_self]
    rfl
  rw [hofPacket]
  exact ((Reading.takes_octet _ r.channel).bind ((Reading.takes_skip (b := [0]) _ rfl).bind
    ((Endpoint.takes_wire r.control []).map _))).run_nil

end ChannelRequest

namespace ChannelResponse

theorem ofPacket_toPacket (r : ChannelResponse) (service : Service) :
    ofPacket (r.toPacket service) service = .ok r := by
  unfold ofPacket toPacket
  rw [Packet.expect_self]
  rfl

end ChannelResponse

/-! ## Frames in a channel -/

namespace TunnelRequest

/-- A frame is read back if it is not too short. -/
theorem ofPacket_toPacket (r : TunnelRequest) :
    ofPacket r.toPacket = if r.message.length < 2 then .error .endOfInput else .ok r := rfl

theorem ofPacket_toPacket_eq_iff {r : TunnelRequest} :
    ofPacket r.toPacket = .ok r ↔ 2 ≤ r.message.length := by
  rw [ofPacket_toPacket]
  by_cases hshort : r.message.length < 2
  · rw [if_pos hshort]
    exact ⟨nofun, fun hle => absurd hle (Nat.not_le_of_lt hshort)⟩
  · rw [if_neg hshort]
    exact ⟨fun _ => Nat.le_of_not_lt hshort, fun _ => rfl⟩

end TunnelRequest

namespace TunnelAck

theorem ofPacket_toPacket (a : TunnelAck) : ofPacket a.toPacket = .ok a := rfl

end TunnelAck

/-! ## Finding and describing gateways -/

namespace EndpointRequest

theorem toPacket_eq (r : EndpointRequest) (service : Service) :
    r.toPacket service = .ok ⟨service, r.endpoint.wire⟩ :=
  Packet.build_eq_ok_iff.2 ⟨rfl, Endpoint.writes_iff.2 rfl, Nat.le_refl 8⟩

theorem ofPacket_wire (r : EndpointRequest) (service : Service) :
    ofPacket ⟨service, r.endpoint.wire⟩ service = .ok r := by
  have hofPacket : ofPacket ⟨service, r.endpoint.wire⟩ service =
      Reader.run (do return ⟨← Endpoint.reading⟩) r.endpoint.wire := by
    unfold ofPacket
    rw [Packet.expect_self]
    rfl
  rw [hofPacket]
  exact ((Endpoint.takes_wire r.endpoint []).map _).run_nil

end EndpointRequest

namespace SearchResponse

/-- The octets of an answer. -/
def wire (r : SearchResponse) : Octets :=
  r.control.wire ++ (r.device.wire ++ ServiceFamily.wire r.services)

variable {r : SearchResponse} {p : Packet}

theorem toPacket_eq_ok_iff :
    r.toPacket = .ok p ↔ r.services.length ≤ 126 ∧ p = ⟨.searchResponse, r.wire⟩ := by
  refine Packet.build_eq_ok_iff_of_wire (fun b => ?_) ?_
  · simp only [wire, Encoding.writes_append_iff, Endpoint.writes_iff, DeviceInfo.writes_iff,
      ServiceFamily.writes_iff, exists_and_left, exists_eq_left, and_assoc, List.append_assoc]
  · rw [wire, List.length_append, List.length_append, Endpoint.length_wire, DeviceInfo.length_wire,
      ServiceFamily.length_wire, Nat.add_assoc]

theorem ofPacket_of_toPacket (h : r.toPacket = .ok p) :
    ofPacket p = .ok { r with device := r.device.shortened } := by
  obtain ⟨hfits, rfl⟩ := toPacket_eq_ok_iff.1 h
  have hofPacket : ofPacket ⟨.searchResponse, r.wire⟩ = Reader.run
      (do return ⟨← Endpoint.reading, ← DeviceInfo.reading, ← ServiceFamily.readingAll⟩)
      r.wire := rfl
  rw [hofPacket]
  exact ((Endpoint.takes_wire r.control _).bind ((DeviceInfo.takes_wire r.device _).bind
    ((ServiceFamily.takes_wire hfits []).map _))).run_nil

end SearchResponse

namespace DescriptionResponse

/-- The octets of an answer. -/
def wire (r : DescriptionResponse) : Octets :=
  r.device.wire ++ (ServiceFamily.wire r.services ++ r.further)

variable {r : DescriptionResponse} {p : Packet}

theorem toPacket_eq_ok_iff :
    r.toPacket = .ok p ↔ r.services.length ≤ 126 ∧ p = ⟨.descriptionResponse, r.wire⟩ := by
  refine Packet.build_eq_ok_iff_of_wire (fun b => ?_) ?_
  · simp only [wire, Encoding.writes_append_iff, Encoding.writes_octets_iff, DeviceInfo.writes_iff,
      ServiceFamily.writes_iff, exists_and_left, exists_eq_left, and_assoc, List.append_assoc]
  · rw [wire, List.length_append, List.length_append, DeviceInfo.length_wire,
      ServiceFamily.length_wire, Nat.add_assoc]

theorem ofPacket_of_toPacket (h : r.toPacket = .ok p) :
    ofPacket p = .ok { r with device := r.device.shortened } := by
  obtain ⟨hfits, rfl⟩ := toPacket_eq_ok_iff.1 h
  have hofPacket : ofPacket ⟨.descriptionResponse, r.wire⟩ = Reader.run
      (do return ⟨← DeviceInfo.reading, ← ServiceFamily.readingAll, ← Reader.remainder⟩)
      r.wire := rfl
  rw [hofPacket]
  exact ((DeviceInfo.takes_wire r.device _).bind ((ServiceFamily.takes_wire hfits _).bind
    ((Reading.takes_remainder r.further).map _))).run_nil

end DescriptionResponse

/-! ## All messages -/

namespace Packet

/-- **Which messages are read back.**

A request for a channel and the answer can be written exactly if they have at most 254 octets of
further information.  The request is then read back exactly if there is some; so is the answer, and
it is also read back if it refuses the channel and names no endpoint.  A frame in a channel is read
back exactly if it has at least two octets.  What is about a channel only, an acknowledgement and
the request for an answer can always be written and are read back.  What describes a gateway can be
written exactly if there are at most 126 families of services, and is then read back with what is
left of the name. -/
theorem messages_returned :
    (∀ m : ConnectRequest,
      ((∃ p, m.toPacket = .ok p) ↔ m.information.length ≤ 254) ∧
        ∀ p, m.toPacket = .ok p → (ConnectRequest.ofPacket p = .ok m ↔ m.information ≠ [])) ∧
    (∀ m : ConnectResponse,
      ((∃ p, m.toPacket = .ok p) ↔ m.information.length ≤ 254) ∧
        ∀ p, m.toPacket = .ok p → (ConnectResponse.ofPacket p = .ok m ↔
          m.information ≠ [] ∨ m.status ≠ Status.ok ∧ m.data = .unspecified)) ∧
    (∀ m : TunnelRequest, TunnelRequest.ofPacket m.toPacket = .ok m ↔ 2 ≤ m.message.length) ∧
    (∀ (m : ChannelRequest) (service : Service),
      ∃ p, m.toPacket service = .ok p ∧ ChannelRequest.ofPacket p service = .ok m) ∧
    (∀ (m : ChannelResponse) (service : Service),
      ChannelResponse.ofPacket (m.toPacket service) service = .ok m) ∧
    (∀ m : TunnelAck, TunnelAck.ofPacket m.toPacket = .ok m) ∧
    (∀ (m : EndpointRequest) (service : Service),
      ∃ p, m.toPacket service = .ok p ∧ EndpointRequest.ofPacket p service = .ok m) ∧
    (∀ m : SearchResponse,
      ((∃ p, m.toPacket = .ok p) ↔ m.services.length ≤ 126) ∧
        ∀ p, m.toPacket = .ok p →
          SearchResponse.ofPacket p = .ok { m with device := m.device.shortened }) ∧
    ∀ m : DescriptionResponse,
      ((∃ p, m.toPacket = .ok p) ↔ m.services.length ≤ 126) ∧
        ∀ p, m.toPacket = .ok p →
          DescriptionResponse.ofPacket p = .ok { m with device := m.device.shortened } := by
  refine ⟨fun m => ?_, fun m => ?_, fun m => ?_, fun m service => ?_, fun m service => ?_,
    fun m => ?_, fun m service => ?_, fun m => ?_, fun m => ?_⟩
  · exact ⟨exists_built_iff fun p => ConnectRequest.toPacket_eq_ok_iff,
      fun p h => ConnectRequest.ofPacket_eq_iff h⟩
  · exact ⟨exists_built_iff fun p => ConnectResponse.toPacket_eq_ok_iff,
      fun p h => ConnectResponse.ofPacket_eq_iff h⟩
  · exact TunnelRequest.ofPacket_toPacket_eq_iff
  · exact ⟨_, m.toPacket_eq service, m.ofPacket_wire service⟩
  · exact m.ofPacket_toPacket service
  · exact m.ofPacket_toPacket
  · exact ⟨_, m.toPacket_eq service, m.ofPacket_wire service⟩
  · exact ⟨exists_built_iff fun p => SearchResponse.toPacket_eq_ok_iff,
      fun p h => SearchResponse.ofPacket_of_toPacket h⟩
  · exact ⟨exists_built_iff fun p => DescriptionResponse.toPacket_eq_ok_iff,
      fun p h => DescriptionResponse.ofPacket_of_toPacket h⟩

/-- A refusal without an endpoint is read back, one with an endpoint is not. -/
theorem messages_returned_refusal :
    let refusal := ConnectResponse.rejected Status.noMoreConnections
    let named : ConnectResponse := { refusal with data := ⟨⟨192, 168, 1, 7⟩, 3671⟩ }
    (∃ p, refusal.toPacket = .ok p ∧ ConnectResponse.ofPacket p = .ok refusal) ∧
      ∃ p, named.toPacket = .ok p ∧ ConnectResponse.ofPacket p ≠ .ok named := by
  intro refusal named
  have hanswers := messages_returned.2.1
  obtain ⟨p, hp⟩ := (hanswers refusal).1.2 (by decide)
  obtain ⟨q, hq⟩ := (hanswers named).1.2 (by decide)
  refine ⟨⟨p, hp, ((hanswers refusal).2 p hp).2 (.inr (by decide))⟩, q, hq, fun hread => ?_⟩
  have hpossible := ((hanswers named).2 q hq).1 hread
  revert hpossible
  decide

end Packet
end KnxBus
