import KnxBus.Proofs.Datagram
import KnxBus.Proofs.Ip.Messages

/-!
# How a client and a gateway agree on a channel

Three kinds of datagram decide who believes to have a channel.  The gateway *grants* it, the gateway
*affirms* that it is still there, and the client *closes* it.  Each kind can be told by its service
and its first octets, and only these matter: a message that could be written begins with the values
it was made of, and what is read of a datagram are the values that it begins with.

On the network a datagram arrives as it was sent or not at all, so a socket takes in of each
datagram that reaches it the same datagram, or nothing (`UdpSocket.takes_cases`).
-/

namespace KnxBus

/-! ## The three kinds -/

namespace Packet

/-- The datagram grants a channel. -/
def Grants (id : UInt8) (p : Packet) : Prop :=
  p.service = .connectResponse ∧ p.body.take 2 = [id, Status.ok]

/-- The datagram affirms that there is a channel. -/
def Affirms (id : UInt8) (p : Packet) : Prop :=
  p.service = .stateResponse ∧ p.body = [id, Status.ok]

/-- The datagram closes a channel. -/
def Closes (id : UInt8) (p : Packet) : Prop :=
  p.service = .disconnectRequest ∧ p.body.head? = some id

variable {id id' : UInt8} {p : Packet}

instance : Decidable (p.Grants id) := inferInstanceAs (Decidable (_ ∧ _))

instance : Decidable (p.Affirms id) := inferInstanceAs (Decidable (_ ∧ _))

instance : Decidable (p.Closes id) := inferInstanceAs (Decidable (_ ∧ _))

theorem Grants.id_eq (h : p.Grants id) (h' : p.Grants id') : id' = id :=
  (List.cons.inj (h'.2.symm.trans h.2)).1

theorem Closes.id_eq (h : p.Closes id) (h' : p.Closes id') : id' = id :=
  Option.some.inj (h'.2.symm.trans h.2)

theorem not_grants_of_service (h : p.service ≠ .connectResponse) : ¬ p.Grants id := fun h' => h h'.1

theorem not_affirms_of_service (h : p.service ≠ .stateResponse) : ¬ p.Affirms id := fun h' => h h'.1

theorem not_closes_of_service (h : p.service ≠ .disconnectRequest) : ¬ p.Closes id :=
  fun h' => h h'.1

/-- How many datagrams grant a channel. -/
def grantsAmong (id : UInt8) (packets : List Packet) : Nat := packets.countP fun p => p.Grants id

/-- How many datagrams close a channel. -/
def closingsAmong (id : UInt8) (packets : List Packet) : Nat := packets.countP fun p => p.Closes id

@[simp] theorem grantsAmong_append (id : UInt8) (a b : List Packet) :
    grantsAmong id (a ++ b) = grantsAmong id a + grantsAmong id b := List.countP_append

@[simp] theorem closingsAmong_append (id : UInt8) (a b : List Packet) :
    closingsAmong id (a ++ b) = closingsAmong id a + closingsAmong id b := List.countP_append

theorem grantsAmong_eq_zero_iff {packets : List Packet} :
    grantsAmong id packets = 0 ↔ ∀ p ∈ packets, ¬ p.Grants id := by
  simp only [grantsAmong, List.countP_eq_zero, decide_eq_true_eq]

theorem closingsAmong_eq_zero_iff {packets : List Packet} :
    closingsAmong id packets = 0 ↔ ∀ p ∈ packets, ¬ p.Closes id := by
  simp only [closingsAmong, List.countP_eq_zero, decide_eq_true_eq]

theorem grantsAmong_pos_iff {packets : List Packet} :
    0 < grantsAmong id packets ↔ ∃ p ∈ packets, p.Grants id := by
  simp only [grantsAmong, List.countP_pos_iff, decide_eq_true_eq]

theorem grantsAmong_singleton (h : p.Grants id) (id' : UInt8) :
    grantsAmong id' [p] = if id = id' then 1 else 0 := by
  by_cases hid : id = id'
  · subst hid
    simp [grantsAmong, h]
  · have hnot : ¬ p.Grants id' := fun h' => hid (h.id_eq h').symm
    simp [grantsAmong, hnot, hid]

theorem closingsAmong_singleton (h : p.Closes id) : closingsAmong id [p] = 1 := by
  simp [closingsAmong, h]

end Packet

/-! ## What is read -/

theorem ConnectResponse.of_readBody {length : Nat} {channel status : UInt8} {reader last : Reader}
    {r : ConnectResponse} (h : readBody length channel status reader = .ok (r, last)) :
    r.channel = channel ∧ r.status = status := by
  obtain ⟨left, middle, -, h⟩ := Reader.exists_of_bind h
  split at h
  · cases h
    exact ⟨rfl, rfl⟩
  · obtain ⟨-, middle, -, h⟩ := Reader.exists_of_bind h
    obtain ⟨data, middle, -, h⟩ := Reader.exists_of_bind h
    obtain ⟨information, middle, -, h⟩ := Reader.exists_of_bind h
    cases h
    exact ⟨rfl, rfl⟩

/-- What is read of the answer to a request for a channel. -/
theorem ConnectResponse.body_of_ofPacket {p : Packet} {r : ConnectResponse}
    (h : ConnectResponse.ofPacket p = .ok r) :
    p.service = .connectResponse ∧ p.body.take 2 = [r.channel, r.status] := by
  unfold ConnectResponse.ofPacket at h
  simp only [bind, Except.bind] at h
  split at h
  · cases h
  · rename_i hexpect
    obtain ⟨last, hread⟩ := Reader.exists_of_run h
    obtain ⟨channel, middle, hchannel, hread⟩ := Reader.exists_of_bind hread
    obtain ⟨status, middle', hstatus, hread⟩ := Reader.exists_of_bind hread
    obtain ⟨hchannel', hstatus'⟩ := ConnectResponse.of_readBody hread
    have hbody : p.body = channel :: status :: middle'.rest := by
      rw [← Reader.octet_eq_ok hstatus]
      exact Reader.octet_eq_ok hchannel
    refine ⟨Packet.service_of_expect hexpect, ?_⟩
    rw [hbody, hchannel', hstatus']
    rfl

theorem ConnectResponse.grants_of_ofPacket {p : Packet} {r : ConnectResponse}
    (h : ConnectResponse.ofPacket p = .ok r) (hok : r.status = Status.ok) : p.Grants r.channel := by
  obtain ⟨hservice, hbody⟩ := ConnectResponse.body_of_ofPacket h
  exact ⟨hservice, hok ▸ hbody⟩

/-- What is read of an answer about a channel. -/
theorem ChannelResponse.body_of_ofPacket {p : Packet} {service : Service} {r : ChannelResponse}
    (h : ChannelResponse.ofPacket p service = .ok r) :
    p.service = service ∧ p.body = [r.channel, r.status] := by
  unfold ChannelResponse.ofPacket at h
  simp only [bind, Except.bind] at h
  split at h
  · cases h
  · rename_i hexpect
    split at h
    · rename_i hbody
      cases h
      exact ⟨Packet.service_of_expect hexpect, hbody⟩
    · cases h

theorem ChannelResponse.affirms_of_ofPacket {p : Packet} {r : ChannelResponse}
    (h : ChannelResponse.ofPacket p .stateResponse = .ok r) (hok : r.status = Status.ok) :
    p.Affirms r.channel := by
  obtain ⟨hservice, hbody⟩ := ChannelResponse.body_of_ofPacket h
  exact ⟨hservice, hok ▸ hbody⟩

/-- An answer that affirms a channel can be read. -/
theorem ChannelResponse.ofPacket_of_affirms {p : Packet} {id : UInt8} (h : p.Affirms id) :
    ChannelResponse.ofPacket p .stateResponse = .ok ⟨id, Status.ok⟩ := by
  obtain ⟨service, body⟩ := p
  obtain ⟨rfl, rfl⟩ := h
  rfl

/-- What is read of a request about a channel. -/
theorem ChannelRequest.body_of_ofPacket {p : Packet} {service : Service} {r : ChannelRequest}
    (h : ChannelRequest.ofPacket p service = .ok r) :
    p.service = service ∧ p.body.head? = some r.channel := by
  unfold ChannelRequest.ofPacket at h
  simp only [bind, Except.bind] at h
  split at h
  · cases h
  · rename_i hexpect
    split at h
    · cases h
    · obtain ⟨last, hread⟩ := Reader.exists_of_run h
      obtain ⟨channel, middle, hchannel, hread⟩ := Reader.exists_of_bind hread
      obtain ⟨-, middle', -, hread⟩ := Reader.exists_of_bind hread
      obtain ⟨control, middle', -, hread⟩ := Reader.exists_of_bind hread
      cases hread
      have hbody : p.body = channel :: middle.rest := Reader.octet_eq_ok hchannel
      refine ⟨Packet.service_of_expect hexpect, ?_⟩
      rw [hbody]
      rfl

theorem ChannelRequest.closes_of_ofPacket {p : Packet} {r : ChannelRequest}
    (h : ChannelRequest.ofPacket p .disconnectRequest = .ok r) : p.Closes r.channel :=
  ChannelRequest.body_of_ofPacket h

/-! ## What is written -/

/-- The answer to a request for a channel begins with the number and the status. -/
theorem ConnectResponse.body_of_toPacket {r : ConnectResponse} {p : Packet}
    (h : r.toPacket = .ok p) :
    p.service = .connectResponse ∧ p.body.take 2 = [r.channel, r.status] := by
  obtain ⟨-, rfl⟩ := ConnectResponse.toPacket_eq_ok_iff.1 h
  exact ⟨rfl, rfl⟩

/-- A request about a channel begins with its number. -/
theorem ChannelRequest.body_of_toPacket {r : ChannelRequest} {service : Service} {p : Packet}
    (h : r.toPacket service = .ok p) : p.service = service ∧ p.body.head? = some r.channel := by
  rw [ChannelRequest.toPacket_eq] at h
  cases h
  exact ⟨rfl, rfl⟩

/-! ## On the network -/

/-- The oldest datagram that waits, and those behind it. -/
def frontOf : List Received → Option Packet × List Received
  | [] => (none, [])
  | p :: later => (some p.packet, later)

theorem frontOf_eq (packets : List Received) :
    (frontOf packets).1.toList ++ (frontOf packets).2.map (·.packet) =
      packets.map (·.packet) := by
  cases packets <;> rfl

/-- What a socket takes in of a datagram that reaches it. -/
def UdpSocket.takes (s : UdpSocket) (sender : Endpoint) (o : Outgoing) : List Received :=
  match o.datagram with
  | .ok octets => s.accept octets sender
  | .error _ => []

/-- It is the same datagram, or nothing. -/
theorem UdpSocket.takes_cases (s : UdpSocket) (sender : Endpoint) {o : Outgoing}
    (h : o.packet.IsCanonical) :
    s.takes sender o = [] ∨ s.takes sender o = [⟨o.packet, sender⟩] := by
  unfold takes
  split
  · rename_i octets hoctets
    have hwritten : o.packet.toOctets = .ok octets := by
      unfold Outgoing.datagram at hoctets
      split at hoctets
      · cases hoctets
      · rename_i written hwritten
        split at hoctets
        · cases hoctets
          exact hwritten
        · cases hoctets
    have hdecode := Packet.decode_take_of_toOctets hwritten h
    unfold accept
    cases hd : Packet.decode (octets.take Packet.maxReceived) with
    | error cause => exact Or.inl rfl
    | ok packet =>
      have hsame : packet = o.packet := by
        rw [hd] at hdecode
        split at hdecode
        · exact Option.some.inj hdecode
        · cases hdecode
      simp only [hsame]
      split
      · exact Or.inr rfl
      · exact Or.inl rfl
  · exact Or.inl rfl

/-- So of several datagrams some of them are taken in, in their order. -/
theorem UdpSocket.takes_sublist (s : UdpSocket) (sender : Endpoint) {sent : List Outgoing}
    (h : ∀ o ∈ sent, o.packet.IsCanonical) :
    ((sent.flatMap (s.takes sender)).map (·.packet)).Sublist (sent.map (·.packet)) := by
  induction sent with
  | nil => exact List.Sublist.refl _
  | cons o later ih =>
    have hlater := ih fun o' ho' => h o' (List.mem_cons_of_mem o ho')
    rw [List.flatMap_cons, List.map_append, List.map_cons]
    obtain hnone | hsame := s.takes_cases sender (h o List.mem_cons_self)
    · rw [hnone]
      exact hlater.cons _
    · rw [hsame]
      exact hlater.cons_cons _

end KnxBus
