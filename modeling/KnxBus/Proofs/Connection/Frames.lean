import KnxBus.Proofs.Connection.Turns

/-!
# What one frame does to the numbers of a connection

A frame says by itself whether it brings the unit that was expected (`Connection.expected?`) or
acknowledges the one that was outstanding (`Connection.confirmed?`).  No other part of a turn moves
a number.

Whatever unit a part of a turn sends is the outstanding one or becomes it
(`Connection.proceed_sent`), and the frame that carries it is read back as that unit
(`Connection.CarriesUnit`).
-/

namespace KnxBus

/-! ## One frame -/

namespace Connection

/-- The unit that a frame brings under the number that is expected. -/
def expected? (c : Connection) (f : Frame) : Option Octets :=
  match f.numbered? with
  | some (sequence, apdu) => if sequence = c.receiveNo then some apdu else none
  | none => none

/-- The unit that is outstanding, if a frame acknowledges it. -/
def confirmed? (c : Connection) (f : Frame) : Option Octets :=
  match c.phase with
  | .awaiting apdu _ _ => if f.acknowledged? = some c.sendNo then some apdu else none
  | .idle => none

theorem outstanding_of_confirmed? {c : Connection} {f : Frame} {apdu : Octets}
    (h : c.confirmed? f = some apdu) : c.outstanding = [apdu] := by
  unfold confirmed? at h
  split at h
  · rename_i hphase
    rw [outstanding, hphase]
    split at h
    · cases h
      rfl
    · cases h
  · cases h

section
variable (accepts : Frame → Bool) (now : Nat) (f : Frame) (c : Connection)

/-- Delivered is the unit that was expected, and nothing else. -/
theorem onFrame_delivered :
    (c.onFrame accepts now f).connection.delivered = c.delivered ++ (c.expected? f).toList := by
  unfold onFrame expected? Frame.numbered?
  cases Tpdu.decode f.payload with
  | error cause => simp [goOn]
  | ok unit =>
    cases unit with
    | dataConnected sequence apdu =>
      by_cases hno : sequence = c.receiveNo
      · simp [onData, hno, transmit_connection, accept, refresh]
      · by_cases hprev : sequence = previousNo c.receiveNo
        · rw [hprev] at hno
          simp [onData, hno, hprev, transmit_connection, refresh]
        · simp [onData, hno, hprev, giveUp]
    | ack sequence =>
      simp only [onAck]
      split
      · split <;> simp [goOn, giveUp, refresh]
      · simp [giveUp]
    | nack sequence =>
      simp only [onNack]
      split
      · split
        · simp [resend, transmit_connection]
        · simp [giveUp]
      · simp [giveUp]
    | connect => simp [giveUp]
    | disconnect => simp [giveUp]
    | dataUnnumbered apdu => simp [goOn]
    | unknown raw => simp [goOn]

/-- The number of the next unit moves on if the outstanding one is acknowledged, and not
otherwise. -/
theorem onFrame_sendNo :
    (c.onFrame accepts now f).connection.sendNo =
      if (c.confirmed? f).isSome then nextNo c.sendNo else c.sendNo := by
  unfold onFrame confirmed? Frame.acknowledged?
  cases Tpdu.decode f.payload with
  | error cause =>
    cases c.phase <;> simp [goOn]
  | ok unit =>
    cases unit with
    | dataConnected sequence apdu =>
      have hkept : (c.onData accepts now sequence apdu).connection.sendNo = c.sendNo := by
        unfold onData
        split
        · rw [transmit_connection]
          rfl
        · split
          · rw [transmit_connection]
            rfl
          · rfl
      cases c.phase <;> simp [hkept]
    | ack sequence =>
      cases hphase : c.phase with
      | idle => simp [onAck, hphase, giveUp]
      | awaiting apdu retries deadline =>
        by_cases hno : sequence = c.sendNo
        · simp [onAck, hphase, hno, goOn, refresh]
        · simp [onAck, hphase, hno, giveUp]
    | nack sequence =>
      have hkept : (c.onNack accepts now sequence).connection.sendNo = c.sendNo := by
        unfold onNack
        split
        · split
          · rw [resend, transmit_connection]
          · rfl
        · rfl
      cases c.phase <;> simp [hkept]
    | connect => cases c.phase <;> simp [giveUp]
    | disconnect => cases c.phase <;> simp [giveUp]
    | dataUnnumbered apdu => cases c.phase <;> simp [goOn]
    | unknown raw => cases c.phase <;> simp [goOn]

end

/-! ## What never changes -/

/-- A connection talks to one device and shows its numbers as they are. -/
structure Honest (c : Connection) (peer : IndividualAddress) : Prop where
  /-- The device at the other end. -/
  peer_eq : c.peer = peer
  /-- The number of the next unit is shown. -/
  shownSendNo_eq : c.shownSendNo = c.sendNo
  /-- The number of the expected unit is shown. -/
  shownReceiveNo_eq : c.shownReceiveNo = c.receiveNo

section
variable {peer : IndividualAddress} {c : Connection}

theorem Honest.withIncoming (h : c.Honest peer) (frames : List Frame) :
    (c.withIncoming frames).Honest peer :=
  ⟨h.peer_eq, h.shownSendNo_eq, h.shownReceiveNo_eq⟩

theorem Honest.onFrame (h : c.Honest peer) (accepts : Frame → Bool) (now : Nat) (f : Frame) :
    (c.onFrame accepts now f).connection.Honest peer := by
  obtain ⟨apdu, -, heq⟩ | ⟨apdu, -, heq⟩ | ⟨apdu, retries, deadline, -, -, heq⟩ |
    ⟨apdu, retries, deadline, -, heq⟩ | heq | heq := c.onFrame_cases accepts now f
  · rw [heq, transmit_connection]
    exact ⟨h.peer_eq, h.shownSendNo_eq, rfl⟩
  · rw [heq, transmit_connection]
    exact ⟨h.peer_eq, h.shownSendNo_eq, h.shownReceiveNo_eq⟩
  · rw [heq]
    exact ⟨h.peer_eq, rfl, h.shownReceiveNo_eq⟩
  · rw [heq, resend, transmit_connection]
    exact ⟨h.peer_eq, h.shownSendNo_eq, h.shownReceiveNo_eq⟩
  · rw [heq]
    exact h
  · rw [heq]
    exact h

theorem Honest.settle {p : Progress} (h : p.connection.Honest peer) :
    p.settle.1.Honest peer := by
  unfold Progress.settle
  split
  · exact h
  · exact ⟨h.peer_eq, h.shownSendNo_eq, h.shownReceiveNo_eq⟩

/-- The timers and the queue move no number and deliver nothing. -/
theorem proceed_connection (accepts : Frame → Bool) (now : Nat) (c : Connection) :
    (c.proceed accepts now).connection.sendNo = c.sendNo ∧
      (c.proceed accepts now).connection.delivered = c.delivered ∧
      ∀ peer, c.Honest peer → (c.proceed accepts now).connection.Honest peer := by
  obtain ⟨apdu, rest, -, hqueue, heq⟩ | ⟨apdu, retries, deadline, -, heq⟩ | heq | heq :=
    c.proceed_cases accepts now
  · rw [heq, sendNext_connection accepts now hqueue]
    split
    · exact ⟨rfl, rfl, fun _ h => ⟨h.peer_eq, h.shownSendNo_eq, h.shownReceiveNo_eq⟩⟩
    · exact ⟨rfl, rfl, fun _ h => ⟨h.peer_eq, h.shownSendNo_eq, h.shownReceiveNo_eq⟩⟩
  · rw [heq, resend, transmit_connection]
    exact ⟨rfl, rfl, fun _ h => ⟨h.peer_eq, h.shownSendNo_eq, h.shownReceiveNo_eq⟩⟩
  · rw [heq]
    exact ⟨rfl, rfl, fun _ h => h⟩
  · rw [heq]
    exact ⟨rfl, rfl, fun _ h => h⟩

end

/-! ## Frames that carry a unit -/

theorem mem_of_frameTo {peer : IndividualAddress} {unit : Tpdu} {priority : Priority} {f : Frame}
    (hf : f ∈ (frameTo peer unit priority).toOption.toList) : frameTo peer unit priority = .ok f := by
  cases h : frameTo peer unit priority with
  | error cause =>
    rw [h] at hf
    exact absurd hf List.not_mem_nil
  | ok g =>
    rw [h] at hf
    rw [List.mem_singleton.1 hf]

/-- A frame carries the unit with an index out of those that are queued for a device.  It is what is
written for this unit under the number of the index, and it is read as that. -/
def CarriesUnit (peer : IndividualAddress) (queued : List Octets) (i : Nat) (f : Frame) : Prop :=
  ∃ apdu, queued[i]? = some apdu ∧
    frameTo peer (.dataConnected (fourBitNo i) apdu) .low = .ok f ∧
    f.numbered? = some (fourBitNo i, Tpdu.masked apdu)

theorem carriesUnit_of_mem {peer : IndividualAddress} {queued : List Octets} {i : Nat}
    {apdu : Octets} {f : Frame} (hi : queued[i]? = some apdu)
    (hf : f ∈ (frameTo peer (.dataConnected (fourBitNo i) apdu) .low).toOption.toList) :
    CarriesUnit peer queued i f := by
  have hframe := mem_of_frameTo hf
  have hdecode := decode_of_frameTo hframe (by simp)
  exact ⟨apdu, hi, hframe, by simp [Frame.numbered?, hdecode, Tpdu.travelling]⟩

/-- More units may be queued behind. -/
theorem CarriesUnit.mono {peer : IndividualAddress} {queued queued' : List Octets} {i : Nat}
    {f : Frame} (h : CarriesUnit peer queued i f) (hq : queued <+: queued') :
    CarriesUnit peer queued' i f := by
  obtain ⟨apdu, hi, hframe, hread⟩ := h
  exact ⟨apdu, getElem?_of_prefix hq hi, hframe, hread⟩

/-- A frame that carries a numbered unit was sent by the part of the turn itself, not at the end of
the connection. -/
theorem Progress.mem_sent_of_mem_settle {p : Progress} {f : Frame} (hf : f ∈ p.settle.2)
    (hunit : f.numbered? ≠ none) : f ∈ p.sent := by
  unfold settle at hf
  split at hf
  · exact hf
  · refine (List.mem_append.1 hf).resolve_right fun hend => hunit ?_
    have hframe : frameTo p.connection.peer .disconnect .low = .ok f := mem_of_frameTo hend
    have hdecode := decode_of_frameTo hframe (by simp)
    simp [Frame.numbered?, hdecode, Tpdu.travelling]

section
variable {accepts : Frame → Bool} {now : Nat} {f g : Frame} {c : Connection}

/-- Acknowledgements carry no numbered unit. -/
theorem numbered?_of_transmit_ack {s : UInt8} (hg : g ∈ (transmit accepts (.ack s) c).sent) :
    g.numbered? = none := by
  rw [transmit_sent] at hg
  have hdecode := decode_of_frameTo (mem_of_frameTo hg) (by simp)
  simp [Frame.numbered?, hdecode, Tpdu.travelling]

/-- Looking at a frame, a connection sends no unit but the one that is outstanding. -/
theorem onFrame_sent (hg : g ∈ (c.onFrame accepts now f).sent) (hunit : g.numbered? ≠ none) :
    ∃ apdu, c.outstanding = [apdu] ∧
      g ∈ (frameTo c.peer (.dataConnected c.sendNo apdu) .low).toOption.toList := by
  obtain ⟨apdu, -, heq⟩ | ⟨apdu, -, heq⟩ | ⟨apdu, retries, deadline, -, -, heq⟩ |
    ⟨apdu, retries, deadline, hphase, heq⟩ | heq | heq := c.onFrame_cases accepts now f
  · rw [heq] at hg
    exact absurd (numbered?_of_transmit_ack hg) hunit
  · rw [heq] at hg
    exact absurd (numbered?_of_transmit_ack hg) hunit
  · rw [heq] at hg
    exact absurd hg List.not_mem_nil
  · rw [heq, resend, transmit_sent] at hg
    exact ⟨apdu, by rw [outstanding, hphase], hg⟩
  · rw [heq] at hg
    exact absurd hg List.not_mem_nil
  · rw [heq] at hg
    exact absurd hg List.not_mem_nil

/-- At its timers and its queue, a connection sends no unit but the first that it holds. -/
theorem proceed_sent (hg : g ∈ (c.proceed accepts now).sent) :
    ∃ apdu rest, c.outstanding ++ c.outgoing = apdu :: rest ∧
      g ∈ (frameTo c.peer (.dataConnected c.sendNo apdu) .low).toOption.toList := by
  obtain ⟨apdu, rest, hphase, hqueue, heq⟩ | ⟨apdu, retries, deadline, hphase, heq⟩ | heq | heq :=
    c.proceed_cases accepts now
  · rw [heq, sendNext_sent accepts now hqueue] at hg
    exact ⟨apdu, rest, by rw [outstanding, hphase, hqueue]; rfl, hg⟩
  · rw [heq, resend, transmit_sent] at hg
    exact ⟨apdu, c.outgoing, by rw [outstanding, hphase]; rfl, hg⟩
  · rw [heq] at hg
    exact absurd hg List.not_mem_nil
  · rw [heq] at hg
    exact absurd hg List.not_mem_nil

end

end Connection

end KnxBus
