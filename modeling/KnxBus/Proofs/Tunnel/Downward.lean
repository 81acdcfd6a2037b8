import KnxBus.Proofs.Tunnel.Dialogue

/-!
# From the bus to the client

A channel numbers its requests and waits for each to be acknowledged; the client takes the request
that it expects and acknowledges it.  Requests come down, acknowledgements go up, and a `Window`
holds between the two.  In this direction there is an end to patience: a channel that has sent a
frame often enough gives it up and goes on with the next one under the same number.

So when the channel is idle its number need not be the one that the client expects.  If the client
has taken the frame that was given up, it is one number ahead, it drops whatever comes under the old
number, and it never acknowledges a second time what it has taken.  The two stay apart until the
session ends.  `Dialogue.numbers_agree_iff` says when this happens, and that nothing mends it.
-/

namespace KnxBus
namespace Dialogue

/-- The requests on the way down, which carry what they may carry, and their acknowledgements on the
way up fit. -/
def FitsDown (id : UInt8) (carries : Nat → Octets → Prop) (d : Dialogue) : Prop :=
  Window octetNo carries d.gateway.acked d.client.taken (requestsOn id d.downward)
    (acksOn id d.upward)

/-- All is well with what comes down. -/
structure WellDown (id : UInt8) (d : Dialogue) : Prop where
  /-- The requests on the way down and their acknowledgements on the way up fit. -/
  window : Window octetNo (fun _ (_ : Octets) => True) d.gateway.acked d.client.taken
    (requestsOn id d.downward) (acksOn id d.upward)
  /-- As long as the channel is settled, the client has taken what was acknowledged, and nothing
  that it would take is on the way. -/
  settled : d.gateway.Settled id → d.client.taken = d.gateway.acked ∧
    ∀ x ∈ requestsOn id d.downward, x.1 ≠ octetNo d.client.taken

variable {id : UInt8} {d d' : Dialogue}

/-! ## The window -/

section
variable {carries : Nat → Octets → Prop}

/-- What has been taken and acknowledged is the same, and no more is on the way. -/
theorem FitsDown.lose (h : FitsDown id carries d) (hacked : d'.gateway.acked = d.gateway.acked)
    (htaken : d'.client.taken = d.client.taken)
    (hrequests : (requestsOn id d'.downward).Sublist (requestsOn id d.downward))
    (hacks : (acksOn id d'.upward).Sublist (acksOn id d.upward)) : FitsDown id carries d' := by
  unfold FitsDown
  rw [hacked, htaken]
  exact Window.lose h hrequests hacks

theorem FitsDown.carried (h : FitsDown id carries d) (hc : Carried id d d') :
    FitsDown id carries d' :=
  h.lose hc.gatewayAcked_eq hc.clientTaken_eq hc.requestsDown hc.acksUp

/-- The request that the client takes is the oldest on the way, and it carries what it may. -/
theorem FitsDown.front (h : FitsDown id carries d) {p : Packet} {later : List Packet}
    {message : Octets} (hfront : d.client.waiting = p :: later)
    (hnumbered : p.requestOn? id = some (octetNo d.client.taken, message)) :
    d.client.taken = d.gateway.acked ∧ carries d.client.taken message ∧
      Window octetNo carries d.gateway.acked (d.client.taken + 1)
        (requestsOn id (later ++ arriving d.down))
        (acksOn id d.upward ++ [octetNo d.client.taken]) := by
  have hway : requestsOn id d.downward =
      (octetNo d.client.taken, message) :: requestsOn id (later ++ arriving d.down) := by
    rw [downward, hfront, List.cons_append, requestsOn_cons hnumbered]
  rw [FitsDown, hway] at h
  exact h.take alternates_octetNo

/-- What the client does is allowed by the window through which it receives. -/
theorem FitsDown.client (h : FitsDown id carries d) {r : TunnelChronicle} {sent : List Outgoing}
    (heffect : TunnelChronicle.Effect id d.client r sent) :
    FitsDown id carries { d with client := r, up := d.up ++ wireOf sent } := by
  have hup := acksOn_sent id d.gateway.waiting d.up sent
  have hsilent : r.taken = d.client.taken → r.waiting.Sublist d.client.waiting →
      acksOn id (traffic sent) = [] →
      FitsDown id carries { d with client := r, up := d.up ++ wireOf sent } := by
    intro htaken hwaiting hacks
    refine h.lose rfl htaken (requestsOn_looked hwaiting _) ?_
    rw [upward, hup, hacks, List.append_nil]
    exact List.Sublist.refl _
  cases heffect with
  | quiet submitted acked taken waiting requests acks => exact hsilent taken waiting acks
  | sends message submitted acked taken waiting carried requests acks =>
    exact hsilent taken waiting acks
  | takes p later message submitted acked taken front numbered waiting requests acks =>
    obtain ⟨-, -, hw⟩ := h.front front numbered
    rw [FitsDown, upward, hup, downward, waiting, taken]
    exact hw.lose (List.Sublist.refl _) (acks.append_left _)
  | acknowledged p later submitted acked taken front confirms waiting requests acks =>
    exact hsilent taken (sublist_of_front front waiting) acks

/-- When the gateway looks at an acknowledgement, the client has taken what it acknowledges. -/
theorem FitsDown.acknowledge (h : FitsDown id carries d) {p : Packet} {later : List Packet}
    (hfront : d.gateway.waiting = p :: later)
    (hconfirms : p.ackOn? id = some (octetNo d.gateway.acked)) :
    d.client.taken = d.gateway.acked + 1 ∧
      (∀ x ∈ requestsOn id d.downward, x.1 ≠ octetNo d.client.taken) ∧
      Window octetNo carries (d.gateway.acked + 1) d.client.taken (requestsOn id d.downward)
        (acksOn id (later ++ arriving d.up)) := by
  rw [FitsDown, upward, hfront, List.cons_append, acksOn_cons hconfirms] at h
  obtain ⟨htaken, hw⟩ := h.acknowledge alternates_octetNo
  exact ⟨htaken, h.ne_of_ahead alternates_octetNo htaken, hw⟩

/-- What the gateway does is allowed by the window through which it sends, if what it sends may be
carried. -/
theorem FitsDown.gateway (h : FitsDown id carries d) {r : GatewayChronicle} {sent : List Outgoing}
    (heffect : GatewayChronicle.Effect id d.gateway r sent)
    (hcarries : ∀ x ∈ requestsOn id (traffic sent), carries d.gateway.acked x.2) :
    FitsDown id carries { d with gateway := r, down := d.down ++ wireOf sent } := by
  have hdown := requestsOn_sent id d.client.waiting d.down sent
  have hsilent : r.acked = d.gateway.acked → r.waiting.Sublist d.gateway.waiting →
      requestsOn id (traffic sent) = [] →
      FitsDown id carries { d with gateway := r, down := d.down ++ wireOf sent } := by
    intro hacked hwaiting hrequests
    refine h.lose hacked rfl ?_ (acksOn_looked hwaiting _)
    rw [downward, hdown, hrequests, List.append_nil]
    exact List.Sublist.refl _
  cases heffect with
  | quiet accepted forwarded acked waiting settled requests acks =>
    exact hsilent acked waiting requests
  | sends message accepted forwarded acked waiting settled requests acks =>
    rcases List.sublist_cons_iff.1 requests with hnone | ⟨rest, hsome, hrest⟩
    · exact hsilent acked waiting (List.sublist_nil.1 hnone)
    · rw [List.sublist_nil.1 hrest] at hsome
      have hmessage : carries d.gateway.acked message := by
        refine hcarries (octetNo d.gateway.acked, message) ?_
        rw [hsome]
        exact List.mem_singleton_self _
      rw [FitsDown, downward, hdown, acked, hsome]
      exact (Window.send h hmessage).lose (List.Sublist.refl _) (acksOn_looked waiting _)
  | takes p later q front numbered accepted forwarded acked waiting settled requests acks =>
    exact hsilent acked (sublist_of_front front waiting) requests
  | repeats p later n message front numbered before accepted forwarded acked waiting settled
      requests acks =>
    exact hsilent acked (sublist_of_front front waiting) requests
  | acknowledged p later front confirms accepted forwarded acked waiting requests acks =>
    obtain ⟨-, -, hw⟩ := h.acknowledge front confirms
    have hway : requestsOn id ({ d with gateway := r, down := d.down ++ wireOf sent } :
        Dialogue).downward = requestsOn id d.downward := by
      rw [downward, hdown, requests, List.append_nil, downward]
    rw [FitsDown, hway, upward, waiting, acked]
    exact hw

end

/-! ## What is settled -/

/-- What has been taken and acknowledged is the same, and no more is on the way. -/
theorem WellDown.lose (h : WellDown id d) (hacked : d'.gateway.acked = d.gateway.acked)
    (htaken : d'.client.taken = d.client.taken)
    (hsettled : d'.gateway.Settled id → d.gateway.Settled id)
    (hrequests : (requestsOn id d'.downward).Sublist (requestsOn id d.downward))
    (hacks : (acksOn id d'.upward).Sublist (acksOn id d.upward)) : WellDown id d' := by
  refine ⟨FitsDown.lose h.window hacked htaken hrequests hacks, fun hd' => ?_⟩
  obtain ⟨heq, hnone⟩ := h.settled (hsettled hd')
  rw [hacked, htaken]
  exact ⟨heq, fun x hx => hnone x (hrequests.subset hx)⟩

theorem WellDown.client (h : WellDown id d) {r : TunnelChronicle} {sent : List Outgoing}
    (heffect : TunnelChronicle.Effect id d.client r sent) :
    WellDown id { d with client := r, up := d.up ++ wireOf sent } := by
  have hwindow := FitsDown.client h.window heffect
  have hkept : r.taken = d.client.taken → r.waiting.Sublist d.client.waiting →
      WellDown id { d with client := r, up := d.up ++ wireOf sent } := by
    intro htaken hwaiting
    refine ⟨hwindow, fun hd => ?_⟩
    obtain ⟨heq, hnone⟩ := h.settled hd
    simp only [htaken]
    exact ⟨heq, fun x hx => hnone x ((requestsOn_looked hwaiting _).subset hx)⟩
  cases heffect with
  | quiet submitted acked taken waiting requests acks => exact hkept taken waiting
  | sends message submitted acked taken waiting carried requests acks => exact hkept taken waiting
  | takes p later message submitted acked taken front numbered waiting requests acks =>
    refine ⟨hwindow, fun hd => ?_⟩
    have hmem : (octetNo d.client.taken, message) ∈ requestsOn id d.downward := by
      rw [downward, front, List.cons_append, requestsOn_cons numbered]
      exact List.mem_cons_self
    exact absurd rfl ((h.settled hd).2 _ hmem)
  | acknowledged p later submitted acked taken front confirms waiting requests acks =>
    exact hkept taken (sublist_of_front front waiting)

theorem WellDown.gateway (h : WellDown id d) {r : GatewayChronicle} {sent : List Outgoing}
    (heffect : GatewayChronicle.Effect id d.gateway r sent) :
    WellDown id { d with gateway := r, down := d.down ++ wireOf sent } := by
  have hdown := requestsOn_sent id d.client.waiting d.down sent
  have hwindow := FitsDown.gateway h.window heffect fun _ _ => trivial
  have hkept : r.acked = d.gateway.acked → (r.Settled id → d.gateway.Settled id) →
      requestsOn id (traffic sent) = [] →
      WellDown id { d with gateway := r, down := d.down ++ wireOf sent } := by
    intro hacked hsettled hrequests
    refine ⟨hwindow, fun hd => ?_⟩
    obtain ⟨heq, hnone⟩ := h.settled (hsettled hd)
    rw [downward, hdown, hrequests, List.append_nil]
    simp only [hacked]
    exact ⟨heq, hnone⟩
  cases heffect with
  | quiet accepted forwarded acked waiting settled requests acks =>
    exact hkept acked settled requests
  | sends message accepted forwarded acked waiting settled requests acks =>
    exact ⟨hwindow, fun hd => absurd hd settled⟩
  | takes p later q front numbered accepted forwarded acked waiting settled requests acks =>
    exact hkept acked settled requests
  | repeats p later n message front numbered before accepted forwarded acked waiting settled
      requests acks =>
    exact hkept acked settled requests
  | acknowledged p later front confirms accepted forwarded acked waiting requests acks =>
    obtain ⟨htaken, hnone, -⟩ := FitsDown.acknowledge h.window front confirms
    refine ⟨hwindow, fun _ => ?_⟩
    rw [downward, hdown, requests, List.append_nil]
    simp only [acked]
    exact ⟨htaken, hnone⟩

theorem WellDown.step (h : WellDown id d) (hsound : d.Sound id) (m : Move) :
    WellDown id (d.step id m) := by
  cases (step_outcome hsound m).2 with
  | client r sent effect heq =>
    rw [heq]
    exact h.client effect
  | gateway r sent effect heq =>
    rw [heq]
    exact h.gateway effect
  | carried hc =>
    exact h.lose hc.gatewayAcked_eq hc.clientTaken_eq hc.settled hc.requestsDown hc.acksUp

theorem start_wellDown (id : UInt8) (s : Setting) : WellDown id (start id s) :=
  ⟨Window.start, fun _ => ⟨rfl, fun _ hx => absurd hx List.not_mem_nil⟩⟩

theorem run_wellDown (h : d.Sound id) (hdown : WellDown id d) (moves : List Move) :
    (run id moves d).Sound id ∧ WellDown id (run id moves d) := by
  refine run_invariant (fun d => d.Sound id ∧ WellDown id d) ?_ moves ⟨h, hdown⟩
  rintro m d ⟨hsound, h⟩
  exact ⟨(step_outcome hsound m).1, h.step hsound m⟩

/-! ## Apart for good -/

/-- The client has taken a request and its acknowledgement is lost. -/
structure Parted (id : UInt8) (taken : Nat) (d : Dialogue) : Prop where
  /-- The client has taken so many requests. -/
  taken_eq : d.client.taken = taken
  /-- The gateway has seen one less acknowledged. -/
  ahead : taken = d.gateway.acked + 1
  /-- No acknowledgement is on the way. -/
  unanswered : acksOn id d.upward = []

variable {taken : Nat}

theorem Parted.client (h : Parted id taken d) (hdown : WellDown id d) {r : TunnelChronicle}
    {sent : List Outgoing} (heffect : TunnelChronicle.Effect id d.client r sent) :
    Parted id taken { d with client := r, up := d.up ++ wireOf sent } := by
  have hup := acksOn_sent id d.gateway.waiting d.up sent
  have hnone : acksOn id (traffic sent) = [] → acksOn id ({ d with
      client := r, up := d.up ++ wireOf sent } : Dialogue).upward = [] := by
    intro hacks
    rw [upward, hup, hacks, List.append_nil]
    exact h.unanswered
  cases heffect with
  | quiet submitted acked taken waiting requests acks =>
    exact ⟨taken.trans h.taken_eq, h.ahead, hnone acks⟩
  | sends message submitted acked taken waiting carried requests acks =>
    exact ⟨taken.trans h.taken_eq, h.ahead, hnone acks⟩
  | takes p later message submitted acked taken front numbered waiting requests acks =>
    have hw := h.ahead
    have hwindow := hdown.window
    rw [downward, front, List.cons_append, requestsOn_cons numbered] at hwindow
    have heq := (hwindow.take alternates_octetNo).1
    rw [h.taken_eq] at heq
    omega
  | acknowledged p later submitted acked taken front confirms waiting requests acks =>
    exact ⟨taken.trans h.taken_eq, h.ahead, hnone acks⟩

theorem Parted.gateway (h : Parted id taken d) {r : GatewayChronicle} {sent : List Outgoing}
    (heffect : GatewayChronicle.Effect id d.gateway r sent) :
    Parted id taken { d with gateway := r, down := d.down ++ wireOf sent } := by
  have hnone : ∀ {waiting : List Packet}, waiting.Sublist d.gateway.waiting →
      acksOn id (waiting ++ arriving d.up) = [] := by
    intro waiting hwaiting
    have hsub : (acksOn id (waiting ++ arriving d.up)).Sublist (acksOn id d.upward) :=
      acksOn_looked hwaiting d.up
    rw [h.unanswered] at hsub
    exact List.sublist_nil.1 hsub
  cases heffect with
  | quiet accepted forwarded acked waiting settled requests acks =>
    exact ⟨h.taken_eq, by rw [acked]; exact h.ahead, hnone waiting⟩
  | sends message accepted forwarded acked waiting settled requests acks =>
    exact ⟨h.taken_eq, by rw [acked]; exact h.ahead, hnone waiting⟩
  | takes p later q front numbered accepted forwarded acked waiting settled requests acks =>
    exact ⟨h.taken_eq, by rw [acked]; exact h.ahead, hnone (sublist_of_front front waiting)⟩
  | repeats p later n message front numbered before accepted forwarded acked waiting settled
      requests acks =>
    exact ⟨h.taken_eq, by rw [acked]; exact h.ahead, hnone (sublist_of_front front waiting)⟩
  | acknowledged p later front confirms accepted forwarded acked waiting requests acks =>
    have hunanswered := h.unanswered
    rw [upward, front, List.cons_append, acksOn_cons confirms] at hunanswered
    cases hunanswered

theorem Parted.step (h : Parted id taken d) (hsound : d.Sound id) (hdown : WellDown id d)
    (m : Move) : Parted id taken (d.step id m) := by
  cases (step_outcome hsound m).2 with
  | client r sent effect heq =>
    rw [heq]
    exact h.client hdown effect
  | gateway r sent effect heq =>
    rw [heq]
    exact h.gateway effect
  | carried hc =>
    refine ⟨hc.clientTaken_eq.trans h.taken_eq, by rw [hc.gatewayAcked_eq]; exact h.ahead, ?_⟩
    have hacks := hc.acksUp
    rw [h.unanswered] at hacks
    exact List.sublist_nil.1 hacks

theorem run_parted (h : Parted id taken d) (hsound : d.Sound id) (hdown : WellDown id d)
    (moves : List Move) : Parted id taken (run id moves d) := by
  refine (run_invariant (fun d => d.Sound id ∧ WellDown id d ∧ Parted id taken d) ?_ moves
    ⟨hsound, hdown, h⟩).2.2
  rintro m d ⟨hsound, hdown, h⟩
  exact ⟨(step_outcome hsound m).1, hdown.step hsound m, h.step hsound hdown m⟩

/-! ## The numbers of an idle channel -/

/-- **When the numbers agree.**  Take any state of a session in which both sides still have the
channel and no request of the gateway is under way.  The number of the channel is the one that the
client expects exactly if the client has taken no more requests than the gateway has seen
acknowledged.  This is so if no frame has been given up since the last acknowledgement.  As long as
the numbers agree, the next request under this number is taken.  If they do not, the client is one
number ahead, and if no acknowledgement is on the way either, it takes nothing more until the
session ends, whatever happens. -/
theorem numbers_agree_iff (id : UInt8) (s : Setting) (moves : List Move) {t : TunnelSession}
    {c : GatewayChannel}
    (hconnected : (run id moves (start id s)).client.tunnel.isConnected = true)
    (hlink : (run id moves (start id s)).client.tunnel.link = .connected t)
    (hheld : (run id moves (start id s)).gateway.gateway.held id = [c]) (hidle : c.attempts = 0) :
    let d := run id moves (start id s)
    (c.sendNo = t.receiveNo ↔ d.client.taken = d.gateway.acked) ∧
      (d.gateway.abandoned = 0 → c.sendNo = t.receiveNo) ∧
      (c.sendNo = t.receiveNo → d.client.waiting = [] → ∀ p message now,
        p.packet.requestOn? id = some (c.sendNo, message) →
          ((d.client.hear [p]).act (.look now)).1.taken = d.client.taken + 1) ∧
      (c.sendNo ≠ t.receiveNo → t.receiveNo = c.sendNo + 1 ∧
        (acksOn id d.upward = [] → ∀ later,
          (run id later d).client.taken = d.client.taken ∧
            (run id later d).gateway.acked = d.gateway.acked)) := by
  intro d
  obtain ⟨hsound, hdown⟩ := run_wellDown (start_sound id s) (start_wellDown id s) moves
  obtain ⟨t', hlink', hagrees⟩ := hsound.client hconnected
  have ht : t' = t := by
    rw [hlink] at hlink'
    exact (Link.connected.inj hlink').symm
  rw [ht] at hagrees
  have hsend : c.sendNo = octetNo d.gateway.acked := (hsound.gateway.agrees c hheld).sendNo_eq
  have hreceive : t.receiveNo = octetNo d.client.taken := hagrees.receiveNo_eq
  have hiff : c.sendNo = t.receiveNo ↔ d.client.taken = d.gateway.acked := by
    rw [hsend, hreceive]
    refine ⟨fun heq => ?_, fun heq => by rw [heq]⟩
    rcases hdown.window.taken_eq with h | h
    · exact h
    · rw [h] at heq
      exact absurd heq.symm (alternates_octetNo _)
  refine ⟨hiff, fun habandoned => ?_, fun heq hwaiting p message now hp => ?_, fun hne => ?_⟩
  · exact hiff.2 (hdown.settled ⟨habandoned, c, hheld, hidle⟩).1
  · rw [heq] at hp
    exact TunnelChronicle.hear_taken hagrees hlink hconnected hwaiting hp now
  · have hahead : d.client.taken = d.gateway.acked + 1 :=
      hdown.window.taken_eq.resolve_left fun h => hne (hiff.2 h)
    refine ⟨?_, fun hunanswered later => ?_⟩
    · rw [hsend, hreceive, hahead]
      exact octetNo_succ _
    · have hparted := run_parted ⟨rfl, hahead, hunanswered⟩ hsound hdown later
      refine ⟨hparted.taken_eq, ?_⟩
      have h := hparted.ahead
      omega

/-! ## A lost acknowledgement -/

/-- A client on one host and a gateway on another, which sends every frame once. -/
def Setting.twoHosts : Setting :=
  { client :=
      { config := .usual
        gateway := ⟨⟨10, 0, 0, 1⟩, 3671⟩
        own := ⟨⟨10, 0, 0, 2⟩, 50000⟩
        socket := .bound 50000 (.peers [.v4 ⟨⟨10, 0, 0, 1⟩, 3671⟩])
        link := .connecting 10000
        received := []
        outbox := []
        inbox := []
        mode := .off
        address := .unset
        isConnected := false
        lastChannel := 0
        inFlight := false }
    gateway :=
      { config := { GatewayConfig.usual with tunnel := true, sendAttempts := 1 }
        host := ⟨⟨10, 0, 0, 1⟩, [], []⟩
        socket := .bound 3671 (.allBut (.v4 ⟨⟨10, 0, 0, 1⟩, 3671⟩))
        registrations := []
        received := []
        heard := []
        channels := []
        shownCount := 0
        stopping := false
        isEnded := false }
    data := ⟨⟨10, 0, 0, 1⟩, 3671⟩
    clientControl := ⟨⟨10, 0, 0, 2⟩, 50000⟩
    clientData := ⟨⟨10, 0, 0, 2⟩, 50000⟩
    openedAt := 0
    grantedAt := 0 }

/-- A frame comes from the bus and goes down to the client, who looks at it. -/
def frameDown (now : Nat) : List Move :=
  [.gateway (.hear (.addressed (.group .broadcast) [0, 0])), .gateway .listen, .gateway (.pump now),
    .arriveDown ⟨⟨10, 0, 0, 1⟩, 3671⟩, .client (.look now)]

/-- The client takes a frame, its acknowledgement is lost, and the gateway gives the frame up. -/
def answerLost : List Move := frameDown 0 ++ [.loseUp 0, .gateway (.pump 1000)]

/-- The session that the client is left with. -/
def aheadSession : TunnelSession :=
  { channel := 1
    data := ⟨⟨10, 0, 0, 1⟩, 3671⟩
    sendNo := 0
    receiveNo := 1
    pending := none
    heartbeatAt := 30000
    heartbeatDeadline := none
    failures := 0 }

/-- The channel that the gateway is left with. -/
def behindChannel : GatewayChannel :=
  .fresh 1 ⟨⟨10, 0, 0, 2⟩, 50000⟩ ⟨⟨10, 0, 0, 2⟩, 50000⟩ 0 120000

theorem answerLost_sides :
    (run 1 answerLost (start 1 .twoHosts)).client.tunnel.isConnected = true ∧
      (run 1 answerLost (start 1 .twoHosts)).client.tunnel.link = .connected aheadSession ∧
      (run 1 answerLost (start 1 .twoHosts)).gateway.gateway.held 1 = [behindChannel] := by
  decide +kernel

theorem numbers_agree_iff_answerLost :
    let d := run 1 answerLost (start 1 .twoHosts)
    (behindChannel.sendNo = aheadSession.receiveNo ↔ d.client.taken = d.gateway.acked) ∧
      (d.gateway.abandoned = 0 → behindChannel.sendNo = aheadSession.receiveNo) ∧
      (behindChannel.sendNo = aheadSession.receiveNo → d.client.waiting = [] → ∀ p message now,
        p.packet.requestOn? 1 = some (behindChannel.sendNo, message) →
          ((d.client.hear [p]).act (.look now)).1.taken = d.client.taken + 1) ∧
      (behindChannel.sendNo ≠ aheadSession.receiveNo →
        aheadSession.receiveNo = behindChannel.sendNo + 1 ∧
        (acksOn 1 d.upward = [] → ∀ later,
          (run 1 later d).client.taken = d.client.taken ∧
            (run 1 later d).gateway.acked = d.gateway.acked)) :=
  numbers_agree_iff 1 .twoHosts answerLost answerLost_sides.1 answerLost_sides.2.1
    answerLost_sides.2.2 rfl

/-- In the end nothing is on the way, nothing is under way, both sides have the channel, and the
numbers differ.  The next frame is sent, and the client does not take it. -/
theorem numbers_differ_answerLost :
    let d := run 1 answerLost (start 1 .twoHosts)
    (d.client.tunnel.isConnected = true ∧ d.client.tunnel.link = .connected aheadSession ∧
      d.gateway.gateway.held 1 = [behindChannel] ∧ behindChannel.attempts = 0 ∧
      d.upward = [] ∧ d.downward = []) ∧
    behindChannel.sendNo ≠ aheadSession.receiveNo ∧
    requestsOn 1 (run 1 ((frameDown 2000).take 3) d).downward ≠ [] ∧
    (run 1 (frameDown 2000) d).downward = [] ∧
    (run 1 (frameDown 2000) d).client.taken = d.client.taken := by
  decide +kernel

end Dialogue
end KnxBus
