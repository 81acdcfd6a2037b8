import KnxBus.Proofs.Tunnel.Parts
import KnxBus.Proofs.Window

/-!
# The chronicle of a session

A client does not remember which frames it has put into requests, nor how many requests in either
direction are settled.  A `TunnelChronicle` is a client in a session together with that.  It follows
the client until the session ends; what the client does afterwards belongs to another session.

As with connections, all that matters to the other side is which requests and acknowledgements are
sent, which are taken in, and which counters move.  There are four possibilities
(`TunnelChronicle.Effect`).
-/

namespace KnxBus

/-- A client together with the past of its session. -/
structure TunnelChronicle where
  /-- The client. -/
  tunnel : Tunnel
  /-- The frames that were put into requests, oldest first. -/
  submitted : List Frame
  /-- How many of these requests have been acknowledged. -/
  acked : Nat
  /-- How many requests of the gateway have been taken. -/
  taken : Nat
  deriving DecidableEq, Repr

namespace TunnelChronicle

/-- What the client has become enters into the chronicle, together with what can be seen from it.  A
frame has been put into a request if a request is outstanding that was not before; it was the first
in the queue.  A counter has moved if the number that goes with it has. -/
def noting (r : TunnelChronicle) (t : Tunnel) : TunnelChronicle :=
  match r.tunnel.session?, t.session? with
  | some s, some s' =>
    { tunnel := t
      submitted :=
        if s.pending = none ∧ s'.pending ≠ none then r.submitted ++ r.tunnel.outbox.take 1
        else r.submitted
      acked := if s'.sendNo = s.sendNo then r.acked else r.acked + 1
      taken := if s'.receiveNo = s.receiveNo then r.taken else r.taken + 1 }
  | _, _ => { r with tunnel := t }

/-- One thing happens at the client; the datagrams that it sends come out.  Once the session has
ended, the chronicle is complete. -/
def act (a : Tunnel.Act) (r : TunnelChronicle) : TunnelChronicle × List Outgoing :=
  if r.tunnel.isConnected then (r.noting (r.tunnel.perform a).1, (r.tunnel.perform a).2)
  else (r, [])

/-- Datagrams have come in. -/
def hear (packets : List Received) (r : TunnelChronicle) : TunnelChronicle :=
  { r with tunnel := { r.tunnel with received := r.tunnel.received ++ packets } }

/-- The datagrams that the client has not looked at. -/
def waiting (r : TunnelChronicle) : List Packet := r.tunnel.received.map (·.packet)

/-- The message can carry the frame with the given index. -/
def Carries (frames : List Frame) (i : Nat) (message : Octets) : Prop :=
  ∃ f, frames[i]? = some f ∧ (Cemi.mk .request f).toOctets = .ok message

/-! ## Agreement of the session with its past -/

/-- A session on a channel agrees with its past. -/
structure Agrees (channel : UInt8) (r : TunnelChronicle) (s : TunnelSession) : Prop where
  /-- It is a session on this channel. -/
  channel_eq : s.channel = channel
  /-- The next number counts the requests acknowledged. -/
  sendNo_eq : s.sendNo = octetNo r.acked
  /-- The expected number counts the requests taken. -/
  receiveNo_eq : s.receiveNo = octetNo r.taken
  /-- If no request is outstanding, all have been acknowledged. -/
  idle : s.pending.map (·.packet) = none → r.submitted.length = r.acked
  /-- An outstanding request carries the one frame that has not been acknowledged. -/
  busy : ∀ p, s.pending.map (·.packet) = some p → r.submitted.length = r.acked + 1 ∧
    ∃ message, Carries r.submitted r.acked message ∧
      p = (TunnelRequest.mk channel (octetNo r.acked) message).toPacket

/-- While the session lasts, it agrees with its past. -/
def Sound (channel : UInt8) (r : TunnelChronicle) : Prop :=
  r.tunnel.isConnected = true → ∃ s, r.tunnel.link = .connected s ∧ r.Agrees channel s

/-- What happens at a client, as it matters to the gateway. -/
inductive Effect (channel : UInt8) (r r' : TunnelChronicle) (sent : List Outgoing) : Prop where
  /-- Nothing. -/
  | quiet (submitted : r'.submitted = r.submitted) (acked : r'.acked = r.acked)
      (taken : r'.taken = r.taken) (waiting : r'.waiting.Sublist r.waiting)
      (requests : requestsOn channel (traffic sent) = [])
      (acks : acksOn channel (traffic sent) = [])
  /-- The frame behind the acknowledged ones is sent, for the first time or again. -/
  | sends (message : Octets) (submitted : r.submitted <+: r'.submitted)
      (acked : r'.acked = r.acked) (taken : r'.taken = r.taken)
      (waiting : r'.waiting.Sublist r.waiting)
      (carried : Carries r'.submitted r.acked message)
      (requests : (requestsOn channel (traffic sent)).Sublist [(octetNo r.acked, message)])
      (acks : acksOn channel (traffic sent) = [])
  /-- The request that is expected is taken and acknowledged. -/
  | takes (p : Packet) (later : List Packet) (message : Octets)
      (submitted : r'.submitted = r.submitted) (acked : r'.acked = r.acked)
      (taken : r'.taken = r.taken + 1) (front : r.waiting = p :: later)
      (numbered : p.requestOn? channel = some (octetNo r.taken, message))
      (waiting : r'.waiting = later)
      (requests : requestsOn channel (traffic sent) = [])
      (acks : (acksOn channel (traffic sent)).Sublist [octetNo r.taken])
  /-- The outstanding request is acknowledged. -/
  | acknowledged (p : Packet) (later : List Packet) (submitted : r'.submitted = r.submitted)
      (acked : r'.acked = r.acked + 1) (taken : r'.taken = r.taken)
      (front : r.waiting = p :: later) (confirms : p.ackOn? channel = some (octetNo r.acked))
      (waiting : r'.waiting = later)
      (requests : requestsOn channel (traffic sent) = [])
      (acks : acksOn channel (traffic sent) = [])

/-! ## The chronicle after a part of a turn -/

variable {channel : UInt8} {r : TunnelChronicle} {s : TunnelSession}

theorem session?_of_link {t : Tunnel} (h : t.link = .connected s) : t.session? = some s := by
  rw [Tunnel.session?, h]

theorem noting_of_links {t : Tunnel} {s' : TunnelSession} (h : r.tunnel.link = .connected s)
    (h' : t.link = .connected s') :
    r.noting t =
      { tunnel := t
        submitted :=
          if s.pending = none ∧ s'.pending ≠ none then r.submitted ++ r.tunnel.outbox.take 1
          else r.submitted
        acked := if s'.sendNo = s.sendNo then r.acked else r.acked + 1
        taken := if s'.receiveNo = s.receiveNo then r.taken else r.taken + 1 } := by
  rw [noting, session?_of_link h, session?_of_link h']

theorem noting_unmoved {t t' : Tunnel} (h : r.tunnel.link = .connected s)
    (hu : Tunnel.Unmoved s t t') : r.noting t' = { r with tunnel := t' } := by
  cases hlink : t'.link with
  | disconnected time => rw [noting, session?_of_link h, Tunnel.session?, hlink]
  | connecting time => rw [noting, session?_of_link h, Tunnel.session?, hlink]
  | connected s' =>
    obtain ⟨-, hsend, hreceive⟩ := hu.counters s' hlink
    have hpending : ¬ (s.pending = none ∧ s'.pending ≠ none) := by
      rintro ⟨hnone, hsome⟩
      rcases hu.pending s' hlink with heq | ⟨heq, -⟩
      · rw [hnone, Option.map_none, Option.map_eq_none_iff] at heq
        exact hsome heq
      · exact hsome heq
    rw [noting_of_links h hlink, if_neg hpending, if_pos hsend, if_pos hreceive]

theorem sound_unmoved {t t' : Tunnel} (h : r.Agrees channel s) (hu : Tunnel.Unmoved s t t') :
    Sound channel { r with tunnel := t' } := by
  intro hconnected
  obtain ⟨s', hlink⟩ := hu.stays hconnected
  obtain ⟨hchannel, hsend, hreceive⟩ := hu.counters s' hlink
  have hpending : s'.pending.map (·.packet) = s.pending.map (·.packet) := by
    rcases hu.pending s' hlink with heq | ⟨-, hnot⟩
    · exact heq
    · rw [hconnected] at hnot
      cases hnot
  refine ⟨s', hlink, hchannel.trans h.channel_eq, hsend.trans h.sendNo_eq,
    hreceive.trans h.receiveNo_eq, ?_, ?_⟩
  · rw [hpending]
    exact h.idle
  · rw [hpending]
    exact h.busy

/-! ## One part after the other -/

theorem act_of_connected (h : r.tunnel.isConnected = true) (a : Tunnel.Act) :
    r.act a = (r.noting (r.tunnel.perform a).1, (r.tunnel.perform a).2) := by
  rw [act, if_pos h]

/-- Nothing happens. -/
theorem Effect.refl (channel : UInt8) (r : TunnelChronicle) : Effect channel r r [] :=
  Effect.quiet rfl rfl rfl (List.Sublist.refl _) rfl rfl

/-- The counters stay where they are, and nothing is sent but asides. -/
theorem unmoved_effect {t t' : Tunnel} {sent : List Outgoing} (h : r.Agrees channel s)
    (hlink : r.tunnel.link = .connected s) (hu : Tunnel.Unmoved s t t')
    (ht : t.received.Sublist r.tunnel.received) (hsent : ∀ o ∈ sent, o.IsAside) :
    (r.noting t').Sound channel ∧ Effect channel r (r.noting t') sent := by
  rw [noting_unmoved hlink hu]
  refine ⟨sound_unmoved h hu, Effect.quiet rfl rfl rfl ?_ ?_ ?_⟩
  · rw [waiting, waiting, hu.received_eq]
    exact ht.map _
  · exact requestsOn_traffic_silent fun o ho => (hsent o ho).silentOn channel
  · exact acksOn_traffic_silent fun o ho => (hsent o ho).silentOn channel

theorem look_effect (h : r.Agrees channel s) (hlink : r.tunnel.link = .connected s) (now : Nat) :
    (r.noting (r.tunnel.perform (.look now)).1).Sound channel ∧
      Effect channel r (r.noting (r.tunnel.perform (.look now)).1)
        (r.tunnel.perform (.look now)).2 := by
  cases hfront : r.tunnel.received with
  | nil =>
    rw [Tunnel.perform_look_nil hfront]
    exact unmoved_effect h hlink (Tunnel.Unmoved.refl hlink) (List.Sublist.refl _)
      (fun o ho => absurd ho List.not_mem_nil)
  | cons p later =>
    have hlook := Tunnel.perform_look_cons hfront now
    have hwaiting : r.waiting = p.packet :: later.map (·.packet) := by
      rw [waiting, hfront, List.map_cons]
    have hlink' : (r.tunnel.withReceived later).link = .connected s := hlink
    rw [hlook]
    obtain ⟨message, hrequest, heq⟩ | ⟨hack, hpending, heq⟩ | ⟨hu, hasides⟩ :=
      Tunnel.onPacket_cases hlink' now p
    · rw [h.channel_eq] at hrequest heq
      rw [heq]
      have hmoved : s.receiveNo + 1 ≠ s.receiveNo := by
        rw [h.receiveNo_eq, ← octetNo_succ]
        exact alternates_octetNo r.taken
      rw [noting_of_links hlink rfl]
      simp only [if_neg hmoved, if_true, show ¬ (s.pending = none ∧ s.pending ≠ none) by
        rintro ⟨hnone, hsome⟩; exact hsome hnone, if_false]
      rw [h.receiveNo_eq] at hrequest ⊢
      refine ⟨fun _ => ⟨_, rfl, rfl, h.sendNo_eq, (octetNo_succ _).symm, h.idle, h.busy⟩, ?_⟩
      exact Effect.takes p.packet _ message rfl rfl rfl hwaiting hrequest rfl
        (requestsOn_ack _ _ _) (acksOn_ack _ ⟨channel, _, _⟩)
    · rw [h.channel_eq, h.sendNo_eq] at hack
      rw [heq]
      have hmoved : s.sendNo + 1 ≠ s.sendNo := by
        rw [h.sendNo_eq, ← octetNo_succ]
        exact alternates_octetNo r.acked
      obtain ⟨q, hq⟩ := Option.isSome_iff_exists.1 hpending
      have hlength := (h.busy q.packet (by rw [hq]; rfl)).1
      rw [noting_of_links hlink rfl]
      simp only [if_neg hmoved, if_true, ne_eq, not_true, and_false, if_false]
      refine ⟨fun _ => ⟨_, rfl, h.channel_eq, ?_, h.receiveNo_eq, fun _ => hlength, ?_⟩, ?_⟩
      · rw [h.sendNo_eq]
        exact (octetNo_succ _).symm
      · intro p' hp'
        cases hp'
      · exact Effect.acknowledged p.packet _ rfl rfl rfl hwaiting hack rfl rfl rfl
    · refine unmoved_effect h hlink hu ?_ hasides
      rw [hfront]
      exact List.sublist_cons_self p later

theorem carries_last {frames : List Frame} {f : Frame} {message : Octets}
    (h : (Cemi.mk .request f).toOctets = .ok message) :
    Carries (frames ++ [f]) frames.length message :=
  ⟨f, List.getElem?_concat_length, h⟩

theorem timers_effect (h : r.Agrees channel s) (hlink : r.tunnel.link = .connected s) (now : Nat) :
    (r.noting (r.tunnel.onTimers now).1).Sound channel ∧
      Effect channel r (r.noting (r.tunnel.onTimers now).1) (r.tunnel.onTimers now).2 := by
  obtain ⟨hu, again, asides, hsent, hasides, hagain⟩ := Tunnel.onTimers_cases hlink now
  rcases hagain with rfl | ⟨p, hp, rfl⟩
  · rw [hsent]
    exact unmoved_effect h hlink hu (List.Sublist.refl _) hasides
  · obtain ⟨-, message, hcarried, hpacket⟩ := h.busy p.packet (by rw [hp]; rfl)
    rw [noting_unmoved hlink hu, hsent]
    refine ⟨sound_unmoved h hu, ?_⟩
    have hsilent : ∀ o ∈ asides, o.IsSilentOn channel := fun o ho => (hasides o ho).silentOn channel
    have hwaiting : ({ r with tunnel := (r.tunnel.onTimers now).1 } : TunnelChronicle).waiting =
        r.waiting := by
      rw [waiting, waiting, hu.received_eq]
    refine Effect.sends message (List.prefix_refl _) rfl rfl ?_ hcarried ?_ ?_
    · exact hwaiting ▸ List.Sublist.refl _
    · rw [traffic_append, requestsOn_append, requestsOn_traffic_silent hsilent, List.append_nil,
        hpacket]
      exact requestsOn_request _ ⟨channel, octetNo r.acked, message⟩
    · rw [traffic_append, acksOn_append, acksOn_traffic_silent hsilent, List.append_nil, hpacket]
      exact acksOn_request _ _ _

theorem next_effect (h : r.Agrees channel s) (hlink : r.tunnel.link = .connected s) (now : Nat) :
    (r.noting (r.tunnel.sendNext now).1).Sound channel ∧
      Effect channel r (r.noting (r.tunnel.sendNext now).1) (r.tunnel.sendNext now).2 := by
  obtain ⟨frame, rest, message, hout, hidle, hmessage, heq⟩ | ⟨hu, hsent⟩ :=
    Tunnel.sendNext_cases hlink now
  · rw [heq, h.channel_eq, h.sendNo_eq, noting_of_links hlink rfl]
    have hlength := h.idle (by rw [hidle]; rfl)
    have hcarries : Carries (r.submitted ++ [frame]) r.acked message := by
      rw [← hlength]
      exact carries_last hmessage
    have hout' : r.tunnel.outbox.take 1 = [frame] := by
      rw [hout, List.take_succ_cons, List.take_zero]
    simp only [hidle, ne_eq, not_false_eq_true, and_self, if_true, h.sendNo_eq, hout', reduceCtorEq]
    refine ⟨fun _ => ⟨_, rfl, rfl, rfl, h.receiveNo_eq, ?_, ?_⟩, ?_⟩
    · intro hnone
      cases hnone
    · intro p hp
      cases hp
      exact ⟨by rw [List.length_append, hlength, List.length_singleton], message, hcarries, rfl⟩
    · exact Effect.sends message (List.prefix_append _ _) rfl rfl (List.Sublist.refl _) hcarries
        (requestsOn_request _ ⟨channel, octetNo r.acked, message⟩) (acksOn_request _ _ _)
  · rw [hsent]
    exact unmoved_effect h hlink hu (List.Sublist.refl _) (fun o ho => absurd ho List.not_mem_nil)

/-- **What a client does in a session is one of the four things** that matter to the gateway, and
the session goes on agreeing with its past. -/
theorem act_effect (h : r.Sound channel) (a : Tunnel.Act) :
    (r.act a).1.Sound channel ∧ Effect channel r (r.act a).1 (r.act a).2 := by
  cases hconnected : r.tunnel.isConnected with
  | false =>
    rw [act, hconnected]
    exact ⟨h, Effect.refl channel r⟩
  | true =>
    obtain ⟨s, hlink, hagrees⟩ := h hconnected
    have hnothing : ∀ o ∈ ([] : List Outgoing), o.IsAside := fun o ho => absurd ho List.not_mem_nil
    rw [act_of_connected hconnected]
    cases a with
    | send frame =>
      refine unmoved_effect hagrees hlink ?_ (List.Sublist.refl r.tunnel.received) hnothing
      exact Tunnel.unmoved_of_link hlink rfl ⟨rfl, rfl, rfl⟩ rfl
    | attend inbox mode =>
      refine unmoved_effect hagrees hlink ?_ (List.Sublist.refl r.tunnel.received) hnothing
      exact Tunnel.unmoved_of_link hlink rfl ⟨rfl, rfl, rfl⟩ rfl
    | look now => exact look_effect hagrees hlink now
    | timers now => exact timers_effect hagrees hlink now
    | next now => exact next_effect hagrees hlink now
    | finish =>
      obtain ⟨hu, hasides⟩ := Tunnel.finish_cases hlink
      exact unmoved_effect hagrees hlink hu (List.Sublist.refl _) hasides

/-- A client that has nothing else to look at takes the request that is expected. -/
theorem hear_taken (h : r.Agrees channel s) (hlink : r.tunnel.link = .connected s)
    (hconnected : r.tunnel.isConnected = true) (hwaiting : r.waiting = []) {p : Received}
    {message : Octets} (hexpected : p.packet.requestOn? channel = some (s.receiveNo, message))
    (now : Nat) : ((r.hear [p]).act (.look now)).1.taken = r.taken + 1 := by
  have hreceived : (r.hear [p]).tunnel.received = [p] := by
    rw [hear, List.map_eq_nil_iff.1 hwaiting, List.nil_append]
  have hlook := Tunnel.perform_look_cons hreceived now
  have hmoved : s.receiveNo + 1 ≠ s.receiveNo := by
    rw [h.receiveNo_eq, ← octetNo_succ]
    exact alternates_octetNo r.taken
  have hlink' : (r.hear [p]).tunnel.link = .connected s := hlink
  have hlooking : ((r.hear [p]).tunnel.withReceived []).link = .connected s := hlink
  have hconnected' : (r.hear [p]).tunnel.isConnected = true := hconnected
  rw [← h.channel_eq] at hexpected
  rw [act_of_connected hconnected', hlook, Tunnel.onPacket_expected hlooking now hexpected,
    noting_of_links hlink' rfl]
  simp only [if_neg hmoved]
  rfl

theorem hear_sound (h : r.Sound channel) (packets : List Received) :
    (r.hear packets).Sound channel := by
  intro hconnected
  obtain ⟨s, hlink, hagrees⟩ := h hconnected
  exact ⟨s, hlink, hagrees.channel_eq, hagrees.sendNo_eq, hagrees.receiveNo_eq, hagrees.idle,
    hagrees.busy⟩

end TunnelChronicle
end KnxBus
