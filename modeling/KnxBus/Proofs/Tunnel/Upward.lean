import KnxBus.Proofs.Cemi
import KnxBus.Proofs.Tunnel.Dialogue

/-!
# From the client to the bus

The client puts frames into requests, and the gateway gives the frames that it finds in requests to
the bus.  The main statement, `Dialogue.forwards_in_order`, is that the bus gets the frames in the
order in which they were sent, each of them once, whatever is lost.

Requests go up, acknowledgements come down, and a `Window` holds between the two.  A request carries
its frame as octets; that the gateway reads the frame that was meant is a matter of the encoding
alone and comes in where a request is accepted.
-/

namespace KnxBus
namespace Dialogue

/-- All is well with what goes up. -/
structure WellUp (id : UInt8) (d : Dialogue) : Prop where
  /-- The requests on the way up and their acknowledgements on the way down fit. -/
  window : Window octetNo (TunnelChronicle.Carries d.client.submitted) d.client.acked
    d.gateway.accepted.length (requestsOn id d.upward) (acksOn id d.downward)
  /-- What has gone to the bus is what was to be sent. -/
  forwarded : d.gateway.forwarded <+: d.client.submitted.map Frame.validated
  /-- Every request that was accepted has brought one frame. -/
  counted : d.gateway.forwarded.length = d.gateway.accepted.length

variable {id : UInt8} {d d' : Dialogue}

/-- More frames leave the earlier ones where they are. -/
theorem carries_mono {frames more : List Frame} (h : frames <+: more) (i : Nat) (message : Octets)
    (hc : TunnelChronicle.Carries frames i message) : TunnelChronicle.Carries more i message := by
  obtain ⟨f, hf, hmessage⟩ := hc
  exact ⟨f, getElem?_of_prefix h hf, hmessage⟩

/-- The gateway gives to the bus the frame that the client has put into the request. -/
theorem broughtBy_of_carries {frames : List Frame} {i : Nat} {message : Octets}
    (h : TunnelChronicle.Carries frames i message) :
    ∃ f, frames[i]? = some f ∧ GatewayChannel.broughtBy message = [f.validated] := by
  obtain ⟨f, hf, hmessage⟩ := h
  refine ⟨f, hf, ?_⟩
  rw [GatewayChannel.broughtBy, Cemi.decode_of_toOctets hmessage]
  rfl

/-- What the client does is allowed by the window through which it sends. -/
theorem WellUp.client (h : WellUp id d) {r : TunnelChronicle} {sent : List Outgoing}
    (heffect : TunnelChronicle.Effect id d.client r sent) :
    WellUp id { d with client := r, up := d.up ++ wireOf sent } := by
  have hup := requestsOn_sent id d.gateway.waiting d.up sent
  cases heffect with
  | quiet submitted acked taken waiting requests acks =>
    refine ⟨?_, by rw [submitted]; exact h.forwarded, h.counted⟩
    rw [upward, hup, requests, List.append_nil, submitted, acked]
    exact h.window.lose (List.Sublist.refl _) (acksOn_looked waiting _)
  | sends message submitted acked taken waiting carried requests acks =>
    refine ⟨?_, h.forwarded.trans (submitted.map _), h.counted⟩
    rw [upward, hup, acked]
    exact ((h.window.mono (carries_mono submitted)).send carried).lose (requests.append_left _)
      (acksOn_looked waiting _)
  | takes p later message submitted acked taken front numbered waiting requests acks =>
    refine ⟨?_, by rw [submitted]; exact h.forwarded, h.counted⟩
    rw [upward, hup, requests, List.append_nil, submitted, acked]
    exact h.window.lose (List.Sublist.refl _) (acksOn_looked (sublist_of_front front waiting) _)
  | acknowledged p later submitted acked taken front confirms waiting requests acks =>
    refine ⟨?_, by rw [submitted]; exact h.forwarded, h.counted⟩
    have hw := h.window
    rw [downward, front, List.cons_append, acksOn_cons confirms] at hw
    rw [upward, hup, requests, List.append_nil, downward, submitted, acked, waiting]
    exact (hw.acknowledge alternates_octetNo).2

/-- What the gateway does is allowed by the window through which it receives. -/
theorem WellUp.gateway (h : WellUp id d) {r : GatewayChronicle} {sent : List Outgoing}
    (heffect : GatewayChronicle.Effect id d.gateway r sent) :
    WellUp id { d with gateway := r, down := d.down ++ wireOf sent } := by
  have hdown := acksOn_sent id d.client.waiting d.down sent
  cases heffect with
  | quiet accepted forwarded acked waiting settled requests acks =>
    refine ⟨?_, by rw [forwarded]; exact h.forwarded, by rw [forwarded, accepted]; exact h.counted⟩
    rw [downward, hdown, acks, List.append_nil, accepted]
    exact h.window.lose (requestsOn_looked waiting _) (List.Sublist.refl _)
  | sends message accepted forwarded acked waiting settled requests acks =>
    refine ⟨?_, by rw [forwarded]; exact h.forwarded, by rw [forwarded, accepted]; exact h.counted⟩
    rw [downward, hdown, acks, List.append_nil, accepted]
    exact h.window.lose (requestsOn_looked waiting _) (List.Sublist.refl _)
  | takes p later q front numbered accepted forwarded acked waiting settled requests acks =>
    have hw := h.window
    rw [upward, front, List.cons_append, requestsOn_cons numbered] at hw
    obtain ⟨-, hcarried, hw⟩ := hw.take alternates_octetNo
    obtain ⟨f, hf, hbrought⟩ := broughtBy_of_carries hcarried
    refine ⟨?_, ?_, ?_⟩
    · rw [downward, hdown, upward, waiting, accepted, List.length_append, List.length_singleton]
      exact hw.lose (List.Sublist.refl _) (acks.append_left _)
    · rw [forwarded, hbrought]
      refine prefix_concat h.forwarded ?_
      rw [h.counted, List.getElem?_map, hf]
      rfl
    · rw [forwarded, hbrought, accepted, List.length_append, List.length_append, h.counted]
      rfl
  | repeats p later n message front numbered before accepted forwarded acked waiting settled
      requests acks =>
    have hw := h.window
    rw [upward, front, List.cons_append, requestsOn_cons numbered] at hw
    have hother : n ≠ octetNo d.gateway.accepted.length := by
      intro heq
      rw [heq, ← octetNo_succ] at before
      exact alternates_octetNo _ before
    obtain ⟨-, hw⟩ := hw.again hother
    refine ⟨?_, by rw [forwarded]; exact h.forwarded, by rw [forwarded, accepted]; exact h.counted⟩
    rw [downward, hdown, upward, waiting, accepted]
    exact hw.lose (List.Sublist.refl _) (acks.append_left _)
  | acknowledged p later front confirms accepted forwarded acked waiting requests acks =>
    refine ⟨?_, by rw [forwarded]; exact h.forwarded, by rw [forwarded, accepted]; exact h.counted⟩
    rw [downward, hdown, acks, List.append_nil, accepted]
    exact h.window.lose (requestsOn_looked (sublist_of_front front waiting) _) (List.Sublist.refl _)

theorem WellUp.carried (h : WellUp id d) (hc : Carried id d d') : WellUp id d' := by
  refine ⟨?_, ?_, ?_⟩
  · rw [hc.submitted_eq, hc.clientAcked_eq, hc.accepted_eq]
    exact h.window.lose hc.requestsUp hc.acksDown
  · rw [hc.forwarded_eq, hc.submitted_eq]
    exact h.forwarded
  · rw [hc.forwarded_eq, hc.accepted_eq]
    exact h.counted

theorem WellUp.step (h : WellUp id d) (hsound : d.Sound id) (m : Move) :
    WellUp id (d.step id m) := by
  cases (step_outcome hsound m).2 with
  | client r sent effect heq =>
    rw [heq]
    exact h.client effect
  | gateway r sent effect heq =>
    rw [heq]
    exact h.gateway effect
  | carried hc => exact h.carried hc

theorem start_wellUp (id : UInt8) (s : Setting) : WellUp id (start id s) :=
  ⟨Window.start, List.nil_prefix, rfl⟩

theorem run_wellUp (id : UInt8) (s : Setting) (moves : List Move) :
    (run id moves (start id s)).Sound id ∧ WellUp id (run id moves (start id s)) := by
  refine run_invariant (fun d => d.Sound id ∧ WellUp id d) ?_ moves ⟨start_sound id s,
    start_wellUp id s⟩
  rintro m d ⟨hsound, h⟩
  exact ⟨(step_outcome hsound m).1, h.step hsound m⟩

/-- **The bus gets the frames of the client in order, each once.**  A channel has just been granted.
Whatever happens then, what the gateway has given to the bus because of this channel is a beginning
of what the client has put into requests, with nothing changed but the mark that a frame was read
without errors; and the client has seen all of these requests acknowledged, or all but the last. -/
theorem forwards_in_order (id : UInt8) (s : Setting) (moves : List Move) :
    let d := run id moves (start id s)
    d.gateway.forwarded <+: d.client.submitted.map Frame.validated ∧
      (d.client.acked = d.gateway.forwarded.length ∨
        d.client.acked + 1 = d.gateway.forwarded.length) := by
  intro d
  have h := (run_wellUp id s moves).2
  refine ⟨h.forwarded, ?_⟩
  rw [h.counted]
  rcases h.window.taken_eq with heq | heq
  · exact Or.inl heq.symm
  · exact Or.inr heq.symm

end Dialogue
end KnxBus
