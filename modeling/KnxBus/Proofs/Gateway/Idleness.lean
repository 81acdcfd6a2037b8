import Mathlib.Data.List.Infix
import KnxBus.Proofs.Gateway.Table

/-!
# When a queue waits for nothing

Between turns the front of a queue should be under way, so that its timer is what the gateway waits
for.  There is one way out of this.  A timer that finds that the front has been sent often enough
takes it off the queue and does nothing else, and what was behind it is not under way.  The only
thing that is then due on the channel is its end.

`idle_only_after_giving_up` says that there is no other way, and how long it can last: a queue that
waits for nothing after a turn has lost its front in this very turn, so it was under way before.
The next turn sends what is waiting, whatever causes that turn.

## Why only giving up does this

Before the channels send, the parts of a turn leave a channel that has something under way as it is,
or end it, or leave it with nothing under way (`undisturbed_of_busy`).  A channel with nothing under
way sends the front of its queue, if it may send at all.
-/

namespace KnxBus
namespace Gateway
open GatewayChannel

variable {g : Gateway} {id : UInt8} {c c' : GatewayChannel}

/-! ## A turn, seen from one channel -/

/-- What is under way when the channels send was under way at the beginning of the turn. -/
theorem undisturbed_of_busy {acts : List Act} (hacts : ∀ a ∈ acts, ∀ now, a ≠ .pump now)
    (horderly : g.Orderly) (hc' : (runWith perform acts g).1.held id = [c'])
    (hbusy : c'.attempts ≠ 0) : ∃ c, g.held id = [c] ∧ c.Undisturbed c' := by
  induction acts generalizing g with
  | nil => exact ⟨c', hc', Undisturbed.refl c'⟩
  | cons a later ih =>
    obtain ⟨c₁, hc₁, hsame⟩ :=
      ih (fun a' ha' => hacts a' (List.mem_cons_of_mem a ha')) (horderly.perform a) hc'
    have hbusy₁ : c₁.attempts ≠ 0 := by
      rw [← hsame.attempts_eq]
      exact hbusy
    have hthe : ∀ {c₂ : GatewayChannel}, (g.perform a).1.held id = [c₂] → c₂ = c₁ := by
      intro c₂ hc₂
      rw [hc₁] at hc₂
      cases hc₂
      rfl
    cases perform_outbound (horderly.one id) a with
    | gone after _ =>
      rw [hc₁] at after
      cases after
    | opened c₂ _ after _ attempts_eq _ _ _ =>
      rw [hthe after] at attempts_eq
      exact absurd attempts_eq hbusy₁
    | undisturbed c c₂ before after same _ =>
      rw [hthe after] at same
      exact ⟨c, before, same.trans hsame⟩
    | acknowledged _ _ _ c _ _ _ _ _ after _ =>
      rw [← hthe after] at hbusy₁
      exact absurd rfl hbusy₁
    | pumped now _ eq _ _ _ => exact absurd eq (hacts a List.mem_cons_self now)

theorem not_pump_of_mem_actsBeforePump {now : Nat} {a : Act} (h : a ∈ g.actsBeforePump now) :
    ∀ now', a ≠ .pump now' := by
  rintro now' rfl
  simp [actsBeforePump, List.mem_replicate] at h

/-- A channel that is there after a turn was there when the channels sent. -/
theorem held_before_pump (horderly : g.Orderly) {now : Nat} (hc' : c' ∈ (g.turn now).1.channels) :
    g.stopping = false ∧ ∃ c₁, (runWith perform (g.actsBeforePump now) g).1.held c'.id = [c₁] ∧
      c' = (c₁.pump g.config now).1 := by
  have horderly' : (g.turn now).1.Orderly := horderly.run [.turn now]
  have hheld : (g.turn now).1.held c'.id = [c'] := horderly'.held_id hc'
  cases hstopping : g.stopping with
  | true =>
    have hfinished : (g.turn now).1.channels = [] := by
      rw [turn, hstopping]
      rfl
    rw [hfinished] at hc'
    exact absurd hc' List.not_mem_nil
  | false =>
    obtain ⟨g₁, hg₁⟩ : ∃ g₁, (runWith perform (g.actsBeforePump now) g).1 = g₁ := ⟨_, rfl⟩
    have hconfig : g₁.config = g.config := by
      rw [← hg₁]
      exact runWith_invariant perform (fun g' => g'.config = g.config)
        (fun a g' h => (perform_setup a g').1.config_eq.trans h) _ rfl
    have hpumped : (g.turn now).1 = (g₁.pumpChannels now).1 := by
      rw [turn_eq_run, turnActs, hstopping, if_neg Bool.false_ne_true, runWith_append, hg₁,
        runWith_singleton]
      rfl
    rw [hpumped, held_pumpChannels, hconfig] at hheld
    obtain ⟨c₁, hc₁, heq⟩ := List.map_eq_singleton_iff.1 hheld
    exact ⟨rfl, c₁, hg₁ ▸ hc₁, heq.symm⟩

/-! ## Idle channels -/

/-- The gateway waits for the answer to the front of the queue. -/
structure AwaitsAnswer (g : Gateway) (c : GatewayChannel) : Prop where
  busy : 0 < c.attempts
  scheduled : c.sentAt + g.config.sendRetry ∈ g.deadlines

/-- A channel has given up its front, and what was behind it waits for nothing: on the channel only
its end is due. -/
structure GaveUp (config : GatewayConfig) (now : Nat) (c c' : GatewayChannel) : Prop where
  /-- It is the same channel. -/
  id_eq : c'.id = c.id
  /-- What was in front has been sent as often as allowed. -/
  spent : c.attempts = config.sendAttempts
  /-- Its last time has passed. -/
  overdue : c.sentAt + config.sendRetry ≤ now
  /-- What was behind it is left. -/
  behind : c.queue.drop 1 <+: c'.queue
  /-- Nothing is under way. -/
  idle : c'.attempts = 0
  /-- Only the end of the channel is due. -/
  only_end : c'.deadlines config.sendRetry = [c'.expires]

/-- After a turn the front of a queue is under way, or the front before it was given up in this
turn. -/
theorem busy_or_gave_up (horderly : g.Orderly) (hmay : 1 ≤ g.config.sendAttempts) {now : Nat}
    (hc' : c' ∈ (g.turn now).1.channels) (hqueue : c'.queue ≠ []) :
    0 < c'.attempts ∨ ∃ c ∈ g.channels, GaveUp g.config now c c' := by
  obtain ⟨-, c₁, hc₁, rfl⟩ := held_before_pump horderly hc'
  have horderly₁ : (runWith perform (g.actsBeforePump now) g).1.Orderly :=
    runWith_invariant perform Orderly (fun a _ h => h.perform a) _ horderly
  have hbusy₁ := horderly₁.busy _ c₁ hc₁
  cases c₁.pump_outcome g.config now with
  | rests early eq =>
    rw [eq] at hqueue ⊢
    refine Or.inl (Nat.pos_of_ne_zero fun hidle => ?_)
    rw [(isSendDue_of_idle hidle _ _).2 hqueue] at early
    cases early
  | givesUp due spent eq =>
    right
    have hlimited := horderly₁.limited _ c₁ hc₁
    have hconfig : (runWith perform (g.actsBeforePump now) g).1.config = g.config :=
      runWith_invariant perform (fun g' => g'.config = g.config)
        (fun a g' h => (perform_setup a g').1.config_eq.trans h) _ rfl
    rw [hconfig] at hlimited
    have hspent : c₁.attempts = g.config.sendAttempts := by omega
    have hbusy : c₁.attempts ≠ 0 := by omega
    obtain ⟨c, hc, hsame⟩ :=
      undisturbed_of_busy (fun a ha => not_pump_of_mem_actsBeforePump ha) horderly hc₁ hbusy
    have hmem : c ∈ g.channels := (List.mem_filter.1 (hc ▸ List.mem_singleton_self c)).1
    rw [eq]
    refine ⟨c, hmem, hsame.id_eq, hsame.attempts_eq.symm.trans hspent, ?_, ?_, rfl, rfl⟩
    · rw [← hsame.sentAt_eq]
      exact (isSendDue_of_busy hbusy _ _).1 due
    · exact hsame.queue_prefix.drop 1
  | sends message rest _ _ _ eq =>
    rw [eq]
    exact Or.inl (Nat.succ_pos _)
  | idles queue_eq busy _ => exact absurd queue_eq (hbusy₁ busy)

/-- A gateway that has ended had been told to. -/
theorem isEnded_stopping (h : g.isEnded = true → g.stopping = true) (events : List Event) :
    (g.run events).1.isEnded = true → (g.run events).1.stopping = true := by
  refine runWith_invariant step (fun g => g.isEnded = true → g.stopping = true) ?_ events h
  intro e g' h'
  cases e with
  | stop => exact fun _ => rfl
  | turn now =>
    obtain ⟨hsetup, hended⟩ := turn_setup now g'
    have hstep : g'.step (.turn now) = g'.turn now := rfl
    rw [hstep, hended, hsetup.stopping_eq, Bool.or_eq_true]
    rintro (hwas | hstopping)
    · exact h' hwas
    · exact hstopping
  | _ => exact h'

/-- What is under way after a turn is what the gateway waits for. -/
theorem awaitsAnswer_of_busy (horderly : g.Orderly) (hended : g.isEnded = true → g.stopping = true)
    {now : Nat} (hc' : c' ∈ (g.turn now).1.channels) (hbusy : 0 < c'.attempts) :
    AwaitsAnswer (g.turn now).1 c' := by
  refine ⟨hbusy, ?_⟩
  have hgoing : g.stopping = false := (held_before_pump horderly hc').1
  have hopen : (g.turn now).1.isEnded = false := by
    rw [(turn_setup now g).2, hgoing, Bool.or_false]
    by_contra hne
    rw [hended (by simpa using hne)] at hgoing
    cases hgoing
  rw [Gateway.deadlines, hopen, if_neg Bool.false_ne_true]
  refine List.mem_flatMap.2 ⟨c', hc', ?_⟩
  rw [GatewayChannel.deadlines, if_neg (Nat.pos_iff_ne_zero.1 hbusy)]
  exact List.mem_cons_of_mem _ (List.mem_singleton_self _)

/-! ## Giving up -/

/-- A turn without any news, in which a channel gives up: what was behind the front waits. -/
theorem gives_up {now : Nat} (hquiet : g.received = [] ∧ g.heard = [] ∧ g.stopping = false)
    (hc : c ∈ g.channels) (hspent : c.attempts = g.config.sendAttempts)
    (hmay : 1 ≤ g.config.sendAttempts) (hoverdue : c.sentAt + g.config.sendRetry ≤ now)
    (halive : now < c.expires) : c.advance ∈ (g.turn now).1.channels := by
  obtain ⟨hreceived, hheard, hstopping⟩ := hquiet
  have hacts : g.turnActs now = [.expire now, .pump now] := by
    rw [turnActs, hstopping, actsBeforePump, hreceived, hheard]
    rfl
  have hturn : (g.turn now).1 = ((g.expire now).pumpChannels now).1 := by
    rw [turn_eq_run, hacts]
    rfl
  have hkept : c ∈ (g.expire now).channels := by
    refine List.mem_filter.2 ⟨hc, ?_⟩
    rw [isExpired, Bool.not_eq_true', decide_eq_false_iff_not, Nat.not_le]
    exact halive
  have hbusy : c.attempts ≠ 0 := by omega
  have hpump : (c.pump g.config now).1 = c.advance := by
    cases c.pump_outcome g.config now with
    | rests early _ =>
      rw [(isSendDue_of_busy hbusy _ _).2 hoverdue] at early
      cases early
    | givesUp _ _ eq => rw [eq]
    | sends _ _ _ left _ _ => omega
    | idles queue_eq _ eq =>
      rw [eq, advance, queue_eq]
      rfl
  rw [hturn, ← hpump]
  exact List.mem_map_of_mem (List.mem_map_of_mem hkept)

/-- **A queue waits for nothing only when the channel has just given up.**  Take a gateway that may
send, any run, and the next turn.  After it, whatever is in a queue, the front is under way and its
timer is one that the gateway waits for, or the channel gave up what was in front before, in this
very turn.  And if nothing new has come, a channel that gives up leaves what was behind the front
with nothing under way. -/
theorem idle_only_after_giving_up {host : Host} {inUse : List UInt16} {config : GatewayConfig}
    {g₀ : Gateway} (h : bind host inUse config = .ok g₀) (hmay : 1 ≤ config.sendAttempts)
    (registrations : List Nat) (events : List Event) (now : Nat) :
    let g := ((g₀.registered registrations).run events).1
    (∀ c' ∈ (g.turn now).1.channels, c'.queue ≠ [] →
      AwaitsAnswer (g.turn now).1 c' ∨ ∃ c ∈ g.channels, GaveUp config now c c') ∧
    ∀ c ∈ g.channels, g.received = [] → g.heard = [] → g.stopping = false →
      c.attempts = config.sendAttempts → c.sentAt + config.sendRetry ≤ now → now < c.expires →
      c.advance ∈ (g.turn now).1.channels ∧ c.advance.queue = c.queue.drop 1 ∧
        GaveUp config now c c.advance := by
  intro g
  have horderly : g.Orderly := (orderly_of_bind h registrations).run events
  have hconfig : g.config = config :=
    (run_config events (g₀.registered registrations)).trans (channels_of_bind h).2.2.1
  have hended : g.isEnded = true → g.stopping = true := by
    refine isEnded_stopping (fun hended => ?_) events
    have hnot : (g₀.registered registrations).isEnded = false := (channels_of_bind h).2.2.2.2
    rw [hnot] at hended
    cases hended
  refine ⟨fun c' hc' hqueue => ?_, fun c hc hreceived hheard hstopping hspent hoverdue halive => ?_⟩
  · rw [← hconfig] at hmay
    rcases busy_or_gave_up horderly hmay hc' hqueue with hbusy | hgave
    · exact Or.inl (awaitsAnswer_of_busy horderly hended hc' hbusy)
    · rw [hconfig] at hgave
      exact Or.inr hgave
  · refine ⟨?_, rfl, rfl, hspent, hoverdue, List.prefix_refl _, rfl, rfl⟩
    rw [← hconfig] at hmay hspent hoverdue
    exact gives_up ⟨hreceived, hheard, hstopping⟩ hc hspent hmay hoverdue halive

/-! ## A queue that waits -/

/-- A gateway that gives up soon. -/
def impatientGateway : Gateway :=
  { tunnellingGateway with
    config := { tunnellingGateway.config with sendRetry := 100, sendAttempts := 2 } }

theorem bind_impatientGateway :
    bind impatientGateway.host [] impatientGateway.config = .ok impatientGateway := rfl

/-- A client gets a channel and two frames come from the bus; the client does not answer. -/
def silentClient : List Event :=
  [.arrive (.octets askingOctets asker), .takeIn 0, .turn 0, .hear (unitFrame 0),
    .hear (unitFrame 1), .turn 0, .turn 100]

theorem idle_only_after_giving_up_silentClient :
    let g := ((impatientGateway.registered []).run silentClient).1
    (∀ c' ∈ (g.turn 200).1.channels, c'.queue ≠ [] →
      AwaitsAnswer (g.turn 200).1 c' ∨ ∃ c ∈ g.channels, GaveUp impatientGateway.config 200 c c') ∧
    ∃ c ∈ g.channels, c.advance ∈ (g.turn 200).1.channels ∧ c.advance.queue.length = 1 := by
  intro g
  obtain ⟨hidle, hgives⟩ :=
    idle_only_after_giving_up bind_impatientGateway (by decide) [] silentClient 200
  refine ⟨hidle, ?_⟩
  obtain ⟨c, hc⟩ : ∃ c, g.channels = [c] := List.length_eq_one_iff.1 (by decide +kernel)
  have hmem : c ∈ g.channels := hc ▸ List.mem_singleton_self c
  have hstate : g.channels.map (fun c => (c.attempts, c.sentAt, c.expires, c.queue.length)) =
      [(2, 100, 120000, 2)] := by decide +kernel
  rw [hc] at hstate
  simp only [List.map_singleton, List.cons.injEq, Prod.mk.injEq, and_true] at hstate
  obtain ⟨hattempts, hsentAt, hexpires, hlength⟩ := hstate
  obtain ⟨hadvance, -, -⟩ := hgives c hmem (by decide +kernel) (by decide +kernel)
    (by decide +kernel) (by rw [hattempts]; rfl) (by rw [hsentAt]; decide)
    (by rw [hexpires]; decide)
  refine ⟨c, hmem, hadvance, ?_⟩
  rw [advance, List.length_drop, hlength]

/-- After the turn that gives up, the second frame is in the queue and not under way, and the
gateway waits for nothing but the end of the channel. -/
theorem queue_stalls_silentClient :
    ¬ (∀ c ∈ ((impatientGateway.registered []).run (silentClient ++ [.turn 200])).1.channels,
        c.queue ≠ [] → 0 < c.attempts) ∧
      ((impatientGateway.registered []).run (silentClient ++ [.turn 200])).1.channels.map
        (fun c => (c.queue.length, c.attempts)) = [(1, 0)] ∧
      ((impatientGateway.registered []).run (silentClient ++ [.turn 200])).1.deadlines =
        [120000] := by
  decide +kernel

end Gateway
end KnxBus
