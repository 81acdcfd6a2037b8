import Mathlib.Data.List.NodupEquivFin
import KnxBus.Proofs.Gateway.Offering
import KnxBus.Proofs.Gateway.Outbox

/-!
# Numbers and places

A message has a place in the queue of its channel that never changes: how many have joined before
it.  It is sent only while it is in front, and then its number is the number of acknowledgements
until then.

So all messages that are sent with `i` acknowledgements before them (`Outbox.SentUnder`) stand
before all those that are sent with `i + 1`, although there may be many of each: whatever is given
up leaves its number to the next one.  Whoever takes one message for each number takes messages in
the order of the queue, and none of them twice (`Outbox.sublist_offered`).

## One entry at a time

A part of a turn does one of three things to the books of an open channel (`Outbox.Entry`): the
channel ends, messages join, or the front leaves.  The number moves on in the last case only, and
only if an acknowledgement was looked at, so the books count what a chronicle of the gateway counts.
-/

namespace KnxBus

/-- What is taken one by one, each from a higher rank than the one before, is taken in order. -/
theorem sublist_of_ranked {α : Type} {l q : List α} {rank : Nat → Nat} (hrank : Monotone rank)
    (h : ∀ k x, l[k]? = some x → ∃ j, q[j]? = some x ∧ rank j = k) : l.Sublist q := by
  have hplace : ∀ k : Fin l.length, ∃ j : Fin q.length, q.get j = l.get k ∧ rank j = k := by
    intro k
    obtain ⟨j, hj, hk⟩ := h k (l.get k) (List.getElem?_eq_getElem k.isLt)
    obtain ⟨hlt, hget⟩ := List.getElem?_eq_some_iff.1 hj
    exact ⟨⟨j, hlt⟩, hget, hk⟩
  choose place hget hplaced using hplace
  have hmono : StrictMono place := by
    intro k k' hlt
    by_contra hnot
    have hle : (place k' : Nat) ≤ place k := Nat.not_lt.1 hnot
    have hranks := hrank hle
    rw [hplaced, hplaced] at hranks
    exact absurd hranks (Nat.not_le.2 hlt)
  rw [List.sublist_iff_exists_fin_orderEmbedding_get_eq]
  exact ⟨OrderEmbedding.ofStrictMono place hmono, fun k => (hget k).symm⟩

namespace Outbox
open Gateway GatewayChannel

variable {config : GatewayConfig} {id : UInt8} {b b' : Outbox} {c : GatewayChannel}

/-! ## Numbers and places -/

/-- The message has a place in the queue that its front has reached, with so many acknowledgements
before it. -/
def SentUnder (b : Outbox) (i : Nat) (message : Octets) : Prop :=
  ∃ j, j ≤ b.gone.length ∧ b.offered[j]? = some message ∧ acked (b.gone.take j) = i

/-- The further back the place, the more acknowledgements are before it. -/
theorem monotone_acked (gone : List Departure) : Monotone fun j => acked (gone.take j) := by
  intro j j' hle
  exact (List.take_sublist_take_left hle).countP_le

/-- Places stay what they are when the queue goes on. -/
theorem SentUnder.mono {i : Nat} {message : Octets} (h : b.SentUnder i message)
    (hoffered : b.offered <+: b'.offered) (hgone : b.gone <+: b'.gone) :
    b'.SentUnder i message := by
  obtain ⟨j, hj, hmessage, hi⟩ := h
  refine ⟨j, hj.trans hgone.length_le, getElem?_of_prefix hoffered hmessage, ?_⟩
  obtain ⟨more, hmore⟩ := hgone
  rw [← hmore, List.take_append_of_le_length hj]
  exact hi

/-- The front has the place that is next. -/
theorem Tidy.sentUnder_front (h : b.Tidy config id c) {message : Octets} {rest : List Octets}
    (hqueue : c.queue = message :: rest) : b.SentUnder (acked b.gone) message := by
  refine ⟨b.gone.length, Nat.le_refl _, ?_, by rw [List.take_length]⟩
  have hlength : (b.gone.map (·.message)).length = b.gone.length := List.length_map _
  rw [h.order, hqueue, ← hlength, List.getElem?_append_right (Nat.le_refl _), Nat.sub_self]
  rfl

/-- Messages of which each is sent under the next number are a part of the queue, in its order. -/
theorem sublist_offered {messages : List Octets}
    (h : ∀ i message, messages[i]? = some message → b.SentUnder i message) :
    messages.Sublist b.offered := by
  refine sublist_of_ranked (monotone_acked b.gone) fun i message hmessage => ?_
  obtain ⟨j, -, hj, hi⟩ := h i message hmessage
  exact ⟨j, hj, hi⟩

/-! ## How the books go on -/

/-- What a part of a turn enters into the books of an open channel. -/
inductive Entry (c : GatewayChannel) (after : List GatewayChannel) (b b' : Outbox) : Prop where
  /-- The channel ends. -/
  | closes (after_eq : after = []) (offered_eq : b'.offered = b.offered)
      (gone_eq : b'.gone = b.gone)
  /-- Messages join, perhaps none. -/
  | joins (c' : GatewayChannel) (after_eq : after = [c']) (sendNo_eq : c'.sendNo = c.sendNo)
      (longer : ¬ c'.queue.length < c.queue.length)
      (offered_eq : b'.offered = b.offered ++ c'.queue.drop c.queue.length)
      (gone_eq : b'.gone = b.gone)
  /-- The front leaves. -/
  | leaves (c' : GatewayChannel) (d : Departure) (after_eq : after = [c'])
      (sendNo_eq : c'.sendNo = if d.looked.isSome then c.sendNo + 1 else c.sendNo)
      (shorter : c'.queue.length < c.queue.length) (offered_eq : b'.offered = b.offered)
      (gone_eq : b'.gone = b.gone ++ [d])

theorem act_entry (h : b.SoundAt config id) (hc : b.gateway.held id = [c]) (a : Act) :
    Entry c ((b.gateway.perform a).1.held id) b (b.act id a) := by
  have hthe : ∀ {c₁ : GatewayChannel}, b.gateway.held id = [c₁] → c₁ = c :=
    fun hc₁ => eq_of_held hc hc₁
  have hpops : ∀ c' : GatewayChannel, c.queue ≠ [] → c'.queue = c.queue.drop 1 →
      c'.queue.length < c.queue.length := by
    intro c' hne heq
    have hpos := List.length_pos_iff.2 hne
    rw [heq, List.length_drop]
    omega
  cases perform_outbound h.orderly.one a with
  | gone after quiet =>
    have hact : b.act id a = { b with
        gateway := (b.gateway.perform a).1
        sent := b.sent ++ (requestsSent id (b.gateway.perform a).2).map
          (Transmission.mk (timeOf a)) } := by
      unfold act noting
      simp only [hc, after]
    rw [hact]
    exact .closes after rfl rfl
  | opened _ before _ _ _ _ _ _ =>
    rw [before] at hc
    cases hc
  | undisturbed c₁ c' before after same quiet =>
    obtain rfl := hthe before
    have hlonger := Nat.not_lt.2 same.queue_prefix.length_le
    rw [act, noting_of_held hc after hlonger]
    exact .joins c' after same.sendNo_eq hlonger rfl rfl
  | acknowledged now p later c₁ eq front confirms busy before after quiet =>
    obtain rfl := hthe before
    have hshorter := hpops { c₁.advance with sendNo := c₁.sendNo + 1 }
      (h.orderly.busy c₁ hc busy) rfl
    have hlooked : lookedAt a b.gateway = some p.packet := by
      rw [eq, lookedAt, front]
      rfl
    rw [act, noting_of_left hc after hshorter quiet]
    refine .leaves _ _ after ?_ hshorter rfl rfl
    rw [hlooked]
    rfl
  | pumped now c₁ eq before after sent =>
    obtain rfl := hthe before
    subst eq
    have hpump := c₁.pump_outcome b.gateway.config now
    have hsame : ∀ {c' : GatewayChannel}, (b.gateway.perform (.pump now)).1.held id = [c'] →
        c'.queue = c₁.queue → c'.sendNo = c₁.sendNo →
        Entry c₁ ((b.gateway.perform (.pump now)).1.held id) b (b.act id (.pump now)) := by
      intro c' hc' hqueue hnumber
      have hlonger : ¬ c'.queue.length < c₁.queue.length := by
        rw [hqueue]
        exact Nat.lt_irrefl _
      rw [act, noting_of_held hc hc' hlonger]
      exact .joins c' hc' hnumber hlonger rfl rfl
    cases hpump with
    | rests _ eq =>
      rw [eq] at after
      exact hsame after rfl rfl
    | givesUp due spent eq =>
      rw [eq] at after sent
      have hne : c₁.queue ≠ [] := by
        by_cases hidle : c₁.attempts = 0
        · exact (isSendDue_of_idle hidle _ _).1 due
        · exact h.orderly.busy c₁ hc hidle
      have hshorter := hpops c₁.advance hne rfl
      rw [act, noting_of_left hc after hshorter sent]
      exact .leaves _ _ after rfl hshorter rfl rfl
    | sends _ _ _ _ _ eq =>
      rw [eq] at after
      exact hsame after rfl rfl
    | idles _ _ eq =>
      rw [eq] at after
      exact hsame after rfl rfl

variable {after : List GatewayChannel}

theorem Entry.offered_prefix (h : Entry c after b b') : b.offered <+: b'.offered := by
  cases h with
  | closes _ offered_eq _ => exact offered_eq ▸ List.prefix_refl _
  | joins _ _ _ _ offered_eq _ => exact offered_eq ▸ List.prefix_append _ _
  | leaves _ _ _ _ _ offered_eq _ => exact offered_eq ▸ List.prefix_refl _

theorem Entry.gone_prefix (h : Entry c after b b') : b.gone <+: b'.gone := by
  cases h with
  | closes _ _ gone_eq => exact gone_eq ▸ List.prefix_refl _
  | joins _ _ _ _ _ gone_eq => exact gone_eq ▸ List.prefix_refl _
  | leaves _ _ _ _ _ _ gone_eq => exact gone_eq ▸ List.prefix_append _ _

/-- The frames behind the indications that join are those from the bus. -/
theorem Entry.indicated_offered {a : Act} {g : Gateway} (hc : g.held id = [c])
    (h : Entry c ((g.perform a).1.held id) b b') :
    b'.offered.filterMap indicated? =
      b.offered.filterMap indicated? ++ (g.offeredBy a).map Frame.validated := by
  cases h with
  | closes after_eq offered_eq _ =>
    rw [offered_eq, offeredBy_of_gone a hc after_eq]
    exact (List.append_nil _).symm
  | joins c' after_eq _ longer offered_eq _ =>
    rw [offered_eq, List.filterMap_append]
    congr 1
    rcases queue_perform a hc after_eq with ⟨more, hqueue, hmore⟩ | ⟨hqueue, hnone⟩
    · rw [hqueue, List.drop_left]
      exact hmore
    · have hdrop : c'.queue.drop c.queue.length = [] := by
        rw [hqueue, List.drop_drop]
        exact List.drop_eq_nil_of_le (by omega)
      rw [hdrop, hnone]
      rfl
  | leaves c' d after_eq _ shorter offered_eq _ =>
    rcases queue_perform a hc after_eq with ⟨more, hqueue, -⟩ | ⟨-, hnone⟩
    · rw [hqueue, List.length_append] at shorter
      omega
    · rw [offered_eq, hnone]
      exact (List.append_nil _).symm

/-- The books count the acknowledgements that move the number on. -/
theorem Entry.acked_chronicle {a : Act} {r : GatewayChronicle} (hc : r.gateway.held id = [c])
    (h : Entry c ((r.gateway.perform a).1.held id) b b') (hacked : r.acked = acked b.gone) :
    (r.act id a).1.acked = acked b'.gone := by
  cases h with
  | closes after_eq _ gone_eq =>
    rw [GatewayChronicle.act, GatewayChronicle.noting_of_gone after_eq, gone_eq]
    exact hacked
  | joins c' after_eq sendNo_eq _ _ gone_eq =>
    rw [GatewayChronicle.act, GatewayChronicle.noting_of_held hc after_eq, gone_eq]
    simp only [if_pos sendNo_eq]
    exact hacked
  | leaves c' d after_eq sendNo_eq _ _ gone_eq =>
    rw [GatewayChronicle.act, GatewayChronicle.noting_of_held hc after_eq, gone_eq, acked_concat]
    by_cases hlooked : d.looked.isSome = true
    · rw [if_pos hlooked] at sendNo_eq
      have hmoved : c'.sendNo ≠ c.sendNo := by
        rw [sendNo_eq]
        intro hsame
        have hvalue := congrArg UInt8.toNat hsame
        rw [UInt8.toNat_add] at hvalue
        have hlt := c.sendNo.toNat_lt
        have hone : (1 : UInt8).toNat = 1 := rfl
        omega
      simp only [if_neg hmoved, if_pos hlooked, hacked]
    · rw [if_neg hlooked] at sendNo_eq
      simp only [if_pos sendNo_eq, if_neg hlooked, hacked, Nat.add_zero]

end Outbox
end KnxBus
