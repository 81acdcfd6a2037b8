import Mathlib.Data.List.Chain
import KnxBus.Proofs.Tunnel.Tenancy

/-!
# Heartbeats that are not answered

A client counts the heartbeats that have not been answered, and has a deadline for the outstanding
one.  Neither tells anything about the times at which they were sent, nor that nothing has come in
between.  So an account is kept of what can be seen from outside (`Tunnel.Silence`), times and
datagrams: each heartbeat that was missed, with the time at which it was sent and the time at which
this was noticed, and every datagram that was looked at since the first of them was sent.

A heartbeat that is not answered in time is noticed when the timers are looked at; then either the
next one is sent or the session ends.  So the rounds that have been missed follow each other without
a gap, and there are as many of them as the client has counted failures (`Tunnel.Watched`).
-/

namespace KnxBus
namespace Tunnel

/-! ## The account -/

/-- A heartbeat that has not been answered in time. -/
structure Round where
  /-- When it was sent. -/
  sentAt : Nat
  /-- When it was noticed that there is no answer. -/
  missedAt : Nat
  deriving DecidableEq, Repr

/-- What is known of the heartbeats of a session since the gateway has affirmed the channel last. -/
structure Silence where
  /-- Those that have not been answered in time, oldest first. -/
  rounds : List Round
  /-- When the outstanding one was sent. -/
  beating : Option Nat
  /-- The datagrams that were looked at since the first of them was sent, oldest first. -/
  heard : List Packet
  deriving DecidableEq, Repr

/-- Heartbeats that were missed in a row: each was sent when the one before had been missed. -/
structure InRow (timeout : Nat) (rounds : List Round) : Prop where
  /-- Each had its time. -/
  timedOut : ∀ r ∈ rounds, r.sentAt + timeout ≤ r.missedAt
  /-- There is no gap between them. -/
  chain : rounds.IsChain fun r r' => r'.sentAt = r.missedAt

theorem InRow.nil (timeout : Nat) : InRow timeout [] :=
  ⟨fun _ hr => absurd hr List.not_mem_nil, .nil⟩

theorem InRow.concat {timeout : Nat} {rounds : List Round} (h : InRow timeout rounds) {r : Round}
    (hfollows : ∀ r' ∈ rounds.getLast?, r.sentAt = r'.missedAt)
    (htimedOut : r.sentAt + timeout ≤ r.missedAt) : InRow timeout (rounds ++ [r]) where
  timedOut r' hr' := by
    rcases List.mem_append.1 hr' with hold | hnew
    · exact h.timedOut r' hold
    · rw [List.mem_singleton.1 hnew]
      exact htimedOut
  chain := by
    refine List.isChain_append.2 ⟨h.chain, .singleton r, fun r' hr' r'' hr'' => ?_⟩
    cases hr''
    exact hfollows r' hr'

namespace Silence

/-- Nothing is missing. -/
def broken : Silence := ⟨[], none, []⟩

/-- A datagram is looked at. -/
def hear (channel : UInt8) (p : Packet) (x : Silence) : Silence :=
  if p.Affirms channel then broken else { x with heard := x.heard ++ [p] }

/-- The timers are looked at. -/
def miss (timeout now : Nat) (x : Silence) : Silence :=
  match x.beating with
  | none => x
  | some sentAt =>
    if sentAt + timeout ≤ now then ⟨x.rounds ++ [⟨sentAt, now⟩], none, x.heard⟩ else x

/-- A heartbeat is sent. -/
def beat (now : Nat) (x : Silence) : Silence :=
  ⟨x.rounds, some now, if x.rounds = [] then [] else x.heard⟩

end Silence

/-! ## The session and the account -/

/-- The heartbeats of a session are as the account has it. -/
structure Watched (config : TunnelConfig) (s : TunnelSession) (x : Silence) : Prop where
  /-- The session has counted the rounds that were missed. -/
  failures_eq : s.failures = x.rounds.length
  /-- The outstanding heartbeat has to be answered in time. -/
  deadline_eq : s.heartbeatDeadline = x.beating.map (· + config.heartbeatTimeout)
  /-- If none is outstanding none has been missed. -/
  fresh : x.beating = none → x.rounds = []
  /-- The rounds were missed in a row. -/
  inRow : InRow config.heartbeatTimeout x.rounds
  /-- The outstanding heartbeat was sent when the last round had been missed. -/
  follows : ∀ sentAt ∈ x.beating, ∀ r ∈ x.rounds.getLast?, sentAt = r.missedAt
  /-- Nothing that was looked at affirms the channel. -/
  silent : ∀ p ∈ x.heard, ¬ p.Affirms s.channel
  /-- Another round may be missed. -/
  left : 1 ≤ config.heartbeatFailures → x.rounds.length < config.heartbeatFailures

namespace Watched

variable {config : TunnelConfig} {s s' : TunnelSession} {x : Silence} {now : Nat}

/-- Nothing is missing in a session that has been granted or affirmed. -/
theorem broken (hdeadline : s.heartbeatDeadline = none) (hfailures : s.failures = 0) :
    Watched config s .broken where
  failures_eq := hfailures
  deadline_eq := hdeadline
  fresh := fun _ => rfl
  inRow := .nil _
  follows := fun _ h => by cases h
  silent := fun _ h => absurd h List.not_mem_nil
  left := id

theorem same (h : Watched config s x) (hsame : s.SameBeat s') : Watched config s' x where
  failures_eq := hsame.failures_eq.trans h.failures_eq
  deadline_eq := hsame.heartbeatDeadline_eq.trans h.deadline_eq
  fresh := h.fresh
  inRow := h.inRow
  follows := h.follows
  silent := hsame.channel_eq.symm ▸ h.silent
  left := h.left

/-- A datagram that does not affirm the channel changes nothing. -/
theorem hear (h : Watched config s x) {p : Packet} (hsilent : ¬ p.Affirms s.channel) :
    Watched config s (x.hear s.channel p) := by
  rw [Silence.hear, if_neg hsilent]
  refine { h with silent := fun q hq => ?_ }
  rcases List.mem_append.1 hq with hold | hnew
  · exact h.silent q hold
  · rw [List.mem_singleton.1 hnew]
    exact hsilent

/-- No heartbeat is missed before its time. -/
theorem miss_of_early (h : Watched config s x) (hearly : heartbeatDue config s now = .nothing) :
    x.miss config.heartbeatTimeout now = x := by
  have hdeadline := h.deadline_eq
  unfold Silence.miss
  cases hbeating : x.beating with
  | none => rfl
  | some sentAt =>
    rw [hbeating] at hdeadline
    unfold heartbeatDue at hearly
    rw [hdeadline] at hearly
    simp only [Option.map_some] at hearly
    split at hearly
    · rename_i hlt
      exact if_neg (by omega)
    · split at hearly <;> cases hearly

/-- The outstanding heartbeat is missed: the rounds are one more, and still in a row. -/
theorem miss_of_due (h : Watched config s x) {sentAt : Nat} (hbeating : x.beating = some sentAt)
    (hdue : sentAt + config.heartbeatTimeout ≤ now) :
    x.miss config.heartbeatTimeout now = ⟨x.rounds ++ [⟨sentAt, now⟩], none, x.heard⟩ ∧
      InRow config.heartbeatTimeout (x.rounds ++ [⟨sentAt, now⟩]) := by
  refine ⟨?_, h.inRow.concat (h.follows sentAt hbeating) hdue⟩
  rw [Silence.miss, hbeating]
  exact if_pos hdue

/-- What is due of the heartbeats: the first one is to be sent, or the outstanding one has been
missed. -/
theorem due_cases (h : Watched config s x) (hdue : heartbeatDue config s now ≠ .nothing) :
    (x.beating = none ∧ heartbeatDue config s now = .again) ∨
      ∃ sentAt, x.beating = some sentAt ∧ sentAt + config.heartbeatTimeout ≤ now ∧
        heartbeatDue config s now =
          if config.heartbeatFailures ≤ s.failures + 1 then .giveUp else .again := by
  have hdeadline := h.deadline_eq
  unfold heartbeatDue at hdue ⊢
  cases hbeating : x.beating with
  | none =>
    rw [hbeating] at hdeadline
    rw [hdeadline] at hdue ⊢
    dsimp only [Option.map_none] at hdue ⊢
    split
    · rename_i hlt
      rw [if_pos hlt] at hdue
      exact absurd rfl hdue
    · exact Or.inl ⟨rfl, rfl⟩
  | some sentAt =>
    rw [hbeating] at hdeadline
    rw [hdeadline] at hdue ⊢
    dsimp only [Option.map_some] at hdue ⊢
    split
    · rename_i hlt
      rw [if_pos hlt] at hdue
      exact absurd rfl hdue
    · rename_i hle
      exact Or.inr ⟨sentAt, rfl, Nat.le_of_not_lt hle, rfl⟩

/-- **A heartbeat that is sent** is the first one, or follows one that has been missed. -/
theorem beats (h : Watched config s x) (hdue : heartbeatDue config s now = .again)
    (hbeat : (Tunnel.beaten config s now).SameBeat s') :
    Watched config s' ((x.miss config.heartbeatTimeout now).beat now) := by
  refine Watched.same ?_ hbeat
  obtain ⟨hbeating, -⟩ | ⟨sentAt, hbeating, hle, hcases⟩ := h.due_cases (by rw [hdue]; decide)
  · -- none was outstanding, so none has been missed
    have hrounds := h.fresh hbeating
    have hmiss : x.miss config.heartbeatTimeout now = x := by rw [Silence.miss, hbeating]
    have hdeadline : s.heartbeatDeadline = none := by rw [h.deadline_eq, hbeating]; rfl
    have hfailures : s.failures = 0 := by rw [h.failures_eq, hrounds]; rfl
    rw [hmiss, Silence.beat, hrounds, if_pos rfl]
    refine ⟨?_, rfl, fun hnone => (by cases hnone), .nil _, fun _ _ r hr => (by cases hr),
      fun _ hp => absurd hp List.not_mem_nil, id⟩
    rw [Tunnel.beaten, hdeadline]
    exact hfailures
  · obtain ⟨hmiss, hinRow⟩ := h.miss_of_due hbeating hle
    have hleft : ¬ config.heartbeatFailures ≤ s.failures + 1 := by
      intro hlast
      rw [if_pos hlast, hdue] at hcases
      cases hcases
    have hdeadline : s.heartbeatDeadline.isSome = true := by rw [h.deadline_eq, hbeating]; rfl
    rw [hmiss, Silence.beat, if_neg (by simp)]
    refine ⟨?_, rfl, fun hnone => (by cases hnone), hinRow, fun sentAt' hnow r hr => ?_, h.silent,
      fun _ => ?_⟩
    · rw [List.length_append, List.length_singleton, ← h.failures_eq, Tunnel.beaten]
      exact if_pos hdeadline
    · rw [List.getLast?_concat] at hr
      cases hr
      exact (Option.some.inj hnow).symm
    · rw [List.length_append, List.length_singleton, ← h.failures_eq]
      omega

/-- **A client that gives up for its heartbeats** has missed exactly as many in a row as it allows,
the last one just now. -/
theorem gives_up (h : Watched config s x) (hdue : heartbeatDue config s now = .giveUp)
    (hfailures : 1 ≤ config.heartbeatFailures) :
    (x.miss config.heartbeatTimeout now).rounds.length = config.heartbeatFailures ∧
      InRow config.heartbeatTimeout (x.miss config.heartbeatTimeout now).rounds ∧
      ∃ r, (x.miss config.heartbeatTimeout now).rounds.getLast? = some r ∧ r.missedAt = now := by
  obtain ⟨-, hagain⟩ | ⟨sentAt, hbeating, hle, hcases⟩ := h.due_cases (by rw [hdue]; decide)
  · rw [hdue] at hagain
    cases hagain
  · obtain ⟨hmiss, hinRow⟩ := h.miss_of_due hbeating hle
    have hlast : config.heartbeatFailures ≤ s.failures + 1 := by
      by_contra hnot
      rw [if_neg hnot, hdue] at hcases
      cases hcases
    have hleft := h.left hfailures
    rw [h.failures_eq] at hlast
    rw [hmiss]
    refine ⟨?_, hinRow, _, List.getLast?_concat, rfl⟩
    rw [List.length_append, List.length_singleton]
    omega

end Watched

end Tunnel
end KnxBus
