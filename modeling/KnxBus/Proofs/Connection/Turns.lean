import KnxBus.Proofs.Connection.Effects

/-!
# Parts and whole turns of a connection

One event does one of a few things, and with each of them it is known what was asked of the
connection (`Chronicle.Stepped`); this is what later accounts of a run go by.

Whole turns are among the runs of parts (`Chronicle.turn_eq_run`), so what is said about runs holds
however turns and arrivals interleave.
-/

namespace KnxBus
namespace Chronicle

/-! ## What one event is -/

variable {r : Chronicle}

/-- Everything that an event may be to a connection. -/
inductive Stepped (e : Event) (r r' : Chronicle) (sent : List Frame) : Prop where
  /-- The connection does not work: something comes to it from outside, or there is nothing to look
  at, or it has ended. -/
  | rests (silent : sent = []) (acked : r'.acked = r.acked)
      (same : ∃ incoming outgoing delivered stopping, r'.connection =
        { r.connection with
          incoming := incoming
          outgoing := outgoing
          delivered := delivered
          stopping := stopping })
      (unlooked : ∀ accepts now, e = .act (.look accepts now) →
        r.connection.isClosed = true ∨ r.connection.incoming = [])
  /-- It looks at a frame. -/
  | looks (accepts : Frame → Bool) (now : Nat) (f : Frame) (later : List Frame)
      (p : Connection.Progress) (event : e = .act (.look accepts now))
      (wasOpen : r.connection.isClosed = false) (front : r.connection.incoming = f :: later)
      (works : p = (r.connection.withIncoming []).onFrame accepts now f)
      (after : r' = r.noting (some f)
        (p.settle.1.withIncoming (if p.goesOn then later else [])))
      (tries : sent = p.settle.2)
  /-- It looks at its timers and its queue. -/
  | proceeds (accepts : Frame → Bool) (now : Nat) (p : Connection.Progress)
      (event : e = .act (.proceed accepts now)) (wasOpen : r.connection.isClosed = false)
      (works : p = r.connection.proceed accepts now) (after : r' = r.noting none p.settle.1)
      (tries : sent = p.settle.2)
  /-- It ends. -/
  | leaves (event : e = .act .leave) (wasOpen : r.connection.isClosed = false)
      (after : r' = r.noting none r.connection.giveUp.settle.1)
      (tries : sent = r.connection.giveUp.settle.2)

/-- A connection that has ended, or has nothing to look at, does nothing. -/
theorem Stepped.refl {e : Event} (h : ∀ accepts now, e = .act (.look accepts now) →
    r.connection.isClosed = true ∨ r.connection.incoming = []) : Stepped e r r [] :=
  .rests rfl rfl ⟨_, _, _, _, rfl⟩ h

theorem step_stepped (e : Event) (r : Chronicle) : Stepped e r (r.step e).1 (r.step e).2 := by
  cases e with
  | hear f => exact .rests rfl rfl ⟨_, _, _, _, rfl⟩ fun _ _ h => by cases h
  | act a =>
    rw [step]
    cases a with
    | put apdu =>
      cases hopen : r.connection.isClosed with
      | true =>
        rw [act_put_of_closed hopen]
        exact .refl fun _ _ h => by cases h
      | false =>
        rw [act_put_of_open hopen]
        exact .rests rfl rfl ⟨_, _, _, _, rfl⟩ fun _ _ h => by cases h
    | read =>
      refine .rests rfl rfl ?_ fun _ _ h => by cases h
      change ∃ incoming outgoing delivered stopping, r.connection.take.2 = _
      unfold Connection.take
      split <;> exact ⟨_, _, _, _, rfl⟩
    | stop => exact .rests rfl rfl ⟨_, _, _, _, rfl⟩ fun _ _ h => by cases h
    | look accepts now =>
      cases hopen : r.connection.isClosed with
      | true =>
        rw [act_of_closed hopen _ (Or.inr ⟨accepts, now, Or.inl rfl⟩)]
        exact .refl fun _ _ _ => Or.inl hopen
      | false =>
        cases hfront : r.connection.incoming with
        | nil =>
          have hact : r.act (.look accepts now) = (r, []) := by
            rw [act, hopen, Connection.look_nil hfront, hfront, if_neg Bool.false_ne_true]
            exact congrArg (·, []) (noting_same rfl rfl none)
          rw [hact]
          exact .refl fun _ _ _ => Or.inr hfront
        | cons f later =>
          refine .looks accepts now f later _ rfl hopen hfront rfl ?_ ?_
          · rw [act, hopen, Connection.look, hfront]
            rfl
          · rw [act, hopen, Connection.look, hfront]
            rfl
    | proceed accepts now =>
      cases hopen : r.connection.isClosed with
      | true =>
        rw [act_of_closed hopen _ (Or.inr ⟨accepts, now, Or.inr rfl⟩)]
        exact .refl fun _ _ h => by cases h
      | false =>
        rw [act, hopen]
        exact .proceeds accepts now _ rfl hopen rfl rfl rfl
    | leave =>
      cases hopen : r.connection.isClosed with
      | true =>
        rw [act_of_closed hopen _ (Or.inl rfl)]
        exact .refl fun _ _ h => by cases h
      | false =>
        rw [act, hopen]
        exact .leaves rfl hopen rfl rfl

/-! ## Whole turns -/

theorem act_look_connection (hopen : r.connection.isClosed = false) {f : Frame}
    {later : List Frame} (hfront : r.connection.incoming = f :: later) (accepts : Frame → Bool)
    (now : Nat) {p : Connection.Progress}
    (hp : (r.connection.withIncoming []).onFrame accepts now f = p) :
    (r.act (.look accepts now)).1.connection =
        p.settle.1.withIncoming (if p.goesOn then later else []) ∧
      (r.act (.look accepts now)).2 = p.settle.2 := by
  have hlook : r.connection.look accepts now =
      (p.settle.1.withIncoming (if p.goesOn then later else []), p.settle.2) := by
    rw [Connection.look, hfront, ← hp]
  rw [act, hopen, hlook]
  exact ⟨rfl, rfl⟩

/-- What happens is a part of a turn at a time. -/
def Event.IsPart (accepts : Frame → Bool) (now : Nat) (e : Event) : Prop :=
  e = .act .leave ∨ e = .act (.look accepts now) ∨ e = .act (.proceed accepts now)

/-- Looking at all frames that have come, one by one, is what a turn does with them. -/
theorem onFrames_eq_run (accepts : Frame → Bool) (now : Nat) (frames : List Frame) (r : Chronicle)
    (hopen : r.connection.isClosed = false) (hin : r.connection.incoming = frames) :
    ∃ events : List Event, (∀ e ∈ events, e.IsPart accepts now) ∧
      ∃ p, Connection.onFrames accepts now frames (r.connection.withIncoming []) = p ∧
        (run events r).1.connection = p.settle.1 ∧ (run events r).2 = p.settle.2 ∧
        (p.goesOn = true → p.connection.isClosed = false) := by
  induction frames generalizing r with
  | nil =>
    refine ⟨[], by simp, _, rfl, ?_, rfl, fun _ => hopen⟩
    change r.connection = r.connection.withIncoming []
    rw [← hin]
    rfl
  | cons f later ih =>
    obtain ⟨p, hp⟩ : ∃ p, (r.connection.withIncoming []).onFrame accepts now f = p := ⟨_, rfl⟩
    obtain ⟨hclosed, hleft⟩ := (r.connection.withIncoming []).onFrame_connection accepts now f
    rw [hp] at hclosed hleft
    obtain ⟨hconn, hsent⟩ := act_look_connection hopen hin accepts now hp
    rw [Connection.onFrames, hp]
    cases hgoes : p.goesOn with
    | false =>
      rw [p.andThen_of_not_goesOn hgoes]
      refine ⟨[.act (.look accepts now)], ?_, p, rfl, ?_, ?_, fun h => ?_⟩
      · exact fun e he => Or.inr (Or.inl (List.mem_singleton.1 he))
      · refine hconn.trans ?_
        have hnone : p.settle.1.incoming = [] := (p.settle_incoming).trans hleft
        rw [hgoes, if_neg Bool.false_ne_true, ← hnone]
        rfl
      · exact (List.append_nil _).trans hsent
      · rw [hgoes] at h
        cases h
    | true =>
      rw [hgoes, if_pos rfl, p.settle_of_goesOn hgoes] at hconn
      rw [p.settle_of_goesOn hgoes] at hsent
      change (r.act (.look accepts now)).2 = p.sent at hsent
      have hopen' : (r.act (.look accepts now)).1.connection.isClosed = false := by
        rw [hconn]
        exact hclosed.trans hopen
      have haside : (r.act (.look accepts now)).1.connection.withIncoming [] = p.connection := by
        rw [hconn, ← show p.connection.incoming = [] from hleft]
        rfl
      obtain ⟨events, hparts, q, hq, hrun, hmore, hstill⟩ := ih _ hopen' (by rw [hconn]; rfl)
      rw [haside] at hq
      refine ⟨.act (.look accepts now) :: events, ?_, _, rfl, ?_, ?_, fun h => ?_⟩
      · exact List.forall_mem_cons.2 ⟨Or.inr (Or.inl rfl), hparts⟩
      · rw [p.settle_andThen_of_goesOn hgoes, hq]
        exact hrun
      · rw [p.settle_andThen_of_goesOn hgoes, hq, ← hmore, ← hsent]
        rfl
      · rw [Connection.Progress.andThen, if_pos hgoes, hq] at h ⊢
        exact hstill h

/-- **A whole turn is a run of its parts**, so whatever is kept by the parts is kept by turns. -/
theorem turn_eq_run (accepts : Frame → Bool) (now : Nat) (r : Chronicle)
    (hopen : r.connection.isClosed = false) :
    ∃ events : List Event, (∀ e ∈ events, e.IsPart accepts now) ∧
      (run events r).1.connection = (r.connection.turn accepts now).1 ∧
      (run events r).2 = (r.connection.turn accepts now).2 := by
  have hturn : r.connection.turn accepts now =
      (if r.connection.stopping then r.connection.giveUp
        else (Connection.onFrames accepts now r.connection.incoming
          (r.connection.withIncoming [])).andThen (Connection.proceed accepts now)).settle := by
    rw [Connection.turn, Connection.Progress.settle]
    rfl
  rw [hturn]
  cases hstop : r.connection.stopping with
  | true =>
    refine ⟨[.act .leave], fun e he => Or.inl (List.mem_singleton.1 he), ?_⟩
    rw [run, runWith_singleton, step, act, hopen]
    exact ⟨rfl, rfl⟩
  | false =>
    obtain ⟨events, hparts, p, hp, hconn, hsent, hstill⟩ :=
      onFrames_eq_run accepts now r.connection.incoming r hopen rfl
    rw [if_neg Bool.false_ne_true, hp]
    cases hgoes : p.goesOn with
    | false =>
      rw [p.andThen_of_not_goesOn hgoes]
      exact ⟨events, hparts, hconn, hsent⟩
    | true =>
      rw [p.settle_of_goesOn hgoes] at hconn hsent
      change (run events r).1.connection = p.connection at hconn
      change (run events r).2 = p.sent at hsent
      rw [p.settle_andThen_of_goesOn hgoes]
      refine ⟨events ++ [.act (.proceed accepts now)], ?_, ?_⟩
      · intro e he
        rcases List.mem_append.1 he with he | he
        · exact hparts e he
        · exact Or.inr (Or.inr (List.mem_singleton.1 he))
      rw [run] at hconn hsent
      rw [run, runWith_append, runWith_singleton, step, act, hconn, hstill hgoes, hsent]
      exact ⟨rfl, rfl⟩

end Chronicle
end KnxBus
