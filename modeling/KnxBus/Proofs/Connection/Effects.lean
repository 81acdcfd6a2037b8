import KnxBus.Proofs.Connection.Chronicle

/-!
# What the parts of a turn do to a connection and its past

Every part of a turn has one of the five effects (`Chronicle.act_effect`), first for the outcomes of
a frame and of the timers one by one, and then for the parts themselves.  An effect keeps the
connection in agreement with its past, so they agree after every run (`Chronicle.run_sound`).
-/

namespace KnxBus
namespace Chronicle

/-! ## One part after the other

Of the frames that waited, `x` were left aside while the connection worked, and `inc` are left
afterwards. -/

section
variable {r : Chronicle} {p : Connection.Progress} {x inc : List Frame}

/-- The connection has worked, but its counters stay where they are and it holds the same units as
before. -/
structure Keeps (c c' : Connection) : Prop where
  sendNo_eq : c'.sendNo = c.sendNo
  receiveNo_eq : c'.receiveNo = c.receiveNo
  delivered_eq : c'.delivered = c.delivered
  held_eq : c'.outstanding ++ c'.outgoing = c.outstanding ++ c.outgoing

/-- Then nothing enters into the chronicle but the connection, whether it goes on or ends. -/
theorem noting_keeps (h : r.Sound) (hopen : r.connection.isClosed = false)
    (hp : Keeps r.connection p.connection) (frame? : Option Frame) (inc : List Frame) :
    r.noting frame? (p.settle.1.withIncoming inc) =
        { r with connection := p.settle.1.withIncoming inc } ∧
      Sound { r with connection := p.settle.1.withIncoming inc } := by
  have hs : (p.settle.1.withIncoming inc).sendNo = r.connection.sendNo :=
    p.settle_sendNo.trans hp.sendNo_eq
  have hr : (p.settle.1.withIncoming inc).receiveNo = r.connection.receiveNo :=
    p.settle_receiveNo.trans hp.receiveNo_eq
  have hd : (p.settle.1.withIncoming inc).delivered = r.connection.delivered :=
    p.settle_delivered.trans hp.delivered_eq
  refine ⟨noting_same hs hd frame?, h.same hs hr hd fun hc => ⟨hopen, ?_⟩⟩
  have hsame : p.settle.1 = p.connection := (p.settle_of_open hc).2
  rw [hsame]
  exact hp.held_eq

/-- The connection does nothing, or ends. -/
theorem unchanged_effect (h : r.Sound) (hopen : r.connection.isClosed = false)
    (hp : p.connection = r.connection.withIncoming x) (hsent : p.sent = [])
    (hinc : inc.Sublist r.connection.incoming) (frame? : Option Frame) :
    (r.noting frame? (p.settle.1.withIncoming inc)).Sound ∧
      Effect r (r.noting frame? (p.settle.1.withIncoming inc)) p.settle.2 := by
  have hkeeps : Keeps r.connection p.connection := by
    rw [hp]
    exact ⟨rfl, rfl, rfl, rfl⟩
  obtain ⟨hnoting, hsound⟩ := noting_keeps h hopen hkeeps frame? inc
  rw [hnoting]
  refine ⟨hsound, Effect.quiet (List.prefix_refl _) rfl rfl hinc ?_ ?_⟩
  · rw [p.dataOf_settle, hsent, dataOf_nil]
  · rw [p.acksOf_settle, hsent, acksOf_nil]

/-- The outstanding unit is sent once more. -/
theorem resend_effect (h : r.Sound) (hopen : r.connection.isClosed = false) {apdu : Octets}
    {retries deadline : Nat} (hphase : r.connection.phase = .awaiting apdu retries deadline)
    {accepts : Frame → Bool} {now : Nat}
    (hp : p = Connection.resend accepts now apdu retries (r.connection.withIncoming x))
    (hinc : inc.Sublist r.connection.incoming) (frame? : Option Frame) :
    (r.noting frame? (p.settle.1.withIncoming inc)).Sound ∧
      Effect r (r.noting frame? (p.settle.1.withIncoming inc)) p.settle.2 := by
  have hconn := congrArg Connection.Progress.connection hp
  rw [Connection.resend, Connection.transmit_connection] at hconn
  have hsent := congrArg Connection.Progress.sent hp
  rw [Connection.resend, Connection.transmit_sent] at hsent
  have hout : r.connection.outstanding = [apdu] := by rw [Connection.outstanding, hphase]
  have hkeeps : Keeps r.connection p.connection := by
    rw [hconn]
    refine ⟨rfl, rfl, rfl, ?_⟩
    rw [hout]
    rfl
  have hcarried : (r.queued.map Tpdu.masked)[r.acked]? = some (Tpdu.masked apdu) :=
    h.carried hopen (by rw [hout]; rfl)
  obtain ⟨hnoting, hsound⟩ := noting_keeps h hopen hkeeps frame? inc
  rw [hnoting]
  refine ⟨hsound, Effect.sends (Tpdu.masked apdu) rfl rfl rfl hinc hcarried ?_ ?_⟩
  · rw [p.dataOf_settle, hsent, ← h.sendNo_eq]
    exact Connection.dataOf_frameTo_data _ _ _
  · rw [p.acksOf_settle, hsent]
    exact Connection.acksOf_frameTo_data _ _ _

/-- The next unit leaves the queue and is sent. -/
theorem sendNext_effect (h : r.Sound) (hopen : r.connection.isClosed = false) {apdu : Octets}
    {rest : List Octets} (hphase : r.connection.phase = .idle)
    (hqueue : r.connection.outgoing = apdu :: rest) {accepts : Frame → Bool} {now : Nat}
    (hp : p = r.connection.sendNext accepts now) (frame? : Option Frame) :
    (r.noting frame? p.settle.1).Sound ∧ Effect r (r.noting frame? p.settle.1) p.settle.2 := by
  have hconn := congrArg Connection.Progress.connection hp
  rw [Connection.sendNext_connection accepts now hqueue, ← hp] at hconn
  have hsent := congrArg Connection.Progress.sent hp
  rw [Connection.sendNext_sent accepts now hqueue] at hsent
  have hheld : r.connection.outstanding ++ r.connection.outgoing = apdu :: rest := by
    rw [Connection.outstanding, hphase, hqueue]
    rfl
  have hs : p.settle.1.sendNo = r.connection.sendNo := by
    rw [p.settle_sendNo, hconn]
    split <;> rfl
  have hr : p.settle.1.receiveNo = r.connection.receiveNo := by
    rw [p.settle_receiveNo, hconn]
    split <;> rfl
  have hd : p.settle.1.delivered = r.connection.delivered := by
    rw [p.settle_delivered, hconn]
    split <;> rfl
  have hi : p.settle.1.incoming.Sublist r.connection.incoming := by
    rw [p.settle_incoming, hconn]
    split <;> exact List.Sublist.refl _
  rw [noting_same hs hd]
  refine ⟨h.same hs hr hd fun hc => ⟨hopen, ?_⟩, ?_⟩
  · obtain ⟨hgo, heq⟩ := p.settle_of_open hc
    rw [if_pos hgo] at hconn
    rw [heq, hconn, hheld]
    rfl
  · refine Effect.sends (Tpdu.masked apdu) rfl rfl rfl hi (h.carried hopen hheld) ?_ ?_
    · rw [p.dataOf_settle, hsent, ← h.sendNo_eq]
      exact Connection.dataOf_frameTo_data _ _ _
    · rw [p.acksOf_settle, hsent]
      exact Connection.acksOf_frameTo_data _ _ _

/-! ### The outcomes of a frame -/

variable {f : Frame} {later : List Frame} {apdu : Octets} {accepts : Frame → Bool} {now : Nat}

/-- The expected unit is taken. -/
theorem take_effect (h : r.Sound) (hopen : r.connection.isClosed = false)
    (hfront : r.connection.incoming = f :: later)
    (hf : f.numbered? = some (r.connection.receiveNo, apdu))
    (hp : p = Connection.transmit accepts (.ack r.connection.receiveNo)
      (((r.connection.withIncoming x).accept apdu).refresh now))
    (hinc : inc.Sublist later) :
    (r.noting (some f) (p.settle.1.withIncoming inc)).Sound ∧
      Effect r (r.noting (some f) (p.settle.1.withIncoming inc)) p.settle.2 := by
  have hconn := congrArg Connection.Progress.connection hp
  rw [Connection.transmit_connection] at hconn
  have hsent := congrArg Connection.Progress.sent hp
  rw [Connection.transmit_sent] at hsent
  have hs : (p.settle.1.withIncoming inc).sendNo = r.connection.sendNo :=
    p.settle_sendNo.trans (by rw [hconn]; rfl)
  have hr : (p.settle.1.withIncoming inc).receiveNo = fourBitNo (r.accepted.length + 1) := by
    rw [← nextNo_fourBitNo, ← h.receiveNo_eq]
    exact p.settle_receiveNo.trans (by rw [hconn]; rfl)
  have hd : (p.settle.1.withIncoming inc).delivered = r.connection.delivered ++ [apdu] :=
    p.settle_delivered.trans (by rw [hconn]; rfl)
  rw [noting_taken hs hd hf]
  rw [h.receiveNo_eq] at hf hsent ⊢
  refine ⟨⟨?_, hs.trans h.sendNo_eq, ?_, ?_, h.acked_le, ?_⟩, ?_⟩
  · rw [hr, List.length_append, List.length_singleton]
  · have hpushed := h.pushed_eq
    rw [pushed] at hpushed ⊢
    simp only [hd]
    rw [← List.append_assoc, hpushed, List.map_append, List.map_singleton]
  · simp only [List.map_append, List.map_singleton, List.length_append, List.length_singleton,
      List.range_succ, h.numbers_eq]
  · intro hc
    have hsame := (p.settle_of_open hc).2.trans hconn
    rw [h.waiting_eq hopen]
    simp only [hsame]
    rfl
  · refine Effect.takes f later apdu rfl rfl hfront hf rfl hinc ?_ ?_
    · rw [p.dataOf_settle, hsent]
      exact Connection.dataOf_frameTo_ack _ _
    · rw [p.acksOf_settle, hsent]
      exact Connection.acksOf_frameTo_ack _ _

/-- A unit is acknowledged once more. -/
theorem repeat_effect (h : r.Sound) (hopen : r.connection.isClosed = false)
    (hfront : r.connection.incoming = f :: later)
    (hf : f.numbered? = some (Connection.previousNo r.connection.receiveNo, apdu))
    (hp : p = Connection.transmit accepts
      (.ack (Connection.previousNo r.connection.receiveNo))
      ((r.connection.withIncoming x).refresh now))
    (hinc : inc.Sublist later) :
    (r.noting (some f) (p.settle.1.withIncoming inc)).Sound ∧
      Effect r (r.noting (some f) (p.settle.1.withIncoming inc)) p.settle.2 := by
  have hconn := congrArg Connection.Progress.connection hp
  rw [Connection.transmit_connection] at hconn
  have hsent := congrArg Connection.Progress.sent hp
  rw [Connection.transmit_sent, h.receiveNo_eq] at hsent
  have hkeeps : Keeps r.connection p.connection := by
    rw [hconn]
    exact ⟨rfl, rfl, rfl, rfl⟩
  obtain ⟨hnoting, hsound⟩ := noting_keeps h hopen hkeeps (some f) inc
  rw [h.receiveNo_eq] at hf
  rw [hnoting]
  refine ⟨hsound, Effect.repeats f later apdu rfl rfl rfl hfront hf hinc ?_ ?_⟩
  · rw [p.dataOf_settle, hsent]
    exact Connection.dataOf_frameTo_ack _ _
  · rw [p.acksOf_settle, hsent]
    exact Connection.acksOf_frameTo_ack _ _

theorem numbered?_eq_none_of_acknowledged? {n : UInt8} (hf : f.acknowledged? = some n) :
    f.numbered? = none := by
  unfold Frame.acknowledged? at hf
  unfold Frame.numbered?
  split at hf
  · rename_i hdecode
    rw [hdecode]
  · cases hf

/-- The outstanding unit is acknowledged. -/
theorem acknowledged_effect (h : r.Sound) (hopen : r.connection.isClosed = false)
    {retries deadline : Nat} (hphase : r.connection.phase = .awaiting apdu retries deadline)
    (hfront : r.connection.incoming = f :: later)
    (hf : f.acknowledged? = some r.connection.sendNo) {idle : Nat} {c : Connection}
    (hc : c = { r.connection with
      incoming := x, phase := .idle, idleDeadline := idle
      sendNo := Connection.nextNo r.connection.sendNo
      shownSendNo := Connection.nextNo r.connection.sendNo })
    (hp : p = c.goOn) (hinc : inc.Sublist later) :
    (r.noting (some f) (p.settle.1.withIncoming inc)).Sound ∧
      Effect r (r.noting (some f) (p.settle.1.withIncoming inc)) p.settle.2 := by
  have hsettle : p.settle = (c, []) := by rw [hp]; rfl
  have hheld : r.queued.drop r.acked = apdu :: r.connection.outgoing := by
    rw [h.waiting_eq hopen, Connection.outstanding, hphase]
    rfl
  have hlt : r.acked < r.queued.length := by
    have hlen := congrArg List.length hheld
    rw [List.length_drop, List.length_cons] at hlen
    omega
  have hs : (c.withIncoming inc).sendNo = fourBitNo (r.acked + 1) := by
    rw [hc, ← nextNo_fourBitNo, ← h.sendNo_eq]
    rfl
  have hmoved : (c.withIncoming inc).sendNo ≠ r.connection.sendNo := by
    rw [hs, h.sendNo_eq]
    exact alternates_fourBitNo r.acked
  rw [hsettle]
  simp only
  rw [noting_acked hmoved (numbered?_eq_none_of_acknowledged? hf)]
  rw [h.sendNo_eq] at hf
  refine ⟨⟨?_, hs, ?_, h.numbers_eq, hlt, ?_⟩, ?_⟩
  · rw [← h.receiveNo_eq, hc]
    rfl
  · rw [← h.pushed_eq, hc]
    rfl
  · intro _
    have hdrop : r.queued.drop (r.acked + 1) = r.connection.outgoing := by
      rw [← List.drop_drop, hheld]
      rfl
    rw [hc]
    exact hdrop
  · exact Effect.acknowledged f later rfl rfl rfl hfront hf hinc rfl rfl

end

/-! ## Every part of a turn -/

variable {r : Chronicle}

/-- Nothing happens. -/
theorem Effect.refl (r : Chronicle) : Effect r r [] :=
  Effect.quiet (List.prefix_refl _) rfl rfl (List.Sublist.refl _) rfl rfl

theorem look_effect (h : r.Sound) (hopen : r.connection.isClosed = false) (accepts : Frame → Bool)
    (now : Nat) :
    (r.act (.look accepts now)).1.Sound ∧
      Effect r (r.act (.look accepts now)).1 (r.act (.look accepts now)).2 := by
  have hact : r.act (.look accepts now) =
      (r.noting r.connection.incoming.head? (r.connection.look accepts now).1,
        (r.connection.look accepts now).2) := by
    rw [act, hopen]
    rfl
  cases hfront : r.connection.incoming with
  | nil =>
    rw [hact, Connection.look_nil hfront, noting_same rfl rfl]
    exact ⟨h, Effect.refl r⟩
  | cons f later =>
    obtain ⟨p, hp⟩ : ∃ p, p = (r.connection.withIncoming []).onFrame accepts now f := ⟨_, rfl⟩
    have hlook : r.connection.look accepts now =
        (p.settle.1.withIncoming (if p.goesOn then later else []), p.settle.2) := by
      rw [Connection.look, hfront, hp]
    have hlater : (if p.goesOn then later else []).Sublist later := by
      split
      · exact List.Sublist.refl later
      · exact List.nil_sublist later
    have hinc : (if p.goesOn then later else []).Sublist r.connection.incoming := by
      rw [hfront]
      exact hlater.trans (List.sublist_cons_self f later)
    rw [hact, hlook, hfront, List.head?_cons]
    obtain ⟨apdu, hf, heq⟩ | ⟨apdu, hf, heq⟩ | ⟨apdu, retries, deadline, hphase, hf, heq⟩ |
      ⟨apdu, retries, deadline, hphase, heq⟩ | heq | heq :=
        Connection.onFrame_cases accepts now f (r.connection.withIncoming [])
    · exact take_effect h hopen hfront hf (hp.trans heq) hlater
    · exact repeat_effect h hopen hfront hf (hp.trans heq) hlater
    · exact acknowledged_effect h hopen hphase hfront hf rfl (hp.trans heq) hlater
    · exact resend_effect h hopen hphase (hp.trans heq) hinc _
    · exact unchanged_effect h hopen (by rw [hp, heq]; rfl) (by rw [hp, heq]; rfl) hinc _
    · exact unchanged_effect h hopen (by rw [hp, heq]; rfl) (by rw [hp, heq]; rfl) hinc _

theorem proceed_effect (h : r.Sound) (hopen : r.connection.isClosed = false)
    (accepts : Frame → Bool) (now : Nat) :
    (r.act (.proceed accepts now)).1.Sound ∧
      Effect r (r.act (.proceed accepts now)).1 (r.act (.proceed accepts now)).2 := by
  obtain ⟨p, hp⟩ : ∃ p, p = r.connection.proceed accepts now := ⟨_, rfl⟩
  have hact : r.act (.proceed accepts now) = (r.noting none p.settle.1, p.settle.2) := by
    rw [act, hopen, hp]
    rfl
  have hsame : ∀ c : Connection, c.withIncoming c.incoming = c := fun _ => rfl
  have hsub : p.settle.1.incoming.Sublist p.connection.incoming :=
    p.settle_incoming ▸ List.Sublist.refl _
  rw [hact]
  obtain ⟨apdu, rest, hphase, hqueue, heq⟩ | ⟨apdu, retries, deadline, hphase, heq⟩ | heq | heq :=
    Connection.proceed_cases accepts now r.connection
  · exact sendNext_effect h hopen hphase hqueue (hp.trans heq) none
  · have hinc : p.connection.incoming = r.connection.incoming := by
      rw [hp, heq, Connection.resend, Connection.transmit_connection]
    rw [hinc] at hsub
    rw [← hsame p.settle.1]
    exact resend_effect h hopen hphase (hp.trans heq) hsub none
  · have hconn : p.connection = r.connection := by rw [hp, heq]; rfl
    rw [hconn] at hsub
    rw [← hsame p.settle.1]
    exact unchanged_effect h hopen hconn (by rw [hp, heq]; rfl) hsub none
  · have hconn : p.connection = r.connection := by rw [hp, heq]; rfl
    rw [hconn] at hsub
    rw [← hsame p.settle.1]
    exact unchanged_effect h hopen hconn (by rw [hp, heq]; rfl) hsub none

theorem leave_effect (h : r.Sound) (hopen : r.connection.isClosed = false) :
    (r.act .leave).1.Sound ∧ Effect r (r.act .leave).1 (r.act .leave).2 := by
  have hact : r.act .leave =
      (r.noting none r.connection.giveUp.settle.1, r.connection.giveUp.settle.2) := by
    rw [act, hopen]
    rfl
  rw [hact]
  exact unchanged_effect (p := r.connection.giveUp) h hopen rfl rfl (List.Sublist.refl _) none

theorem act_put_of_closed (hclosed : r.connection.isClosed = true) (apdu : Octets) :
    r.act (.put apdu) = (r, []) := by
  rw [act, Connection.put, if_pos hclosed]

theorem act_put_of_open (hopen : r.connection.isClosed = false) (apdu : Octets) :
    r.act (.put apdu) =
      ({ r with
          connection := { r.connection with outgoing := r.connection.outgoing ++ [apdu] }
          queued := r.queued ++ [apdu] }, []) := by
  have hnot : ¬ r.connection.isClosed = true := by
    rw [hopen]
    exact Bool.false_ne_true
  rw [act, Connection.put, if_neg hnot]

theorem put_effect (h : r.Sound) (apdu : Octets) :
    (r.act (.put apdu)).1.Sound ∧ Effect r (r.act (.put apdu)).1 (r.act (.put apdu)).2 := by
  cases hopen : r.connection.isClosed with
  | true =>
    rw [act_put_of_closed hopen]
    exact ⟨h, Effect.refl r⟩
  | false =>
    rw [act_put_of_open hopen]
    refine ⟨⟨h.receiveNo_eq, h.sendNo_eq, h.pushed_eq, h.numbers_eq, ?_, fun _ => ?_⟩, ?_⟩
    · rw [List.length_append]
      exact Nat.le_add_right_of_le h.acked_le
    · have hheld := h.waiting_eq hopen
      rw [List.drop_append_of_le_length h.acked_le, hheld, List.append_assoc]
      rfl
    · exact Effect.quiet (List.prefix_append _ _) rfl rfl (List.Sublist.refl _) rfl rfl

theorem read_effect (h : r.Sound) :
    (r.act .read).1.Sound ∧ Effect r (r.act .read).1 (r.act .read).2 := by
  have htake : r.connection.take.1.toList ++ r.connection.take.2.delivered =
      r.connection.delivered := by
    unfold Connection.take
    split
    · rename_i hnone
      rw [hnone]
      rfl
    · rename_i hcons
      rw [hcons]
      rfl
  have hsame : r.connection.take.2 =
      { r.connection with delivered := r.connection.take.2.delivered } := by
    unfold Connection.take
    split <;> rfl
  rw [act]
  refine ⟨⟨?_, ?_, ?_, h.numbers_eq, h.acked_le, fun hopen => ?_⟩, ?_⟩
  · simp only
    rw [hsame]
    exact h.receiveNo_eq
  · simp only
    rw [hsame]
    exact h.sendNo_eq
  · rw [← h.pushed_eq, pushed, pushed]
    simp only
    rw [List.append_assoc, htake]
  · simp only at hopen ⊢
    rw [hsame] at hopen ⊢
    exact h.waiting_eq hopen
  · have hincoming : r.connection.take.2.incoming = r.connection.incoming := by rw [hsame]
    exact Effect.quiet (List.prefix_refl _) rfl rfl (hincoming ▸ List.Sublist.refl _) rfl rfl

/-- A connection that has ended stays as it is, whatever part of a turn would be due. -/
theorem act_of_closed (hclosed : r.connection.isClosed = true) (a : Act)
    (ha : a = .leave ∨ ∃ accepts now, a = .look accepts now ∨ a = .proceed accepts now) :
    r.act a = (r, []) := by
  obtain rfl | ⟨accepts, now, rfl | rfl⟩ := ha <;> rw [act, if_pos hclosed]

/-- **What a connection does is one of the five things** that matter to its peer, and it goes on
agreeing with its past. -/
theorem act_effect (h : r.Sound) (a : Act) :
    (r.act a).1.Sound ∧ Effect r (r.act a).1 (r.act a).2 := by
  cases a with
  | put apdu => exact put_effect h apdu
  | read => exact read_effect h
  | stop =>
    exact ⟨h.same rfl rfl rfl fun hopen => ⟨hopen, rfl⟩,
      Effect.quiet (List.prefix_refl _) rfl rfl (List.Sublist.refl _) rfl rfl⟩
  | look accepts now =>
    cases hopen : r.connection.isClosed with
    | false => exact look_effect h hopen accepts now
    | true =>
      rw [act_of_closed hopen _ (Or.inr ⟨accepts, now, Or.inl rfl⟩)]
      exact ⟨h, Effect.refl r⟩
  | proceed accepts now =>
    cases hopen : r.connection.isClosed with
    | false => exact proceed_effect h hopen accepts now
    | true =>
      rw [act_of_closed hopen _ (Or.inr ⟨accepts, now, Or.inr rfl⟩)]
      exact ⟨h, Effect.refl r⟩
  | leave =>
    cases hopen : r.connection.isClosed with
    | false => exact leave_effect h hopen
    | true =>
      rw [act_of_closed hopen _ (Or.inl rfl)]
      exact ⟨h, Effect.refl r⟩

theorem hear_sound (h : r.Sound) (f : Frame) : (r.hear f).Sound :=
  h.same rfl rfl rfl fun hopen => ⟨hopen, rfl⟩

theorem step_sound (h : r.Sound) (e : Event) : (r.step e).1.Sound := by
  cases e with
  | hear f => exact hear_sound h f
  | act a => exact (act_effect h a).1

theorem run_sound (h : r.Sound) (events : List Event) : (run events r).1.Sound :=
  runWith_invariant step Sound (fun e _ h => step_sound h e) events h

theorem start_sound (config : ConnectionConfig) (peer : IndividualAddress)
    (registration now : Nat) :
    (start (Connection.start config peer registration now)).Sound :=
  ⟨rfl, rfl, rfl, rfl, Nat.le_refl 0, fun _ => rfl⟩

end Chronicle
end KnxBus
