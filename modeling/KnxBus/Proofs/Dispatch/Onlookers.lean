import KnxBus.Proofs.Dispatch.Stage

/-!
# Onlookers do not interfere

Two runs of an assembly are compared.  What has happened in a run is what members and onlookers have
done, what has come from the bus, and the turns of pump and desk that come to something for members
(`Assembly.played`); the plot is what is left of it without the moves of onlookers.  What members have
got to know depends on the plot alone (`Assembly.Kept.settled_run`), because the stage does, but for
one thing that is not in the plot: whether the pump has just found nothing.  That makes no difference
to what members get to know until the pump ends, and then it is in the plot.

Onlookers make events and captures of their own, and for these the pump and the desk need turns of
their own.  So a run with onlookers has more turns than one without.  That these are all it takes is
the other half: whatever onlookers do between the moves of a plot, idle turns bring the pump or the
desk to what is next (`Assembly.Kept.catch_up`), for in each the inbox or the queue gets shorter.
There the two runs go side by side, on the same stage (`Assembly.Kept.exists_played`).
-/

namespace KnxBus

namespace Assembly

variable {c : Assembly}

/-! ## Runs and their plots -/

theorem Kept.run (h : c.Kept) (moves : List Move) : (c.run moves).Kept :=
  List.foldlRecOn moves Assembly.step h fun _ hkept move _ => Kept.step hkept move

/-- Whether a move is a turn that comes to nothing for members: the pump does something else next, or
brings the desk nothing but a capture, or the desk finds nothing or something of an onlooker. -/
def isIdle (c : Assembly) : Move → Bool
  | .pumps next => c.circuit.wire.pump != next || c.circuit.pumping.all Desk.Act.bringsCapture
  | .serves => !c.running || c.circuit.events.head?.all fun e => (e.seen c.owner).isNone
  | _ => false

/-- What happens, less the turns that come to nothing for members. -/
def played (c : Assembly) : List Move → List Move
  | [] => []
  | move :: later =>
    if c.isIdle move then (c.step move).played later else move :: (c.step move).played later

/-- Whether a move is made by an onlooker. -/
def Move.isOnlooking : Move → Bool
  | .watches => true
  | .submits party => party.isOnlooker
  | .leaves party => party.isOnlooker
  | _ => false

/-- What happens among members, in its order. -/
def plot (c : Assembly) (moves : List Move) : List Move :=
  (c.played moves).filter fun move => !move.isOnlooking

theorem played_append (c : Assembly) (moves more : List Move) :
    c.played (moves ++ more) = c.played moves ++ (c.run moves).played more := by
  induction moves generalizing c with
  | nil => rfl
  | cons move later ih =>
    have hlater := ih (c.step move)
    rw [List.cons_append, played, played]
    split
    · exact hlater
    · exact congrArg (move :: ·) hlater

theorem plot_cons_idle {move : Move} (hidle : c.isIdle move = true) (later : List Move) :
    c.plot (move :: later) = (c.step move).plot later := by
  rw [plot, played, if_pos hidle]
  rfl

theorem plot_cons_onlooking {move : Move} (honlooking : move.isOnlooking = true)
    (later : List Move) : c.plot (move :: later) = (c.step move).plot later := by
  rw [plot, played]
  split
  · rfl
  · rw [List.filter_cons_of_neg (by simp [honlooking])]
    rfl

theorem plot_cons {move : Move} (hidle : c.isIdle move = false)
    (honlooking : move.isOnlooking = false) (later : List Move) :
    c.plot (move :: later) = move :: (c.step move).plot later := by
  rw [plot, played, if_neg (Bool.eq_false_iff.1 hidle),
    List.filter_cons_of_pos (by simp [honlooking])]
  rfl

/-- No move of an onlooker is idle. -/
theorem isIdle_onlooking {move : Move} (honlooking : move.isOnlooking = true) :
    c.isIdle move = false := by
  cases move <;> first | rfl | cases honlooking

end Assembly

/-! ## The stage without what the pump has found -/

/-- A circuit with a pump that does something else next. -/
def Circuit.withPump {σ : Type} (c : Circuit σ) (pump : Pump) : Circuit σ :=
  ⟨c.desk, { c.wire with pump := pump }⟩

/-- What the pump does next matters to the pump alone. -/
theorem Circuit.act_withPump {σ : Type} (c : Circuit σ) (pump : Pump) {a : Act} (ha : a ≠ .pump) :
    (c.withPump pump).act a = (c.act a).withPump pump := by
  cases a with
  | pump => exact absurd rfl ha
  | send frame =>
    change (⟨c.desk, if c.running then _ else _⟩ : Circuit σ) =
      withPump ⟨c.desk, if c.running then _ else _⟩ pump
    split <;> rfl
  | serve =>
    change (⟨c.desk.serve c.verdict c.address, (c.withPump pump).atWire .serve⟩ : Circuit σ) =
      withPump ⟨c.desk.serve c.verdict c.address, c.atWire .serve⟩ pump
    rw [Circuit.atWire_serve, Circuit.atWire_serve]
    change (⟨_, (c.desk.next? c.verdict c.address).elim _ _⟩ : Circuit σ) = _
    cases c.desk.next? c.verdict c.address <;> rfl
  | _ => rfl

namespace Stage

open Assembly (Move)

/-- Onlookers do nothing on the stage. -/
theorem step_onlooking (s : Stage) {move : Move} (h : move.isOnlooking = true) : s.step move = s := by
  have honlooker {party : Party} (h : party.isOnlooker = true) : s.number party = none := by
    cases party with
    | member name => cases h
    | onlooker name => rfl
  cases move with
  | watches => rfl
  | submits party =>
    change ((s.number party).map _).elim s s.perform = s
    rw [honlooker h]
    rfl
  | leaves party =>
    change ((s.number party).map _).elim s s.perform = s
    rw [honlooker h]
    rfl
  | _ => cases h

/-- Whether a turn comes upon nothing on the stage. -/
def isFutile (s : Stage) : Move → Bool
  | .pumps next => s.circuit.wire.pump != next || s.circuit.pumping.isNone
  | .serves => !s.circuit.running || s.circuit.events.isEmpty
  | _ => false

/-- The stage with a pump that does something else next. -/
def withPump (s : Stage) (pump : Pump) : Stage := { s with circuit := s.circuit.withPump pump }

/-- The stage with a pump that looks next, if it has not ended. -/
def settled (s : Stage) : Stage :=
  s.withPump (if s.circuit.wire.pump = .ended then .ended else .looks)

theorem settled_settled (s : Stage) : s.settled.settled = s.settled := by
  unfold settled
  change withPump _ (if (if s.circuit.wire.pump = .ended then _ else _) = Pump.ended then _ else _) = _
  split <;> rfl

theorem step_withPump (s : Stage) (pump : Pump) {move : Move} (hmove : ∀ next, move ≠ .pumps next) :
    (s.withPump pump).step move = (s.step move).withPump pump := by
  have hperform {a : Circuit.Act} (ha : a ≠ .pump) :
      (s.withPump pump).perform a = (s.perform a).withPump pump := by
    unfold perform
    change (⟨((s.circuit.withPump pump).act a).plain,
      _ ++ ((s.circuit.withPump pump).act a).story some⟩ : Stage) = _
    rw [s.circuit.act_withPump pump ha]
    rfl
  cases move with
  | joins want => rfl
  | pumps next => exact absurd rfl (hmove next)
  | submits party =>
    change ((s.number party).map Circuit.Act.submit).elim _ _ =
      withPump (((s.number party).map Circuit.Act.submit).elim _ _) pump
    cases s.number party with
    | none => rfl
    | some id => exact hperform nofun
  | leaves party =>
    change ((s.number party).map Circuit.Act.leave).elim _ _ =
      withPump (((s.number party).map Circuit.Act.leave).elim _ _) pump
    cases s.number party with
    | none => rfl
    | some id => exact hperform nofun
  | watches => rfl
  | hears | sends | disconnects | serves => exact hperform nofun

/-- What comes of a move that is not futile, as far as it is known without knowing what the pump does
next. -/
def play (s : Stage) (move : Move) : Stage :=
  match move with
  | .pumps next => ((s.withPump next).step move).settled
  | _ => (s.step move).settled

theorem settled_step (s : Stage) {move : Move} (hfutile : s.isFutile move = false) :
    (s.step move).settled = s.settled.play move := by
  have hother (hmove : ∀ next, move ≠ .pumps next) :
      (s.step move).settled = (s.settled.step move).settled := by
    have hsame : s.step move = (s.step move).withPump s.circuit.wire.pump :=
      s.step_withPump s.circuit.wire.pump hmove
    calc (s.step move).settled
        = ((s.step move).withPump s.circuit.wire.pump).settled := congrArg settled hsame
      _ = ((s.step move).withPump s.circuit.wire.pump).settled.settled := (settled_settled _).symm
      _ = (s.settled.step move).settled := congrArg settled (s.step_withPump _ hmove).symm
  cases move with
  | pumps next =>
    obtain ⟨hnext, -⟩ := Bool.or_eq_false_iff.1 hfutile
    obtain rfl : s.circuit.wire.pump = next := by simpa using hnext
    rfl
  | _ => exact hother nofun

end Stage

namespace Assembly

variable {c : Assembly}

/-! ## What members get to know depends on the plot -/

/-- A turn that takes something of onlookers is idle. -/
theorem isIdle_of_isHidden {move : Move} (hhidden : c.isHidden move = true) :
    c.isIdle move = true := by
  cases move with
  | pumps next =>
    obtain ⟨-, hany⟩ := Bool.and_eq_true_iff.1 hhidden
    refine Bool.or_eq_true_iff.2 (.inr ?_)
    cases hpumping : c.circuit.pumping with
    | none => rfl
    | some d => rwa [hpumping] at hany
  | serves =>
    obtain ⟨-, hany⟩ := Bool.and_eq_true_iff.1 hhidden
    refine Bool.or_eq_true_iff.2 (.inr ?_)
    cases hevents : c.circuit.events.head? with
    | none => rfl
    | some e => rwa [hevents] at hany
  | _ => cases hhidden

/-- Other turns are idle if they come upon nothing on the stage. -/
theorem isIdle_eq_isFutile {move : Move} (hseen : c.isHidden move = false) :
    c.isIdle move = c.stage.isFutile move := by
  cases move with
  | pumps next =>
    change (c.circuit.wire.pump != next || c.circuit.pumping.all _) =
      (c.circuit.wire.pump != next || c.stage.circuit.pumping.isNone)
    by_cases hnext : c.circuit.wire.pump = next
    · have hany : c.circuit.pumping.any Desk.Act.bringsCapture = false := by
        simpa [isHidden, hnext] using hseen
      rw [stage_pumping hany]
      refine congrArg (c.circuit.wire.pump != next || ·) ?_
      cases hpumping : c.circuit.pumping with
      | none => rfl
      | some d => rwa [hpumping] at hany
    · rw [bne_iff_ne.2 hnext, Bool.true_or, Bool.true_or]
  | serves =>
    change (!c.circuit.running || c.circuit.events.head?.all _) =
      (!c.circuit.running || c.stage.circuit.events.isEmpty)
    obtain (hends | hempty) | ⟨works, e, later, queue⟩ := c.serves_cases
    · rw [hends]
      rfl
    · have hempty' : c.stage.circuit.events = [] := congrArg (List.filterMap _) hempty
      rw [hempty, hempty']
      rfl
    · have hsome : (e.seen c.owner).isNone = false := by
        simpa [isHidden, running, works, queue] using hseen
      obtain ⟨e', he⟩ := Option.isSome_iff_exists.1 (Option.isNone_eq_false_iff.1 hsome)
      rw [stage_events_cons queue he, queue, List.head?_cons, Option.all_some, hsome]
      rfl
  | _ => rfl

/-- A pump that brings nothing changes the stage at most in what it does next. -/
theorem settled_pump (hnothing : c.circuit.pumping = none) :
    (stage { c with circuit := c.circuit.act .pump }).settled = c.stage.settled := by
  have hnext {pump : Pump} (h : pump ≠ .ended) (h' : c.circuit.wire.pump ≠ .ended) :
      (stage { c with circuit := c.circuit.withPump pump }).settled = c.stage.settled :=
    congrArg c.stage.withPump ((if_neg h).trans (if_neg h').symm)
  cases c.circuit.pumps with
  | item item rest pump inbox => cases hnothing.symm.trans (Circuit.pump_item pump inbox).1
  | nothing pump inbox =>
    rw [(Circuit.pump_nothing pump inbox).2]
    exact hnext nofun (pump ▸ nofun)
  | alive pump alive =>
    rw [(Circuit.pump_alive pump alive).2]
    exact hnext nofun (pump ▸ nofun)
  | lost pump isLost => cases hnothing.symm.trans (Circuit.pump_lost pump isLost).1
  | ended pump => rw [(Circuit.pump_ended pump).2]

/-- So do all idle turns. -/
theorem Kept.settled_idle (h : c.Kept) {move : Move} (hidle : c.isIdle move = true) :
    (c.step move).stage.settled = c.stage.settled := by
  cases hhidden : c.isHidden move with
  | true => rw [h.toOwned.stage_hidden hhidden]
  | false =>
    have hfutile : c.stage.isFutile move = true := isIdle_eq_isFutile hhidden ▸ hidle
    cases move with
    | pumps next =>
      by_cases hnext : c.circuit.wire.pump = next
      · subst hnext
        have hany : c.circuit.pumping.any Desk.Act.bringsCapture = false := by
          simpa [isHidden] using hhidden
        rw [c.step_pumps]
        refine settled_pump ?_
        rw [← stage_pumping hany, ← Option.isNone_iff_eq_none]
        refine (Bool.or_eq_true_iff.1 hfutile).resolve_left ?_
        exact bne_iff_ne.not.2 (not_not.2 rfl)
      · rw [step_pumps_of_ne hnext]
    | serves =>
      have hnone : c.circuit.running = false ∨ c.circuit.events = [] := by
        obtain hnone | ⟨works, e, later, queue⟩ := c.serves_cases
        · exact hnone
        · have hunseen : (e.seen c.owner).isNone = true := by
            simpa [isIdle, running, works, queue] using hidle
          have hseen : (e.seen c.owner).isNone = false := by
            simpa [isHidden, running, works, queue] using hhidden
          cases hunseen.symm.trans hseen
      change (stage { c with circuit := c.circuit.act .serve }).settled = _
      rw [Circuit.serve_idle hnone]
    | _ => cases hidle

/-- **What members get to know depends on the plot alone.** -/
theorem Kept.settled_run (h : c.Kept) (moves : List Move) :
    (c.run moves).stage.settled = (c.plot moves).foldl Stage.play c.stage.settled := by
  induction moves generalizing c with
  | nil => rfl
  | cons move later ih =>
    refine (ih (h.step move)).trans ?_
    cases hidle : c.isIdle move with
    | true => rw [plot_cons_idle hidle, h.settled_idle hidle]
    | false =>
      have hseen : c.isHidden move = false :=
        Bool.eq_false_iff.2 fun hhidden => Bool.eq_false_iff.1 hidle (isIdle_of_isHidden hhidden)
      have hstep := h.stage_step hseen
      cases honlooking : move.isOnlooking with
      | true => rw [plot_cons_onlooking honlooking, hstep, c.stage.step_onlooking honlooking]
      | false =>
        rw [plot_cons hidle honlooking, List.foldl_cons, hstep,
          c.stage.settled_step (isIdle_eq_isFutile hseen ▸ hidle)]

/-! ## Whatever onlookers do, it can happen -/

/-- What is still to be pumped, or to be handled. -/
def backlog (c : Assembly) : Move → Nat
  | .pumps _ => c.circuit.wire.medium.inbox.length
  | .serves => c.circuit.events.length
  | _ => 0

/-- A turn that takes something of onlookers leaves less to be done. -/
theorem backlog_lt {move : Move} (hhidden : c.isHidden move = true) :
    (c.step move).backlog move < c.backlog move := by
  cases move with
  | pumps next =>
    obtain ⟨hnext, hany⟩ := Bool.and_eq_true_iff.1 hhidden
    obtain rfl : c.circuit.wire.pump = next := beq_iff_eq.1 hnext
    rw [c.step_pumps]
    change (c.circuit.act .pump).wire.medium.inbox.length < c.circuit.wire.medium.inbox.length
    cases c.circuit.pumps with
    | item item rest pump inbox =>
      rw [(Circuit.pump_item pump inbox).2, inbox]
      exact Nat.lt_succ_self rest.length
    | nothing pump inbox => rw [(Circuit.pump_nothing pump inbox).1] at hany; cases hany
    | alive pump alive => rw [(Circuit.pump_alive pump alive).1] at hany; cases hany
    | lost pump isLost => rw [(Circuit.pump_lost pump isLost).1] at hany; cases hany
    | ended pump => rw [(Circuit.pump_ended pump).1] at hany; cases hany
  | serves =>
    obtain ⟨works, hany⟩ := Bool.and_eq_true_iff.1 hhidden
    change (c.circuit.act .serve).events.length < c.circuit.events.length
    cases queue : c.circuit.events with
    | nil =>
      rw [queue] at hany
      cases hany
    | cons e later =>
      have hlater : (c.circuit.desk.handling c.circuit.verdict c.circuit.address e
          later).done.dispatcher.events = later := (Desk.handle_queue _ _ _ _).1
      rw [Circuit.serve_eq (c := c.circuit) works queue]
      change List.length (Handling.done _).dispatcher.events < _
      rw [hlater]
      exact Nat.lt_succ_self later.length
  | _ => cases hhidden

/-- Those who look on keep nobody waiting for ever: after some idle turns the next one is not
theirs. -/
theorem Kept.catch_up (h : c.Kept) (move : Move) :
    ∃ turns, c.played turns = [] ∧ (c.run turns).stage = c.stage ∧
      (c.run turns).isHidden move = false := by
  induction hbacklog : c.backlog move using Nat.strongRecOn generalizing c with
  | _ n ih =>
    cases hhidden : c.isHidden move with
    | false => exact ⟨[], rfl, rfl, hhidden⟩
    | true =>
      obtain ⟨turns, hplayed, hsame, hnext⟩ :=
        ih _ (hbacklog ▸ backlog_lt hhidden) (h.step move) rfl
      refine ⟨move :: turns, ?_, hsame.trans (h.toOwned.stage_hidden hhidden), hnext⟩
      rw [played, if_pos (isIdle_of_isHidden hhidden)]
      exact hplayed

/-- What onlookers do by themselves happens as it is, and is not seen. -/
theorem Kept.played_onlooking (h : c.Kept) {moves : List Move}
    (honlooking : ∀ move ∈ moves, move.isOnlooking = true) :
    c.played moves = moves ∧ (c.run moves).stage = c.stage := by
  induction moves generalizing c with
  | nil => exact ⟨rfl, rfl⟩
  | cons move later ih =>
    obtain ⟨hplayed, hstage⟩ :=
      ih (h.step move) fun move' hmove' => honlooking move' (List.mem_cons_of_mem move hmove')
    have hfirst := honlooking move List.mem_cons_self
    have hseen : c.isHidden move = false := by
      cases move <;> first | rfl | cases hfirst
    refine ⟨?_, ?_⟩
    · rw [played, if_neg (Bool.eq_false_iff.1 (isIdle_onlooking hfirst)), hplayed]
    · refine hstage.trans ?_
      rw [h.stage_step hseen, c.stage.step_onlooking hfirst]

/-- **Whatever onlookers do between the moves of a plot, it can happen.** -/
theorem Kept.exists_played {c c' : Assembly} (h : c.Kept) (h' : c'.Kept) (hstage : c'.stage = c.stage)
    (first mixed : List Move)
    (hmixed : (mixed.filter fun move => !move.isOnlooking) = c.plot first) :
    ∃ second, c'.played second = mixed := by
  induction first generalizing c c' mixed with
  | nil =>
    have honlooking : ∀ move ∈ mixed, move.isOnlooking = true := by
      simpa [plot, played] using hmixed
    exact ⟨mixed, (h'.played_onlooking honlooking).1⟩
  | cons move later ih =>
    -- After some turns the second run can take the same move, and it is idle there if it is here.
    have hfollow {c'' : Assembly} (h'' : c''.Kept) (hsame : c''.stage = c.stage)
        (hseen : c.isHidden move = false) :
        ∃ turns, c''.played turns = [] ∧ (c''.run turns).isIdle move = c.isIdle move ∧
          ((c''.run turns).step move).stage = (c.step move).stage := by
      obtain ⟨turns, hplayed, hturns, hnext⟩ := h''.catch_up move
      refine ⟨turns, hplayed, ?_, ?_⟩
      · rw [isIdle_eq_isFutile hnext, isIdle_eq_isFutile hseen, hturns, hsame]
      · rw [(h''.run turns).stage_step hnext, h.stage_step hseen, hturns, hsame]
    cases hhidden : c.isHidden move with
    | true =>
      rw [plot_cons_idle (isIdle_of_isHidden hhidden)] at hmixed
      exact ih (h.step move) h' (hstage.trans (h.toOwned.stage_hidden hhidden).symm) mixed hmixed
    | false =>
      cases hidle : c.isIdle move with
      | true =>
        rw [plot_cons_idle hidle] at hmixed
        obtain ⟨turns, hplayed, hidle', hsame⟩ := hfollow h' hstage hhidden
        obtain ⟨second, hsecond⟩ := ih (h.step move) ((h'.run turns).step move) hsame mixed hmixed
        refine ⟨turns ++ move :: second, ?_⟩
        rw [played_append, hplayed, played, if_pos (hidle'.trans hidle), hsecond]
        rfl
      | false =>
        cases honlooking : move.isOnlooking with
        | true =>
          rw [plot_cons_onlooking honlooking] at hmixed
          refine ih (h.step move) h' (hstage.trans ?_) mixed hmixed
          rw [h.stage_step hhidden, c.stage.step_onlooking honlooking]
        | false =>
          rw [plot_cons hidle honlooking] at hmixed
          obtain ⟨before, rest, rfl, hbefore, -, hrest⟩ := List.filter_eq_cons_iff.1 hmixed
          have hbefore : ∀ move ∈ before, move.isOnlooking = true := by simpa using hbefore
          obtain ⟨hown, hunseen⟩ := h'.played_onlooking hbefore
          obtain ⟨turns, hplayed, hidle', hsame⟩ :=
            hfollow (h'.run before) (hunseen.trans hstage) hhidden
          obtain ⟨second, hsecond⟩ :=
            ih (h.step move) (((h'.run before).run turns).step move) hsame rest hrest
          refine ⟨before ++ (turns ++ move :: second), ?_⟩
          rw [played_append, played_append, hown, hplayed, played,
            if_neg (Bool.eq_false_iff.1 (hidle'.trans hidle)), hsecond]
          rfl

/-- Whether two assemblies have been the same to members: each has received the same frames in both,
and has been told the same. -/
def Alike (c c' : Assembly) : Prop :=
  ∀ name, c.received name = c'.received name ∧ c.reply name = c'.reply name

theorem alike_of_settled {c' : Assembly} (h : c.stage.settled = c'.stage.settled) : c.Alike c' := by
  have hstory : c.story = c'.story := congrArg Stage.story h
  have hrunning : c.running = c'.running := congrArg (fun s => s.circuit.running) h
  intro name
  unfold received reply
  rw [hstory, hrunning]
  exact ⟨rfl, rfl⟩

/-- **Onlookers do not interfere.**  If the same happens among members in two runs, in the same order,
they receive the same frames and are told the same, whatever onlookers do and whenever they do it.  And
onlookers can do anything at any time: however their moves are put in among those of members, there is
a run in which just this happens. -/
theorem onlookers_do_not_interfere (address : IndividualAddress) (first : List Move) :
    (∀ second, (start address).plot second = (start address).plot first →
      ((start address).run second).Alike ((start address).run first)) ∧
    ∀ mixed : List Move, (mixed.filter fun move => !move.isOnlooking) = (start address).plot first →
      ∃ second, (start address).played second = mixed ∧
        ((start address).run second).Alike ((start address).run first) := by
  have hkept := start_kept address
  have halike (second : List Move) (h : (start address).plot second = (start address).plot first) :
      ((start address).run second).Alike ((start address).run first) := by
    refine alike_of_settled ?_
    rw [hkept.settled_run, hkept.settled_run, h]
  refine ⟨halike, fun mixed hmixed => ?_⟩
  obtain ⟨second, hsecond⟩ := hkept.exists_played hkept rfl first mixed hmixed
  exact ⟨second, hsecond, halike second (by rw [plot, hsecond, hmixed])⟩

/-- A frame to a group. -/
def question : Frame := .addressed (.group ⟨2305⟩) [0, 0]

/-- A member registers for a group, a frame to it is heard, and another member wants the bus. -/
def undisturbed : List Move :=
  [.joins (.frames (.group ⟨2305⟩)), .submits (.member 0), .serves, .hears (.data question),
    .pumps .looks, .serves, .joins .bus, .submits (.member 1), .serves]

/-- The same with an onlooker that comes first and leaves before the second member comes. -/
def watched : List Move :=
  [.watches, .submits (.onlooker 0), .joins (.frames (.group ⟨2305⟩)), .submits (.member 0), .serves,
    .serves, .hears (.data question), .pumps .looks, .pumps .looks, .serves, .serves,
    .leaves (.onlooker 0), .joins .bus, .submits (.member 1), .serves, .serves]

theorem onlookers_do_not_interfere_watched :
    (start ⟨4353⟩).plot watched = (start ⟨4353⟩).plot undisturbed ∧
      (((start ⟨4353⟩).run watched).circuit.desk.log.length = 6 ∧
        ((start ⟨4353⟩).run undisturbed).circuit.desk.log.length = 3) ∧
      ((start ⟨4353⟩).run watched).received 0 = [question] ∧
      ((start ⟨4353⟩).run watched).reply 0 = some (.ok ()) ∧
      ((start ⟨4353⟩).run watched).reply 1 = some (.error .normalModeActive) ∧
      ∃ second, (start ⟨4353⟩).played second = .watches :: (start ⟨4353⟩).plot undisturbed ∧
        ((start ⟨4353⟩).run second).received 0 = [question] := by
  obtain ⟨halike, hmixed⟩ := onlookers_do_not_interfere ⟨4353⟩ undisturbed
  have hplot : (start ⟨4353⟩).plot watched = (start ⟨4353⟩).plot undisturbed := by decide +kernel
  have hreceived : ((start ⟨4353⟩).run undisturbed).received 0 = [question] := by decide +kernel
  have hfirst := halike watched hplot 0
  have hsecond := halike watched hplot 1
  obtain ⟨second, hplayed, hsame⟩ :=
    hmixed (.watches :: (start ⟨4353⟩).plot undisturbed) (by decide +kernel)
  refine ⟨hplot, by decide +kernel, hfirst.1.trans hreceived, hfirst.2.trans rfl,
    hsecond.2.trans rfl, second, hplayed, (hsame 0).1.trans hreceived⟩

end Assembly
end KnxBus
