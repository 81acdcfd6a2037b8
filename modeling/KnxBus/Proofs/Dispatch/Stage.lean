import KnxBus.Proofs.Dispatch.Sight
import Mathlib.Data.List.Basic

/-!
# The stage

What members see of an assembly is a circuit of their own, the stage: members are called by their
names, so the number that is drawn next is the number of those who have come, and neither driver nor
log nor what has ever been queued matters.  What happens in the assembly happens on the stage too, as
a move of members alone (`Assembly.Kept.stage_step`), unless it is a turn that takes something of
onlookers; then the stage stays as it is (`Assembly.Owned.stage_hidden`).
-/

namespace KnxBus

/-! ## The stage -/

/-- A circuit that members have to themselves, without what is only kept for the record. -/
def Circuit.plain (c : Circuit Nat) : Circuit Nat :=
  ⟨{ c.desk with driver := .opened, log := [] }, c.wire.plain⟩

/-- Whether it is a capture that is brought to the desk. -/
def Desk.Act.bringsCapture : Desk.Act → Bool
  | .hear item => item.isCapture
  | _ => false

/-- What members see of an assembly: a circuit of their own, and what they have got to know. -/
@[ext]
structure Stage where
  /-- The circuit under the names of members. -/
  circuit : Circuit Nat
  /-- What members have got to know. -/
  story : List (Nat × Tiding)

namespace Stage

open Assembly (Move)

/-- How many members there are. -/
def joined (s : Stage) : Nat := s.circuit.desk.dispatcher.nextId

/-- On the stage members are called by their names, and onlookers are not there. -/
def number (s : Stage) : Party → Option Nat
  | .member name => if name < s.joined then some name else none
  | .onlooker _ => none

/-- Something happens on the stage. -/
def perform (s : Stage) (a : Circuit.Act) : Stage :=
  ⟨(s.circuit.act a).plain, s.story ++ (s.circuit.act a).story some⟩

/-- A move in an assembly, as it is seen on the stage. -/
def step (s : Stage) : Move → Stage
  | .joins want => { s with circuit := s.circuit.draw (want.request s.joined) }
  | move => (move.deed s.number s.circuit.wire.pump).elim s s.perform

end Stage

namespace Assembly

/-- What members see of an assembly. -/
def stage (c : Assembly) : Stage := ⟨c.circuit.seen c.owner c.joined, c.story⟩

theorem stage_eq {c : Assembly} {s : Stage} (hcircuit : c.circuit.seen c.owner c.joined = s.circuit)
    (hstory : c.story = s.story) : c.stage = s :=
  Stage.ext hcircuit hstory

variable {c : Assembly}

/-- What happens in the circuit is what happens on the stage, if they match. -/
theorem stage_act {a a' : Circuit.Act} (ha : a ≠ .serve) (ha' : a' ≠ .serve)
    (hseen : (c.circuit.act a).seen c.owner c.joined =
      ((c.circuit.seen c.owner c.joined).act a').plain) :
    stage { c with circuit := c.circuit.act a } = c.stage.perform a' := by
  have hquiet : (c.stage.circuit.act a').story some = [] :=
    congrArg (List.flatMap _) (c.stage.circuit.act_log ha')
  unfold Stage.perform
  rw [hquiet, List.append_nil]
  exact stage_eq hseen (congrArg (List.flatMap _) (c.circuit.act_log ha))

/-- What happens in the circuit is not seen, if the circuit does not change to members. -/
theorem stage_still {a : Circuit.Act} (ha : a ≠ .serve)
    (hseen : (c.circuit.act a).seen c.owner c.joined = c.circuit.seen c.owner c.joined) :
    stage { c with circuit := c.circuit.act a } = c.stage :=
  stage_eq hseen (congrArg (List.flatMap _) (c.circuit.act_log ha))

/-! ## Handing in and leaving -/

/-- A member hands in its request under its number as it does on the stage under its name. -/
theorem Owned.submit_member (h : c.Owned) {id name : Nat}
    (hnumber : c.number (.member name) = some id) :
    (c.circuit.act (.submit id)).seen c.owner c.joined =
      ((c.circuit.seen c.owner c.joined).act (.submit name)).plain := by
  have hown (x : Nat × Request Party) (hx : x ∈ c.circuit.desk.drawn) :
      x.2.sink = .member name ↔ x.1 = id := by
    have hsink := h.of_drawn hx
    constructor
    · intro heq
      rw [heq, hnumber] at hsink
      exact (Option.some.inj hsink).symm
    · rintro rfl
      have howner := (h.number_iff _ _).1 hsink
      exact Option.some.inj (howner.symm.trans ((h.number_iff _ _).1 hnumber))
  have htaken : Registry.takeOut Prod.fst name (c.circuit.desk.drawn.filterMap fun x => x.2.seen) =
      (Registry.takeOut Prod.fst id c.circuit.desk.drawn).bind fun found =>
        found.1.2.seen.map fun x => (x, found.2.filterMap fun x => x.2.seen) := by
    refine Registry.takeOut_filterMap (f := fun x : Nat × Request Party => x.2.seen)
      (fun x hx y hy => ?_) fun x hx hnone hid => ?_
    · rw [← hown x hx, Request.sink_of_seen hy, Party.member.injEq]
    · have honlooker := Request.seen_eq_none.1 hnone
      rw [(hown x hx).2 hid] at honlooker
      cases honlooker
  change (⟨(c.circuit.desk.submit id).seen c.owner c.joined, c.circuit.wire.plain⟩ : Circuit Nat) =
    ⟨{ (c.circuit.desk.seen c.owner c.joined).submit name with driver := .opened, log := [] },
      c.circuit.wire.plain.plain⟩
  rw [Wire.plain_plain]
  refine congrArg (Circuit.mk · c.circuit.wire.plain) ?_
  cases hfound : Registry.takeOut Prod.fst id c.circuit.desk.drawn with
  | none =>
    rw [hfound] at htaken
    rw [Desk.submit_of_none hfound, Desk.submit_of_none htaken]
    rfl
  | some found =>
    obtain ⟨gone, others⟩ := found
    obtain ⟨hgone, hid⟩ := Registry.mem_of_takeOut hfound
    obtain ⟨x, hseen⟩ : ∃ x, gone.2.seen = some x := by
      rw [← Option.isSome_iff_exists, ← Option.ne_none_iff_isSome, ne_eq, Request.seen_eq_none,
        (hown gone hgone).2 hid]
      exact Bool.false_ne_true
    have hevent : (gone.2.event gone.1).seen c.owner = some (x.2.event x.1) := by
      rw [Request.event_seen, hseen]
      rfl
    rw [hfound, Option.bind_some, hseen] at htaken
    rw [Desk.submit_of_some hfound, Desk.submit_of_some htaken]
    exact Desk.enqueue_seen hevent

/-- An onlooker that does so is not seen. -/
theorem Owned.submit_onlooker (h : c.Owned) {id name : Nat}
    (hnumber : c.number (.onlooker name) = some id) :
    (c.circuit.act (.submit id)).seen c.owner c.joined = c.circuit.seen c.owner c.joined := by
  change (⟨(c.circuit.desk.submit id).seen c.owner c.joined, c.circuit.wire.plain⟩ : Circuit Nat) = _
  refine congrArg (Circuit.mk · c.circuit.wire.plain) ?_
  cases hfound : Registry.takeOut Prod.fst id c.circuit.desk.drawn with
  | none => rw [Desk.submit_of_none hfound]
  | some found =>
    obtain ⟨gone, others⟩ := found
    obtain ⟨hgone, rfl⟩ := Registry.mem_of_takeOut hfound
    have hsink : gone.2.sink = .onlooker name :=
      Option.some.inj (((h.number_iff _ _).1 (h.of_drawn hgone)).symm.trans
        ((h.number_iff _ _).1 hnumber))
    have hseen : gone.2.seen = none := Request.seen_eq_none.2 (hsink ▸ rfl)
    have hevent : (gone.2.event gone.1).seen c.owner = none := by
      rw [Request.event_seen, hseen]
      rfl
    rw [Desk.submit_of_some hfound]
    refine (Desk.enqueue_unseen hevent).trans ?_
    exact congrArg (Desk.mk _ _ · _) (Registry.filterMap_takeOut hfound hseen)

/-- A member leaves under its number as it leaves the stage under its name. -/
theorem leave_member {id name : Nat} (howner : c.owner id = some (.member name)) :
    (c.circuit.act (.leave id)).seen c.owner c.joined =
      ((c.circuit.seen c.owner c.joined).act (.leave name)).plain := by
  have hevent : (DispatchEvent.unsubscribe id : DispatchEvent Party).seen c.owner =
      some (.unsubscribe name) := by
    rw [DispatchEvent.seen, howner]
    rfl
  change (⟨Desk.seen _ _ { c.circuit.desk with dispatcher := c.circuit.desk.dispatcher.deregister id },
      c.circuit.wire.plain⟩ : Circuit Nat) =
    ⟨{ c.circuit.desk.seen c.owner c.joined with
        dispatcher := (c.circuit.desk.seen c.owner c.joined).dispatcher.deregister name },
      c.circuit.wire.plain.plain⟩
  rw [Wire.plain_plain]
  refine congrArg (Circuit.mk · c.circuit.wire.plain) ?_
  rw [Dispatcher.deregister, Dispatcher.deregister]
  have hrunning : (c.circuit.desk.seen c.owner c.joined).dispatcher.running =
      c.circuit.desk.dispatcher.running := rfl
  rw [hrunning]
  split
  · exact Desk.enqueue_seen hevent
  · rfl

/-- An onlooker leaves unseen. -/
theorem leave_onlooker {id name : Nat} (howner : c.owner id = some (.onlooker name)) :
    (c.circuit.act (.leave id)).seen c.owner c.joined = c.circuit.seen c.owner c.joined := by
  have hevent : (DispatchEvent.unsubscribe id : DispatchEvent Party).seen c.owner = none := by
    rw [DispatchEvent.seen, howner]
    rfl
  change (⟨Desk.seen _ _ { c.circuit.desk with dispatcher := c.circuit.desk.dispatcher.deregister id },
      c.circuit.wire.plain⟩ : Circuit Nat) = _
  refine congrArg (Circuit.mk · c.circuit.wire.plain) ?_
  unfold Dispatcher.deregister
  split
  · exact Desk.enqueue_unseen hevent
  · rfl

/-! ## Coming -/

/-- The number that is drawn is nobody's yet, so whatever is under way means what it has meant. -/
theorem Owned.draws_seen (h : c.Owned) (hrunning : c.circuit.running = true)
    (request : Request Party) (joined : Nat) :
    (c.circuit.draw request).seen (c.draws request c.circuit.desk.dispatcher.nextId).owner joined =
      ⟨{ c.circuit.desk.seen c.owner joined with
          drawn := (c.circuit.desk.drawn.filterMap fun x => x.2.seen) ++ request.seen.toList },
        c.circuit.wire.plain⟩ := by
  have hevents : c.circuit.events.filterMap (DispatchEvent.seen
      (c.draws request c.circuit.desk.dispatcher.nextId).owner) =
        c.circuit.events.filterMap (DispatchEvent.seen c.owner) := by
    refine List.filterMap_congr fun e he => ?_
    cases e with
    | unsubscribe id =>
      obtain ⟨party, howner⟩ := h.leaving id he
      have hne : id ≠ c.circuit.desk.dispatcher.nextId := Nat.ne_of_lt (h.owner_lt id party howner)
      have hsame : (c.draws request c.circuit.desk.dispatcher.nextId).owner id = c.owner id :=
        if_neg hne
      rw [DispatchEvent.seen, DispatchEvent.seen, hsame]
    | heard item => cases item <;> rfl
    | _ => rfl
  have hdrawn : (c.circuit.desk.drawn ++ [(c.circuit.desk.dispatcher.nextId, request)]).filterMap
      (fun x => x.2.seen) =
        (c.circuit.desk.drawn.filterMap fun x => x.2.seen) ++ request.seen.toList := by
    rw [List.filterMap_append]
    cases hseen : request.seen <;> simp [hseen]
  rw [Circuit.seen, Circuit.draw_desk hrunning]
  change (⟨⟨⟨_, _, _, c.circuit.events.filterMap _⟩, _,
    (c.circuit.desk.drawn ++ [_]).filterMap _, _⟩, _⟩ : Circuit Nat) = _
  rw [hevents, hdrawn]
  rfl

theorem Kept.stage_joins (h : c.Kept) (want : Want) :
    (c.joins want).stage = c.stage.step (.joins want) := by
  have hrunning : c.stage.circuit.running = c.circuit.running := rfl
  unfold Assembly.joins Circuit.drawing
  cases hgoes : c.circuit.running with
  | true =>
    have hdraw := h.toOwned.draws_seen hgoes (want.request (.member c.joined)) (c.joined + 1)
    have hstage : c.stage.circuit.draw (want.request c.joined) =
        ⟨{ c.circuit.desk.seen c.owner (c.joined + 1) with
            drawn := (c.circuit.desk.drawn.filterMap fun x => x.2.seen) ++
              [(c.joined, want.request c.joined)] },
          c.circuit.wire.plain⟩ :=
      congrArg (Circuit.mk · _) (Circuit.draw_desk (hrunning.trans hgoes) _)
    rw [want.request_seen] at hdraw
    exact stage_eq (hdraw.trans hstage.symm) (congrArg (List.flatMap _) (Desk.draw_log _ _))
  | false =>
    have hstill : c.stage.circuit.draw (want.request c.joined) = c.stage.circuit :=
      congrArg (Circuit.mk · _) (if_neg (Bool.eq_false_iff.1 (hrunning.trans hgoes)))
    exact congrArg (Stage.mk · c.story) hstill.symm

theorem Kept.stage_watches (h : c.Kept) : c.watches.stage = c.stage := by
  unfold Assembly.watches Circuit.drawing
  cases hgoes : c.circuit.running with
  | true =>
    have hdraw := h.toOwned.draws_seen hgoes (.captures true (.onlooker c.watching)) c.joined
    have hnone : (Request.captures true (Party.onlooker c.watching)).seen = none := rfl
    rw [hnone, Option.toList_none, List.append_nil] at hdraw
    exact stage_eq hdraw (congrArg (List.flatMap _) (Desk.draw_log _ _))
  | false => rfl

/-! ## Turns -/

/-- Whether a turn takes something that members do not see: the pump a capture, or the desk an event
that is an onlooker's. -/
def isHidden (c : Assembly) : Move → Bool
  | .pumps next => c.circuit.wire.pump == next && c.circuit.pumping.any Desk.Act.bringsCapture
  | .serves => c.running && c.circuit.events.head?.any fun e => (e.seen c.owner).isNone
  | _ => false

theorem stage_inbox_nil (inbox : c.circuit.wire.medium.inbox = []) :
    c.stage.circuit.wire.medium.inbox = [] :=
  congrArg (List.filter _) inbox

/-- What is not a capture waits on the stage as well. -/
theorem stage_inbox_cons {item : Lpdu} {rest : List Lpdu} (hcapture : item.isCapture = false)
    (inbox : c.circuit.wire.medium.inbox = item :: rest) :
    c.stage.circuit.wire.medium.inbox = item :: rest.filter fun item => !item.isCapture := by
  change c.circuit.wire.medium.inbox.filter _ = _
  rw [inbox, List.filter_cons_of_pos (by rw [hcapture]; rfl)]

/-- So does an event that members see. -/
theorem stage_events_cons {e : DispatchEvent Party} {later : List (DispatchEvent Party)}
    {e' : DispatchEvent Nat} (queue : c.circuit.events = e :: later) (he : e.seen c.owner = some e') :
    c.stage.circuit.events = e' :: later.filterMap (DispatchEvent.seen c.owner) := by
  change c.circuit.events.filterMap _ = _
  rw [queue, List.filterMap_cons_some he]

/-- Unless it is a capture, what the pump brings it brings on the stage as well. -/
theorem stage_pumping (h : c.circuit.pumping.any Desk.Act.bringsCapture = false) :
    c.stage.circuit.pumping = c.circuit.pumping := by
  cases c.circuit.pumps with
  | item item rest pump inbox =>
    rw [(Circuit.pump_item pump inbox).1] at h ⊢
    exact (Circuit.pump_item (c := c.stage.circuit) pump (stage_inbox_cons h inbox)).1
  | nothing pump inbox =>
    rw [(Circuit.pump_nothing pump inbox).1]
    exact (Circuit.pump_nothing (c := c.stage.circuit) pump (stage_inbox_nil inbox)).1
  | alive pump alive =>
    rw [(Circuit.pump_alive pump alive).1]
    exact (Circuit.pump_alive (c := c.stage.circuit) pump alive).1
  | lost pump isLost =>
    rw [(Circuit.pump_lost pump isLost).1]
    exact (Circuit.pump_lost (c := c.stage.circuit) pump isLost).1
  | ended pump =>
    rw [(Circuit.pump_ended pump).1]
    exact (Circuit.pump_ended (c := c.stage.circuit) pump).1

/-- And the stage shows its turn. -/
theorem stage_pump (h : c.circuit.pumping.any Desk.Act.bringsCapture = false) :
    (c.circuit.act .pump).seen c.owner c.joined =
      ((c.circuit.seen c.owner c.joined).act .pump).plain := by
  have hplain : c.circuit.wire.medium.plain.plain = c.circuit.wire.medium.plain :=
    c.circuit.wire.medium.plain_plain
  cases c.circuit.pumps with
  | item item rest pump inbox =>
    obtain ⟨hpumping, hpump⟩ := Circuit.pump_item pump inbox
    rw [hpumping] at h
    have hcapture : item.isCapture = false := h
    have hstage := (Circuit.pump_item (c := c.stage.circuit) pump
      (stage_inbox_cons hcapture inbox)).2
    have hmedium : Loopback.plain { c.circuit.wire.medium with inbox := rest } =
        Loopback.plain { c.stage.circuit.wire.medium with
          inbox := rest.filter fun item => !item.isCapture } :=
      (Loopback.plain_plain { c.circuit.wire.medium with inbox := rest }).symm
    rw [hpump]
    refine Eq.trans ?_ (congrArg Circuit.plain hstage).symm
    exact Circuit.ext (Desk.enqueue_seen (DispatchEvent.heard_seen c.owner hcapture))
      (congrArg (Wire.mk · c.circuit.wire.pump []) hmedium)
  | nothing pump inbox =>
    have hstage := (Circuit.pump_nothing (c := c.stage.circuit) pump (stage_inbox_nil inbox)).2
    rw [(Circuit.pump_nothing pump inbox).2]
    refine Eq.trans ?_ (congrArg Circuit.plain hstage).symm
    exact Circuit.ext rfl (congrArg (Wire.mk · .checks []) hplain.symm)
  | alive pump alive =>
    have hstage := (Circuit.pump_alive (c := c.stage.circuit) pump alive).2
    rw [(Circuit.pump_alive pump alive).2]
    refine Eq.trans ?_ (congrArg Circuit.plain hstage).symm
    exact Circuit.ext rfl (congrArg (Wire.mk · .looks []) hplain.symm)
  | lost pump isLost =>
    have hstage := (Circuit.pump_lost (c := c.stage.circuit) pump isLost).2
    rw [(Circuit.pump_lost pump isLost).2]
    refine Eq.trans ?_ (congrArg Circuit.plain hstage).symm
    exact Circuit.ext (Desk.enqueue_seen rfl) (congrArg (Wire.mk · .ended []) hplain.symm)
  | ended pump =>
    have hstage := (Circuit.pump_ended (c := c.stage.circuit) pump).2
    rw [(Circuit.pump_ended pump).2]
    refine Eq.trans ?_ (congrArg Circuit.plain hstage).symm
    exact Circuit.ext rfl (congrArg (Wire.mk · c.circuit.wire.pump []) hplain.symm)

/-- A turn of the pump is seen on the stage, unless it is hidden. -/
theorem stage_pumps {next : Pump} (h : c.isHidden (.pumps next) = false) :
    (c.step (.pumps next)).stage = c.stage.step (.pumps next) := by
  change _ = (if c.circuit.wire.pump = next then some Circuit.Act.pump else none).elim c.stage
    c.stage.perform
  by_cases hnext : c.circuit.wire.pump = next
  · subst hnext
    rw [c.step_pumps, if_pos rfl]
    refine stage_act nofun nofun (stage_pump ?_)
    simpa [isHidden] using h
  · rw [step_pumps_of_ne hnext, if_neg hnext]
    rfl

/-- A capture does not reach the stage. -/
theorem stage_pumps_hidden {next : Pump} (h : c.isHidden (.pumps next) = true) :
    (c.step (.pumps next)).stage = c.stage := by
  obtain ⟨hnext, hany⟩ := Bool.and_eq_true_iff.1 h
  obtain rfl : c.circuit.wire.pump = next := beq_iff_eq.1 hnext
  rw [c.step_pumps]
  refine stage_still nofun ?_
  cases c.circuit.pumps with
  | item item rest pump inbox =>
    obtain ⟨hpumping, hpump⟩ := Circuit.pump_item pump inbox
    rw [hpumping] at hany
    have hcapture : item.isCapture = true := hany
    have hmedium : Loopback.plain { c.circuit.wire.medium with inbox := rest } =
        c.circuit.wire.medium.plain := by
      unfold Loopback.plain
      rw [inbox, List.filter_cons_of_neg (by rw [hcapture]; exact Bool.false_ne_true)]
    rw [hpump]
    exact Circuit.ext (Desk.enqueue_unseen (DispatchEvent.heard_unseen c.owner hcapture))
      (congrArg (Wire.mk · c.circuit.wire.pump []) hmedium)
  | nothing pump inbox => rw [(Circuit.pump_nothing pump inbox).1] at hany; cases hany
  | alive pump alive => rw [(Circuit.pump_alive pump alive).1] at hany; cases hany
  | lost pump isLost => rw [(Circuit.pump_lost pump isLost).1] at hany; cases hany
  | ended pump => rw [(Circuit.pump_ended pump).1] at hany; cases hany

/-- What the medium says on the stage. -/
theorem stage_verdict (c : Assembly) : c.stage.circuit.verdict = c.circuit.verdict :=
  (Medium.verdict_loopback _).trans (Medium.verdict_loopback _).symm

/-- What comes first at the desk, if it takes a turn. -/
theorem serves_cases (c : Assembly) :
    (c.circuit.running = false ∨ c.circuit.events = []) ∨
      c.circuit.running = true ∧ ∃ e later, c.circuit.events = e :: later := by
  cases works : c.circuit.running with
  | false => exact .inl (.inl rfl)
  | true =>
    cases queue : c.circuit.events with
    | nil => exact .inl (.inr rfl)
    | cons e later => exact .inr ⟨rfl, e, later, rfl⟩

/-- A turn of the desk is seen on the stage, unless it is hidden. -/
theorem Owned.stage_serves (h : c.Owned) (hseen : c.isHidden .serves = false) :
    (c.step .serves).stage = c.stage.step .serves := by
  change stage { c with circuit := c.circuit.act .serve } = c.stage.perform .serve
  obtain hidle | ⟨works, e, later, queue⟩ := c.serves_cases
  · have hidle' : c.stage.circuit.running = false ∨ c.stage.circuit.events = [] :=
      hidle.imp_right (congrArg (List.filterMap _))
    have hstory : c.stage.circuit.story some = [] := rfl
    rw [Circuit.serve_idle hidle, Stage.perform, Circuit.serve_idle hidle', hstory, List.append_nil]
    exact stage_eq (congrArg (Circuit.mk _) c.circuit.wire.plain_plain.symm) rfl
  obtain ⟨e', he⟩ : ∃ e', e.seen c.owner = some e' := by
    rw [← Option.isSome_iff_exists]
    simpa [isHidden, running, works, queue] using hseen
  have hmem : e ∈ c.circuit.events := queue ▸ List.mem_cons_self
  have queue' := stage_events_cons queue he
  have hserve := Circuit.serve_eq works queue
  have hserve' := Circuit.serve_eq (c := c.stage.circuit) works queue'
  rw [c.stage_verdict] at hserve'
  obtain ⟨hdone, htidings⟩ := handle_seen (c.circuit.desk.dispatcher.withEvents later)
    (c.stage.circuit.desk.dispatcher.withEvents (later.filterMap (DispatchEvent.seen c.owner))) rfl rfl
    (fun _ hx => h.of_registered hx) (fun _ _ _ => h.eq_of_owner)
    (fun _ hx => (h.of_waiting hmem hx).2) he c.circuit.verdict c.circuit.address
  have hdesk := Desk.record_seen c.joined c.circuit.desk hdone
  have hwire := (c.circuit.wire.plain_obeyAll
    (c.circuit.desk.handling c.circuit.verdict c.circuit.address e later).done.commands).symm.trans
      (congrArg (fun commands => (c.circuit.wire.plain.obeyAll commands).plain) hdone.commands_eq.symm)
  rw [Stage.perform, hserve, hserve']
  refine stage_eq (Circuit.ext hdesk hwire) ?_
  change (c.circuit.desk.log ++ [_]).flatMap _ = c.story ++ [_].flatMap _
  rw [List.flatMap_append, List.flatMap_singleton, List.flatMap_singleton]
  exact congrArg (c.story ++ ·) htidings.symm

/-- What the desk does for an onlooker is not seen. -/
theorem Owned.stage_serves_hidden (h : c.Owned) (hhidden : c.isHidden .serves = true) :
    (c.step .serves).stage = c.stage := by
  change stage { c with circuit := c.circuit.act .serve } = c.stage
  obtain ⟨works, hhead⟩ := Bool.and_eq_true_iff.1 hhidden
  cases queue : c.circuit.events with
  | nil =>
    rw [queue] at hhead
    cases hhead
  | cons e later =>
    rw [queue] at hhead
    have he : e.seen c.owner = none := Option.isNone_iff_eq_none.1 hhead
    have hmem : e ∈ c.circuit.events := queue ▸ List.mem_cons_self
    obtain ⟨hregistry, hrunning, hcommands, htidings⟩ := handle_unseen
      (c.circuit.desk.dispatcher.withEvents later)
      (fun _ hx => h.of_registered hx) (fun _ hx => (h.of_waiting hmem hx).2)
      (fun id hid => h.leaving id (hid ▸ hmem)) he c.circuit.verdict c.circuit.address
    have hdesk := c.circuit.desk.record_unseen c.joined he queue hregistry hrunning
    have hwire : (c.circuit.wire.obeyAll (c.circuit.desk.handling c.circuit.verdict
        c.circuit.address e later).done.commands).plain = c.circuit.wire.plain :=
      congrArg (Wire.mk · c.circuit.wire.pump [])
        (c.circuit.wire.medium.obeyAll_unseen hcommands)
    rw [Circuit.serve_eq works queue]
    refine stage_eq (Circuit.ext hdesk hwire) ?_
    change (c.circuit.desk.log ++ [_]).flatMap _ = c.story
    rw [List.flatMap_append, List.flatMap_singleton]
    exact (congrArg (c.story ++ ·) htidings).trans (List.append_nil _)

/-! ## All moves -/

/-- A party without a number has no name on the stage, and neither has an onlooker. -/
theorem Kept.number_cases (h : c.Kept) (party : Party) :
    (c.number party = none ∧ c.stage.number party = none) ∨
      (∃ id name, party = .member name ∧ c.number party = some id ∧
        c.stage.number party = some name) ∨
      ∃ id name, party = .onlooker name ∧ c.number party = some id ∧ c.stage.number party = none := by
  cases party with
  | member name =>
    have hiff := h.member_iff name
    cases hnumber : c.number (.member name) with
    | none =>
      rw [hnumber] at hiff
      exact .inl ⟨rfl, if_neg fun hlt => Bool.false_ne_true (hiff.2 hlt)⟩
    | some id =>
      rw [hnumber] at hiff
      exact .inr (.inl ⟨id, name, rfl, rfl, if_pos (hiff.1 rfl)⟩)
  | onlooker name =>
    cases hnumber : c.number (.onlooker name) with
    | none => exact .inl ⟨rfl, rfl⟩
    | some id => exact .inr (.inr ⟨id, name, rfl, rfl, rfl⟩)

theorem Kept.stage_submits (h : c.Kept) (party : Party) :
    (c.step (.submits party)).stage = c.stage.step (.submits party) := by
  change stage { c with circuit := ((c.number party).map _).elim c.circuit c.circuit.act } =
    ((c.stage.number party).map Circuit.Act.submit).elim c.stage c.stage.perform
  obtain ⟨hnone, hnone'⟩ | ⟨id, name, rfl, hid, hname⟩ | ⟨id, name, rfl, hid, hnone'⟩ :=
    h.number_cases party
  · rw [hnone, hnone']
    rfl
  · rw [hid, hname]
    exact stage_act nofun nofun (h.toOwned.submit_member hid)
  · rw [hid, hnone']
    exact stage_still nofun (h.toOwned.submit_onlooker hid)

theorem Kept.stage_leaves (h : c.Kept) (party : Party) :
    (c.step (.leaves party)).stage = c.stage.step (.leaves party) := by
  change stage { c with circuit := ((c.number party).map _).elim c.circuit c.circuit.act } =
    ((c.stage.number party).map Circuit.Act.leave).elim c.stage c.stage.perform
  obtain ⟨hnone, hnone'⟩ | ⟨id, name, rfl, hid, hname⟩ | ⟨id, name, rfl, hid, hnone'⟩ :=
    h.number_cases party
  · rw [hnone, hnone']
    rfl
  · rw [hid, hname]
    exact stage_act nofun nofun (leave_member ((h.number_iff _ _).1 hid))
  · rw [hid, hnone']
    exact stage_still nofun (leave_onlooker ((h.number_iff _ _).1 hid))

/-- Whatever is not hidden is seen on the stage. -/
theorem Kept.stage_step (h : c.Kept) {move : Move} (hseen : c.isHidden move = false) :
    (c.step move).stage = c.stage.step move := by
  cases move with
  | joins want => exact h.stage_joins want
  | watches => exact h.stage_watches
  | submits party => exact h.stage_submits party
  | leaves party => exact h.stage_leaves party
  | hears item =>
    exact stage_act nofun nofun (congrArg (Circuit.mk _) (c.circuit.wire.plain_hear item).symm)
  | sends frame =>
    refine stage_act nofun nofun (congrArg (Circuit.mk _) ?_)
    change Wire.plain (if c.circuit.running then _ else _) =
      Wire.plain (if c.circuit.running then _ else _)
    split
    · exact (c.circuit.wire.plain_hear _).symm
    · exact c.circuit.wire.plain_plain.symm
  | disconnects =>
    exact stage_act nofun nofun
      (congrArg (Circuit.mk _) (Wire.plain_plain c.circuit.wire.disconnect).symm)
  | pumps next => exact stage_pumps hseen
  | serves => exact h.toOwned.stage_serves hseen

/-- Whatever is hidden is not. -/
theorem Owned.stage_hidden (h : c.Owned) {move : Move} (hhidden : c.isHidden move = true) :
    (c.step move).stage = c.stage := by
  cases move with
  | pumps next => exact stage_pumps_hidden hhidden
  | serves => exact h.stage_serves_hidden hhidden
  | _ => cases hhidden

end Assembly
end KnxBus
