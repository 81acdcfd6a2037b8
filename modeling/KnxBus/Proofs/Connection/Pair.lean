import KnxBus.Proofs.Connection.Effects

/-!
# Two connections that are each other's peer

Two connections are joined by two ways on which frames keep their order and may be lost.  Both
number their units with four bits, repeat what is not acknowledged, and acknowledge a second time
what comes a second time.  The main statement, `Pair.deliveries_in_order`, is that nothing of this
shows: in every run, each side delivers the units that the other one was given, in order and without
gaps or doubles, and its peer knows of all of them but perhaps the last.

## The argument

For each direction there is a `Window` between the sender and the receiver.  What is on the way to
the receiver are the frames between the two and those that wait to be looked at, in this order, and
likewise on the way back.  Each of the things that a connection can do (`Chronicle.Effect`) is one
of the things that a window allows, both for the direction in which the connection sends and for the
one in which it receives.

Only the left side is ever looked at.  What the right side does is what the left side does with the
pair turned around.
-/

namespace KnxBus

/-- Two connections and the frames between them. -/
structure Pair where
  /-- One side. -/
  left : Chronicle
  /-- The other side. -/
  right : Chronicle
  /-- Frames on the way from left to right, oldest first. -/
  toRight : List Frame
  /-- Frames on the way from right to left, oldest first. -/
  toLeft : List Frame
  deriving DecidableEq, Repr

namespace Pair

/-- What can happen at one side. -/
inductive Move where
  /-- The connection does something, or something is done to it. -/
  | act (a : Chronicle.Act)
  /-- The oldest frame on the way arrives.  The way may write into it whatever it likes, the payload
  excepted. -/
  | arrive (dress : Frame)
  /-- A frame on the way is lost. -/
  | lose (n : Nat)

/-- The two sides. -/
inductive Side where
  | left
  | right
  deriving DecidableEq, Repr

/-- The pair turned around. -/
def swap (p : Pair) : Pair := ⟨p.right, p.left, p.toLeft, p.toRight⟩

/-- Something happens at the left side. -/
def move (m : Move) (p : Pair) : Pair :=
  match m with
  | .act a => { p with left := (p.left.act a).1, toRight := p.toRight ++ (p.left.act a).2 }
  | .arrive dress =>
    match p.toLeft with
    | [] => p
    | f :: later =>
      { p with left := p.left.hear { dress with payload := f.payload }, toLeft := later }
  | .lose n => { p with toLeft := p.toLeft.eraseIdx n }

/-- Something happens at one of the sides. -/
def step (e : Side × Move) (p : Pair) : Pair :=
  match e.1 with
  | .left => p.move e.2
  | .right => (p.swap.move e.2).swap

/-- Things happen one after the other. -/
def run (events : List (Side × Move)) (p : Pair) : Pair := events.foldl (fun p e => p.step e) p

/-- Two connections that have just been opened. -/
def start (left right : Connection) : Pair := ⟨.start left, .start right, [], []⟩

/-! ## The invariant -/

/-- The units that the left side has sent or will send, as they travel. -/
def promised (p : Pair) : List Octets := p.left.queued.map Tpdu.masked

/-- All is well with what goes from left to right. -/
structure OneWay (p : Pair) : Prop where
  /-- The sender agrees with its past. -/
  sound : p.left.Sound
  /-- What is on the way there and back fits. -/
  window : Window fourBitNo (fun i apdu => p.promised[i]? = some apdu) p.left.acked
    p.right.accepted.length (dataOf (p.right.connection.incoming ++ p.toRight))
    (acksOf (p.left.connection.incoming ++ p.toLeft))
  /-- What has been taken is what was promised. -/
  taken : p.right.accepted.map Prod.snd <+: p.promised

/-- All is well with both directions. -/
def Sound (p : Pair) : Prop := p.OneWay ∧ p.swap.OneWay

/-! ## What the left side does -/

section
variable {p : Pair}

/-- What the left side does is allowed by the window through which it sends. -/
theorem OneWay.act_sender (h : p.OneWay) (a : Chronicle.Act) : (p.move (.act a)).OneWay := by
  obtain ⟨r', hr'⟩ : ∃ r', (p.left.act a).1 = r' := ⟨_, rfl⟩
  obtain ⟨sent, hsent⟩ : ∃ sent, (p.left.act a).2 = sent := ⟨_, rfl⟩
  obtain ⟨hsound, heffect⟩ := Chronicle.act_effect h.sound a
  have hmove : p.move (.act a) = ⟨r', p.right, p.toRight ++ sent, p.toLeft⟩ := by
    rw [move, hr', hsent]
  rw [hr'] at hsound heffect
  rw [hsent] at heffect
  rw [hmove]
  have hdata : dataOf (p.right.connection.incoming ++ (p.toRight ++ sent)) =
      dataOf (p.right.connection.incoming ++ p.toRight) ++ dataOf sent := by
    rw [← List.append_assoc, dataOf_append]
  have hback : ∀ {l l' : List Frame}, l'.Sublist l →
      (acksOf (l' ++ p.toLeft)).Sublist (acksOf (l ++ p.toLeft)) :=
    fun hl => acksOf_sublist (hl.append_right p.toLeft)
  cases heffect with
  | quiet queued acked accepted incoming data acks =>
    have hprom : p.promised <+: r'.queued.map Tpdu.masked := queued.map Tpdu.masked
    refine ⟨hsound, ?_, h.taken.trans hprom⟩
    simp only [hdata, data, List.append_nil, acked]
    refine (h.window.mono fun i apdu hi => ?_).lose (List.Sublist.refl _) (hback incoming)
    exact getElem?_of_prefix hprom hi
  | sends apdu queued acked accepted incoming carried data acks =>
    refine ⟨hsound, ?_, by rw [promised, queued]; exact h.taken⟩
    simp only [hdata, promised, queued, acked]
    exact (h.window.send carried).lose (data.append_left _) (hback incoming)
  | takes f later apdu queued acked front numbered accepted incoming data acks =>
    refine ⟨hsound, ?_, by rw [promised, queued]; exact h.taken⟩
    simp only [hdata, data, List.append_nil, promised, queued, acked]
    refine h.window.lose (List.Sublist.refl _) (hback ?_)
    rw [front]
    exact incoming.cons f
  | repeats f later apdu queued acked accepted front numbered incoming data acks =>
    refine ⟨hsound, ?_, by rw [promised, queued]; exact h.taken⟩
    simp only [hdata, data, List.append_nil, promised, queued, acked]
    refine h.window.lose (List.Sublist.refl _) (hback ?_)
    rw [front]
    exact incoming.cons f
  | acknowledged f later queued acked accepted front confirms incoming data acks =>
    refine ⟨hsound, ?_, by rw [promised, queued]; exact h.taken⟩
    have hw := h.window
    rw [front, List.cons_append, acksOf_cons confirms] at hw
    simp only [hdata, data, List.append_nil, promised, queued, acked]
    exact (hw.acknowledge alternates_fourBitNo).2.lose (List.Sublist.refl _) (hback incoming)

/-- What the left side does is allowed by the window through which it receives. -/
theorem OneWay.act_receiver (h : p.swap.OneWay) (hleft : p.left.Sound) (a : Chronicle.Act) :
    (p.move (.act a)).swap.OneWay := by
  obtain ⟨r', hr'⟩ : ∃ r', (p.left.act a).1 = r' := ⟨_, rfl⟩
  obtain ⟨sent, hsent⟩ : ∃ sent, (p.left.act a).2 = sent := ⟨_, rfl⟩
  have heffect := (Chronicle.act_effect hleft a).2
  have hmove : (p.move (.act a)).swap = ⟨p.right, r', p.toLeft, p.toRight ++ sent⟩ := by
    rw [move, hr', hsent, swap]
  rw [hr', hsent] at heffect
  rw [hmove]
  have hacks : acksOf (p.right.connection.incoming ++ (p.toRight ++ sent)) =
      acksOf (p.right.connection.incoming ++ p.toRight) ++ acksOf sent := by
    rw [← List.append_assoc, acksOf_append]
  have hforth : ∀ {l l' : List Frame}, l'.Sublist l →
      (dataOf (l' ++ p.toLeft)).Sublist (dataOf (l ++ p.toLeft)) :=
    fun hl => dataOf_sublist (hl.append_right p.toLeft)
  have hw := h.window
  simp only [swap] at hw
  cases heffect with
  | quiet queued acked accepted incoming data acks =>
    refine ⟨h.sound, ?_, by simp only [accepted]; exact h.taken⟩
    simp only [hacks, acks, List.append_nil, accepted]
    exact hw.lose (hforth incoming) (List.Sublist.refl _)
  | sends apdu queued acked accepted incoming carried data acks =>
    refine ⟨h.sound, ?_, by simp only [accepted]; exact h.taken⟩
    simp only [hacks, acks, List.append_nil, accepted]
    exact hw.lose (hforth incoming) (List.Sublist.refl _)
  | takes f later apdu queued acked front numbered accepted incoming data acks =>
    rw [front, List.cons_append, dataOf_cons numbered] at hw
    obtain ⟨-, hcarried, hw⟩ := hw.take alternates_fourBitNo
    refine ⟨h.sound, ?_, ?_⟩
    · simp only [hacks, accepted, List.length_append, List.length_singleton]
      exact hw.lose (hforth incoming) (acks.append_left _)
    · simp only [accepted, List.map_append, List.map_singleton]
      refine prefix_concat h.taken ?_
      rw [List.length_map]
      exact hcarried
  | repeats f later apdu queued acked accepted front numbered incoming data acks =>
    rw [front, List.cons_append, dataOf_cons numbered] at hw
    obtain ⟨-, hw⟩ := hw.again (Chronicle.previousNo_fourBitNo_ne _)
    refine ⟨h.sound, ?_, by simp only [accepted]; exact h.taken⟩
    simp only [hacks, accepted]
    exact hw.lose (hforth incoming) (acks.append_left _)
  | acknowledged f later queued acked accepted front confirms incoming data acks =>
    refine ⟨h.sound, ?_, by simp only [accepted]; exact h.taken⟩
    simp only [hacks, acks, List.append_nil, accepted]
    refine hw.lose (hforth ?_) (List.Sublist.refl _)
    rw [front]
    exact incoming.cons f

/-! ## What the ways do -/

/-- A frame reaches the left side, which sends. -/
theorem OneWay.arrive_sender (h : p.OneWay) (dress : Frame) : (p.move (.arrive dress)).OneWay := by
  unfold move
  cases hway : p.toLeft with
  | nil => exact h
  | cons f later =>
    refine ⟨Chronicle.hear_sound h.sound _, ?_, h.taken⟩
    have hw := h.window
    rw [hway, ← acksOf_arrived f dress] at hw
    exact hw

/-- A frame reaches the left side, which receives. -/
theorem OneWay.arrive_receiver (h : p.swap.OneWay) (dress : Frame) :
    (p.move (.arrive dress)).swap.OneWay := by
  unfold move
  cases hway : p.toLeft with
  | nil => exact h
  | cons f later =>
    refine ⟨h.sound, ?_, h.taken⟩
    have hw := h.window
    simp only [swap] at hw
    rw [hway, ← dataOf_arrived f dress] at hw
    exact hw

theorem OneWay.lose_sender (h : p.OneWay) (n : Nat) : (p.move (.lose n)).OneWay :=
  ⟨h.sound, h.window.lose (List.Sublist.refl _)
    (acksOf_sublist ((List.eraseIdx_sublist _ _).append_left _)), h.taken⟩

theorem OneWay.lose_receiver (h : p.swap.OneWay) (n : Nat) : (p.move (.lose n)).swap.OneWay :=
  ⟨h.sound, h.window.lose (dataOf_sublist ((List.eraseIdx_sublist _ _).append_left _))
    (List.Sublist.refl _), h.taken⟩

/-! ## Runs -/

theorem move_sound (h : p.Sound) (m : Move) : (p.move m).Sound := by
  obtain ⟨hthere, hback⟩ := h
  cases m with
  | act a => exact ⟨hthere.act_sender a, hback.act_receiver hthere.sound a⟩
  | arrive dress => exact ⟨hthere.arrive_sender dress, hback.arrive_receiver dress⟩
  | lose n => exact ⟨hthere.lose_sender n, hback.lose_receiver n⟩

/-- The invariant does not prefer a side. -/
theorem swap_sound (h : p.Sound) : p.swap.Sound := ⟨h.2, h.1⟩

theorem step_sound (h : p.Sound) (e : Side × Move) : (p.step e).Sound := by
  obtain ⟨side, m⟩ := e
  cases side with
  | left => exact move_sound h m
  | right => exact swap_sound (move_sound (swap_sound h) m)

theorem run_sound (h : p.Sound) (events : List (Side × Move)) : (run events p).Sound := by
  induction events generalizing p with
  | nil => exact h
  | cons e later ih => exact ih (step_sound h e)

theorem start_sound (config config' : ConnectionConfig) (peer peer' : IndividualAddress)
    (registration registration' now now' : Nat) :
    (start (Connection.start config peer registration now)
      (Connection.start config' peer' registration' now')).Sound := by
  have hnil : ∀ {l : List Octets}, ([] : List Octets) <+: l := List.nil_prefix
  exact ⟨⟨Chronicle.start_sound _ _ _ _, Window.start, hnil⟩,
    ⟨Chronicle.start_sound _ _ _ _, Window.start, hnil⟩⟩

/-- In one direction the units arrive as they were given. -/
theorem OneWay.deliveries (h : p.OneWay) (hright : p.right.Sound) :
    p.right.pushed <+: p.promised ∧
      (p.left.acked = p.right.pushed.length ∨ p.left.acked + 1 = p.right.pushed.length) := by
  have hlen : p.right.pushed.length = p.right.accepted.length := by
    rw [hright.pushed_eq, List.length_map]
  refine ⟨by rw [hright.pushed_eq]; exact h.taken, ?_⟩
  rw [hlen]
  rcases h.window.taken_eq with heq | heq
  · exact Or.inl heq.symm
  · exact Or.inr heq.symm

/-- **Units are delivered in order, each once.**  Two connections have just been opened, and no
frame is on the way.  Whatever happens then, what either side has delivered is a beginning of what
the other side was given, of each unit as much as travels; and the other side has seen all of it
acknowledged, or all but the last unit. -/
theorem deliveries_in_order (config config' : ConnectionConfig) (peer peer' : IndividualAddress)
    (registration registration' now now' : Nat) (events : List (Side × Move)) :
    let p := run events (start (Connection.start config peer registration now)
      (Connection.start config' peer' registration' now'))
    (p.right.pushed <+: p.left.queued.map Tpdu.masked ∧
      (p.left.acked = p.right.pushed.length ∨ p.left.acked + 1 = p.right.pushed.length)) ∧
    (p.left.pushed <+: p.right.queued.map Tpdu.masked ∧
      (p.right.acked = p.left.pushed.length ∨ p.right.acked + 1 = p.left.pushed.length)) := by
  intro p
  obtain ⟨hthere, hback⟩ := run_sound (start_sound config config' peer peer' registration
    registration' now now') events
  exact ⟨hthere.deliveries hback.sound, hback.deliveries hthere.sound⟩

end

end Pair
end KnxBus
