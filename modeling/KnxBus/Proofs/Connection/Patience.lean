import KnxBus.Proofs.Connection.Timed

/-!
# How long and how often a connection tries

A connection has two deadlines.  While a unit is outstanding, it waits for an acknowledgement and
sends the unit again, either because the deadline has come or because the peer has refused the unit;
both count against one limit.  While none is outstanding, it waits for anything at all, and ends when
nothing has gone over it for too long.

The main statement is `Timed.trials_bounded`.  It is about runs over time, with the books that are
kept beside them (`Patience`).

A trial is written down when a unit is tried for the first time or again, and at no other time.
Therefore the trials of the outstanding unit are one more than the retries that the connection has
counted, and each of them has moved the deadline by one span at most (`Patient`).  The other deadline
follows the last sign.
-/

namespace KnxBus
namespace Timed

/-! ## The books agree with the connection -/

/-- The books know how often the outstanding unit has been tried, and no unit has been tried too
often. -/
structure Tried (config : ConnectionConfig) (b : Timed × Patience) : Prop where
  /-- No unit has been tried too often. -/
  count_le : ∀ i, (b.2.trialsOf i).length ≤ config.maxRetries + 1
  /-- While no unit is outstanding, the next one has not been tried. -/
  idle : b.1.chronicle.connection.isClosed = false →
    b.1.chronicle.connection.phase = .idle → b.2.trialsOf b.1.chronicle.acked = []
  /-- The outstanding unit has been tried once more than it has been sent again, and every trial has
  moved its deadline by one span at most. -/
  awaiting : b.1.chronicle.connection.isClosed = false → ∀ apdu retries deadline,
    b.1.chronicle.connection.phase = .awaiting apdu retries deadline →
    retries ≤ config.maxRetries ∧ ∃ first later, b.2.trialsOf b.1.chronicle.acked = first :: later ∧
      later.length = retries ∧
      (b.2.late = false → deadline ≤ first.time + (retries + 1) * config.retransmit)

/-- The books agree with the connection. -/
structure Patient (config : ConnectionConfig) (peer : IndividualAddress) (opening : Nat)
    (b : Timed × Patience) : Prop extends Tried config b where
  /-- The connection agrees with its past. -/
  tallied : ∃ seen, Chronicle.Tallied peer b.1.chronicle seen
  /-- The timers and limits of the connection. -/
  config_eq : b.1.chronicle.connection.config = config
  /-- No unit has been tried before those in front of it were acknowledged. -/
  index_le : ∀ t ∈ b.2.trials, t.index ≤ b.1.chronicle.acked
  /-- Whatever has been tried is the unit that it should be. -/
  carries : ∀ t ∈ b.2.trials,
    Connection.CarriesUnit peer b.1.chronicle.queued t.index t.frame
  /-- Unless a turn was missed, the deadline has not passed. -/
  punctual : b.2.late = false → b.1.overdue = false
  /-- The connection has been opened. -/
  opened : opening ∈ b.2.signs
  /-- Nothing has gone over the connection in the future. -/
  signs_le : ∀ t ∈ b.2.signs, t ≤ b.1.now
  /-- The connection has been idle for too long when that much time has passed since the last sign. -/
  idleDeadline : b.1.chronicle.connection.isClosed = false →
    (∀ t ∈ b.2.signs, t + config.inactivity ≤ b.1.chronicle.connection.idleDeadline) ∧
      ∃ t ∈ b.2.signs, b.1.chronicle.connection.idleDeadline = t + config.inactivity

theorem start_patient (config : ConnectionConfig) (peer : IndividualAddress)
    (registration now : Nat) :
    Patient config peer now (start config peer registration now) where
  tallied := ⟨[], Chronicle.start_tallied config peer registration now⟩
  config_eq := rfl
  index_le := fun _ ht => absurd ht List.not_mem_nil
  carries := fun _ ht => absurd ht List.not_mem_nil
  count_le := fun _ => Nat.zero_le _
  idle := fun _ _ => rfl
  awaiting := fun _ _ _ _ hphase => nomatch hphase
  punctual := fun _ => rfl
  opened := List.mem_singleton_self now
  signs_le := fun t ht => Nat.le_of_eq (List.mem_singleton.1 ht)
  idleDeadline := fun _ => ⟨fun t ht => by rw [List.mem_singleton.1 ht]; exact Nat.le_refl _,
    now, List.mem_singleton_self now, rfl⟩

section
variable {s s' : Timed} {m : Move} {sent : List Frame} {b : Patience}

theorem trialsOf_note_self :
    (note m s s' sent b).trialsOf s.chronicle.acked =
      b.trialsOf s.chronicle.acked ++ s.trialsIn sent := by
  have hall : (s.trialsIn sent).filter (fun t => t.index == s.chronicle.acked) =
      s.trialsIn sent := by
    refine List.filter_eq_self.2 fun t ht => ?_
    obtain ⟨f, -, rfl⟩ := List.mem_map.1 ht
    exact beq_self_eq_true _
  rw [Patience.trialsOf, note, List.filter_append, hall]
  rfl

theorem trialsOf_note_of_ne {i : Nat} (hi : i ≠ s.chronicle.acked) :
    (note m s s' sent b).trialsOf i = b.trialsOf i := by
  have hnone : (s.trialsIn sent).filter (fun t => t.index == i) = [] := by
    refine List.filter_eq_nil_iff.2 fun t ht => ?_
    obtain ⟨f, -, rfl⟩ := List.mem_map.1 ht
    simpa using hi.symm
  rw [Patience.trialsOf, note, List.filter_append, hnone, List.append_nil]
  rfl

theorem trialsOf_note_of_silent (h : unitsOf sent = []) (i : Nat) :
    (note m s s' sent b).trialsOf i = b.trialsOf i := by
  simp [Patience.trialsOf, note, trialsIn, h]

/-- Nothing is outstanding that has not been acknowledged yet. -/
theorem trialsOf_eq_nil {i : Nat} (h : ∀ t ∈ b.trials, t.index ≤ s.chronicle.acked)
    (hi : s.chronicle.acked < i) : b.trialsOf i = [] := by
  refine List.filter_eq_nil_iff.2 fun t ht => ?_
  have hle := h t ht
  have hne : t.index ≠ i := by omega
  simpa using hne

theorem not_late_of_note (h : (note m s s' sent b).late = false) :
    b.late = false ∧ s'.overdue = false :=
  Bool.or_eq_false_iff.1 h

/-- The deadline of the outstanding unit has not passed. -/
theorem le_deadline (h : s.overdue = false) (hopen : s.chronicle.connection.isClosed = false)
    {apdu : Octets} {retries deadline : Nat}
    (hphase : s.chronicle.connection.phase = .awaiting apdu retries deadline) :
    s.now ≤ deadline := by
  rw [overdue, hphase, hopen] at h
  simpa using h

end

section
variable {config : ConnectionConfig} {peer : IndividualAddress} {opening : Nat}
variable {s s' : Timed} {m : Move} {sent : List Frame} {b : Patience}
variable {apdu : Octets} {retries deadline : Nat}

/-- If there is room for what has been sent, no unit has been tried too often. -/
theorem Tried.count_le_note (h : Tried config (s, b))
    (hroom : (b.trialsOf s.chronicle.acked).length + (unitsOf sent).length ≤
      config.maxRetries + 1) (i : Nat) :
    ((note m s s' sent b).trialsOf i).length ≤ config.maxRetries + 1 := by
  by_cases hi : i = s.chronicle.acked
  · subst hi
    have hlength : (s.trialsIn sent).length = (unitsOf sent).length := List.length_map _
    rw [trialsOf_note_self, List.length_append, hlength]
    exact hroom
  · rw [trialsOf_note_of_ne hi]
    exact h.count_le i

/-- No unit is sent or acknowledged. -/
theorem Tried.steady (h : Tried config (s, b))
    (hacked : s'.chronicle.acked = s.chronicle.acked) (hsilent : unitsOf sent = [])
    (hkept : s'.chronicle.connection.isClosed = false →
      s.chronicle.connection.isClosed = false ∧
        s'.chronicle.connection.phase = s.chronicle.connection.phase) :
    Tried config (s', note m s s' sent b) := by
  constructor <;> simp only [trialsOf_note_of_silent hsilent, hacked]
  · exact h.count_le
  · intro hopen hphase
    obtain ⟨wasOpen, hsame⟩ := hkept hopen
    exact h.idle wasOpen (hsame.symm.trans hphase)
  · intro hopen apdu retries deadline hphase
    obtain ⟨wasOpen, hsame⟩ := hkept hopen
    obtain ⟨hle, first, later, htrials, hlater, hdeadline⟩ :=
      h.awaiting wasOpen apdu retries deadline (hsame.symm.trans hphase)
    exact ⟨hle, first, later, htrials, hlater, fun hlate => hdeadline (not_late_of_note hlate).1⟩

/-- The outstanding unit is acknowledged; the next one has not been tried. -/
theorem Tried.acknowledged (h : Tried config (s, b))
    (hindex : ∀ t ∈ b.trials, t.index ≤ s.chronicle.acked)
    (hacked : s'.chronicle.acked = s.chronicle.acked + 1) (hsilent : unitsOf sent = [])
    (hafter : s'.chronicle.connection.phase = .idle) :
    Tried config (s', note m s s' sent b) := by
  constructor <;> simp only [trialsOf_note_of_silent hsilent, hacked]
  · exact h.count_le
  · exact fun _ _ => trialsOf_eq_nil hindex (Nat.lt_succ_self _)
  · intro _ apdu retries deadline hphase
    rw [hafter] at hphase
    cases hphase

/-- A unit is tried for the first time. -/
theorem Tried.first (h : Tried config (s, b))
    (hacked : s'.chronicle.acked = s.chronicle.acked)
    (wasOpen : s.chronicle.connection.isClosed = false)
    (hbefore : s.chronicle.connection.phase = .idle) (hfew : (unitsOf sent).length ≤ 1)
    (hkept : s'.chronicle.connection.isClosed = false → (unitsOf sent).length = 1 ∧
      s'.chronicle.connection.phase = .awaiting apdu 0 (s.now + config.retransmit)) :
    Tried config (s', note m s s' sent b) := by
  have hnone : b.trialsOf s.chronicle.acked = [] := h.idle wasOpen hbefore
  refine ⟨h.count_le_note ?_, ?_, ?_⟩
  · rw [hnone, List.length_nil]
    omega
  · intro hopen hphase
    rw [(hkept hopen).2] at hphase
    cases hphase
  · intro hopen apdu' retries' deadline' hphase
    obtain ⟨hone, hphase'⟩ := hkept hopen
    rw [hphase'] at hphase
    cases hphase
    obtain ⟨f, hf⟩ := List.length_eq_one_iff.1 hone
    simp only
    rw [hacked, trialsOf_note_self, hnone, trialsIn, hf]
    exact ⟨Nat.zero_le _, ⟨s.chronicle.acked, s.now, f⟩, [], rfl, rfl, fun _ => by simp⟩

/-- The outstanding unit is tried again, not behind its deadline unless a turn was missed; its
deadline moves by one span. -/
theorem Tried.again (h : Tried config (s, b))
    (hacked : s'.chronicle.acked = s.chronicle.acked)
    (wasOpen : s.chronicle.connection.isClosed = false)
    (hpunctual : b.late = false → s.overdue = false)
    (hbefore : s.chronicle.connection.phase = .awaiting apdu retries deadline)
    (hleft : retries < config.maxRetries) (hfew : (unitsOf sent).length ≤ 1)
    (hkept : s'.chronicle.connection.isClosed = false → (unitsOf sent).length = 1 ∧
      s'.chronicle.connection.phase =
        .awaiting apdu (retries + 1) (s.now + config.retransmit)) :
    Tried config (s', note m s s' sent b) := by
  obtain ⟨-, first, later, htrials, hlater, hdeadline⟩ :=
    h.awaiting wasOpen apdu retries deadline hbefore
  simp only at htrials
  refine ⟨h.count_le_note ?_, ?_, ?_⟩
  · rw [htrials, List.length_cons]
    omega
  · intro hopen hphase
    rw [(hkept hopen).2] at hphase
    cases hphase
  · intro hopen apdu' retries' deadline' hphase
    obtain ⟨hone, hphase'⟩ := hkept hopen
    rw [hphase'] at hphase
    cases hphase
    obtain ⟨f, hf⟩ := List.length_eq_one_iff.1 hone
    simp only
    rw [hacked, trialsOf_note_self, htrials, trialsIn, hf]
    refine ⟨by omega, first, later ++ [⟨s.chronicle.acked, s.now, f⟩], rfl, ?_, fun hlate => ?_⟩
    · rw [List.length_append, hlater]
      rfl
    · have hearly := (not_late_of_note hlate).1
      have hnow := le_deadline (hpunctual hearly) wasOpen hbefore
      have hbound := hdeadline hearly
      calc s.now + config.retransmit
          ≤ first.time + (retries + 1) * config.retransmit + config.retransmit := by omega
        _ = first.time + (retries + 1 + 1) * config.retransmit := by
          rw [Nat.add_mul (retries + 1) 1, Nat.one_mul, Nat.add_assoc]

/-- The number of the next unit has moved on, so a unit has been acknowledged. -/
theorem Moved.acked_of_next {seen : List (Connection × Frame)} (h : Moved m s s' sent)
    (htallied : Chronicle.Tallied peer s.chronicle seen)
    (hnext : s'.chronicle.connection.sendNo = Connection.nextNo s.chronicle.connection.sendNo) :
    s'.chronicle.acked = s.chronicle.acked + 1 := by
  have hmovedOn : s'.chronicle.connection.sendNo ≠ s.chronicle.connection.sendNo := by
    rw [hnext, htallied.sound.sendNo_eq, Chronicle.nextNo_fourBitNo]
    exact alternates_fourBitNo _
  exact h.acked_eq.trans (if_neg hmovedOn)

/-- **A move keeps the trials bounded**, and the books know how often the outstanding unit has been
tried. -/
theorem Patient.tried (h : Patient config peer opening (s, b)) (hmoved : Moved m s s' sent) :
    Tried config (s', note m s s' sent b) := by
  obtain ⟨seen, htallied⟩ := h.tallied
  have hconfig : s.chronicle.connection.config = config := h.config_eq
  have hacked (hsendNo : s'.chronicle.connection.sendNo = s.chronicle.connection.sendNo) :
      s'.chronicle.acked = s.chronicle.acked := hmoved.acked_eq.trans (if_pos hsendNo)
  cases hmoved.tended with
  | steady silent sendNo kept =>
    exact h.toTried.steady (hacked sendNo) silent fun hopen =>
      ⟨(kept hopen).1, (kept hopen).2.1⟩
  | acknowledged f looked confirms silent sendNo wasOpen after idle =>
    exact h.toTried.acknowledged h.index_le (hmoved.acked_of_next htallied sendNo) silent after
  | first apdu before few sendNo wasOpen kept =>
    rw [hconfig] at kept
    exact h.toTried.first (hacked sendNo) wasOpen before few fun hopen =>
      ⟨(kept hopen).1, (kept hopen).2.1⟩
  | again apdu retries deadline before left few sendNo wasOpen kept =>
    rw [hconfig] at left kept
    exact h.toTried.again (hacked sendNo) wasOpen h.punctual before left few fun hopen =>
      ⟨(kept hopen).1, (kept hopen).2.1⟩

end

section
variable {config : ConnectionConfig} {peer : IndividualAddress} {opening : Nat}
variable {b : Timed × Patience}

/-- What a move does to the chronicle. -/
theorem step_grows {seen : List (Connection × Frame)} {s : Timed}
    (h : Chronicle.Tallied peer s.chronicle seen) (m : Move) :
    (∃ seen', Chronicle.Tallied peer (s.step m).1.chronicle seen') ∧
      s.chronicle.acked ≤ (s.step m).1.chronicle.acked ∧
      s.chronicle.queued <+: (s.step m).1.chronicle.queued ∧
      ∀ f ∈ unitsOf (s.step m).2,
        Connection.CarriesUnit peer s.chronicle.queued s.chronicle.acked f := by
  unfold step
  cases m.event? s.now with
  | none => exact ⟨⟨seen, h⟩, Nat.le_refl _, List.prefix_refl _, fun f hf => nomatch hf⟩
  | some e =>
    obtain ⟨hacked, hqueued⟩ := Chronicle.step_grows h.sound e
    refine ⟨⟨_, h.step e⟩, hacked, hqueued, fun f hf => ?_⟩
    obtain ⟨hmem, hunit⟩ := List.mem_filter.1 hf
    exact h.sent e hmem fun hnone => by simp [hnone] at hunit

/-- **A move keeps the agreement** of the books with the connection. -/
theorem Patient.step (h : Patient config peer opening b) (m : Move) :
    Patient config peer opening (noted step note m b).1 := by
  obtain ⟨seen, htallied⟩ := h.tallied
  obtain ⟨htallied', hacked, hqueued, hcarries⟩ := step_grows htallied m
  have hmoved := step_moved m b.1
  have hnow := step_now_le m b.1
  have hsigns : ∀ t ∈ (noted Timed.step note m b).1.2.signs, t ∈ b.2.signs ∨ t = b.1.now := by
    intro t ht
    simp only [noted, note] at ht
    split at ht
    · exact (List.mem_append.1 ht).imp id List.mem_singleton.1
    · exact Or.inl ht
  refine ⟨h.tried hmoved, htallied', hmoved.config_eq.trans h.config_eq, ?_, ?_, ?_, ?_, ?_, ?_⟩
  · intro t ht
    rcases List.mem_append.1 ht with ht | ht
    · exact Nat.le_trans (h.index_le t ht) hacked
    · obtain ⟨f, -, rfl⟩ := List.mem_map.1 ht
      exact hacked
  · intro t ht
    rcases List.mem_append.1 ht with ht | ht
    · exact (h.carries t ht).mono hqueued
    · obtain ⟨f, hf, rfl⟩ := List.mem_map.1 ht
      exact (hcarries f hf).mono hqueued
  · exact fun hlate => (not_late_of_note hlate).2
  · simp only [noted, note]
    split
    · exact List.mem_append_left _ h.opened
    · exact h.opened
  · intro t ht
    rcases hsigns t ht with ht | rfl
    · exact Nat.le_trans (h.signs_le t ht) hnow
    · exact hnow
  · intro hopen
    obtain ⟨wasOpen, hdeadline⟩ := hmoved.tended.idle_eq hopen
    obtain ⟨hall, t, ht, heq⟩ := h.idleDeadline wasOpen
    have hconfig : b.1.chronicle.connection.config = config := h.config_eq
    change (∀ t ∈ (note m b.1 _ _ b.2).signs,
      t + config.inactivity ≤ (b.1.step m).1.chronicle.connection.idleDeadline) ∧
      ∃ t ∈ (note m b.1 _ _ b.2).signs,
        (b.1.step m).1.chronicle.connection.idleDeadline = t + config.inactivity
    rw [hdeadline]
    simp only [note, wasOpen, Bool.not_false, Bool.true_and]
    cases hsign : b.1.chronicle.connection.isSign (m.looked? b.1.chronicle.connection)
        (unitsOf (b.1.step m).2) with
    | false =>
      rw [Connection.idleAfter_of_not_sign hsign]
      exact ⟨hall, t, ht, heq⟩
    | true =>
      rw [Connection.idleAfter_of_sign hsign, hconfig]
      refine ⟨fun t ht => ?_, b.1.now, by simp, rfl⟩
      rcases List.mem_append.1 ht with ht | ht
      · have hle := h.signs_le t ht
        omega
      · exact Nat.add_le_add_right (Nat.le_of_eq (List.mem_singleton.1 ht)) _

theorem run_patient (config : ConnectionConfig) (peer : IndividualAddress)
    (registration opening : Nat) (moves : List Move) :
    Patient config peer opening (run moves (start config peer registration opening)).1 :=
  runWith_invariant _ (Patient config peer opening) (fun m _ h => h.step m) moves
    (start_patient config peer registration opening)

/-- All units that are sent are in the books. -/
theorem trials_run (moves : List Move) (b : Timed × Patience) :
    (run moves b).1.2.trials.map Trial.frame =
      b.2.trials.map Trial.frame ++ unitsOf (run moves b).2 := by
  refine runWith_collects _ (f := fun b => b.2.trials.map Trial.frame) unitsOf_nil unitsOf_append
    (fun m b => ?_) moves b
  have hframes : (b.1.trialsIn (b.1.step m).2).map Trial.frame = unitsOf (b.1.step m).2 := by
    rw [trialsIn, List.map_map]
    exact List.map_id _
  change (b.2.trials ++ b.1.trialsIn (b.1.step m).2).map Trial.frame = _
  rw [List.map_append, hframes]
  rfl

end

/-! ## Ends of waiting -/

section
variable {s : Timed} {apdu : Octets} {retries deadline : Nat}

/-- What may become of an outstanding unit. -/
inductive Outlook (m : Move) (apdu : Octets) (s s' : Timed) : Prop where
  /-- It is still outstanding. -/
  | outstanding (retries deadline : Nat)
      (phase : s'.chronicle.connection.phase = .awaiting apdu retries deadline)
      (acked : s'.chronicle.acked = s.chronicle.acked)
  /-- A frame has acknowledged it. -/
  | acknowledged (f : Frame) (looked : m.looked? s.chronicle.connection = some f)
      (confirms : f.acknowledged? = some s.chronicle.connection.sendNo)
      (phase : s'.chronicle.connection.phase = .idle)
      (acked : s'.chronicle.acked = s.chronicle.acked + 1)
  /-- The connection has ended. -/
  | ended (closed : s'.chronicle.connection.isClosed = true)

/-- An outstanding unit stays so until it is acknowledged or the connection ends. -/
theorem outlook {seen : List (Connection × Frame)} {peer : IndividualAddress}
    (h : Chronicle.Tallied peer s.chronicle seen)
    (hphase : s.chronicle.connection.phase = .awaiting apdu retries deadline) (m : Move) :
    Outlook m apdu s (s.step m).1 := by
  have hmoved := step_moved m s
  have hacked := hmoved.acked_eq
  cases hclosed : (s.step m).1.chronicle.connection.isClosed with
  | true => exact .ended hclosed
  | false =>
    cases hmoved.tended with
    | steady silent sendNo kept =>
      rw [if_pos sendNo] at hacked
      exact .outstanding retries deadline ((kept hclosed).2.1.trans hphase) hacked
    | acknowledged f looked confirms silent sendNo wasOpen after idle =>
      exact .acknowledged f looked confirms after (hmoved.acked_of_next h sendNo)
    | first apdu' before few sendNo wasOpen kept =>
      rw [hphase] at before
      cases before
    | again apdu' retries' deadline' before left few sendNo wasOpen kept =>
      rw [hphase] at before
      cases before
      rw [if_pos sendNo] at hacked
      exact .outstanding _ _ (kept hclosed).2.1 hacked

/-- Why a connection ends. -/
inductive Ends (config : ConnectionConfig) (peer : IndividualAddress) (signs : List Nat) (m : Move)
    (s : Timed) : Prop where
  /-- It has been told to. -/
  | told (move : m = .leave)
  /-- A frame has come over which it could not go on. -/
  | broken (f : Frame) (looked : m.looked? s.chronicle.connection = some f)
  /-- The outstanding unit has been sent as often as it may be, and its deadline has come. -/
  | spent (accepts : Frame → Bool) (apdu : Octets) (retries deadline : Nat)
      (move : m = .proceed accepts)
      (phase : s.chronicle.connection.phase = .awaiting apdu retries deadline)
      (due : deadline ≤ s.now) (spent : config.maxRetries ≤ retries)
  /-- The unit that should be sent, or sent again, cannot be sent. -/
  | refused (accepts : Frame → Bool) (apdu : Octets) (rest : List Octets)
      (move : m = .proceed accepts)
      (next : s.chronicle.connection.outstanding ++ s.chronicle.connection.outgoing = apdu :: rest)
      (fails : Connection.CannotSend accepts peer
        (.dataConnected s.chronicle.connection.sendNo apdu))
  /-- No unit is outstanding, and nothing has gone over the connection for too long. -/
  | idle (accepts : Frame → Bool) (move : m = .proceed accepts)
      (phase : s.chronicle.connection.phase = .idle)
      (due : ∀ t ∈ signs, t + config.inactivity ≤ s.now)

/-- The timers end a connection only if it cannot go on. -/
theorem goesOn_of_closed {p : Connection.Progress} (hopen : p.connection.isClosed = false)
    (h : p.settle.1.isClosed = true) : p.goesOn = false := by
  cases hgoes : p.goesOn with
  | false => rfl
  | true =>
    rw [p.settle_of_goesOn hgoes] at h
    exact absurd (hopen.symm.trans h) Bool.false_ne_true

/-- The timers and the queue end a connection for one of three reasons. -/
theorem ends_proceed {config : ConnectionConfig} {peer : IndividualAddress} {signs : List Nat}
    (hopen : s.chronicle.connection.isClosed = false)
    (hconfig : s.chronicle.connection.config = config) (hpeer : s.chronicle.connection.peer = peer)
    (hsigns : ∀ t ∈ signs, t + config.inactivity ≤ s.chronicle.connection.idleDeadline)
    {accepts : Frame → Bool}
    (h : (s.chronicle.connection.proceed accepts s.now).settle.1.isClosed = true) :
    Ends config peer signs (.proceed accepts) s := by
  have hends : (s.chronicle.connection.proceed accepts s.now).goesOn = false :=
    goesOn_of_closed ((Connection.proceed_isClosed accepts s.now _).trans hopen) h
  rw [← hpeer]
  cases s.chronicle.connection.proceed_proceeded accepts s.now with
  | idled phase due eq => exact .idle accepts rfl phase fun t ht => Nat.le_trans (hsigns t ht) due
  | rests phase queue eq => rw [eq] at hends; cases hends
  | sends apdu rest phase queue eq =>
    rw [eq, Connection.sendNext, queue] at hends
    have hfails := Connection.cannotSend_of_transmit
      (c := { s.chronicle.connection with outgoing := rest })
      ((Connection.Progress.andThen_goOn_goesOn _ _).symm.trans hends)
    exact .refused accepts apdu rest rfl (by rw [Connection.outstanding, phase, queue]; rfl) hfails
  | waits apdu retries deadline phase early eq => rw [eq] at hends; cases hends
  | spends apdu retries deadline phase due spent eq =>
    rw [hconfig] at spent
    exact .spent accepts apdu retries deadline rfl phase due spent
  | again apdu retries deadline phase due left eq =>
    rw [eq] at hends
    have hfails := Connection.cannotSend_of_transmit hends
    exact .refused accepts apdu _ rfl (by rw [Connection.outstanding, phase]; rfl) hfails

/-- Whatever ends a connection, there is a reason. -/
theorem ends {config : ConnectionConfig} {peer : IndividualAddress} {signs : List Nat}
    (hopen : s.chronicle.connection.isClosed = false)
    (hconfig : s.chronicle.connection.config = config) (hpeer : s.chronicle.connection.peer = peer)
    (hsigns : ∀ t ∈ signs, t + config.inactivity ≤ s.chronicle.connection.idleDeadline) {m : Move}
    (h : (s.step m).1.chronicle.connection.isClosed = true) : Ends config peer signs m s := by
  obtain ⟨span, rfl, hstep⟩ | ⟨e, hevent, hstep⟩ := step_cases m s
  · rw [hstep] at h
    exact absurd (hopen.symm.trans h) Bool.false_ne_true
  rw [hstep] at h
  cases s.chronicle.step_stepped e with
  | rests silent acked same unlooked =>
    obtain ⟨incoming, outgoing, delivered, stopping, same⟩ := same
    simp only [same] at h
    exact absurd (hopen.symm.trans h) Bool.false_ne_true
  | looks accepts now f later p event wasOpen front works after tries =>
    rw [event] at hevent
    obtain ⟨rfl, rfl⟩ := event?_eq_look hevent
    exact .broken f (by simp [Move.looked?, front])
  | proceeds accepts now p event wasOpen works after tries =>
    rw [event] at hevent
    obtain ⟨rfl, rfl⟩ := event?_eq_proceed hevent
    simp only [after, works] at h
    exact ends_proceed hopen hconfig hpeer hsigns h
  | leaves event wasOpen after tries =>
    rw [event] at hevent
    exact .told (event?_eq_leave hevent)

end

/-- **A connection tries a limited number of times, and waits for a limited time.**  Take any run of
a connection over time, from the moment at which it is opened.

All units that it has sent are in the books.  Each trial carried the unit with its index under the
number of its index, and no unit has been tried more often than once and as often as the limit on
retries says, whatever the trials were due to.

Let the connection be open now.  If a unit is outstanding, and no turn was ever missed at a deadline,
then the time since the first trial of the unit is at most as many spans as there may be trials; and
whatever happens next, the unit remains outstanding, or a frame acknowledges it, or the connection
ends.  If the connection ends next, there is a reason (`Ends`); it is never that the connection was
idle while a unit is outstanding, and otherwise only if nothing has gone over it for the time allowed,
neither since it was opened nor since any later sign. -/
theorem trials_bounded (config : ConnectionConfig) (peer : IndividualAddress)
    (registration opening : Nat) (moves : List Move) :
    let first := start config peer registration opening
    let s := (run moves first).1.1
    let books := (run moves first).1.2
    let c := s.chronicle.connection
    (books.trials.map Trial.frame = unitsOf (run moves first).2 ∧
      (∀ t ∈ books.trials, Connection.CarriesUnit peer s.chronicle.queued t.index t.frame) ∧
      ∀ i, (books.trialsOf i).length ≤ 1 + config.maxRetries) ∧
    (c.isClosed = false →
      (∀ apdu retries deadline, c.phase = .awaiting apdu retries deadline →
        (books.late = false → ∃ first later, books.trialsOf s.chronicle.acked = first :: later ∧
          s.now ≤ first.time + (config.maxRetries + 1) * config.retransmit) ∧
        ∀ m, Outlook m apdu s (s.step m).1) ∧
      opening ∈ books.signs ∧
      ∀ m, (s.step m).1.chronicle.connection.isClosed = true →
        Ends config peer books.signs m s) := by
  intro first s books c
  have h : Patient config peer opening (s, books) :=
    run_patient config peer registration opening moves
  obtain ⟨seen, htallied⟩ := h.tallied
  refine ⟨⟨trials_run moves first, h.carries, fun i => ?_⟩, fun hopen => ⟨?_, h.opened, ?_⟩⟩
  · have hcount := h.count_le i
    simp only at hcount
    omega
  · intro apdu retries deadline hphase
    refine ⟨fun hlate => ?_, fun m => outlook htallied hphase m⟩
    obtain ⟨hretries, first, later, htrials, -, hdeadline⟩ :=
      h.awaiting hopen apdu retries deadline hphase
    have hnow : s.now ≤ deadline := le_deadline (h.punctual hlate) hopen hphase
    refine ⟨first, later, htrials, ?_⟩
    calc s.now ≤ deadline := hnow
      _ ≤ first.time + (retries + 1) * config.retransmit := hdeadline hlate
      _ ≤ first.time + (config.maxRetries + 1) * config.retransmit := by
        have hmul : (retries + 1) * config.retransmit ≤
            (config.maxRetries + 1) * config.retransmit :=
          Nat.mul_le_mul_right _ (by omega)
        omega
  · intro m hclosed
    exact ends hopen h.config_eq htallied.honest.peer_eq (h.idleDeadline hopen).1 hclosed

/-- A unit is sent, and nothing comes back.  Whenever its deadline comes, the connection looks at its
timers, except at the last one, where this is still to happen. -/
def silence : List Move :=
  [.put [0x00, 0x80], .proceed fun _ => true, .wait 3000, .proceed fun _ => true, .wait 3000,
    .proceed fun _ => true, .wait 3000, .proceed fun _ => true, .wait 3000]

theorem trials_bounded_silence :
    let s := (run silence (start .usual ⟨2⟩ 0 0)).1.1
    let books := (run silence (start .usual ⟨2⟩ 0 0)).1.2
    (books.trialsOf 0).length ≤ 4 ∧
      (∃ first later, books.trialsOf 0 = first :: later ∧ s.now ≤ first.time + 4 * 3000) ∧
      Outlook (.proceed fun _ => true) [0x00, 0x80] s (s.step (.proceed fun _ => true)).1 ∧
      Ends .usual ⟨2⟩ books.signs (.proceed fun _ => true) s := by
  have h := trials_bounded .usual ⟨2⟩ 0 0 silence
  obtain ⟨hawaiting, -, hends⟩ := h.2 (by decide +kernel)
  obtain ⟨htime, houtlook⟩ := hawaiting [0x00, 0x80] 3 12000 (by decide +kernel)
  exact ⟨h.1.2.2 0, htime (by decide +kernel), houtlook _, hends _ (by decide +kernel)⟩

end Timed
end KnxBus
