import KnxBus.Proofs.Connection.Frames

/-!
# What the numbers of a connection count

A connection has two numbers of four bits.  It shows both to others, and its peer sees one of them on
every unit and every acknowledgement.  Here they are tied to the frames that the connection has
looked at.  The main statement is `Chronicle.numbers_count_units`:

* one number counts the units that came under the number expected on their arrival, and these are
  the units that were delivered, in order;
* the other number counts the acknowledgements of an outstanding unit, and what they acknowledged
  are the first units that were queued, in order;
* whatever unit is sent is the one behind the acknowledged ones, under its own number.

The frames of a run are collected together with the connection as it was when it looked at each of
them.  That the numbers agree with how much was delivered and acknowledged is known from the
chronicle (`Chronicle.Sound`); what is shown here is that the frames account for exactly that much
(`Chronicle.Tallied`).
-/

namespace KnxBus

/-! ## Runs -/

namespace Chronicle

/-- The frame that a connection looks at when something happens, with the connection as it was. -/
def looked (e : Event) (r : Chronicle) : List (Connection × Frame) :=
  match e with
  | .act (.look _ _) =>
    if r.connection.isClosed then []
    else r.connection.incoming.head?.toList.map fun f => (r.connection, f)
  | _ => []

/-- The frames that a connection looks at in a run, each with the connection as it was. -/
def lookedIn : List Event → Chronicle → List (Connection × Frame)
  | [], _ => []
  | e :: later, r => r.looked e ++ lookedIn later (r.step e).1

/-- The units that frames bring under the number that is expected on their arrival. -/
def expectedUnits (seen : List (Connection × Frame)) : List Octets :=
  seen.filterMap fun x => x.1.expected? x.2

/-- The units that frames acknowledge while they are outstanding. -/
def confirmedUnits (seen : List (Connection × Frame)) : List Octets :=
  seen.filterMap fun x => x.1.confirmed? x.2

theorem expectedUnits_concat (seen : List (Connection × Frame)) (c : Connection) (f : Frame) :
    expectedUnits (seen ++ [(c, f)]) = expectedUnits seen ++ (c.expected? f).toList := by
  rw [expectedUnits, List.filterMap_append, List.filterMap_cons]
  cases c.expected? f <;> rfl

theorem confirmedUnits_concat (seen : List (Connection × Frame)) (c : Connection) (f : Frame) :
    confirmedUnits (seen ++ [(c, f)]) = confirmedUnits seen ++ (c.confirmed? f).toList := by
  rw [confirmedUnits, List.filterMap_append, List.filterMap_cons]
  cases c.confirmed? f <;> rfl

/-- The frames that a connection has looked at account for what it has delivered and for what has
been acknowledged. -/
structure Tallied (peer : IndividualAddress) (r : Chronicle) (seen : List (Connection × Frame)) :
    Prop where
  /-- The connection agrees with its past. -/
  sound : r.Sound
  /-- The connection shows its numbers. -/
  honest : r.connection.Honest peer
  /-- What was delivered came under the number that was expected. -/
  pushed_eq : r.pushed = expectedUnits seen
  /-- What was acknowledged was outstanding. -/
  confirmed_eq : r.queued.take r.acked = confirmedUnits seen

section
variable {peer : IndividualAddress} {r r' : Chronicle} {seen : List (Connection × Frame)}

/-- Nothing is delivered and nothing is acknowledged. -/
theorem Tallied.same (h : Tallied peer r seen) (hsound : r'.Sound)
    (hhonest : r'.connection.Honest peer) (hqueued : r.queued <+: r'.queued)
    (hacked : r'.acked = r.acked) (haccepted : r'.accepted = r.accepted) :
    Tallied peer r' seen := by
  refine ⟨hsound, hhonest, ?_, ?_⟩
  · rw [hsound.pushed_eq, haccepted, ← h.sound.pushed_eq]
    exact h.pushed_eq
  · obtain ⟨more, hmore⟩ := hqueued
    rw [hacked, ← hmore, List.take_append_of_le_length h.sound.acked_le]
    exact h.confirmed_eq

/-- What a connection makes of the frame in front: it delivers what came under the expected number,
and moves on if an outstanding unit has been acknowledged. -/
theorem look_connection (honest : r.connection.Honest peer) (hopen : r.connection.isClosed = false)
    {f : Frame} {later : List Frame} (hfront : r.connection.incoming = f :: later)
    (accepts : Frame → Bool) (now : Nat) {c : Connection}
    (hc : (r.act (.look accepts now)).1.connection = c) :
    c.delivered = r.connection.delivered ++ (r.connection.expected? f).toList ∧
      c.sendNo = (if (r.connection.confirmed? f).isSome then
        Connection.nextNo r.connection.sendNo else r.connection.sendNo) ∧
      c.Honest peer := by
  rw [← hc, (act_look_connection hopen hfront accepts now rfl).1]
  refine ⟨?_, ?_, ?_⟩
  · exact (Connection.Progress.settle_delivered _).trans
      (Connection.onFrame_delivered accepts now f (r.connection.withIncoming []))
  · exact (Connection.Progress.settle_sendNo _).trans
      (Connection.onFrame_sendNo accepts now f (r.connection.withIncoming []))
  · exact ((honest.withIncoming []).onFrame accepts now f).settle.withIncoming _

/-- Then one unit more is acknowledged. -/
theorem Sound.take_acked (h : r.Sound) (hopen : r.connection.isClosed = false) {c : Connection}
    {f : Frame} (hsendNo : c.sendNo = if (r.connection.confirmed? f).isSome then
      Connection.nextNo r.connection.sendNo else r.connection.sendNo) :
    (r.noting (some f) c).queued.take (r.noting (some f) c).acked =
      r.queued.take r.acked ++ (r.connection.confirmed? f).toList := by
  have hacked : (r.noting (some f) c).acked =
      if c.sendNo = r.connection.sendNo then r.acked else r.acked + 1 := rfl
  have hqueued : (r.noting (some f) c).queued = r.queued := rfl
  rw [hacked, hqueued, hsendNo]
  cases hconf : r.connection.confirmed? f with
  | none => simp
  | some apdu =>
    -- the number moves on, since neighbours have different numbers
    have hmoved : Connection.nextNo r.connection.sendNo ≠ r.connection.sendNo := by
      rw [h.sendNo_eq, nextNo_fourBitNo]
      exact alternates_fourBitNo r.acked
    have hnext : r.queued[r.acked]? = some apdu :=
      h.next_eq hopen (by rw [Connection.outstanding_of_confirmed? hconf]; rfl)
    rw [Option.isSome_some, if_pos rfl, if_neg hmoved, List.take_add_one, hnext]

/-- One frame has been looked at. -/
theorem Tallied.look (h : Tallied peer r seen) (hopen : r.connection.isClosed = false)
    (accepts : Frame → Bool) (now : Nat) :
    Tallied peer (r.act (.look accepts now)).1 (seen ++ r.looked (.act (.look accepts now))) := by
  have hsound := (act_effect h.sound (.look accepts now)).1
  have hlooked : r.looked (.act (.look accepts now)) =
      r.connection.incoming.head?.toList.map fun f => (r.connection, f) := by
    rw [looked, hopen]
    rfl
  cases hfront : r.connection.incoming with
  | nil =>
    have hact : (r.act (.look accepts now)).1 = r := by
      rw [act, hopen, Connection.look_nil hfront, if_neg Bool.false_ne_true]
      exact noting_same rfl rfl _
    rw [hlooked, hfront, hact]
    simpa using h
  | cons f later =>
    obtain ⟨c, hc⟩ : ∃ c, (r.act (.look accepts now)).1.connection = c := ⟨_, rfl⟩
    have hact : (r.act (.look accepts now)).1 = r.noting (some f) c := by
      rw [← hc, act, hopen, hfront]
      rfl
    obtain ⟨hdelivered, hsendNo, hhonest⟩ := look_connection h.honest hopen hfront accepts now hc
    rw [hact] at hsound ⊢
    rw [hlooked, hfront]
    refine ⟨hsound, hhonest, ?_, ?_⟩
    · have hpushed : (r.noting (some f) c).pushed = r.read ++ c.delivered := rfl
      rw [hpushed, hdelivered, ← List.append_assoc]
      exact (congrArg (· ++ _) h.pushed_eq).trans (expectedUnits_concat _ _ _).symm
    · rw [h.sound.take_acked hopen hsendNo, h.confirmed_eq]
      exact (confirmedUnits_concat _ _ _).symm

/-- A part of a turn that looks at no frame moves no number and delivers nothing. -/
theorem Tallied.part (h : Tallied peer r seen) {c : Connection} {p : Connection.Progress}
    (hp : p.connection = c) (hsound : (r.noting none p.settle.1).Sound)
    (hsendNo : c.sendNo = r.connection.sendNo) (hdelivered : c.delivered = r.connection.delivered)
    (hhonest : c.Honest peer) : Tallied peer (r.noting none p.settle.1) seen := by
  have hs : p.settle.1.sendNo = r.connection.sendNo := by rw [p.settle_sendNo, hp, hsendNo]
  have hd : p.settle.1.delivered = r.connection.delivered := by
    rw [p.settle_delivered, hp, hdelivered]
  rw [← hp] at hhonest
  rw [noting_same hs hd] at hsound ⊢
  exact h.same hsound hhonest.settle (List.prefix_refl _) rfl rfl

theorem Tallied.put (h : Tallied peer r seen) (apdu : Octets) :
    Tallied peer (r.act (.put apdu)).1 seen := by
  have hsound := (act_effect h.sound (.put apdu)).1
  cases hopen : r.connection.isClosed with
  | true =>
    rw [act_put_of_closed hopen]
    exact h
  | false =>
    rw [act_put_of_open hopen] at hsound ⊢
    exact h.same hsound ⟨h.honest.peer_eq, h.honest.shownSendNo_eq, h.honest.shownReceiveNo_eq⟩
      (List.prefix_append _ _) rfl rfl

theorem Tallied.read (h : Tallied peer r seen) : Tallied peer (r.act .read).1 seen := by
  have hhonest : r.connection.take.2.Honest peer := by
    unfold Connection.take
    split
    · exact h.honest
    · exact ⟨h.honest.peer_eq, h.honest.shownSendNo_eq, h.honest.shownReceiveNo_eq⟩
  exact h.same (act_effect h.sound .read).1 hhonest (List.prefix_refl _) rfl rfl

theorem Tallied.stop (h : Tallied peer r seen) : Tallied peer (r.act .stop).1 seen :=
  h.same (act_effect h.sound .stop).1
    ⟨h.honest.peer_eq, h.honest.shownSendNo_eq, h.honest.shownReceiveNo_eq⟩
    (List.prefix_refl _) rfl rfl

theorem Tallied.proceed (h : Tallied peer r seen) (hopen : r.connection.isClosed = false)
    (accepts : Frame → Bool) (now : Nat) :
    Tallied peer (r.act (.proceed accepts now)).1 seen := by
  have hact : (r.act (.proceed accepts now)).1 =
      r.noting none (r.connection.proceed accepts now).settle.1 := by
    rw [act, hopen]
    rfl
  have hsound := (act_effect h.sound (.proceed accepts now)).1
  obtain ⟨hsendNo, hdelivered, hhonest⟩ :=
    r.connection.proceed_connection accepts now
  rw [hact] at hsound ⊢
  exact h.part rfl hsound hsendNo hdelivered (hhonest peer h.honest)

theorem Tallied.leave (h : Tallied peer r seen) (hopen : r.connection.isClosed = false) :
    Tallied peer (r.act .leave).1 seen := by
  have hact : (r.act .leave).1 = r.noting none r.connection.giveUp.settle.1 := by
    rw [act, hopen]
    rfl
  have hsound := (act_effect h.sound .leave).1
  rw [hact] at hsound ⊢
  exact h.part rfl hsound rfl rfl h.honest

/-- Whatever happens to a connection, the frames that it has looked at account for it. -/
theorem Tallied.step (h : Tallied peer r seen) (e : Event) :
    Tallied peer (r.step e).1 (seen ++ r.looked e) := by
  have hnothing : seen ++ [] = seen := List.append_nil seen
  cases e with
  | hear f =>
    change Tallied peer (r.hear f) (seen ++ [])
    rw [hnothing]
    exact h.same (hear_sound h.sound f)
      ⟨h.honest.peer_eq, h.honest.shownSendNo_eq, h.honest.shownReceiveNo_eq⟩
      (List.prefix_refl _) rfl rfl
  | act a =>
    cases a with
    | put apdu => exact hnothing.symm ▸ h.put apdu
    | read => exact hnothing.symm ▸ h.read
    | stop => exact hnothing.symm ▸ h.stop
    | look accepts now =>
      cases hopen : r.connection.isClosed with
      | false => exact h.look hopen accepts now
      | true =>
        have hact := act_of_closed hopen (.look accepts now) (Or.inr ⟨accepts, now, Or.inl rfl⟩)
        have hlooked : r.looked (.act (.look accepts now)) = [] := by rw [looked, if_pos hopen]
        rw [Chronicle.step, hact, hlooked, hnothing]
        exact h
    | proceed accepts now =>
      change Tallied peer (r.act (.proceed accepts now)).1 (seen ++ [])
      rw [hnothing]
      cases hopen : r.connection.isClosed with
      | false => exact h.proceed hopen accepts now
      | true =>
        rw [act_of_closed hopen _ (Or.inr ⟨accepts, now, Or.inr rfl⟩)]
        exact h
    | leave =>
      change Tallied peer (r.act .leave).1 (seen ++ [])
      rw [hnothing]
      cases hopen : r.connection.isClosed with
      | false => exact h.leave hopen
      | true =>
        rw [act_of_closed hopen _ (Or.inl rfl)]
        exact h

theorem Tallied.run (h : Tallied peer r seen) (events : List Event) :
    Tallied peer (run events r).1 (seen ++ lookedIn events r) := by
  induction events generalizing r seen with
  | nil =>
    rw [lookedIn, List.append_nil]
    exact h
  | cons e later ih =>
    rw [lookedIn, ← List.append_assoc]
    exact ih (h.step e)

theorem start_tallied (config : ConnectionConfig) (peer : IndividualAddress)
    (registration now : Nat) :
    Tallied peer (start (.start config peer registration now)) [] :=
  ⟨start_sound config peer registration now, ⟨rfl, rfl, rfl⟩, rfl, rfl⟩

/-! ## What is sent -/

/-- The number of acknowledged units never falls, and units are queued behind the others. -/
theorem step_grows (h : r.Sound) (e : Event) :
    r.acked ≤ (r.step e).1.acked ∧ r.queued <+: (r.step e).1.queued := by
  cases e with
  | hear f => exact ⟨Nat.le_refl _, List.prefix_refl _⟩
  | act a =>
    change r.acked ≤ (r.act a).1.acked ∧ r.queued <+: (r.act a).1.queued
    cases (act_effect h a).2 with
    | quiet queued acked => exact ⟨Nat.le_of_eq acked.symm, queued⟩
    | sends apdu queued acked => exact ⟨Nat.le_of_eq acked.symm, queued ▸ List.prefix_refl _⟩
    | takes f later apdu queued acked => exact ⟨Nat.le_of_eq acked.symm, queued ▸ List.prefix_refl _⟩
    | repeats f later apdu queued acked => exact ⟨Nat.le_of_eq acked.symm, queued ▸ List.prefix_refl _⟩
    | acknowledged f later queued acked =>
      rw [acked, queued]
      exact ⟨Nat.le_succ _, List.prefix_refl _⟩

theorem run_grows (h : r.Sound) (events : List Event) :
    r.acked ≤ (Chronicle.run events r).1.acked ∧ r.queued <+: (Chronicle.run events r).1.queued := by
  induction events generalizing r with
  | nil => exact ⟨Nat.le_refl _, List.prefix_refl _⟩
  | cons e later ih =>
    obtain ⟨hacked, hqueued⟩ := step_grows h e
    obtain ⟨hacked', hqueued'⟩ := ih (step_sound h e)
    exact ⟨Nat.le_trans hacked hacked', hqueued.trans hqueued'⟩

/-- A closed connection sends nothing. -/
theorem step_sent_of_closed (hclosed : r.connection.isClosed = true) (e : Event) :
    (r.step e).2 = [] := by
  cases e with
  | hear f => rfl
  | act a =>
    change (r.act a).2 = []
    cases a with
    | put apdu => rw [act_put_of_closed hclosed]
    | read => rfl
    | stop => rfl
    | look accepts now => rw [act_of_closed hclosed _ (Or.inr ⟨accepts, now, Or.inl rfl⟩)]
    | proceed accepts now => rw [act_of_closed hclosed _ (Or.inr ⟨accepts, now, Or.inr rfl⟩)]
    | leave => rw [act_of_closed hclosed _ (Or.inl rfl)]

/-- An open connection sends no unit but the first one that it holds, under the number that it
shows. -/
theorem step_sent_of_open (hopen : r.connection.isClosed = false) (e : Event) {f : Frame}
    (hf : f ∈ (r.step e).2) (hunit : f.numbered? ≠ none) :
    ∃ apdu rest, r.connection.outstanding ++ r.connection.outgoing = apdu :: rest ∧
      f ∈ (Connection.frameTo r.connection.peer
        (.dataConnected r.connection.sendNo apdu) .low).toOption.toList := by
  cases e with
  | hear g => exact absurd hf List.not_mem_nil
  | act a =>
    change f ∈ (r.act a).2 at hf
    cases a with
    | put apdu =>
      rw [act_put_of_open hopen] at hf
      exact absurd hf List.not_mem_nil
    | read => exact absurd hf List.not_mem_nil
    | stop => exact absurd hf List.not_mem_nil
    | look accepts now =>
      cases hfront : r.connection.incoming with
      | nil =>
        rw [act, hopen, Connection.look_nil hfront] at hf
        exact absurd hf List.not_mem_nil
      | cons g later =>
        rw [(act_look_connection hopen hfront accepts now rfl).2] at hf
        obtain ⟨apdu, hout, hframe⟩ :=
          Connection.onFrame_sent (Connection.Progress.mem_sent_of_mem_settle hf hunit) hunit
        refine ⟨apdu, r.connection.outgoing, ?_, hframe⟩
        change r.connection.outstanding = [apdu] at hout
        rw [hout]
        rfl
    | proceed accepts now =>
      have hact : (r.act (.proceed accepts now)).2 =
          (r.connection.proceed accepts now).settle.2 := by
        rw [act, hopen]
        rfl
      rw [hact] at hf
      exact Connection.proceed_sent (Connection.Progress.mem_sent_of_mem_settle hf hunit)
    | leave =>
      have hact : (r.act .leave).2 = r.connection.giveUp.settle.2 := by
        rw [act, hopen]
        rfl
      rw [hact] at hf
      exact absurd (Connection.Progress.mem_sent_of_mem_settle hf hunit) List.not_mem_nil

/-- A unit that is sent is the one behind the acknowledged ones. -/
theorem Tallied.sent (h : Tallied peer r seen) (e : Event) {f : Frame} (hf : f ∈ (r.step e).2)
    (hunit : f.numbered? ≠ none) : Connection.CarriesUnit peer r.queued r.acked f := by
  cases hopen : r.connection.isClosed with
  | true =>
    rw [step_sent_of_closed hopen] at hf
    exact absurd hf List.not_mem_nil
  | false =>
    obtain ⟨apdu, rest, hheld, hframe⟩ := step_sent_of_open hopen e hf hunit
    rw [h.honest.peer_eq, h.sound.sendNo_eq] at hframe
    exact Connection.carriesUnit_of_mem (h.sound.next_eq hopen hheld) hframe

/-- Every unit that was ever sent is one of those acknowledged since, or the one behind them. -/
theorem Tallied.sentIn (h : Tallied peer r seen) (events : List Event) {f : Frame}
    (hf : f ∈ (Chronicle.run events r).2) (hunit : f.numbered? ≠ none) :
    ∃ i ≤ (Chronicle.run events r).1.acked,
      Connection.CarriesUnit peer (Chronicle.run events r).1.queued i f := by
  induction events generalizing r seen with
  | nil => exact absurd hf List.not_mem_nil
  | cons e later ih =>
    have hnext := h.step e
    rcases List.mem_append.1 hf with hfirst | hlater
    · obtain ⟨hacked, hqueued⟩ := step_grows h.sound e
      obtain ⟨hacked', hqueued'⟩ := run_grows hnext.sound later
      exact ⟨r.acked, Nat.le_trans hacked hacked',
        (h.sent e hfirst hunit).mono (hqueued.trans hqueued')⟩
    · exact ih hnext hlater

end

/-- **The numbers of a connection count its units.**  Take any run of a connection from its
beginning, and then one thing more.  The units that came under the number expected on their arrival
are those that were delivered, and the expected number counts them modulo sixteen.  The units that
were acknowledged while they were outstanding are the first of those that were queued, and the number
of the next unit counts them modulo sixteen.  Both numbers are shown to others.  If a unit is sent
now, it is the one behind the acknowledged ones under the number that counts these, and no other unit
has ever been sent without having been acknowledged since. -/
theorem numbers_count_units (config : ConnectionConfig) (peer : IndividualAddress)
    (registration now : Nat) (events : List Event) (e : Event) :
    let first := start (.start config peer registration now)
    let r := (run events first).1
    let delivered := expectedUnits (lookedIn events first)
    let acknowledged := confirmedUnits (lookedIn events first)
    (r.pushed = delivered ∧ r.connection.receiveNo.toNat = delivered.length % 16 ∧
      r.connection.shownReceiveNo = r.connection.receiveNo) ∧
    (acknowledged = r.queued.take acknowledged.length ∧
      r.connection.sendNo.toNat = acknowledged.length % 16 ∧
      r.connection.shownSendNo = r.connection.sendNo) ∧
    (∀ f ∈ (r.step e).2, f.numbered? ≠ none →
      Connection.CarriesUnit peer r.queued acknowledged.length f) ∧
    ∀ f ∈ (run events first).2, f.numbered? ≠ none →
      ∃ i ≤ acknowledged.length, Connection.CarriesUnit peer r.queued i f := by
  intro first r delivered acknowledged
  have h : Tallied peer r (lookedIn events first) :=
    (start_tallied config peer registration now).run events
  have hdelivered : delivered.length = r.accepted.length := by
    have hpushed : r.accepted.map Prod.snd = delivered := h.sound.pushed_eq.symm.trans h.pushed_eq
    rw [← hpushed, List.length_map]
  have hacknowledged : acknowledged.length = r.acked := by
    have hlength := congrArg List.length h.confirmed_eq
    rw [List.length_take, Nat.min_eq_left h.sound.acked_le] at hlength
    exact hlength.symm
  rw [hacknowledged, hdelivered]
  refine ⟨⟨h.pushed_eq, ?_, h.honest.shownReceiveNo_eq⟩,
    ⟨h.confirmed_eq.symm, ?_, h.honest.shownSendNo_eq⟩, ?_, ?_⟩
  · rw [h.sound.receiveNo_eq, toNat_fourBitNo]
  · rw [h.sound.sendNo_eq, toNat_fourBitNo]
  · exact fun f hf hunit => h.sent e hf hunit
  · exact fun f hf hunit =>
      (start_tallied config peer registration now).sentIn events hf hunit

/-- A unit is queued and sent, the peer acknowledges it and sends one itself, and then another unit
is queued. -/
def exchange : List Event :=
  [.act (.put [0x00, 0x80]), .act (.proceed (fun _ => true) 0),
    .hear (.addressed (.individual ⟨1⟩) [0xc2]), .act (.look (fun _ => true) 1),
    .hear (.addressed (.individual ⟨1⟩) [0x40, 0x83]), .act (.look (fun _ => true) 2),
    .act (.put [0x00, 0x81])]

theorem numbers_count_units_exchange :
    let first := start (.start .usual ⟨2⟩ 0 0)
    let r := (run exchange first).1
    let acknowledged := confirmedUnits (lookedIn exchange first)
    Connection.CarriesUnit ⟨2⟩ r.queued acknowledged.length
        (.addressed (.individual ⟨2⟩) [0x44, 0x81]) ∧
      ∃ i ≤ acknowledged.length,
        Connection.CarriesUnit ⟨2⟩ r.queued i (.addressed (.individual ⟨2⟩) [0x40, 0x80]) :=
  have h := numbers_count_units .usual ⟨2⟩ 0 0 exchange (.act (.proceed (fun _ => true) 3))
  ⟨h.2.2.1 _ (by decide +kernel) (by decide +kernel),
    h.2.2.2 _ (by decide +kernel) (by decide +kernel)⟩

end Chronicle
end KnxBus
