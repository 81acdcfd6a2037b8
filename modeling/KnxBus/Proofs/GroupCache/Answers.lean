import KnxBus.Proofs.GroupCache.Contents

/-!
# Every reader gets one answer

A reader that asks for a value asks in one happening, and all that it is ever answered follows from
that one and those behind it.  If there is a value that is young enough, or if the reader does not
wait, it is answered there and then.  Otherwise the first happening behind it that settles its
question answers it, and no other does (`Served`).

The reason is the same each time: what is answered in a happening follows from who waits
(`Reachable.mem_answers`), and of a reader that has asked in one happening and in no other one knows
exactly when it waits (`awaited_iff_of_split`).

A turn handles every event that has come and then looks (`turn_run`), so a reader is heard in the next
turn and waits for no longer than until the first turn at its deadline or later.

An entry that says that nobody has answered comes into the table in no other way than by a look at
the deadline of somebody who has waited for that group all the time, with no value of it being seen
(`Reachable.silence_waited`).
-/

namespace KnxBus

theorem Happening.answersTo_eq_toList {h : Happening} (hnodup : h.answered.Nodup) {reader : Nat}
    {answer : Option CacheEntry} (hanswers : ∀ e, (reader, e) ∈ h.answers ↔ answer = some e) :
    h.answersTo reader = answer.toList := by
  cases answer with
  | none =>
    refine List.eq_nil_iff_forall_not_mem.2 fun e he => ?_
    exact Option.some_ne_none e ((hanswers e).1 (mem_answers he)).symm
  | some e => exact answersTo_eq_singleton hnodup ((hanswers e).2 rfl)

section
variable {before after : List Happening} {h : Happening} {g : GroupAddress}
  {timeout maxAge reader : Nat}

/-- If nobody asks twice, a reader asks in one happening only. -/
theorem not_mem_readers_of_split (hreader : h.cause.reader? = some reader)
    (hnodup : (readers (before ++ h :: after)).Nodup) :
    reader ∉ readers before ∧ reader ∉ readers after := by
  rw [readers_append, readers_cons hreader] at hnodup
  have hnot := (List.nodup_cons.1 (List.perm_middle.nodup_iff.1 hnodup)).1
  exact ⟨fun hmem => hnot (List.mem_append_left _ hmem),
    fun hmem => hnot (List.mem_append_right _ hmem)⟩

/-- Of a reader that asks in one happening only one knows when it waits. -/
theorem awaited_iff_of_split (hreader : h.cause.reader? = some reader)
    (hnodup : (readers (before ++ h :: after)).Nodup) (w : CacheWaiter) :
    Awaited (before ++ h :: after) w ∧ w.reader = reader ↔
      h.Asks w ∧ ∀ x ∈ after, x.settles w.group w.deadline = none := by
  obtain ⟨hbefore, hafter⟩ := not_mem_readers_of_split hreader hnodup
  have hsplit : h :: after = [h] ++ after := rfl
  rw [awaited_append, hsplit, awaited_append, awaited_singleton]
  constructor
  · rintro ⟨(hlater | hasks) | ⟨hearlier, -⟩, rfl⟩
    · exact absurd hlater.reader_mem hafter
    · exact hasks
    · exact absurd hearlier.reader_mem hbefore
  · intro hasks
    exact ⟨.inl (.inr hasks), Option.some.inj (hasks.1.reader_eq.symm.trans hreader)⟩

end

namespace ReadingRoom

variable {room : ReadingRoom} {before after : List Happening} {h : Happening} {g : GroupAddress}
  {timeout maxAge reader : Nat}

/-! ## What a reader is answered -/

/-- What a reader is answered that asks in a happening, given what has happened before and after. -/
structure Served (before : List Happening) (h : Happening) (after : List Happening)
    (g : GroupAddress) (timeout maxAge reader : Nat) : Prop where
  /-- Before it has asked, nothing. -/
  early : ∀ x ∈ before, x.answersTo reader = []
  /-- A value that is young enough, at once. -/
  ready : ∀ e, h.before.Ready h.now g maxAge e →
    h.answersTo reader = [e] ∧ ∀ x ∈ after, x.answersTo reader = []
  /-- If there is none and it does not wait, that nothing is known, at once. -/
  hurried : (∀ e, ¬ h.before.Ready h.now g maxAge e) → timeout = 0 →
    h.answersTo reader = [.unknown g h.now] ∧ ∀ x ∈ after, x.answersTo reader = []
  /-- Otherwise the first that settles its question. -/
  waits : (∀ e, ¬ h.before.Ready h.now g maxAge e) → timeout ≠ 0 →
    h.answersTo reader = [] ∧ ∀ earlier x later, after = earlier ++ x :: later →
      ((∀ y ∈ earlier, y.settles g (h.now + timeout) = none) →
        x.answersTo reader = (x.settles g (h.now + timeout)).toList) ∧
      ((∃ y ∈ earlier, y.settles g (h.now + timeout) ≠ none) → x.answersTo reader = [])
  /-- Whatever it is, it is about the group that was asked for. -/
  group_eq : ∀ x ∈ before ++ h :: after, ∀ e ∈ x.answersTo reader, e.group = g

/-- If only the first happening that settles a question answers it, there is one answer at most. -/
theorem length_answersTo_le_one {deadline : Nat} {later : List Happening}
    (hlater : ∀ earlier x rest, later = earlier ++ x :: rest →
      ((∀ y ∈ earlier, y.settles g deadline = none) →
        x.answersTo reader = (x.settles g deadline).toList) ∧
      ((∃ y ∈ earlier, y.settles g deadline ≠ none) → x.answersTo reader = [])) :
    (later.flatMap (·.answersTo reader)).length ≤ 1 := by
  induction later with
  | nil => exact Nat.zero_le 1
  | cons x rest ih =>
    rw [List.flatMap_cons, (hlater [] x rest rfl).1 nofun]
    cases hsettles : x.settles g deadline with
    | some e =>
      have hrest : rest.flatMap (·.answersTo reader) = [] := List.flatMap_eq_nil_iff.2 fun y hy => by
        obtain ⟨earlier, after, rfl⟩ := List.append_of_mem hy
        refine (hlater (x :: earlier) y after rfl).2 ⟨x, List.mem_cons_self, ?_⟩
        exact hsettles ▸ Option.some_ne_none e
      rw [hrest]
      exact Nat.le_refl 1
    | none =>
      refine ih fun earlier y after hsplit => ?_
      obtain ⟨hopen, hclosed⟩ := hlater (x :: earlier) y after (congrArg (x :: ·) hsplit)
      exact ⟨fun hall => hopen (List.forall_mem_cons.2 ⟨hsettles, hall⟩),
        fun ⟨z, hz, hne⟩ => hclosed ⟨z, List.mem_cons_of_mem x hz, hne⟩⟩

/-- Whoever asks is answered once at most. -/
theorem Served.length_le_one (served : Served before h after g timeout maxAge reader) :
    ((before ++ h :: after).flatMap (·.answersTo reader)).length ≤ 1 := by
  have hnone : ∀ {l : List Happening}, (∀ x ∈ l, x.answersTo reader = []) →
      l.flatMap (·.answersTo reader) = [] := List.flatMap_eq_nil_iff.2
  rw [List.flatMap_append, hnone served.early, List.nil_append, List.flatMap_cons]
  by_cases hready : ∃ e, h.before.Ready h.now g maxAge e
  · obtain ⟨e, hready⟩ := hready
    obtain ⟨hself, hlater⟩ := served.ready e hready
    rw [hself, hnone hlater]
    exact Nat.le_refl 1
  · have hmissing : ∀ e, ¬ h.before.Ready h.now g maxAge e := fun e he => hready ⟨e, he⟩
    by_cases hhurry : timeout = 0
    · obtain ⟨hself, hlater⟩ := served.hurried hmissing hhurry
      rw [hself, hnone hlater]
      exact Nat.le_refl 1
    · obtain ⟨hself, hlater⟩ := served.waits hmissing hhurry
      rw [hself]
      exact length_answersTo_le_one hlater

theorem Reachable.answered_nodup (hroom : room.Reachable) (hlog : room.log = before ++ h :: after) :
    h.answered.Nodup := by
  obtain ⟨earlier, next, moves, hearlier, -, happens, -⟩ := hroom.cameThrough hlog
  exact happens.answered_nodup hearlier.numbered

/-- Who is answered has asked. -/
theorem Reachable.answersTo_eq_nil (hroom : room.Reachable) (hlog : room.log = before ++ h :: after)
    (hnot : reader ∉ readers (before ++ [h])) : h.answersTo reader = [] := by
  refine List.eq_nil_iff_forall_not_mem.2 fun e he => hnot ?_
  rw [readers_append]
  obtain ⟨w, hawaited, rfl, -⟩ | honce :=
    (hroom.mem_answers hlog reader e).1 (Happening.mem_answers he)
  · exact List.mem_append_left _ hawaited.reader_mem
  · exact List.mem_append_right _ (mem_readers List.mem_cons_self honce.reader_eq)

/-- Who has not asked has no answer. -/
theorem Reachable.answersTo_eq_nil_of_not_mem (hroom : room.Reachable)
    (hnot : reader ∉ readers room.log) : ∀ h ∈ room.log, h.answersTo reader = [] := by
  intro h hh
  obtain ⟨before, after, hlog⟩ := List.append_of_mem hh
  refine hroom.answersTo_eq_nil hlog fun hmem => hnot ?_
  have hsplit : before ++ h :: after = (before ++ [h]) ++ after := by
    rw [List.append_assoc, List.singleton_append]
  rw [hlog, hsplit, readers_append]
  exact List.mem_append_left _ hmem

/-- Nobody is answered before it has asked. -/
theorem Reachable.answersTo_early (hroom : room.Reachable)
    (hlog : room.log = before ++ h :: after) (hreader : h.cause.reader? = some reader) :
    ∀ x ∈ before, x.answersTo reader = [] := by
  intro x hx
  obtain ⟨earlier, later, rfl⟩ := List.append_of_mem hx
  have hnodup := hroom.numbered.readers_nodup
  rw [hlog] at hnodup
  have hnot := (not_mem_readers_of_split hreader hnodup).1
  have hlog' : room.log = earlier ++ x :: (later ++ h :: after) := by
    rw [hlog, List.append_assoc, List.cons_append]
  refine hroom.answersTo_eq_nil hlog' fun hmem => hnot ?_
  have hsplit : earlier ++ x :: later = (earlier ++ [x]) ++ later := by
    rw [List.append_assoc, List.singleton_append]
  rw [hsplit, readers_append]
  exact List.mem_append_left _ hmem

/-- What a reader is answered when it asks. -/
theorem Reachable.mem_answers_asking (hroom : room.Reachable)
    (hlog : room.log = before ++ h :: after) (hreader : h.cause.reader? = some reader)
    (e : CacheEntry) : (reader, e) ∈ h.answers ↔ h.AtOnce reader e := by
  have hnodup := hroom.numbered.readers_nodup
  rw [hlog] at hnodup
  have hnot := (not_mem_readers_of_split hreader hnodup).1
  rw [hroom.mem_answers hlog]
  refine or_iff_right ?_
  rintro ⟨w, hawaited, rfl, -⟩
  exact hnot hawaited.reader_mem

/-- What a reader is answered after it has asked. -/
theorem Reachable.mem_answers_later (hroom : room.Reachable)
    {earlier later : List Happening} {x : Happening}
    (hlog : room.log = before ++ h :: (earlier ++ x :: later))
    (hreader : h.cause.reader? = some reader) (e : CacheEntry) :
    (reader, e) ∈ x.answers ↔ ∃ w, (h.Asks w ∧ ∀ y ∈ earlier, y.settles w.group w.deadline = none) ∧
      x.settles w.group w.deadline = some e := by
  have hlog' : room.log = (before ++ h :: earlier) ++ x :: later := by
    rw [hlog, List.append_assoc, List.cons_append]
  have hnodup := hroom.numbered.readers_nodup
  have hnot : reader ∉ readers (earlier ++ x :: later) :=
    (not_mem_readers_of_split hreader (hlog ▸ hnodup)).2
  have hnodup' : (readers (before ++ h :: earlier)).Nodup := by
    rw [hlog', readers_append] at hnodup
    exact (List.nodup_append.1 hnodup).1
  rw [hroom.mem_answers hlog', or_iff_left]
  · refine exists_congr fun w => ?_
    rw [← and_assoc, awaited_iff_of_split hreader hnodup']
  · intro honce
    refine hnot ?_
    rw [readers_append, readers_cons honce.reader_eq]
    exact List.mem_append_right _ List.mem_cons_self

/-- Who need not wait is not answered later. -/
theorem Reachable.answersTo_later_of_not_asks (hroom : room.Reachable)
    (hlog : room.log = before ++ h :: after) (hreader : h.cause.reader? = some reader)
    (hnot : ∀ w, ¬ h.Asks w) : ∀ x ∈ after, x.answersTo reader = [] := by
  intro x hx
  obtain ⟨earlier, later, rfl⟩ := List.append_of_mem hx
  refine List.eq_nil_iff_forall_not_mem.2 fun e he => ?_
  obtain ⟨w, ⟨hasks, -⟩, -⟩ :=
    (hroom.mem_answers_later hlog hreader e).1 (Happening.mem_answers he)
  exact hnot w hasks

/-- Who waits is answered by the first happening that settles its question. -/
theorem Reachable.answersTo_later_of_asks (hroom : room.Reachable)
    {earlier later : List Happening} {x : Happening}
    (hlog : room.log = before ++ h :: (earlier ++ x :: later))
    (hcause : h.cause = .handled (.read g timeout maxAge reader))
    (hasks : h.Asks ⟨g, h.now + timeout, reader⟩) :
    ((∀ y ∈ earlier, y.settles g (h.now + timeout) = none) →
      x.answersTo reader = (x.settles g (h.now + timeout)).toList) ∧
    ((∃ y ∈ earlier, y.settles g (h.now + timeout) ≠ none) → x.answersTo reader = []) := by
  have hreader : h.cause.reader? = some reader := congrArg CacheCause.reader? hcause
  have hlog' : room.log = (before ++ h :: earlier) ++ x :: later := by
    rw [hlog, List.append_assoc, List.cons_append]
  have hanswers : ∀ e, (reader, e) ∈ x.answers ↔
      (∀ y ∈ earlier, y.settles g (h.now + timeout) = none) ∧
        x.settles g (h.now + timeout) = some e := fun e => by
    rw [hroom.mem_answers_later hlog hreader]
    constructor
    · rintro ⟨w, ⟨hw, hopen⟩, hsettles⟩
      obtain ⟨-, -, rfl⟩ := (Happening.asks_iff hcause).1 hw
      exact ⟨hopen, hsettles⟩
    · rintro ⟨hopen, hsettles⟩
      exact ⟨_, ⟨hasks, hopen⟩, hsettles⟩
  constructor
  · intro hopen
    exact Happening.answersTo_eq_toList (hroom.answered_nodup hlog') fun e =>
      (hanswers e).trans (and_iff_right hopen)
  · rintro ⟨y, hy, hsettled⟩
    refine List.eq_nil_iff_forall_not_mem.2 fun e he => hsettled ?_
    exact ((hanswers e).1 (Happening.mem_answers he)).1 y hy

/-- Every answer is about the group that was asked for. -/
theorem Reachable.group_of_answersTo (hroom : room.Reachable)
    (hlog : room.log = before ++ h :: after)
    (hcause : h.cause = .handled (.read g timeout maxAge reader)) :
    ∀ x ∈ before ++ h :: after, ∀ e ∈ x.answersTo reader, e.group = g := by
  have hreader : h.cause.reader? = some reader := congrArg CacheCause.reader? hcause
  intro x hx e he
  obtain hx | hx := List.mem_append.1 hx
  · rw [hroom.answersTo_early hlog hreader x hx] at he
    exact absurd he List.not_mem_nil
  · have hanswer := Happening.mem_answers he
    obtain rfl | hx := List.mem_cons.1 hx
    · rw [hroom.mem_answers_asking hlog hreader, Happening.atOnce_iff hcause] at hanswer
      obtain ⟨hready, -⟩ | ⟨-, -, rfl⟩ := hanswer
      · obtain ⟨earlier, next, moves, hearlier, -, happens, -⟩ := hroom.cameThrough hlog
        rw [happens.before_eq] at hready
        exact (hearlier.orderly.sorted.get?_eq_some.1 hready).2
      · rfl
    · obtain ⟨earlier, later, rfl⟩ := List.append_of_mem hx
      obtain ⟨w, ⟨hasks, -⟩, hsettles⟩ := (hroom.mem_answers_later hlog hreader e).1 hanswer
      obtain ⟨-, -, rfl⟩ := (Happening.asks_iff hcause).1 hasks
      exact Happening.group_of_settles hsettles

/-- **Whoever asks is served.** -/
theorem Reachable.served (hroom : room.Reachable) (hlog : room.log = before ++ h :: after)
    (hcause : h.cause = .handled (.read g timeout maxAge reader)) :
    Served before h after g timeout maxAge reader := by
  have hreader : h.cause.reader? = some reader := congrArg CacheCause.reader? hcause
  have hself : ∀ answer : Option CacheEntry, (∀ e, h.AtOnce reader e ↔ answer = some e) →
      h.answersTo reader = answer.toList := fun _ honce =>
    Happening.answersTo_eq_toList (hroom.answered_nodup hlog) fun e =>
      (hroom.mem_answers_asking hlog hreader e).trans (honce e)
  refine ⟨hroom.answersTo_early hlog hreader, ?_, ?_, ?_, hroom.group_of_answersTo hlog hcause⟩
  · intro e hready
    refine ⟨hself (some e) fun x => ?_, ?_⟩
    · rw [Happening.atOnce_iff hcause, or_iff_left fun ⟨hmissing, _⟩ => hmissing e hready]
      exact ⟨fun hx => hready.1.symm.trans hx.1, fun heq => Option.some.inj heq ▸ hready⟩
    · exact hroom.answersTo_later_of_not_asks hlog hreader fun w hasks =>
        ((Happening.asks_iff hcause).1 hasks).1 e hready
  · intro hmissing hhurry
    refine ⟨hself (some (.unknown g h.now)) fun x => ?_, ?_⟩
    · rw [Happening.atOnce_iff hcause, or_iff_right (hmissing x), Option.some_inj]
      exact ⟨fun hx => hx.2.2.symm, fun heq => ⟨hmissing, hhurry, heq.symm⟩⟩
    · exact hroom.answersTo_later_of_not_asks hlog hreader fun w hasks =>
        ((Happening.asks_iff hcause).1 hasks).2.1 hhurry
  · intro hmissing hpatience
    refine ⟨hself none fun x => ?_, fun earlier x later hafter => ?_⟩
    · rw [Happening.atOnce_iff hcause, or_iff_right (hmissing x)]
      exact ⟨fun hx => absurd hx.2.1 hpatience, nofun⟩
    · exact hroom.answersTo_later_of_asks (hafter ▸ hlog) hcause
        ((Happening.asks_iff hcause).2 ⟨hmissing, hpatience, rfl⟩)

/-! ## One answer, and no silence without waiting -/

/-- Nobody is answered twice. -/
theorem Reachable.answered_once (hroom : room.Reachable) (reader : Nat) :
    (room.log.flatMap (·.answersTo reader)).length ≤ 1 := by
  by_cases hasked : reader ∈ readers room.log
  · obtain ⟨h, hh, hreader⟩ := List.mem_filterMap.1 hasked
    obtain ⟨before, after, hlog⟩ := List.append_of_mem hh
    obtain ⟨g, timeout, maxAge, hcause⟩ := CacheCause.eq_of_reader? hreader
    rw [hlog]
    exact (hroom.served hlog hcause).length_le_one
  · have hnone : room.log.flatMap (·.answersTo reader) = [] :=
      List.flatMap_eq_nil_iff.2 (hroom.answersTo_eq_nil_of_not_mem hasked)
    rw [hnone]
    exact Nat.zero_le 1

/-- What was seen has application layer octets. -/
theorem Reachable.apdu_ne_nil (hroom : room.Reachable) (hlog : room.log = before ++ h :: after)
    {entry : CacheEntry} (hcause : h.cause = .handled (.observed entry)) : entry.apdu ≠ [] := by
  have hseen : entry ∈ sightings room.log := by
    refine List.mem_filterMap.2 ⟨h, ?_, congrArg CacheCause.observed? hcause⟩
    rw [hlog]
    exact List.mem_append_right before List.mem_cons_self
  have hbrought : entry ∈ room.brought :=
    hroom.sightings_eq ▸ List.mem_append_left _ hseen
  obtain ⟨⟨now, frame⟩, -, hsighting⟩ := List.mem_filterMap.1 hbrought
  obtain ⟨value, hvalue⟩ := (GroupCache.sighting?_eq_some.1 hsighting).value
  intro hnil
  rw [hnil] at hvalue
  obtain hvalue | hvalue := hvalue <;> cases hvalue

/-- That nobody answers is said of a group only when somebody has waited for it to the end. -/
theorem Reachable.silence_waited (hroom : room.Reachable) (hlog : room.log = before ++ h :: after)
    {e : CacheEntry} (hsilence : e = .unknown e.group e.received)
    (hnew : h.before.get? e.group ≠ some e) (hthere : h.after.get? e.group = some e) :
    h.cause = .looked ∧ ∃ w, Awaited before w ∧ w.group = e.group ∧ w.deadline ≤ h.now := by
  obtain ⟨earlier, next, moves, hearlier, -, happens, -⟩ := hroom.cameThrough hlog
  have hnote : h.after.contents = h.before.contents.note h := by
    rw [happens.after_eq, happens.before_eq]
    exact (happens.contents hearlier.orderly.sorted).2
  have hthere : h.before.contents.note h e.group = some e := hnote ▸ hthere
  obtain hbefore | hseen | ⟨hcause, reader, hpair⟩ := Contents.of_note hthere
  · exact absurd hbefore hnew
  · exact absurd (congrArg CacheEntry.apdu hsilence) (hroom.apdu_ne_nil hlog hseen)
  · obtain ⟨w, hawaited, -, hdue, rfl⟩ := (hroom.mem_answers_looking hlog hcause).1 hpair
    exact ⟨hcause, w, hawaited, rfl, hdue⟩

/-- A reader that has asked is still to be heard, or has been heard and is served. -/
theorem Reachable.pending_or_served (hroom : room.Reachable)
    (hasked : .read g timeout maxAge reader ∈ room.events) :
    .read g timeout maxAge reader ∈ room.cache.events ∧
        (∀ h ∈ room.log, h.answersTo reader = []) ∨
      ∃ before h after, room.log = before ++ h :: after ∧
        h.cause = .handled (.read g timeout maxAge reader) ∧
          Served before h after g timeout maxAge reader := by
  obtain hhandled | hpending := List.mem_append.1 hasked
  · obtain ⟨h, hh, hevent⟩ := List.mem_filterMap.1 hhandled
    have hcause := CacheCause.eq_of_event? hevent
    obtain ⟨before, after, hlog⟩ := List.append_of_mem hh
    exact .inr ⟨before, h, after, hlog, hcause, hroom.served hlog hcause⟩
  · have hnodup := hroom.numbered.nodup
    rw [events, List.filterMap_append, ← readers_eq] at hnodup
    have hnot : reader ∉ readers room.log := fun hmem =>
      (List.nodup_append.1 hnodup).2.2 reader hmem reader
        (List.mem_filterMap.2 ⟨_, hpending, rfl⟩) rfl
    exact .inl ⟨hpending, hroom.answersTo_eq_nil_of_not_mem hnot⟩

/-- **Every reader gets one answer, and the right one.**  A reader that has asked is still to be heard
and has no answer, or has been heard and is served; and nobody is answered twice.  That nobody answers
is entered for a group only by a look, and only if somebody has waited for that group from its
question to its deadline while no value of it was seen.  A turn hears everybody who has asked, in
order, and then looks. -/
theorem readers_answered_once (moves : List ReadingMove) :
    let room := run moves start
    (∀ earlier g timeout maxAge later, moves = earlier ++ .read g timeout maxAge :: later →
      let reader := (run earlier start).nextReader
      .read g timeout maxAge reader ∈ room.cache.events ∧
          (∀ h ∈ room.log, h.answersTo reader = []) ∨
        ∃ before h after, room.log = before ++ h :: after ∧
          h.cause = .handled (.read g timeout maxAge reader) ∧
            Served before h after g timeout maxAge reader) ∧
    (∀ reader, (room.log.flatMap (·.answersTo reader)).length ≤ 1) ∧
    (∀ before h after e, room.log = before ++ h :: after → e = .unknown e.group e.received →
      h.before.get? e.group ≠ some e → h.after.get? e.group = some e →
        h.cause = .looked ∧ ∃ w, Awaited before w ∧ w.group = e.group ∧ w.deadline ≤ h.now) ∧
    ∀ now, ∃ new last, run (room.turnMoves now) room =
        { room with cache := (room.cache.turn now).1, log := room.log ++ (new ++ [last]) } ∧
      (room.cache.turn now).1.events = [] ∧
      (new ++ [last]).flatMap (·.done) = (room.cache.turn now).2 ∧
      new.map (fun h => (h.now, h.cause)) = room.cache.events.map (fun e => (now, .handled e)) ∧
      last.now = now ∧ last.cause = .looked := by
  intro room
  have hroom : room.Reachable := ⟨moves, rfl⟩
  refine ⟨fun earlier g timeout maxAge later hmoves => ?_, hroom.answered_once,
    fun _ _ _ _ hlog => hroom.silence_waited hlog, fun now => ?_⟩
  · refine hroom.pending_or_served ?_
    have hcame : room = run later ((run earlier start).step (.read g timeout maxAge)) := by
      change run moves start = _
      rw [hmoves, run_append]
      rfl
    rw [hcame]
    refine (run_events_grow later _).mem ?_
    change _ ∈ ((run earlier start).enqueue _).events
    rw [enqueue_events]
    exact List.mem_append_right _ List.mem_cons_self
  · obtain ⟨new, last, hrun, hdone, hcauses, hlast⟩ := room.turn_run now
    exact ⟨new, last, hrun, turn_events room.cache now, hdone, hcauses, hlast⟩

/-- Two readers wait for a group.  The patience of one ends before a value is seen, the other gets the
value, and a third that comes later finds it. -/
def visit : List ReadingMove :=
  [.read ⟨2049⟩ 5 0, .handle 0, .read ⟨2049⟩ 9 0, .handle 1, .look 2, .look 6,
    .deliver 7 (.addressed (.group ⟨2049⟩) [0, 0x81]), .handle 7, .look 7,
    .read ⟨2049⟩ 0 3, .handle 8]

theorem readers_answered_once_visit :
    let value : CacheEntry := ⟨⟨2049⟩, .unset, [0, 0x81], 7⟩
    (run visit start).log.flatMap (·.answersTo 0) = [.unknown ⟨2049⟩ 6] ∧
    (run visit start).log.flatMap (·.answersTo 1) = [value] ∧
    (run visit start).log.flatMap (·.answersTo 2) = [value] ∧
    ∀ reader, ((run visit start).log.flatMap (·.answersTo reader)).length ≤ 1 :=
  ⟨by decide +kernel, by decide +kernel, by decide +kernel, (readers_answered_once visit).2.1⟩

end ReadingRoom
end KnxBus
