import KnxBus.Proofs.GroupCache.ReadingRoom

/-!
# Who waits, and what for

Whether a reader waits can be told from what has happened: it asked for a value when there was none
that was young enough, was ready to wait, and nothing has happened since that settles its question.
Two things do, a value of the group that is seen, and a look at its deadline or later
(`Happening.settles`).  The waiting list of a cache holds the readers that wait in this sense, and no
others (`Reachable.mem_waiting`).

With that, what is answered in a happening follows from the happening and from those before it
(`Reachable.mem_answers`): whoever waited gets what settles the question, and whoever asks for what
is there, or is not ready to wait, is answered at once.

All this is about sets.  That nobody is answered twice in one happening is because readers have
numbers of their own, in the order in which they asked (`Numbered`).
-/

namespace KnxBus

/-! ## Asking -/

/-- A table has an entry for a group that is young enough. -/
def CacheTable.Ready (t : CacheTable) (now : Nat) (g : GroupAddress) (maxAge : Nat)
    (e : CacheEntry) : Prop :=
  t.get? g = some e ∧ (maxAge = 0 ∨ e.age now ≤ maxAge)

namespace GroupCache

theorem fresh?_eq_some {c : GroupCache} {now : Nat} {g : GroupAddress} {maxAge : Nat}
    {e : CacheEntry} : c.fresh? now g maxAge = some e ↔ c.table.Ready now g maxAge e := by
  unfold fresh? CacheTable.Ready
  cases c.table.get? g with
  | none => simp
  | some x =>
    by_cases hold : maxAge ≠ 0 ∧ maxAge < x.age now
    · simp only [if_pos hold, reduceCtorEq, Option.some_inj, false_iff, not_and, not_or]
      rintro rfl
      exact ⟨hold.1, Nat.not_le.2 hold.2⟩
    · simp only [if_neg hold, Option.some_inj]
      refine ⟨?_, And.left⟩
      rintro rfl
      exact ⟨rfl, by omega⟩

/-- How asking for a value goes. -/
inductive Asked (c : GroupCache) (now : Nat) (g : GroupAddress) (timeout maxAge reader : Nat) :
    GroupCache × List CacheAction → Prop where
  /-- There is a value that is young enough. -/
  | ready (e : CacheEntry) (there : c.table.Ready now g maxAge e) :
    Asked c now g timeout maxAge reader (c, [.answer reader e])
  /-- There is none, and the reader does not wait. -/
  | hurried (missing : ∀ e, ¬ c.table.Ready now g maxAge e) (hurry : timeout = 0) :
    Asked c now g timeout maxAge reader (c, [.answer reader (.unknown g now)])
  /-- There is none, and the reader waits. -/
  | waits (missing : ∀ e, ¬ c.table.Ready now g maxAge e) (patience : timeout ≠ 0) :
    Asked c now g timeout maxAge reader
      ({ c with waiting := c.waiting ++ [⟨g, now + timeout, reader⟩] }, [.ask g])

theorem onRead_cases (c : GroupCache) (now : Nat) (g : GroupAddress) (timeout maxAge reader : Nat) :
    Asked c now g timeout maxAge reader (c.onRead now g timeout maxAge reader) := by
  unfold onRead
  cases hfresh : c.fresh? now g maxAge with
  | some e => exact .ready e (fresh?_eq_some.1 hfresh)
  | none =>
    have hmissing : ∀ e, ¬ c.table.Ready now g maxAge e := fun e he =>
      Option.some_ne_none e ((fresh?_eq_some.2 he).symm.trans hfresh)
    by_cases htimeout : timeout = 0
    · simp only [if_pos htimeout]
      exact .hurried hmissing htimeout
    · simp only [if_neg htimeout]
      exact .waits hmissing htimeout

end GroupCache

/-! ## Waiting -/

namespace Happening

/-- A reader asks and has to wait. -/
def Asks (h : Happening) (w : CacheWaiter) : Prop :=
  ∃ timeout maxAge, h.cause = .handled (.read w.group timeout maxAge w.reader) ∧
    (∀ e, ¬ h.before.Ready h.now w.group maxAge e) ∧ timeout ≠ 0 ∧ w.deadline = h.now + timeout

/-- A reader asks and is answered at once. -/
def AtOnce (h : Happening) (reader : Nat) (e : CacheEntry) : Prop :=
  ∃ g timeout maxAge, h.cause = .handled (.read g timeout maxAge reader) ∧
    (h.before.Ready h.now g maxAge e ∨
      (∀ x, ¬ h.before.Ready h.now g maxAge x) ∧ timeout = 0 ∧ e = .unknown g h.now)

section
variable {h : Happening} {g : GroupAddress} {timeout maxAge reader : Nat}

theorem asks_iff (hcause : h.cause = .handled (.read g timeout maxAge reader)) {w : CacheWaiter} :
    h.Asks w ↔ (∀ e, ¬ h.before.Ready h.now g maxAge e) ∧ timeout ≠ 0 ∧
      w = ⟨g, h.now + timeout, reader⟩ := by
  constructor
  · rintro ⟨t, m, hread, hmissing, hpatience, hdeadline⟩
    obtain ⟨g', deadline, reader'⟩ := w
    cases hcause.symm.trans hread
    cases hdeadline
    exact ⟨hmissing, hpatience, rfl⟩
  · rintro ⟨hmissing, hpatience, rfl⟩
    exact ⟨timeout, maxAge, hcause, hmissing, hpatience, rfl⟩

theorem atOnce_iff (hcause : h.cause = .handled (.read g timeout maxAge reader)) {e : CacheEntry} :
    h.AtOnce reader e ↔ h.before.Ready h.now g maxAge e ∨
      (∀ x, ¬ h.before.Ready h.now g maxAge x) ∧ timeout = 0 ∧ e = .unknown g h.now := by
  constructor
  · rintro ⟨g', t, m, hread, honce⟩
    cases hcause.symm.trans hread
    exact honce
  · exact fun honce => ⟨g, timeout, maxAge, hcause, honce⟩

end

/-- What settles the question of a reader who waits for a group until a deadline: a value of the
group, or the time. -/
def settles (h : Happening) (g : GroupAddress) (deadline : Nat) : Option CacheEntry :=
  match h.cause with
  | .handled (.observed entry) => if entry.group = g then some entry else none
  | .handled _ => none
  | .looked => if deadline ≤ h.now then some (.unknown g h.now) else none

theorem settles_iff_of_looked {h : Happening} (hcause : h.cause = .looked) {g : GroupAddress}
    {deadline : Nat} {e : CacheEntry} :
    h.settles g deadline = some e ↔ deadline ≤ h.now ∧ .unknown g h.now = e := by
  simp only [settles, hcause, Option.ite_none_right_eq_some, Option.some_inj]

theorem settles_iff_of_observed {h : Happening} {entry : CacheEntry}
    (hcause : h.cause = .handled (.observed entry)) {g : GroupAddress} {deadline : Nat}
    {e : CacheEntry} : h.settles g deadline = some e ↔ entry.group = g ∧ entry = e := by
  simp only [settles, hcause, Option.ite_none_right_eq_some, Option.some_inj]

/-- Whatever settles a question is about the group that was asked for. -/
theorem group_of_settles {h : Happening} {g : GroupAddress} {deadline : Nat} {e : CacheEntry}
    (hsettles : h.settles g deadline = some e) : e.group = g := by
  unfold settles at hsettles
  split at hsettles
  · split at hsettles
    · cases hsettles
      assumption
    · cases hsettles
  · cases hsettles
  · split at hsettles
    · cases hsettles
      rfl
    · cases hsettles

end Happening

/-- The readers that have asked for a value, in order. -/
def readers (log : List Happening) : List Nat := log.filterMap (·.cause.reader?)

theorem mem_readers {log : List Happening} {h : Happening} (hmem : h ∈ log) {reader : Nat}
    (hasks : h.cause.reader? = some reader) : reader ∈ readers log :=
  List.mem_filterMap.2 ⟨h, hmem, hasks⟩

theorem readers_eq (log : List Happening) :
    readers log = (handledEvents log).filterMap (·.reader?) := List.filterMap_filterMap.symm

theorem readers_cons {h : Happening} {reader : Nat} (hasks : h.cause.reader? = some reader)
    (later : List Happening) : readers (h :: later) = reader :: readers later :=
  List.filterMap_cons_some hasks

theorem readers_append (a b : List Happening) : readers (a ++ b) = readers a ++ readers b :=
  List.filterMap_append

theorem Happening.Asks.reader_eq {h : Happening} {w : CacheWaiter} (hasks : h.Asks w) :
    h.cause.reader? = some w.reader := by
  obtain ⟨timeout, maxAge, hcause, -⟩ := hasks
  rw [hcause]
  rfl

theorem Happening.AtOnce.reader_eq {h : Happening} {reader : Nat} {e : CacheEntry}
    (honce : h.AtOnce reader e) : h.cause.reader? = some reader := by
  obtain ⟨g, timeout, maxAge, hcause, -⟩ := honce
  rw [hcause]
  rfl

/-- A reader has asked, and nothing has settled its question since. -/
def Awaited (log : List Happening) (w : CacheWaiter) : Prop :=
  ∃ earlier asking later, log = earlier ++ asking :: later ∧ asking.Asks w ∧
    ∀ h ∈ later, h.settles w.group w.deadline = none

section
variable {log : List Happening} {h : Happening} {w : CacheWaiter}

theorem not_awaited_nil : ¬ Awaited [] w := by
  rintro ⟨earlier, asking, later, hnil, -⟩
  exact List.append_ne_nil_of_right_ne_nil earlier (List.cons_ne_nil asking later) hnil.symm

theorem awaited_singleton : Awaited [h] w ↔ h.Asks w := by
  constructor
  · rintro ⟨earlier, asking, later, hlog, hasks, -⟩
    obtain ⟨-, hsingle⟩ | ⟨-, hnil⟩ := List.singleton_eq_append_iff.1 hlog
    · cases hsingle
      exact hasks
    · exact absurd hnil (List.cons_ne_nil asking later)
  · exact fun hasks => ⟨[], h, [], rfl, hasks, nofun⟩

theorem awaited_append {l₁ l₂ : List Happening} :
    Awaited (l₁ ++ l₂) w ↔
      Awaited l₂ w ∨ Awaited l₁ w ∧ ∀ h ∈ l₂, h.settles w.group w.deadline = none := by
  constructor
  · rintro ⟨earlier, asking, later, hlog, hasks, hopen⟩
    obtain ⟨rest, rfl, hrest⟩ | ⟨rest, rfl, hrest⟩ := List.append_eq_append_iff.1 hlog
    · exact .inl ⟨rest, asking, later, hrest, hasks, hopen⟩
    · cases rest with
      | nil => exact .inl ⟨[], asking, later, hrest.symm, hasks, hopen⟩
      | cons x rest =>
        rw [List.cons_append, List.cons.injEq] at hrest
        obtain ⟨rfl, rfl⟩ := hrest
        refine .inr ⟨⟨earlier, asking, rest, rfl, hasks, fun h hh => ?_⟩, fun h hh => ?_⟩
        · exact hopen h (List.mem_append_left l₂ hh)
        · exact hopen h (List.mem_append_right rest hh)
  · rintro (⟨earlier, asking, later, rfl, hasks, hopen⟩ |
      ⟨⟨earlier, asking, later, rfl, hasks, hopen⟩, hlater⟩)
    · exact ⟨l₁ ++ earlier, asking, later, (List.append_assoc l₁ earlier _).symm, hasks, hopen⟩
    · refine ⟨earlier, asking, later ++ l₂, List.append_assoc earlier _ l₂, hasks, fun h hh => ?_⟩
      exact (List.mem_append.1 hh).elim (hopen h) (hlater h)

theorem Awaited.reader_mem (hawaited : Awaited log w) : w.reader ∈ readers log := by
  obtain ⟨earlier, asking, later, rfl, hasks, -⟩ := hawaited
  exact mem_readers (List.mem_append_right earlier List.mem_cons_self) hasks.reader_eq

end

namespace ReadingRoom

variable {room room' : ReadingRoom} {h : Happening}

/-- Who waits after a happening has asked in it, or has waited before and is still to be
answered. -/
theorem Happens.mem_waiting (happens : room.Happens h room') (w : CacheWaiter) :
    w ∈ room'.cache.waiting ↔
      h.Asks w ∨ w ∈ room.cache.waiting ∧ h.settles w.group w.deadline = none := by
  cases happens with
  | looked now =>
    rw [or_iff_right fun ⟨_, _, hcause, _⟩ => by cases hcause]
    change w ∈ room.cache.waiting.filter (fun w => !w.isDue now) ↔ _ ∧
      (if w.deadline ≤ now then some (CacheEntry.unknown w.group now) else none) = none
    simp [CacheWaiter.isDue]
  | handled now e later queue =>
    cases e with
    | observed entry =>
      rw [or_iff_right fun ⟨_, _, hcause, _⟩ => by cases hcause]
      change w ∈ room.cache.waiting.filter (fun w => w.group ≠ entry.group) ↔ _ ∧
        (if entry.group = w.group then some entry else none) = none
      rw [List.mem_filter, decide_eq_true_iff, ite_eq_right_iff]
      exact and_congr_right fun _ => ⟨fun hne heq => absurd heq.symm hne, fun h heq =>
        Option.some_ne_none entry (h heq.symm)⟩
    | read g timeout maxAge reader =>
      rw [Happening.asks_iff rfl]
      change w ∈ ((room.cache.withEvents later).onRead now g timeout maxAge reader).1.waiting ↔
        _ ∨ _ ∧ (none : Option CacheEntry) = none
      rw [and_iff_left rfl]
      have hasked := (room.cache.withEvents later).onRead_cases now g timeout maxAge reader
      generalize (room.cache.withEvents later).onRead now g timeout maxAge reader = result at hasked
      cases hasked with
      | ready e there => exact (or_iff_right fun ⟨hmissing, _⟩ => hmissing e there).symm
      | hurried missing hurry => exact (or_iff_right fun ⟨_, hpatience, _⟩ => hpatience hurry).symm
      | waits missing patience =>
        refine List.mem_append.trans (or_comm.trans (or_congr_left ?_))
        exact List.mem_singleton.trans
          ⟨fun heq => ⟨missing, patience, heq⟩, fun ⟨_, _, heq⟩ => heq⟩
    | _ =>
      rw [or_iff_right fun ⟨_, _, hcause, _⟩ => by cases hcause]
      exact (and_iff_left rfl).symm

/-- **Who waits, by the events.** -/
theorem Reachable.mem_waiting (hroom : room.Reachable) (w : CacheWaiter) :
    w ∈ room.cache.waiting ↔ Awaited room.log w := by
  refine Reachable.induction (P := fun room => w ∈ room.cache.waiting ↔ Awaited room.log w)
    ⟨fun h => absurd h List.not_mem_nil, fun h => absurd h not_awaited_nil⟩
    (fun room _ ih move => ?_) hroom
  obtain ⟨h, happens⟩ | ⟨hlog, -, hwaiting⟩ := (room.step_cases move).happens_or
  · rw [happens.mem_waiting, ih, happens.log_eq, awaited_append, awaited_singleton,
      List.forall_mem_singleton]
  · rw [hlog, hwaiting]
    exact ih

/-! ## Answers -/

/-- Who is answered in a happening has waited, or asks for what is there. -/
theorem Happens.mem_answers (happens : room.Happens h room') (reader : Nat) (e : CacheEntry) :
    (reader, e) ∈ h.answers ↔
      (∃ w ∈ room.cache.waiting, w.reader = reader ∧ h.settles w.group w.deadline = some e) ∨
        h.AtOnce reader e := by
  cases happens with
  | looked now =>
    rw [or_iff_left fun ⟨_, _, _, hcause, _⟩ => (by cases hcause)]
    change _ ∈ (room.cache.expire now).2.filterMap (·.answer?) ↔ _
    rw [GroupCache.expire_answers, List.mem_map]
    refine exists_congr fun w => ?_
    rw [List.mem_filter, CacheWaiter.isDue, decide_eq_true_iff, Prod.mk.injEq,
      Happening.settles_iff_of_looked rfl]
    exact ⟨fun ⟨⟨hw, hdue⟩, hreader, he⟩ => ⟨hw, hreader, hdue, he⟩,
      fun ⟨hw, hreader, hdue, he⟩ => ⟨⟨hw, hdue⟩, hreader, he⟩⟩
  | handled now event later queue =>
    cases event with
    | observed entry =>
      rw [or_iff_left fun ⟨_, _, _, hcause, _⟩ => (by cases hcause)]
      change _ ∈ ((room.cache.withEvents later).onObserved entry).2.filterMap (·.answer?) ↔ _
      rw [GroupCache.onObserved_answers, List.mem_map]
      refine exists_congr fun w => ?_
      rw [List.mem_filter, decide_eq_true_iff, Prod.mk.injEq,
        Happening.settles_iff_of_observed rfl]
      exact ⟨fun ⟨⟨hw, hgroup⟩, hreader, he⟩ => ⟨hw, hreader, hgroup.symm, he⟩,
        fun ⟨hw, hreader, hgroup, he⟩ => ⟨⟨hw, hgroup.symm⟩, hreader, he⟩⟩
    | read g timeout maxAge n =>
      rw [or_iff_right fun ⟨_, _, _, hsettles⟩ => (by cases hsettles)]
      change _ ∈ ((room.cache.withEvents later).onRead now g timeout maxAge n).2.filterMap
        (·.answer?) ↔ _
      have hasked := (room.cache.withEvents later).onRead_cases now g timeout maxAge n
      generalize (room.cache.withEvents later).onRead now g timeout maxAge n = result at hasked
      constructor
      · intro hmem
        cases hasked with
        | ready x there =>
          cases List.mem_singleton.1 hmem
          exact (Happening.atOnce_iff rfl).2 (.inl there)
        | hurried missing hurry =>
          cases List.mem_singleton.1 hmem
          exact (Happening.atOnce_iff rfl).2 (.inr ⟨missing, hurry, rfl⟩)
        | waits missing patience => exact absurd hmem List.not_mem_nil
      · intro honce
        cases honce.reader_eq
        obtain hready | ⟨hmissing, hhurry, rfl⟩ := (Happening.atOnce_iff rfl).1 honce
        · cases hasked with
          | ready x there =>
            cases Option.some.inj (there.1.symm.trans hready.1)
            exact List.mem_singleton_self _
          | hurried missing hurry => exact absurd hready (missing e)
          | waits missing patience => exact absurd hready (missing e)
        · cases hasked with
          | ready x there => exact absurd there (hmissing x)
          | hurried missing hurry => exact List.mem_singleton_self _
          | waits missing patience => exact absurd hhurry patience
    | _ =>
      constructor
      · exact fun hmem => absurd hmem List.not_mem_nil
      · rintro (⟨_, _, _, hsettles⟩ | ⟨_, _, _, hcause, _⟩)
        · cases hsettles
        · cases hcause

/-- **What is answered, by the events.** -/
theorem Reachable.mem_answers (hroom : room.Reachable) {before after : List Happening}
    (hlog : room.log = before ++ h :: after) (reader : Nat) (e : CacheEntry) :
    (reader, e) ∈ h.answers ↔
      (∃ w, Awaited before w ∧ w.reader = reader ∧ h.settles w.group w.deadline = some e) ∨
        h.AtOnce reader e := by
  obtain ⟨earlier, next, moves, hearlier, rfl, happens, -⟩ := hroom.cameThrough hlog
  rw [happens.mem_answers]
  simp only [hearlier.mem_waiting]

/-- A look answers those who have waited to the end. -/
theorem Reachable.mem_answers_looking (hroom : room.Reachable) {before after : List Happening}
    {reader : Nat} {e : CacheEntry} (hlog : room.log = before ++ h :: after)
    (hcause : h.cause = .looked) :
    (reader, e) ∈ h.answers ↔ ∃ w, Awaited before w ∧ w.reader = reader ∧
      w.deadline ≤ h.now ∧ .unknown w.group h.now = e := by
  rw [hroom.mem_answers hlog, or_iff_left]
  · simp only [Happening.settles_iff_of_looked hcause]
  · rintro ⟨g, timeout, maxAge, hread, -⟩
    cases hcause.symm.trans hread

/-! ## Numbers -/

/-- Each reader has a number of its own, and those that wait are in the order in which they asked. -/
structure Numbered (room : ReadingRoom) : Prop where
  /-- Nobody asks twice. -/
  nodup : (room.events.filterMap (·.reader?)).Nodup
  /-- No number is used that has not been given. -/
  lt_next : ∀ n ∈ room.events.filterMap (·.reader?), n < room.nextReader
  /-- Who waits has asked. -/
  waiting_sublist : (room.cache.waiting.map (·.reader)).Sublist (readers room.log)

theorem Happens.waiting_sublist (happens : room.Happens h room')
    (hwaiting : (room.cache.waiting.map (·.reader)).Sublist (readers room.log)) :
    (room'.cache.waiting.map (·.reader)).Sublist (readers room'.log) := by
  rw [happens.log_eq, readers_append]
  have hstay : ∀ waiting : List CacheWaiter, waiting.Sublist room.cache.waiting →
      (waiting.map (·.reader)).Sublist (readers room.log ++ readers [h]) := fun waiting hsub =>
    ((hsub.map _).trans hwaiting).trans (List.sublist_append_left _ _)
  cases happens with
  | looked now => exact hstay _ (List.filter_sublist)
  | handled now e later queue =>
    cases e with
    | observed entry => exact hstay _ (List.filter_sublist)
    | read g timeout maxAge reader =>
      change (((room.cache.withEvents later).onRead now g timeout maxAge reader).1.waiting.map
        (·.reader)).Sublist (_ ++ [reader])
      have hasked := (room.cache.withEvents later).onRead_cases now g timeout maxAge reader
      generalize (room.cache.withEvents later).onRead now g timeout maxAge reader = result at hasked
      cases hasked with
      | ready x there => exact hstay _ (List.Sublist.refl _)
      | hurried missing hurry => exact hstay _ (List.Sublist.refl _)
      | waits missing patience =>
        change ((room.cache.waiting ++ [_]).map CacheWaiter.reader).Sublist _
        rw [List.map_append]
        exact hwaiting.append (List.Sublist.refl _)
    | remove g => exact hstay _ (List.Sublist.refl _)
    | clear => exact hstay _ (List.Sublist.refl _)
    | snapshot reader => exact hstay _ (List.Sublist.refl _)

theorem start_numbered : start.Numbered :=
  ⟨List.nodup_nil, fun _ hn => absurd hn List.not_mem_nil, List.Sublist.refl _⟩

/-- A reader that asks gets a number that nobody has. -/
theorem Numbered.asked (hnumbered : room.Numbered) (g : GroupAddress) (timeout maxAge : Nat) :
    (room.step (.read g timeout maxAge)).Numbered := by
  have hreaders : (room.step (.read g timeout maxAge)).events.filterMap (·.reader?) =
      room.events.filterMap (·.reader?) ++ [room.nextReader] := by
    change (room.enqueue _).events.filterMap (·.reader?) = _
    rw [enqueue_events, List.filterMap_append]
    rfl
  refine ⟨?_, ?_, hnumbered.waiting_sublist⟩
  · rw [hreaders]
    refine List.nodup_append.2 ⟨hnumbered.nodup, List.pairwise_singleton _ _, fun n hn m hm heq => ?_⟩
    rw [List.mem_singleton.1 hm] at heq
    exact Nat.lt_irrefl _ (heq ▸ hnumbered.lt_next n hn)
  · intro n hn
    rw [hreaders] at hn
    obtain hn | hn := List.mem_append.1 hn
    · exact Nat.lt_succ_of_lt (hnumbered.lt_next n hn)
    · rw [List.mem_singleton.1 hn]
      exact Nat.lt_succ_self _

theorem Stepped.numbered (step : room.Stepped room') (hnumbered : room.Numbered) :
    room'.Numbered := by
  have hhappens : ∀ {h : Happening} {room' : ReadingRoom}, room.Happens h room' →
      room'.nextReader = room.nextReader → room'.Numbered := fun happens hnext =>
    ⟨happens.events_eq ▸ hnumbered.nodup, happens.events_eq ▸ hnext ▸ hnumbered.lt_next,
      happens.waiting_sublist hnumbered.waiting_sublist⟩
  cases step with
  | still => exact hnumbered
  | saw now frame =>
    have hreaders : (room.step (.deliver now frame)).events.filterMap (·.reader?) =
        room.events.filterMap (·.reader?) := by
      change (handledEvents room.log ++ (room.cache.deliver now frame).events).filterMap _ = _
      rw [GroupCache.deliver_events, ← List.append_assoc, List.filterMap_append]
      cases GroupCache.sighting? now frame <;> exact List.append_nil _
    have hwaiting := room.cache.deliver_waiting now frame
    exact ⟨hreaders ▸ hnumbered.nodup, hreaders ▸ hnumbered.lt_next,
      (congrArg (·.map CacheWaiter.reader) hwaiting) ▸ hnumbered.waiting_sublist⟩
  | asked g timeout maxAge => exact hnumbered.asked g timeout maxAge
  | told e nextReader unseen unread later =>
    have hreaders : (room.enqueue e).events.filterMap (·.reader?) =
        room.events.filterMap (·.reader?) := by
      rw [enqueue_events, List.filterMap_append, List.filterMap_cons_none unread]
      exact List.append_nil _
    exact ⟨hreaders ▸ hnumbered.nodup,
      fun n hn => Nat.lt_of_lt_of_le (hnumbered.lt_next n (hreaders ▸ hn)) later,
      hnumbered.waiting_sublist⟩
  | handled now e later queue => exact hhappens (.handled now e later queue) rfl
  | looked now => exact hhappens (.looked now) rfl

theorem Reachable.numbered (hroom : room.Reachable) : room.Numbered :=
  Reachable.induction (P := Numbered) start_numbered
    (fun room _ hnumbered move => (room.step_cases move).numbered hnumbered) hroom

theorem Numbered.readers_nodup (hnumbered : room.Numbered) : (readers room.log).Nodup := by
  have hnodup := hnumbered.nodup
  rw [events, List.filterMap_append, ← readers_eq] at hnodup
  exact (List.nodup_append.1 hnodup).1

/-- Nobody is answered twice in one happening. -/
theorem Happens.answered_nodup (happens : room.Happens h room') (hnumbered : room.Numbered) :
    h.answered.Nodup := by
  have hwaiting : (room.cache.waiting.map (·.reader)).Nodup :=
    hnumbered.readers_nodup.sublist hnumbered.waiting_sublist
  have hfilter : ∀ (p : CacheWaiter → Bool) (answer : CacheWaiter → CacheEntry),
      (((room.cache.waiting.filter p).map fun w => (w.reader, answer w)).map (·.1)).Nodup := by
    intro p answer
    rw [List.map_map]
    exact hwaiting.sublist (List.filter_sublist.map _)
  cases happens with
  | looked now =>
    change (((room.cache.expire now).2.filterMap (·.answer?)).map (·.1)).Nodup
    rw [GroupCache.expire_answers]
    exact hfilter _ _
  | handled now e later queue =>
    cases e with
    | observed entry =>
      change (((room.cache.withEvents later).onObserved entry).2.filterMap (·.answer?)).map
        (·.1) |>.Nodup
      rw [GroupCache.onObserved_answers]
      exact hfilter _ _
    | read g timeout maxAge reader =>
      change ((((room.cache.withEvents later).onRead now g timeout maxAge reader).2.filterMap
        (·.answer?)).map (·.1)).Nodup
      have hasked := (room.cache.withEvents later).onRead_cases now g timeout maxAge reader
      generalize (room.cache.withEvents later).onRead now g timeout maxAge reader = result at hasked
      cases hasked with
      | ready x there => exact List.pairwise_singleton _ _
      | hurried missing hurry => exact List.pairwise_singleton _ _
      | waits missing patience => exact List.nodup_nil
    | remove g => exact List.nodup_nil
    | clear => exact List.nodup_nil
    | snapshot reader => exact List.nodup_nil

end ReadingRoom
end KnxBus
