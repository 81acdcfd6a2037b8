import KnxBus.Proofs.Dispatch.Listening
import KnxBus.Proofs.GroupCache.Awaiting

/-!
# What a cache knows

What a cache knows follows from what has happened to it, and from nothing else: a value that was seen
replaces what was known of its group, so does the answer to a reader whose patience has ended, and to
forget is to forget.  The map from groups to entries that comes of this (`Contents.ofLog`) is what the
table holds, whatever was done in whatever order, and the table has it in ascending order.

Each entry has an origin.  Either nobody answered, or it is the last value of its group that was seen.
Values are seen in the order of the frames that bring them (`Reachable.sightings_eq`), and a frame
brings one exactly if it is addressed to a group and writes a value or gives one
(`sighting?_eq_some`).
-/

namespace KnxBus

/-! ## Contents -/

/-- An entry for each group about which something is known. -/
def Contents : Type := GroupAddress → Option CacheEntry

namespace Contents

/-- Nothing is known. -/
def empty : Contents := fun _ => none

/-- Something becomes known, and replaces what was known before. -/
def put (m : Contents) (e : CacheEntry) : Contents := fun g => if g = e.group then some e else m g

/-- A group is forgotten. -/
def drop (m : Contents) (forgotten : GroupAddress) : Contents :=
  fun g => if g = forgotten then none else m g

/-- What is known after a happening. -/
def note (m : Contents) (h : Happening) : Contents :=
  match h.cause with
  | .handled (.observed entry) => m.put entry
  | .handled (.remove g) => m.drop g
  | .handled .clear => empty
  | .handled (.read _ _ _ _) => m
  | .handled (.snapshot _) => m
  | .looked => (h.answers.map (·.2)).foldl put m

/-- What is known after all that has happened. -/
def ofLog (log : List Happening) : Contents := log.foldl note empty

theorem ofLog_concat (log : List Happening) (h : Happening) :
    ofLog (log ++ [h]) = (ofLog log).note h := List.foldl_append

/-- What is known after several entries have become known is one of them, or was known before. -/
theorem of_foldl_put {entries : List CacheEntry} {m : Contents} {g : GroupAddress} {e : CacheEntry}
    (h : entries.foldl put m g = some e) : (e ∈ entries ∧ e.group = g) ∨ m g = some e := by
  induction entries generalizing m with
  | nil => exact .inr h
  | cons x later ih =>
    obtain ⟨hlater, hgroup⟩ | hput := ih h
    · exact .inl ⟨List.mem_cons_of_mem x hlater, hgroup⟩
    · by_cases hg : g = x.group
      · rw [put, if_pos hg] at hput
        cases hput
        exact .inl ⟨List.mem_cons_self, hg.symm⟩
      · rw [put, if_neg hg] at hput
        exact .inr hput

/-- If all that becomes known of a group is the same, it is known afterwards. -/
theorem foldl_put_of_mem {entries : List CacheEntry} {e : CacheEntry} (hmem : e ∈ entries)
    (hsame : ∀ x ∈ entries, x.group = e.group → x = e) (m : Contents) :
    entries.foldl put m e.group = some e := by
  induction entries generalizing m with
  | nil => exact absurd hmem List.not_mem_nil
  | cons x later ih =>
    by_cases hlater : e ∈ later
    · exact ih hlater (fun y hy => hsame y (List.mem_cons_of_mem x hy)) _
    · -- nothing behind it is about the group
      obtain rfl := (List.mem_cons.1 hmem).resolve_right hlater
      have hothers : ∀ y ∈ later, y.group ≠ e.group := fun y hy hgroup =>
        hlater (hsame y (List.mem_cons_of_mem e hy) hgroup ▸ hy)
      have hput : m.put e e.group = some e := if_pos rfl
      rw [List.foldl_cons]
      refine List.foldlRecOn (motive := fun m => m e.group = some e) later put hput ?_
      intro m hm y hy
      exact (if_neg (hothers y hy).symm).trans hm

/-- What is known is what was known before, or it was seen, or it was said to a reader whose patience
had ended. -/
theorem of_note {m : Contents} {h : Happening} {g : GroupAddress} {e : CacheEntry}
    (he : m.note h g = some e) :
    m g = some e ∨ h.cause = .handled (.observed e) ∨
      h.cause = .looked ∧ ∃ reader, (reader, e) ∈ h.answers := by
  unfold note at he
  cases hcause : h.cause with
  | looked =>
    rw [hcause] at he
    obtain ⟨hanswer, -⟩ | hbefore := of_foldl_put he
    · obtain ⟨⟨reader, _⟩, hpair, rfl⟩ := List.mem_map.1 hanswer
      exact .inr (.inr ⟨rfl, reader, hpair⟩)
    · exact .inl hbefore
  | handled event =>
    rw [hcause] at he
    cases event with
    | observed entry =>
      by_cases hg : g = entry.group
      · cases (if_pos hg).symm.trans he
        exact .inr (.inl rfl)
      · exact .inl ((if_neg hg).symm.trans he)
    | read g' timeout maxAge reader => exact .inl he
    | remove g' =>
      by_cases hg : g = g'
      · cases (if_pos hg).symm.trans he
      · exact .inl ((if_neg hg).symm.trans he)
    | clear => cases he
    | snapshot reader => exact .inl he

theorem of_foldl_note {log : List Happening} {m : Contents} {g : GroupAddress} {e : CacheEntry}
    (he : log.foldl note m g = some e) :
    m g = some e ∨ ∃ h ∈ log, h.cause = .handled (.observed e) ∨
      h.cause = .looked ∧ ∃ reader, (reader, e) ∈ h.answers := by
  induction log generalizing m with
  | nil => exact .inl he
  | cons h later ih =>
    obtain hnoted | ⟨x, hx, hcause⟩ := ih he
    · exact (of_note hnoted).imp_right fun hcause => ⟨h, List.mem_cons_self, hcause⟩
    · exact .inr ⟨x, List.mem_cons_of_mem h hx, hcause⟩

end Contents

namespace CacheTable
variable {t : CacheTable}

/-- What a table holds, seen as a map. -/
def contents (t : CacheTable) : Contents := t.get?

theorem empty_contents : empty.contents = .empty := funext fun _ => get?_empty

theorem Sorted.insert_contents (h : t.Sorted) (e : CacheEntry) :
    (t.insert e).contents = t.contents.put e := funext (h.get?_insert e)

theorem Sorted.erase_contents (h : t.Sorted) (g : GroupAddress) :
    (t.erase g).contents = t.contents.drop g := funext (h.get?_erase g)

/-- One entry after the other is inserted. -/
theorem Sorted.foldl_insert (h : t.Sorted) (entries : List CacheEntry) :
    (entries.foldl CacheTable.insert t).Sorted ∧
      (entries.foldl CacheTable.insert t).contents = entries.foldl .put t.contents := by
  induction entries generalizing t with
  | nil => exact ⟨h, rfl⟩
  | cons e later ih =>
    rw [List.foldl_cons, List.foldl_cons, ← h.insert_contents]
    exact ih (h.insert e)

end CacheTable

/-! ## Entries and happenings -/

/-- A look inserts what it answers. -/
theorem GroupCache.expire_table (c : GroupCache) (now : Nat) :
    (c.expire now).1.table =
      (((c.expire now).2.filterMap (·.answer?)).map (·.2)).foldl CacheTable.insert c.table := by
  rw [expire_answers, List.map_map, List.foldl_map]
  rfl

namespace ReadingRoom

variable {room room' : ReadingRoom} {h : Happening}

/-- The table follows what happens. -/
theorem Happens.contents (happens : room.Happens h room') (hsorted : room.cache.table.Sorted) :
    room'.cache.table.Sorted ∧ room'.cache.table.contents = room.cache.table.contents.note h := by
  cases happens with
  | handled now e later queue =>
    cases e with
    | observed entry => exact ⟨hsorted.insert entry, hsorted.insert_contents entry⟩
    | read g timeout maxAge reader =>
      have hsame : (room.record now (.handled (.read g timeout maxAge reader))
          ((room.cache.withEvents later).onRead now g timeout maxAge reader)).cache.table =
          room.cache.table := GroupCache.onRead_table _ _ _ _ _ _
      exact ⟨hsame.symm ▸ hsorted, congrArg CacheTable.contents hsame⟩
    | remove g => exact ⟨hsorted.erase g, hsorted.erase_contents g⟩
    | clear => exact ⟨CacheTable.empty_sorted, CacheTable.empty_contents⟩
    | snapshot reader => exact ⟨hsorted, rfl⟩
  | looked now =>
    have htable : (room.look now).cache.table = _ := room.cache.expire_table now
    rw [htable]
    exact hsorted.foldl_insert _

/-- What holds of the entries in every room. -/
structure Orderly (room : ReadingRoom) : Prop where
  /-- They are in ascending order. -/
  sorted : room.cache.table.Sorted
  /-- They are what follows from what has happened. -/
  contents_eq : room.cache.table.contents = .ofLog room.log

theorem Reachable.orderly (hroom : room.Reachable) : room.Orderly := by
  refine hroom.induction ⟨CacheTable.empty_sorted, CacheTable.empty_contents⟩ ?_
  intro room _ horderly move
  obtain ⟨h, happens⟩ | ⟨hlog, htable, -⟩ := (room.step_cases move).happens_or
  · obtain ⟨hsorted, hnote⟩ := happens.contents horderly.sorted
    refine ⟨hsorted, ?_⟩
    rw [happens.log_eq, Contents.ofLog_concat, ← horderly.contents_eq, hnote]
  · exact ⟨htable.symm ▸ horderly.sorted, by rw [hlog, htable, horderly.contents_eq]⟩

end ReadingRoom

/-! ## Where entries come from -/

/-- A frame brings a value to a group: it is addressed to it, and its unnumbered data write the value
or give it. -/
structure Frame.Brings (frame : Frame) (now : Nat) (entry : CacheEntry) : Prop where
  /-- It is addressed to the group. -/
  destination_eq : frame.destination = .group entry.group
  /-- Its data are those that are remembered. -/
  payload_eq : Tpdu.decode frame.payload = .ok (.dataUnnumbered entry.apdu)
  /-- They write a value or give one. -/
  value : ∃ value, Apdu.decode entry.apdu = .ok (.groupValueWrite value) ∨
    Apdu.decode entry.apdu = .ok (.groupValueResponse value)
  /-- Its sender is remembered. -/
  source_eq : entry.source = frame.source
  /-- The time is remembered. -/
  received_eq : entry.received = now

theorem Apdu.groupValue?_isSome {unit : Apdu} :
    unit.groupValue?.isSome ↔
      ∃ value, unit = .groupValueWrite value ∨ unit = .groupValueResponse value := by
  constructor
  · intro h
    cases unit with
    | groupValueWrite value => exact ⟨value, .inl rfl⟩
    | groupValueResponse value => exact ⟨value, .inr rfl⟩
    | _ => cases h
  · rintro ⟨value, rfl | rfl⟩ <;> rfl

/-- **A cache sees just the frames that bring a value.** -/
theorem GroupCache.sighting?_eq_some {now : Nat} {frame : Frame} {entry : CacheEntry} :
    sighting? now frame = some entry ↔ frame.Brings now entry := by
  unfold sighting?
  constructor
  · intro h
    split at h
    · rename_i g apdu hdestination hpayload
      split at h
      · rename_i unit hunit
        split at h
        · rename_i hvalue
          cases h
          obtain ⟨value, heq⟩ := Apdu.groupValue?_isSome.1 hvalue
          refine ⟨hdestination, Frame.unnumbered?_eq_some.1 hpayload, ⟨value, ?_⟩, rfl, rfl⟩
          exact heq.imp (fun heq => hunit.trans (congrArg _ heq)) fun heq =>
            hunit.trans (congrArg _ heq)
        · cases h
      · cases h
    · cases h
  · rintro ⟨hdestination, hpayload, ⟨value, hvalue⟩, hsource, hreceived⟩
    obtain ⟨g, source, apdu, received⟩ := entry
    cases hsource
    cases hreceived
    rw [hdestination, Frame.unnumbered?_eq_some.2 hpayload]
    obtain hvalue | hvalue := hvalue
    all_goals
      simp only [hvalue]
      rfl

/-- The values that were seen, in the order in which they were noted. -/
def sightings (log : List Happening) : List CacheEntry := log.filterMap (·.cause.observed?)

/-- The last value of a group that was seen. -/
def lastSighting (log : List Happening) (g : GroupAddress) : Option CacheEntry :=
  ((sightings log).filter (·.group = g)).getLast?

theorem sightings_eq (log : List Happening) :
    sightings log = (handledEvents log).filterMap (·.observed?) := List.filterMap_filterMap.symm

theorem sightings_concat (log : List Happening) (h : Happening) :
    sightings (log ++ [h]) = sightings log ++ h.cause.observed?.toList := by
  rw [sightings, List.filterMap_append]
  cases hseen : h.cause.observed? <;> simp [sightings, hseen]

theorem lastSighting_concat_of_eq {log : List Happening} {h : Happening} {entry : CacheEntry}
    (hseen : h.cause.observed? = some entry) :
    lastSighting (log ++ [h]) entry.group = some entry := by
  rw [lastSighting, sightings_concat, hseen, List.filter_append]
  have hself : [entry].filter (·.group = entry.group) = [entry] :=
    List.filter_cons_of_pos (decide_eq_true rfl)
  exact hself ▸ List.getLast?_concat

theorem lastSighting_concat_of_ne {log : List Happening} {h : Happening} {g : GroupAddress}
    (hother : ∀ entry, h.cause.observed? = some entry → g ≠ entry.group) :
    lastSighting (log ++ [h]) g = lastSighting log g := by
  have hnone : h.cause.observed?.toList.filter (·.group = g) = [] :=
    List.filter_eq_nil_iff.2 fun entry hentry heq =>
      hother entry (Option.mem_toList.1 hentry) (of_decide_eq_true heq).symm
  rw [lastSighting, sightings_concat, List.filter_append, hnone, List.append_nil, lastSighting]

/-- The values that were seen and have not been noted. -/
def GroupCache.pendingSightings (c : GroupCache) : List CacheEntry :=
  c.events.filterMap (·.observed?)

namespace ReadingRoom

variable {room room' : ReadingRoom} {h : Happening}

/-- The values that the frames have brought. -/
def brought (room : ReadingRoom) : List CacheEntry :=
  room.seen.filterMap fun (now, frame) => GroupCache.sighting? now frame

/-- The values among all events that have come are those that the frames have brought, in order. -/
def InOrder (room : ReadingRoom) : Prop :=
  room.events.filterMap (·.observed?) = room.brought

theorem deliver_brought (room : ReadingRoom) (now : Nat) (frame : Frame) :
    (room.step (.deliver now frame)).brought =
      room.brought ++ (GroupCache.sighting? now frame).toList := by
  rw [brought, step, List.filterMap_append]
  cases hsighting : GroupCache.sighting? now frame <;> simp [hsighting, brought]

theorem Stepped.inOrder (step : room.Stepped room') (horder : room.InOrder) : room'.InOrder := by
  have hunseen : ∀ e : CacheEvent, e.observed? = none →
      (room.enqueue e).events.filterMap (·.observed?) = room.brought := fun e he => by
    rw [enqueue_events, List.filterMap_append, List.filterMap_cons_none he]
    exact (List.append_nil _).trans horder
  cases step with
  | still => exact horder
  | saw now frame =>
    have hsighting : ((GroupCache.sighting? now frame).toList.map CacheEvent.observed).filterMap
        (·.observed?) = (GroupCache.sighting? now frame).toList := by
      rw [List.filterMap_map]
      exact List.filterMap_some
    change (handledEvents room.log ++ (room.cache.deliver now frame).events).filterMap _ =
      (room.step (.deliver now frame)).brought
    rw [GroupCache.deliver_events, ← List.append_assoc, List.filterMap_append, hsighting,
      deliver_brought]
    exact congrArg (· ++ _) horder
  | asked g timeout maxAge => exact hunseen _ rfl
  | told e nextReader unseen unread later => exact hunseen e unseen
  | handled now e later queue =>
    rw [InOrder, (Happens.handled now e later queue).events_eq]
    exact horder
  | looked now =>
    rw [InOrder, (Happens.looked now).events_eq]
    exact horder

/-- Values are noted in the order of the frames that bring them, and none is left out. -/
theorem Reachable.sightings_eq (hroom : room.Reachable) :
    sightings room.log ++ room.cache.pendingSightings = room.brought := by
  have horder : room.InOrder := Reachable.induction (P := InOrder) rfl
    (fun room _ horder move => (room.step_cases move).inOrder horder) hroom
  rw [KnxBus.sightings_eq, GroupCache.pendingSightings, ← List.filterMap_append]
  exact horder

/-- A look makes entries of nothing but silence. -/
theorem Happens.silence (happens : room.Happens h room') (hcause : h.cause = .looked) :
    ∀ e ∈ h.answers.map (·.2), e = .unknown e.group e.received := by
  cases happens with
  | handled now e later queue => cases hcause
  | looked now =>
    rw [Happening.answers, GroupCache.expire_answers, List.map_map, List.forall_mem_map]
    exact fun w _ => rfl

/-- What is known of a group is the last value that was seen, unless nobody has answered. -/
def Sourced (room : ReadingRoom) : Prop :=
  ∀ g e, Contents.ofLog room.log g = some e →
    e = .unknown g e.received ∨ lastSighting room.log g = some e

theorem Happens.sourced (happens : room.Happens h room') (hsourced : room.Sourced) :
    room'.Sourced := by
  intro g e he
  rw [happens.log_eq] at he ⊢
  rw [Contents.ofLog_concat, Contents.note] at he
  -- as long as no value of the group is seen, what was known comes from where it came from
  have hold : Contents.ofLog room.log g = some e →
      (∀ entry, h.cause.observed? = some entry → g ≠ entry.group) →
        e = .unknown g e.received ∨ lastSighting (room.log ++ [h]) g = some e := by
    intro he hother
    rw [lastSighting_concat_of_ne hother]
    exact hsourced g e he
  cases hcause : h.cause with
  | looked =>
    rw [hcause] at he hold
    obtain ⟨hanswer, hgroup⟩ | he := Contents.of_foldl_put he
    · exact .inl (hgroup ▸ happens.silence hcause e hanswer)
    · exact hold he nofun
  | handled event =>
    rw [hcause] at he hold
    cases event with
    | observed entry =>
      by_cases hg : g = entry.group
      · have heq : entry = e := Option.some.inj ((if_pos hg).symm.trans he)
        refine .inr ?_
        rw [hg, ← heq]
        exact lastSighting_concat_of_eq (congrArg CacheCause.observed? hcause)
      · refine hold ((if_neg hg).symm.trans he) fun x hx => ?_
        cases hx
        exact hg
    | read g' timeout maxAge reader => exact hold he nofun
    | remove g' =>
      by_cases hg : g = g'
      · cases (if_pos hg).symm.trans he
      · exact hold ((if_neg hg).symm.trans he) nofun
    | clear => cases he
    | snapshot reader => exact hold he nofun

theorem Reachable.sourced (hroom : room.Reachable) : room.Sourced := by
  refine Reachable.induction (P := Sourced) nofun (fun room _ hsourced move => ?_) hroom
  obtain ⟨h, happens⟩ | ⟨hlog, -⟩ := (room.step_cases move).happens_or
  · exact happens.sourced hsourced
  · intro g e he
    rw [hlog] at he ⊢
    exact hsourced g e he

/-- All entries that are listed are what was known when they were asked for, in order. -/
theorem Reachable.listed (hroom : room.Reachable) {before after : List Happening} {reader : Nat}
    (hlog : room.log = before ++ h :: after) (hcause : h.cause = .handled (.snapshot reader)) :
    ∃ entries, h.done = [.list reader entries] ∧ Ascending entries ∧
      ∀ e, e ∈ entries ↔ Contents.ofLog before e.group = some e := by
  obtain ⟨earlier, next, moves, hearlier, rfl, happens, -⟩ := hroom.cameThrough hlog
  have horderly := hearlier.orderly
  refine ⟨earlier.cache.table.toList, ?_, horderly.sorted, fun e => ?_⟩
  · cases happens with
    | handled now event later queue =>
      cases hcause
      rfl
    | looked now => cases hcause
  · rw [← horderly.contents_eq]
    exact (and_iff_left rfl).symm.trans horderly.sorted.get?_eq_some.symm

/-- **A cache is a map in order.**  Whatever happens to a cache, its entries stand in ascending order
of their groups, and looking for a group finds its entry exactly if there is one.  What is found is
what follows from what has happened: values that were seen and answers to readers whose patience has
ended replace what was known, and what was to be forgotten is forgotten.  Whoever asks for all entries
is given the whole map in order, and a look answers just those who have waited until then or longer.
Each entry says that nobody has answered, or is the last value of its group that was seen; and the
values that were seen, together with those that wait to be noted, are those of the frames that brought
one, in their order. -/
theorem entries_are_a_map (moves : List ReadingMove) :
    let room := run moves start
    Ascending room.cache.table.toList ∧
    (∀ g e, room.cache.table.get? g = some e ↔ e ∈ room.cache.table.toList ∧ e.group = g) ∧
    (∀ g, room.cache.table.get? g = Contents.ofLog room.log g) ∧
    (∀ before h after reader, room.log = before ++ h :: after →
      h.cause = .handled (.snapshot reader) →
        ∃ entries, h.done = [.list reader entries] ∧ Ascending entries ∧
          ∀ e, e ∈ entries ↔ Contents.ofLog before e.group = some e) ∧
    (∀ before h after reader e, room.log = before ++ h :: after → h.cause = .looked →
      ((reader, e) ∈ h.answers ↔ ∃ w, Awaited before w ∧ w.reader = reader ∧
        w.deadline ≤ h.now ∧ .unknown w.group h.now = e)) ∧
    (∀ e ∈ room.cache.table.toList,
      e = .unknown e.group e.received ∨ lastSighting room.log e.group = some e) ∧
    sightings room.log ++ room.cache.pendingSightings = room.brought ∧
    ∀ now frame e, GroupCache.sighting? now frame = some e ↔ frame.Brings now e := by
  intro room
  have hroom : room.Reachable := ⟨moves, rfl⟩
  obtain ⟨hsorted, hcontents⟩ := hroom.orderly
  refine ⟨hsorted, fun _ _ => hsorted.get?_eq_some, congrFun hcontents,
    fun _ _ _ _ => hroom.listed, fun _ _ _ _ _ => hroom.mem_answers_looking, fun e he => ?_,
    hroom.sightings_eq, fun _ _ _ => GroupCache.sighting?_eq_some⟩
  refine hroom.sourced e.group e ?_
  rw [← hcontents]
  exact hsorted.get?_eq_some.2 ⟨he, rfl⟩

/-- Values of three groups are seen out of order, one of the groups is forgotten, nobody answers for
another, and somebody asks for all entries. -/
def outOfOrder : List ReadingMove :=
  [.deliver 0 (.addressed (.group ⟨2051⟩) [0, 0x81]), .handle 0,
    .deliver 1 (.addressed (.group ⟨2049⟩) [0, 0x41]), .handle 1,
    .deliver 2 (.addressed (.group ⟨2050⟩) [0, 0x80]), .handle 2,
    .remove ⟨2051⟩, .handle 3, .read ⟨2050⟩ 4 1, .handle 4, .look 8, .snapshot, .handle 9]

theorem entries_are_a_map_outOfOrder :
    let entries : List CacheEntry := [⟨⟨2049⟩, .unset, [0, 0x41], 1⟩, .unknown ⟨2050⟩ 8]
    (run outOfOrder start).cache.table.toList = entries ∧
    ((run outOfOrder start).log.map (·.done)).getLast? = some [.list 1 entries] ∧
    Ascending (run outOfOrder start).cache.table.toList ∧
    ∀ g, (run outOfOrder start).cache.table.get? g =
      Contents.ofLog (run outOfOrder start).log g :=
  ⟨by decide +kernel, by decide +kernel, (entries_are_a_map outOfOrder).1,
    (entries_are_a_map outOfOrder).2.2.1⟩

end ReadingRoom
end KnxBus
