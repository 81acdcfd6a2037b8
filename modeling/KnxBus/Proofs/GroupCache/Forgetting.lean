import KnxBus.Proofs.GroupCache.Answers
import KnxBus.Proofs.GroupCache.Branch

/-!
# What a disabled cache knows

A cache that is disabled forgets everything, but does not stay without entries.  Disabling ends the
subscription and empties the table; it does not touch the readers.  Whoever was blocked then goes on
waiting, and when its patience ends the cache enters for the group that nobody has answered, whether
it is enabled or not.  The other thing that outlives the call is what the desk had heard before: a
frame that stands in its queue ahead of the end of the subscription is still handed to the cache, and
its value is noted behind the order to forget.

Nothing else is entered.  Let no subscription of the cache have been granted since a time at which it
was not enabled and nobody was about it (`Quiet`).  Then all subscriptions that still lead to it end
with what stood in the queue of the desk at that time, so only frames from there reach it; and as it
turns its readers away, whoever is answered by a look had asked before.  So a disabled cache has no
entries if nobody was blocked and no value was on its way when it was disabled, and one blocked reader
is enough to give it an entry.
-/

namespace KnxBus

variable {σ τ : Type}

/-! ## Blocked readers -/

namespace ReadingRoom

/-- A reader has asked for a group and has not been answered. -/
def Blocked (room : ReadingRoom) (g : GroupAddress) (reader : Nat) : Prop :=
  (∃ timeout maxAge, .read g timeout maxAge reader ∈ room.events) ∧
    ∀ h ∈ room.log, h.answersTo reader = []

theorem mem_answersTo {h : Happening} {reader : Nat} {e : CacheEntry} :
    e ∈ h.answersTo reader ↔ (reader, e) ∈ h.answers :=
  ⟨Happening.mem_answers, fun he =>
    List.mem_map.2 ⟨(reader, e), List.mem_filter.2 ⟨he, decide_eq_true rfl⟩, rfl⟩⟩

section
variable {room : ReadingRoom} {before after : List Happening} {h : Happening} {reader : Nat}
  {e : CacheEntry}

/-- Who is answered has had no answer before. -/
theorem Reachable.unanswered_before (hroom : room.Reachable) (hlog : room.log = before ++ after)
    (hh : h ∈ after) (he : e ∈ h.answersTo reader) : ∀ x ∈ before, x.answersTo reader = [] := by
  have honce := hroom.answered_once reader
  have hself : 0 < (after.flatMap (·.answersTo reader)).length :=
    List.length_pos_of_mem (List.mem_flatMap.2 ⟨h, hh, he⟩)
  rw [hlog, List.flatMap_append, List.length_append] at honce
  exact List.flatMap_eq_nil_iff.1 (List.length_eq_zero_iff.1 (by omega))

/-- Who is answered by a look has asked for the group, and is told that nobody has answered. -/
theorem Reachable.asked_of_looked (hroom : room.Reachable) (hh : h ∈ room.log)
    (hcause : h.cause = .looked) (he : (reader, e) ∈ h.answers) :
    e = .unknown e.group e.received ∧
      ∃ timeout maxAge, .read e.group timeout maxAge reader ∈ room.events := by
  obtain ⟨earlier, later, hlog⟩ := List.append_of_mem hh
  obtain ⟨w, ⟨before, asking, between, rfl, hasks, -⟩, rfl, -, rfl⟩ :=
    (hroom.mem_answers_looking hlog hcause).1 he
  obtain ⟨timeout, maxAge, hread, -⟩ := hasks
  refine ⟨rfl, timeout, maxAge, List.mem_append_left _ (List.mem_filterMap.2 ⟨asking, ?_, ?_⟩)⟩
  · rw [hlog]
    exact List.mem_append_left _ (List.mem_append_right _ List.mem_cons_self)
  · rw [hread]
    rfl

/-- Who waits to its deadline is answered by a look. -/
theorem mem_look_answers (room : ReadingRoom) {w : CacheWaiter} (hw : w ∈ room.cache.waiting)
    {now : Nat} (hdue : w.deadline ≤ now) :
    ∃ h, (room.look now).log = room.log ++ [h] ∧ h.cause = .looked ∧
      (w.reader, .unknown w.group now) ∈ h.answers := by
  refine ⟨_, (Happens.looked now).log_eq, rfl, ?_⟩
  rw [Happening.answers, GroupCache.expire_answers]
  exact List.mem_map.2 ⟨w, List.mem_filter.2 ⟨hw, decide_eq_true hdue⟩, rfl⟩

/-- What is said to a reader whose patience has ended is entered. -/
theorem Reachable.get?_look (hroom : room.Reachable) {w : CacheWaiter}
    (hw : w ∈ room.cache.waiting) {now : Nat} (hdue : w.deadline ≤ now) :
    (room.look now).cache.table.get? w.group = some (.unknown w.group now) := by
  have hanswers := room.cache.expire_answers now
  have htable : (room.look now).cache.table = _ := room.cache.expire_table now
  change (room.look now).cache.table.contents w.group = _
  rw [htable, (hroom.orderly.sorted.foldl_insert _).2, hanswers, List.map_map]
  refine Contents.foldl_put_of_mem (e := .unknown w.group now) ?_ ?_ _
  · exact List.mem_map.2 ⟨w, List.mem_filter.2 ⟨hw, decide_eq_true hdue⟩, rfl⟩
  · rintro x hx hgroup
    obtain ⟨y, -, rfl⟩ := List.mem_map.1 hx
    exact congrArg (CacheEntry.unknown · now) hgroup

end

end ReadingRoom

/-! ## Quiet times -/

/-- The address of this device is none of a group. -/
theorem Frame.Brings.of_seenFrom {frame : Frame} {own : IndividualAddress} {now : Nat}
    {entry : CacheEntry} (h : (frame.seenFrom own).Brings now entry) : frame.Brings now entry := by
  unfold Frame.seenFrom at h
  split at h
  · cases h.destination_eq
  · exact h

/-- Whether a handling has granted the cache a subscription. -/
def Handling.admits (x : Handling (Option τ)) : Bool :=
  match x.event with
  | .subscribe s => s.sink.isNone && x.granted
  | _ => false

theorem Handling.admits_of_subscribe {x : Handling (Option τ)} {s : Subscriber (Option τ)}
    (hevent : x.event = .subscribe s) (hsink : s.sink = none) (hgranted : x.granted = true) :
    x.admits = true := by
  unfold admits
  rw [hevent]
  simp only [hsink, hgranted, Option.isNone_none, Bool.and_self]

/-- Who is there after an event has been handled was there before, or was granted what it asked
for. -/
theorem Desk.granted_of_mem {desk : Desk σ} {verdict : Verdict} {own : IndividualAddress}
    {e : DispatchEvent σ} {later : List (DispatchEvent σ)} {s : Subscriber σ}
    (hs : s ∈ (desk.handling verdict own e later).done.dispatcher.registry.subscribers) :
    s ∈ desk.registry.subscribers ∨
      e = .subscribe s ∧ (desk.handling verdict own e later).granted = true := by
  obtain hold | hnew := handle_entries (Registry.mem_entries_frames.2 hs)
  · exact .inl (Registry.mem_entries_frames.1 hold)
  · obtain rfl := DispatchEvent.asks?_eq_frames.1 hnew
    change s ∈ (desk.registry.subscribe verdict s).registry.subscribers at hs
    obtain ⟨hgranted, -⟩ | ⟨-, hsame⟩ := desk.subscribe_handling verdict own s later
    · exact .inr ⟨rfl, hgranted⟩
    · exact .inl (hsame ▸ hs)

namespace Branch

/-- The handlings that have granted the cache a subscription. -/
def admissions (b : Branch τ) : List (Handling (Option τ)) := b.desk.log.filter (·.admits)

/-- A value is on its way to the cache: a frame that brings it stands in the queue of the desk. -/
def OnItsWay (b : Branch τ) (entry : CacheEntry) : Prop :=
  ∃ frame, .heard (.data frame) ∈ b.desk.dispatcher.events ∧ frame.Brings entry.received entry

theorem caught?_eq_some {x : Option τ × Registry.Handed} {frame : Frame} :
    caught? x = some frame ↔ x = (none, .frame frame) := by
  obtain ⟨sink, handed⟩ := x
  unfold caught?
  split <;> simp_all

/-- What is handed to the cache was heard, and goes through a subscription of it. -/
theorem mem_caught {desk : Desk (Option τ)} {verdict : Verdict} {own : IndividualAddress}
    {e : DispatchEvent (Option τ)} {later : List (DispatchEvent (Option τ))} {frame : Frame}
    (h : frame ∈ (desk.handling verdict own e later).done.handed.filterMap caught?) :
    ∃ heard, e = .heard (.data heard) ∧ frame = heard.seenFrom own ∧
      ∃ s ∈ desk.registry.subscribers, s.sink = none := by
  obtain ⟨x, hx, hcaught⟩ := List.mem_filterMap.1 h
  obtain rfl := caught?_eq_some.1 hcaught
  cases hframe : e.frame? with
  | none => exact absurd rfl (Desk.not_frame_of_handle verdict own _ hframe _ hx frame)
  | some heard =>
    obtain rfl := DispatchEvent.eq_of_frame? hframe
    obtain ⟨s, hs, heq⟩ := List.mem_map.1 hx
    obtain ⟨hsink, hhanded⟩ := Prod.mk.inj heq
    obtain rfl := Registry.Handed.frame.inj hhanded
    exact ⟨heard, rfl, rfl, s, (List.mem_filter.1 hs).1, hsink⟩

/-- What has been handled stays handled. -/
theorem admissions_grow (b : Branch τ) (move : Move τ) :
    b.admissions <+: (b.step move).admissions := by
  have hdesk (move : Desk.Move (Option τ)) : b.desk.log <+: (b.desk.step move).log := by
    cases b.desk.step_cases move with
    | idle _ _ log_eq | halted _ _ log_eq => exact log_eq ▸ List.prefix_refl _
    | served e later eq => exact eq ▸ List.prefix_append _ _
  have hstepped := b.step_cases move
  generalize b.step move = after at hstepped
  refine List.IsPrefix.filter _ ?_
  cases hstepped with
  | enabling _ _ => exact hdesk (.draw _)
  | asked request => exact hdesk (.draw _)
  | disabled id _ => exact hdesk (.act (.leave id))
  | acted a _ => exact hdesk (.act a)
  | served _ verdict own _ _ _ _ _ => exact hdesk (.act (.serve verdict own))
  | _ => exact List.prefix_refl _

theorem run_admissions_grow (moves : List (Move τ)) (b : Branch τ) :
    b.admissions <+: (run moves b).admissions := by
  induction moves generalizing b with
  | nil => exact List.prefix_refl _
  | cons move later ih => exact (b.admissions_grow move).trans (ih _)

/-- An event that can still come to a cache that has been disabled: nobody asks in it for a value, and
a value that is seen in it was on its way. -/
structure Stray (b : Branch τ) (e : CacheEvent) : Prop where
  /-- No reader asks for a value. -/
  unread : e.reader? = none
  /-- A value was on its way. -/
  onItsWay : ∀ entry, e.observed? = some entry → b.OnItsWay entry

/-- A cache has not been enabled since a time at which it was not and nobody was about it. -/
structure Quiet (b₁ b : Branch τ) : Prop where
  /-- It is not. -/
  unregistered : b.room.cache.registration = none
  /-- It has been granted no subscription. -/
  admissions_eq : b.admissions = b₁.admissions
  /-- No number has been given back. -/
  nextId_le : b₁.desk.dispatcher.nextId ≤ b.desk.dispatcher.nextId
  /-- If somebody is about it, then under a number that has been drawn since. -/
  enabling_le : ∀ id, b.enabling = some id → b₁.desk.dispatcher.nextId ≤ id
  /-- All that leads to the cache ends with what stood in the queue of the desk. -/
  leaving : ∃ gone old new, b₁.desk.dispatcher.events = gone ++ old ∧
    b.desk.dispatcher.events = old ++ new ∧
      (b.desk.dispatcher.running = true → ∀ s ∈ b.desk.registry.subscribers, s.sink = none →
        .unsubscribe s.id ∈ old)
  /-- What has happened since is behind what had happened, and what has come since is stray. -/
  room : ∃ rest more, b.room.log = b₁.room.log ++ rest ∧
    b.room.events = b₁.room.events ++ more ∧ ∀ e ∈ more, b₁.Stray e

section
variable {b₁ b : Branch τ}

theorem Reachable.quiet (hreach : b.Reachable) (disabled : b.room.cache.registration = none)
    (idle : b.enabling = none) : Quiet b b where
  unregistered := disabled
  admissions_eq := rfl
  nextId_le := Nat.le_refl _
  enabling_le id hid := by cases idle.symm.trans hid
  leaving := by
    refine ⟨[], b.desk.dispatcher.events, [], rfl, (List.append_nil _).symm,
      fun hruns s hs hsink => ?_⟩
    obtain hregistration | hasked | hleaves := hreach.tied.there hruns s hs hsink
    · cases disabled.symm.trans hregistration
    · cases idle.symm.trans hasked
    · exact hleaves
  room := ⟨[], [], (List.append_nil _).symm, (List.append_nil _).symm,
    fun _ he => absurd he List.not_mem_nil⟩

/-- A move that leaves desk and registration alone. -/
theorem Quiet.of_room (h : Quiet b₁ b) {room : ReadingRoom}
    (hregistration : room.cache.registration = b.room.cache.registration)
    {new : List Happening} (hlog : room.log = b.room.log ++ new) {news : List CacheEvent}
    (hevents : room.events = b.room.events ++ news) (hstray : ∀ e ∈ news, b₁.Stray e) :
    Quiet b₁ { b with room := room } := by
  obtain ⟨rest, more, hrest, hmore, hall⟩ := h.room
  refine ⟨hregistration.trans h.unregistered, h.admissions_eq, h.nextId_le, h.enabling_le,
    h.leaving, rest ++ new, more ++ news, ?_, ?_, fun e he => ?_⟩
  · rw [hlog, hrest, List.append_assoc]
  · rw [hevents, hmore, List.append_assoc]
  · exact (List.mem_append.1 he).elim (hall e) (hstray e)

/-- Drawing a number brings nothing to the cache. -/
theorem Quiet.draw (h : Quiet b₁ b) (request : Request (Option τ)) :
    Quiet b₁ { b with desk := b.desk.draw request } := by
  obtain ⟨hregistry, hrunning⟩ := b.desk.draw_keeps request
  obtain ⟨gone, old, new, hold, hqueue, hleaves⟩ := h.leaving
  refine ⟨h.unregistered, ?_, Nat.le_trans h.nextId_le (b.desk.draw_nextId_le request),
    h.enabling_le, ⟨gone, old, new, hold, ?_, fun hruns s hs => ?_⟩, h.room⟩
  · exact (congrArg (·.filter (·.admits)) (b.desk.draw_log request)).trans h.admissions_eq
  · exact (b.desk.draw_events request).trans hqueue
  · exact hleaves (hrunning ▸ hruns) s (hregistry ▸ hs)

/-- Nor does what happens at the desk while no event is handled. -/
theorem Quiet.acted (h : Quiet b₁ b) {a : Desk.Act} (idle : ∀ verdict own, a ≠ .serve verdict own) :
    Quiet b₁ { b with desk := b.desk.act a } := by
  obtain ⟨hregistry, ⟨news, hgrow⟩, -⟩ := b.desk.act_idle idle
  obtain ⟨gone, old, new, hold, hqueue, hleaves⟩ := h.leaving
  have hlog : (b.desk.act a).log = b.desk.log := by
    cases b.desk.step_cases (.act a) with
    | idle _ _ log_eq | halted _ _ log_eq => exact log_eq
    | served e later eq => exact absurd rfl (idle _ _)
  refine ⟨h.unregistered, ?_, (b.desk.act_nextId a).symm ▸ h.nextId_le, h.enabling_le,
    ⟨gone, old, new ++ news, hold, ?_, fun hruns s hs => ?_⟩, h.room⟩
  · exact (congrArg (·.filter (·.admits)) hlog).trans h.admissions_eq
  · rw [← hgrow, hqueue, List.append_assoc]
  · exact hleaves (b.desk.running_of_act idle hruns) s (hregistry ▸ hs)

/-- The oldest event of the desk is handled: the cache is granted nothing, and if it is handed a frame,
that frame stood in the queue. -/
theorem Quiet.served (h : Quiet b₁ b) (hreach : b.desk.Reachable) (now : Nat) {verdict : Verdict}
    {own : IndividualAddress} {e : DispatchEvent (Option τ)}
    {later : List (DispatchEvent (Option τ))} (running : b.desk.dispatcher.running = true)
    (queue : b.desk.dispatcher.events = e :: later)
    (hsame : (b.desk.record (b.desk.handling verdict own e later)).log.filter (·.admits) =
      b₁.admissions) :
    Quiet b₁
      { b with
        desk := b.desk.record (b.desk.handling verdict own e later)
        room := b.room.receive now
          ((b.desk.handling verdict own e later).done.handed.filterMap caught?) } := by
  obtain ⟨gone, old, new, hold, hqueue, hleaves⟩ := h.leaving
  have hleaves := hleaves running
  -- what leads to the cache ends behind this event or with it, so the event stood in the queue
  have hstood (hthere : ∃ s ∈ b.desk.registry.subscribers, s.sink = none) :
      ∃ older, old = e :: older := by
    obtain ⟨s, hs, hsink⟩ := hthere
    cases old with
    | nil => exact absurd (hleaves s hs hsink) List.not_mem_nil
    | cons first older =>
      rw [queue, List.cons_append] at hqueue
      exact ⟨older, by rw [(List.cons.inj hqueue).1]⟩
  -- the event grants the cache nothing
  have hthere : ∀ s ∈ (b.desk.record (b.desk.handling verdict own e later)).registry.subscribers,
      s.sink = none → s ∈ b.desk.registry.subscribers := by
    intro s hs hsink
    obtain hbefore | ⟨rfl, hgranted⟩ := Desk.granted_of_mem hs
    · exact hbefore
    · have hadmits : (b.desk.handling verdict own (.subscribe s) later).admits = true :=
        Handling.admits_of_subscribe rfl hsink hgranted
      have hlog : b.desk.log.filter (·.admits) ++
          [b.desk.handling verdict own (.subscribe s) later] = b₁.admissions := by
        rw [← hsame, Desk.record, List.filter_append, List.filter_cons_of_pos hadmits]
        rfl
      rw [← h.admissions_eq] at hlog
      exact absurd (List.append_right_eq_self.1 hlog) (List.cons_ne_nil _ _)
  have hevents : (b.desk.record (b.desk.handling verdict own e later)).dispatcher.events = later :=
    (Desk.handle_queue verdict own (b.desk.dispatcher.withEvents later) e).1
  have hnext : (b.desk.record (b.desk.handling verdict own e later)).dispatcher.nextId =
      b.desk.dispatcher.nextId :=
    (Desk.handle_queue verdict own (b.desk.dispatcher.withEvents later) e).2
  have hdesk : Quiet b₁ { b with desk := b.desk.record (b.desk.handling verdict own e later) } := by
    refine ⟨h.unregistered, hsame, hnext.symm ▸ h.nextId_le, h.enabling_le, ?_, h.room⟩
    by_cases hany : ∃ s ∈ b.desk.registry.subscribers, s.sink = none
    · obtain ⟨older, rfl⟩ := hstood hany
      rw [queue, List.cons_append] at hqueue
      refine ⟨gone ++ [e], older, new, ?_, hevents.trans (List.cons.inj hqueue).2,
        fun _ s hs hsink => ?_⟩
      · rw [hold, List.append_assoc, List.singleton_append]
      · obtain rfl | hrest := List.mem_cons.1 (hleaves s (hthere s hs hsink) hsink)
        · exact absurd rfl
            (Registry.id_ne_of_unsubscribe hreach.fresh.numbers_nodup verdict s.id s hs)
        · exact hrest
    · refine ⟨gone ++ old, [], later, ?_, hevents, fun _ s hs hsink => ?_⟩
      · rw [hold, List.append_nil]
      · exact absurd ⟨s, hthere s hs hsink, hsink⟩ hany
  obtain ⟨hlog, hregistration, hbrought⟩ := ReadingRoom.receive_eq now
    ((b.desk.handling verdict own e later).done.handed.filterMap caught?) b.room
  refine hdesk.of_room hregistration (hlog.trans (List.append_nil _).symm) hbrought ?_
  intro news hnews
  obtain ⟨entry, hentry, rfl⟩ := List.mem_map.1 hnews
  obtain ⟨frame, hframe, hsighting⟩ := List.mem_filterMap.1 hentry
  obtain ⟨heard, rfl, rfl, hany⟩ := mem_caught hframe
  obtain ⟨older, rfl⟩ := hstood hany
  refine ⟨rfl, ?_⟩
  rintro _ ⟨⟩
  have hbrings := GroupCache.sighting?_eq_some.1 hsighting
  refine ⟨heard, ?_, hbrings.received_eq ▸ hbrings.of_seenFrom⟩
  rw [hold]
  exact List.mem_append_right gone List.mem_cons_self

/-- **As long as the cache is granted no subscription, a quiet time goes on.** -/
theorem Quiet.step (h : Quiet b₁ b) (hreach₁ : b₁.Reachable) (hreach : b.Reachable) (move : Move τ)
    (hsame : (b.step move).admissions = b₁.admissions) : Quiet b₁ (b.step move) := by
  have hstepped := b.step_cases move
  generalize b.step move = after at hstepped hsame
  cases hstepped with
  | still => exact h
  | enabling _ _ =>
    have hdrawn := h.draw (.frames GroupCache.route none)
    refine ⟨hdrawn.unregistered, hdrawn.admissions_eq, hdrawn.nextId_le, ?_, hdrawn.leaving,
      hdrawn.room⟩
    rintro _ ⟨⟩
    exact h.nextId_le
  | enabled id asked x handled s event_eq id_eq sink_eq granted =>
    -- the number would have been handled before it was drawn
    have hadmitted : x ∈ b.admissions :=
      List.mem_filter.2 ⟨handled, Handling.admits_of_subscribe event_eq sink_eq granted⟩
    rw [h.admissions_eq] at hadmitted
    have hlt := (hreach₁.desk.answered x (List.mem_filter.1 hadmitted).1 s event_eq).number_lt
    have hle := h.enabling_le id asked
    omega
  | failed id _ _ =>
    exact ⟨h.unregistered, h.admissions_eq, h.nextId_le, nofun, h.leaving, h.room⟩
  | disabled id enabled => cases h.unregistered.symm.trans enabled
  | told e nextReader unseen asks =>
    refine h.of_room rfl (List.append_nil _).symm (b.room.enqueue_events e) ?_
    intro x hx
    obtain rfl := List.mem_singleton.1 hx
    exact ⟨asks h.unregistered, fun entry hentry => by cases unseen.symm.trans hentry⟩
  | happened x room happens =>
    exact h.of_room happens.registration_eq happens.log_eq
      (happens.events_eq.trans (List.append_nil _).symm) fun _ he => absurd he List.not_mem_nil
  | asked request => exact h.draw (request.map some)
  | acted a idle => exact h.acted idle
  | served now verdict own e later running queue desk_eq =>
    rw [desk_eq]
    rw [admissions, desk_eq] at hsame
    exact h.served hreach.desk now running queue hsame

theorem Quiet.run (hreach₁ : b₁.Reachable) (moves : List (Move τ)) (hreach : b.Reachable)
    (h : Quiet b₁ b) (hsame : (run moves b).admissions = b₁.admissions) :
    Quiet b₁ (run moves b) := by
  induction moves generalizing b with
  | nil => exact h
  | cons move later ih =>
    have hgrow := run_admissions_grow later (b.step move)
    have hfirst := b.admissions_grow move
    have hmiddle : (b.step move).admissions = b₁.admissions := by
      have hlast : (run later (b.step move)).admissions = b₁.admissions := hsame
      rw [hlast] at hgrow
      rw [h.admissions_eq] at hfirst
      exact hgrow.eq_of_length_le hfirst.length_le
    exact ih (hreach.step move) (h.step hreach₁ hreach move hmiddle) hsame

/-! ## What is entered -/

/-- How an entry comes into a cache after a time from which on the cache was not enabled. -/
inductive Entered (b₁ b : Branch τ) (e : CacheEntry) : Prop where
  /-- The value was on its way. -/
  | late (onItsWay : b₁.OnItsWay e)
  /-- A reader was blocked, and nobody has answered until its patience has ended. -/
  | silent (reader : Nat) (blocked : b₁.room.Blocked e.group reader)
    (unknown : e = .unknown e.group e.received) (x : Happening) (happened : x ∈ b.room.log)
    (looked : x.cause = .looked) (answer : e ∈ x.answersTo reader)

/-- Whoever is answered by a look in a quiet time was blocked when it began. -/
theorem Quiet.blocked (h : Quiet b₁ b) (hreach : b.Reachable) {rest : List Happening}
    (hlog : b.room.log = b₁.room.log ++ rest) {x : Happening} (hx : x ∈ rest)
    (hcause : x.cause = .looked) {reader : Nat} {e : CacheEntry} (he : (reader, e) ∈ x.answers) :
    e = .unknown e.group e.received ∧ b₁.room.Blocked e.group reader := by
  have hmem : x ∈ b.room.log := hlog ▸ List.mem_append_right _ hx
  obtain ⟨hunknown, timeout, maxAge, hasked⟩ := hreach.room.asked_of_looked hmem hcause he
  obtain ⟨-, more, -, hmore, hstray⟩ := h.room
  have hasked : .read e.group timeout maxAge reader ∈ b.room.events := hasked
  refine ⟨hunknown, ⟨timeout, maxAge, ?_⟩,
    hreach.room.unanswered_before hlog hx (ReadingRoom.mem_answersTo.2 he)⟩
  rw [hmore] at hasked
  exact (List.mem_append.1 hasked).resolve_right fun hnew => nomatch (hstray _ hnew).unread

/-- Who waits in a quiet time was blocked when it began. -/
theorem Quiet.blocked_of_waiting (h : Quiet b₁ b) (hreach₁ : b₁.Reachable) (hreach : b.Reachable)
    {w : CacheWaiter} (hw : w ∈ b.room.cache.waiting) : b₁.room.Blocked w.group w.reader := by
  -- as if its patience ended now
  have hlook : Quiet b₁ (b.step (.look w.deadline)) :=
    h.step hreach₁ hreach (.look w.deadline) h.admissions_eq
  obtain ⟨x, hlast, hcause, he⟩ := b.room.mem_look_answers hw (Nat.le_refl _)
  obtain ⟨rest, -, hrest, -, -⟩ := h.room
  have hlog : (b.step (.look w.deadline)).room.log = b₁.room.log ++ (rest ++ [x]) := by
    rw [← List.append_assoc, ← hrest]
    exact hlast
  have hx : x ∈ rest ++ [x] := List.mem_append_right rest List.mem_cons_self
  exact (hlook.blocked (hreach.step _) hlog hx hcause he).2

/-- Where the entries come from, if nothing was known at some moment and all events handled since are
stray. -/
theorem Quiet.entered (h : Quiet b₁ b) (hreach : b.Reachable) {earlier recent : List Happening}
    (hlog : b.room.log = b₁.room.log ++ (earlier ++ recent))
    (hforgotten : Contents.ofLog (b₁.room.log ++ earlier) = .empty)
    (hstray : ∀ e ∈ handledEvents recent, b₁.Stray e) :
    ∀ e ∈ b.room.cache.table.toList, Entered b₁ b e := by
  intro e he
  have horderly := hreach.room.orderly
  have hknown : Contents.ofLog b.room.log e.group = some e := by
    have hthere := horderly.sorted.get?_eq_some.2 ⟨he, rfl⟩
    exact (congrFun horderly.contents_eq e.group).symm.trans hthere
  rw [hlog, ← List.append_assoc, Contents.ofLog, List.foldl_append] at hknown
  change recent.foldl Contents.note (Contents.ofLog (b₁.room.log ++ earlier)) e.group = _ at hknown
  rw [hforgotten] at hknown
  obtain hnone | ⟨x, hx, hseen | ⟨hcause, reader, hanswer⟩⟩ := Contents.of_foldl_note hknown
  · cases hnone
  · have hevent : .observed e ∈ handledEvents recent :=
      List.mem_filterMap.2 ⟨x, hx, congrArg CacheCause.event? hseen⟩
    exact .late ((hstray _ hevent).onItsWay e rfl)
  · have hrest : x ∈ earlier ++ recent := List.mem_append_right _ hx
    obtain ⟨hunknown, hblocked⟩ := h.blocked hreach hlog hrest hcause hanswer
    exact .silent reader hblocked hunknown x (hlog ▸ List.mem_append_right _ hrest) hcause
      (ReadingRoom.mem_answersTo.2 hanswer)

/-- A cache that has never been granted a subscription has no entries. -/
theorem Reachable.entries_eq_nil (hreach : b.Reachable) (hnever : b.admissions = []) :
    b.room.cache.table.toList = [] := by
  obtain ⟨moves, rfl⟩ := hreach
  have hstart : (start : Branch τ).Reachable := ⟨[], rfl⟩
  have hquiet := (hstart.quiet rfl rfl).run hstart moves hstart hnever
  obtain ⟨-, more, -, hmore, hstray⟩ := hquiet.room
  have hall : ∀ e ∈ handledEvents (run moves start).room.log, (start : Branch τ).Stray e := by
    intro e he
    have hcame : e ∈ (run moves start).room.events := List.mem_append_left _ he
    rw [hmore] at hcame
    exact hstray e ((List.mem_append.1 hcame).resolve_left List.not_mem_nil)
  have hlog : (run moves start).room.log =
      (start : Branch τ).room.log ++ ([] ++ (run moves start).room.log) := rfl
  refine List.eq_nil_iff_forall_not_mem.2 fun e he => ?_
  cases hquiet.entered ⟨moves, rfl⟩ hlog rfl hall e he with
  | late onItsWay =>
    obtain ⟨frame, hframe, -⟩ := onItsWay
    exact List.not_mem_nil hframe
  | silent reader blocked _ _ _ _ _ =>
    obtain ⟨⟨timeout, maxAge, hasked⟩, -⟩ := blocked
    exact List.not_mem_nil hasked

/-! ## Disabling -/

section
variable {id : Nat}

theorem disable_eq (henabled : b.room.cache.registration = some id) :
    b.step .disable = { b with desk := b.desk.act (.leave id), room := b.room.forget } := by
  simp only [step, disable, henabled]

theorem onItsWay_of_disable (henabled : b.room.cache.registration = some id) {e : CacheEntry}
    (h : (b.step .disable).OnItsWay e) : b.OnItsWay e := by
  obtain ⟨frame, hframe, hbrings⟩ := h
  refine ⟨frame, ?_, hbrings⟩
  rw [disable_eq henabled] at hframe
  change _ ∈ (b.desk.dispatcher.deregister id).events at hframe
  unfold Dispatcher.deregister at hframe
  split at hframe
  · exact (List.mem_append.1 hframe).resolve_right fun hnew => nomatch List.mem_singleton.1 hnew
  · exact hframe

theorem blocked_of_disable (henabled : b.room.cache.registration = some id) {g : GroupAddress}
    {reader : Nat} (h : (b.step .disable).room.Blocked g reader) : b.room.Blocked g reader := by
  rw [disable_eq henabled] at h
  obtain ⟨⟨timeout, maxAge, hasked⟩, hunanswered⟩ := h
  refine ⟨⟨timeout, maxAge, ?_⟩, hunanswered⟩
  have hevents : b.room.forget.events = b.room.events ++ [.clear] := b.room.enqueue_events .clear
  change _ ∈ b.room.forget.events at hasked
  rw [hevents] at hasked
  exact (List.mem_append.1 hasked).resolve_right fun hnew => nomatch List.mem_singleton.1 hnew

/-- Once all events have been handled the order to forget has, and what was handled behind it is
stray. -/
theorem Quiet.forgotten (henabled : b₁.room.cache.registration = some id)
    (h : Quiet (b₁.step .disable) b) (hsettled : b.room.cache.events = []) :
    ∃ earlier recent, b.room.log = (b₁.step .disable).room.log ++ (earlier ++ recent) ∧
      Contents.ofLog ((b₁.step .disable).room.log ++ earlier) = .empty ∧
        ∀ e ∈ handledEvents recent, (b₁.step .disable).Stray e := by
  obtain ⟨rest, more, hlog, hmore, hstray⟩ := h.room
  have hqueue : (b₁.step .disable).room.cache.events = b₁.room.cache.events ++ [.clear] := by
    rw [disable_eq henabled]
    rfl
  have hhandled : handledEvents rest = b₁.room.cache.events ++ .clear :: more := by
    rw [ReadingRoom.events, hsettled, List.append_nil, hlog, handledEvents_append,
      ReadingRoom.events, hqueue, List.append_assoc, List.append_assoc,
      List.singleton_append] at hmore
    exact List.append_cancel_left hmore
  obtain ⟨front, back, rfl, -, hback⟩ := List.filterMap_eq_append_iff.1 hhandled
  obtain ⟨quiet, x, recent, rfl, -, hclear, hrecent⟩ := List.filterMap_eq_cons_iff.1 hback
  refine ⟨front ++ quiet ++ [x], recent, ?_, ?_, fun e he => hstray e (hrecent ▸ he)⟩
  · rw [hlog]
    simp only [List.append_assoc, List.singleton_append]
  · rw [← List.append_assoc, Contents.ofLog_concat, Contents.note, CacheCause.eq_of_event? hclear]

end

end

/-- **What a disabled cache knows.**  A cache that was never enabled has no entries.  Let a cache be
disabled and be granted no subscription since.  Once it has handled all events it is not enabled, and
each of its entries was on its way when it was disabled, or says that nobody has answered a reader
that was blocked when it was disabled and that has learned it since.  Whoever still waits was blocked,
and as soon as its patience ends its group is entered.  So if nobody was blocked and nothing was on
its way there are no entries. -/
theorem entries_of_disabled (earlier later : List (Move τ)) :
    let before := run earlier (start : Branch τ)
    let after := run later (before.step .disable)
    (before.admissions = [] → before.room.cache.table.toList = []) ∧
    (before.room.cache.isEnabled = true → after.admissions = before.admissions →
      after.room.cache.events = [] →
        after.room.cache.isEnabled = false ∧
        (∀ e ∈ after.room.cache.table.toList, Entered before after e) ∧
        (∀ w ∈ after.room.cache.waiting, before.room.Blocked w.group w.reader ∧
          ∀ now, w.deadline ≤ now →
            (after.step (.look now)).room.cache.table.get? w.group = some (.unknown w.group now)) ∧
        ((∀ g reader, ¬ before.room.Blocked g reader) → (∀ e, ¬ before.OnItsWay e) →
          after.room.cache.table.toList = [])) := by
  intro before after
  have hreach : before.Reachable := ⟨earlier, rfl⟩
  refine ⟨hreach.entries_eq_nil, fun henabled hsame hsettled => ?_⟩
  obtain ⟨id, hid⟩ := Option.isSome_iff_exists.1 henabled
  have hidle : before.enabling = none := by
    refine Decidable.byContradiction fun hne => ?_
    cases (hreach.tied.unregistered hne).symm.trans hid
  have hreach₁ := hreach.step .disable
  have hquiet₁ : Quiet (before.step .disable) (before.step .disable) := by
    refine hreach₁.quiet ?_ ?_ <;> rw [disable_eq hid]
    · rfl
    · exact hidle
  have hadmissions : (before.step .disable).admissions = before.admissions := by
    rw [disable_eq hid]
    rfl
  have hquiet : Quiet (before.step .disable) after :=
    hquiet₁.run hreach₁ later hreach₁ (hsame.trans hadmissions.symm)
  have hafter : after.Reachable := by
    refine ⟨earlier ++ .disable :: later, ?_⟩
    change run later ((run earlier start).step .disable) = _
    rw [run, run, run, List.foldl_append, List.foldl_cons]
  have hentered : ∀ e ∈ after.room.cache.table.toList, Entered before after e := by
    obtain ⟨front, recent, hlog, hforgotten, hstray⟩ := hquiet.forgotten hid hsettled
    intro e he
    cases hquiet.entered hafter hlog hforgotten hstray e he with
    | late onItsWay => exact .late (onItsWay_of_disable hid onItsWay)
    | silent reader blocked unknown x happened looked answer =>
      exact .silent reader (blocked_of_disable hid blocked) unknown x happened looked answer
  refine ⟨?_, hentered, fun w hw => ⟨?_, fun now hdue => ?_⟩, fun hnobody hnothing => ?_⟩
  · rw [GroupCache.isEnabled, hquiet.unregistered]
    rfl
  · exact blocked_of_disable hid (hquiet.blocked_of_waiting hreach₁ hafter hw)
  · exact hafter.room.get?_look hw hdue
  · refine List.eq_nil_iff_forall_not_mem.2 fun e he => ?_
    cases hentered e he with
    | late onItsWay => exact hnothing e onItsWay
    | silent reader blocked _ _ _ _ _ => exact hnobody _ _ blocked

/-- The cache is enabled. -/
def firstEnabling : List (Move Unit) :=
  [.enable, .act 0 (.submit 1), .act 0 (.serve (fun _ => .ok ()) .unset), .inquire]

/-- A reader waits for a group. -/
def waitingReader : List (Move Unit) := firstEnabling ++ [.read ⟨2049⟩ 5 0, .handle 0]

/-- The end of the subscription and the order to forget are handled. -/
def settling : List (Move Unit) := [.act 1 (.serve (fun _ => .ok ()) .unset), .handle 1]

/-- Behind that the patience of the reader ends. -/
def lateSilence : List (Move Unit) := settling ++ [.look 5]

theorem entries_of_disabled_lateSilence :
    let before := run waitingReader start
    let settled := run settling (before.step .disable)
    let after := run lateSilence (before.step .disable)
    (start : Branch Unit).room.cache.table.toList = [] ∧
    settled.room.cache.waiting = [⟨⟨2049⟩, 5, 0⟩] ∧ before.room.Blocked ⟨2049⟩ 0 ∧
    (settled.step (.look 5)).room.cache.table.get? ⟨2049⟩ = some (.unknown ⟨2049⟩ 5) ∧
    after.room.cache.isEnabled = false ∧
    (∀ e ∈ after.room.cache.table.toList, Entered before after e) ∧
    (run settling ((run firstEnabling start).step .disable)).room.cache.table.toList = [] := by
  intro before settled after
  have hsettled := (entries_of_disabled waitingReader settling).2 (by decide +kernel) rfl
    (by decide +kernel)
  have hafter := (entries_of_disabled waitingReader lateSilence).2 (by decide +kernel) rfl
    (by decide +kernel)
  have hunblocked := (entries_of_disabled firstEnabling settling).2 (by decide +kernel) rfl
    (by decide +kernel)
  have hwaiting := hsettled.2.2.1 ⟨⟨2049⟩, 5, 0⟩ (by decide +kernel)
  refine ⟨(entries_of_disabled ([] : List (Move Unit)) []).1 rfl, by decide +kernel, hwaiting.1,
    hwaiting.2 5 (Nat.le_refl 5), hafter.1, hafter.2.1, hunblocked.2.2.2 ?_ ?_⟩
  · rintro g reader ⟨⟨timeout, maxAge, hasked⟩, -⟩
    exact List.not_mem_nil hasked
  · rintro e ⟨frame, hframe, -⟩
    exact List.not_mem_nil hframe

/-- Both queues are empty and the cache is not enabled, and still it has an entry. -/
theorem not_entries_eq_nil_lateSilence :
    ¬ (∀ earlier later : List (Move Unit),
        let before := run earlier start
        let after := run later (before.step .disable)
        before.room.cache.isEnabled = true → after.admissions = before.admissions →
          after.desk.dispatcher.events = [] → after.room.cache.events = [] →
            after.room.cache.table.toList = []) ∧
      (run lateSilence ((run waitingReader start).step .disable)).room.cache.table.toList =
        [.unknown ⟨2049⟩ 5] := by
  have hentry : (run lateSilence ((run waitingReader start).step .disable)).room.cache.table.toList =
      [.unknown ⟨2049⟩ 5] := by decide +kernel
  refine ⟨fun hall => ?_, hentry⟩
  have hnone := hall waitingReader lateSilence (by decide +kernel) rfl (by decide +kernel)
    (by decide +kernel)
  cases hnone.symm.trans hentry

end Branch
end KnxBus
