import KnxBus.Proofs.Dispatch.Entries

/-!
# What a subscription is there to hear

A subscription is there from the moment when its request has been handled, and granted, until its
end is handled.  Both can be read off the events that a desk remembers, and so can the frames that
were handled in between: they are all that the holder of a number has to do with, however many others
there are.

Two things about desks connect this to what really happens.  A subscription is there, by its events,
exactly if the registry has one of that number (`Desk.Reachable.present_iff`).  And what a subscription wants
and where its frames go is settled when its number is drawn: whatever a desk does later, it knows of
no subscription that was not asked for (`Desk.Knows`).
-/

namespace KnxBus

variable {σ : Type}

/-- Whether the registration that an event asks for was granted. -/
def Handling.granted (h : Handling σ) : Bool :=
  match h.done.result with
  | .ok () => true
  | .error _ => false

/-- What is known of a subscription by the events that have been handled. -/
structure Hearing where
  /-- Whether it is there. -/
  present : Bool
  /-- The frames that were handled while it was there, each with the address that this device had
  at the time. -/
  frames : List (IndividualAddress × Frame)
  deriving DecidableEq, Repr

namespace Hearing

/-- Nothing is known. -/
def blank : Hearing := ⟨false, []⟩

/-- An event has been handled. -/
def note (number : Nat) (x : Hearing) (h : Handling σ) : Hearing :=
  match h.event with
  | .subscribe s => if s.id = number ∧ h.granted = true then { x with present := true } else x
  | .unsubscribe id => if id = number then { x with present := false } else x
  | .heard (.data frame) =>
    if x.present then { x with frames := x.frames ++ [(h.own, frame)] } else x
  | _ => x

end Hearing

/-- The frame that an event brings. -/
def DispatchEvent.frame? : DispatchEvent σ → Option Frame
  | .heard (.data frame) => some frame
  | _ => none

theorem DispatchEvent.eq_of_frame? {e : DispatchEvent σ} {frame : Frame}
    (h : e.frame? = some frame) : e = .heard (.data frame) := by
  unfold frame? at h
  split at h
  · cases h
    rfl
  · cases h

/-- An event that brings no frame changes nothing about the frames. -/
theorem Hearing.note_frames_of_none {number : Nat} {x : Hearing} {h : Handling σ}
    (hevent : h.event.frame? = none) : (x.note number h).frames = x.frames := by
  unfold note
  split
  · split <;> rfl
  · split <;> rfl
  · rename_i frame heq
    rw [heq] at hevent
    cases hevent
  · rfl

namespace Desk

/-- What the subscription of a number was there to hear. -/
def hearing (desk : Desk σ) (number : Nat) : Hearing :=
  desk.log.foldl (Hearing.note number) .blank

theorem hearing_record (desk : Desk σ) (h : Handling σ) (number : Nat) :
    (desk.record h).hearing number = (desk.hearing number).note number h := by
  rw [hearing, record, List.foldl_append]
  rfl

end Desk

/-! ## Who is there -/

/-- Somebody subscribes under a number. -/
def Registry.HasSubscriber (r : Registry σ) (number : Nat) : Prop :=
  ∃ s ∈ r.subscribers, s.id = number

instance (r : Registry σ) (number : Nat) : Decidable (r.HasSubscriber number) :=
  inferInstanceAs (Decidable (∃ s ∈ r.subscribers, s.id = number))

theorem Registry.hasSubscriber_add {r : Registry σ} {s : Subscriber σ} {number : Nat} :
    (r.add s).HasSubscriber number ↔ r.HasSubscriber number ∨ s.id = number := by
  simp [HasSubscriber, add, or_and_right, exists_or]

/-- Among subscriptions with different numbers, all others have other numbers. -/
theorem Subscriber.id_ne_of_nodup {before after : List (Subscriber σ)} {s : Subscriber σ}
    (h : ((before ++ s :: after).map (·.id)).Nodup) : ∀ x ∈ before ++ after, x.id ≠ s.id := by
  rw [List.map_append, List.map_cons] at h
  have hnot := (List.nodup_cons.1 (List.perm_middle.nodup_iff.1 h)).1
  rw [← List.map_append] at hnot
  exact fun x hx heq => hnot (List.mem_map.2 ⟨x, hx, heq⟩)

/-- When a subscription is taken out, nobody has its number any more, and nobody else leaves. -/
theorem Registry.hasSubscriber_of_split {r r' : Registry σ} {before after : List (Subscriber σ)}
    {gone : Subscriber σ} (hnodup : r.numbers.Nodup)
    (there : r.subscribers = before ++ gone :: after) (rest : r'.subscribers = before ++ after)
    {number : Nat} : r'.HasSubscriber number ↔ r.HasSubscriber number ∧ gone.id ≠ number := by
  have hids := (List.nodup_append.1 hnodup).1
  rw [there] at hids
  have hothers := Subscriber.id_ne_of_nodup hids
  simp only [HasSubscriber, there, rest]
  constructor
  · rintro ⟨s, hs, hid⟩
    exact ⟨⟨s, List.perm_middle.mem_iff.2 (List.mem_cons_of_mem gone hs), hid⟩,
      fun heq => hothers s hs (hid.trans heq.symm)⟩
  · rintro ⟨⟨s, hs, hid⟩, hne⟩
    obtain rfl | hrest := List.mem_cons.1 (List.perm_middle.mem_iff.1 hs)
    · exact absurd hid hne
    · exact ⟨s, hrest, hid⟩

/-- Whoever leaves is not there any more. -/
theorem Registry.id_ne_of_unsubscribe {r : Registry σ} (hnodup : r.numbers.Nodup)
    (verdict : Verdict) (id : Nat) : ∀ s ∈ (r.unsubscribe verdict id).1.subscribers, s.id ≠ id := by
  cases r.unsubscribe_cases verdict id with
  | unsubscribed before after gone id_eq there registry_eq _ =>
    have hids := (List.nodup_append.1 hnodup).1
    rw [there] at hids
    rw [registry_eq, ← id_eq]
    exact Subscriber.id_ne_of_nodup hids
  | unmonitored before after gone _ _ others registry_eq _ =>
    rw [registry_eq]
    exact others
  | unknown others eq =>
    rw [eq]
    exact others

namespace Desk

/-- Whoever asks for frames is granted them and is added, or is refused and nothing changes. -/
theorem subscribe_handling (desk : Desk σ) (verdict : Verdict) (own : IndividualAddress)
    (s : Subscriber σ) (later : List (DispatchEvent σ)) :
    ((desk.handling verdict own (.subscribe s) later).granted = true ∧
      (desk.registry.subscribe verdict s).registry = desk.registry.add s) ∨
    ((desk.handling verdict own (.subscribe s) later).granted = false ∧
      (desk.registry.subscribe verdict s).registry = desk.registry) := by
  have hgranted : (desk.handling verdict own (.subscribe s) later).granted =
      match (desk.registry.subscribe verdict s).result with
      | .ok () => true
      | .error _ => false := rfl
  rw [hgranted]
  obtain ⟨cause, eq⟩ | ⟨c, e, -, -, eq⟩ | ⟨-, -, -, eq⟩ := desk.registry.subscribe_cases verdict s
  · rw [eq]
    exact .inr ⟨rfl, rfl⟩
  · rw [eq]
    exact .inr ⟨rfl, rfl⟩
  · rw [eq]
    exact .inl ⟨rfl, rfl⟩

section
variable {desk : Desk σ} {number : Nat} {x : Hearing} (verdict : Verdict) (own : IndividualAddress)
  (later : List (DispatchEvent σ))

/-- A subscription that is granted is there, and so is whatever was there before. -/
theorem present_subscribe (h : x.present = true ↔ desk.registry.HasSubscriber number)
    (s : Subscriber σ) :
    (x.note number (desk.handling verdict own (.subscribe s) later)).present = true ↔
      (desk.registry.subscribe verdict s).registry.HasSubscriber number := by
  have hnote : (x.note number (desk.handling verdict own (.subscribe s) later)).present = true ↔
      (s.id = number ∧ (desk.handling verdict own (.subscribe s) later).granted = true) ∨
        x.present = true := by
    show Hearing.present (if _ then _ else _) = true ↔ _
    split <;> simp_all
  rw [hnote, h]
  obtain ⟨hgranted, hadded⟩ | ⟨hrefused, hsame⟩ := desk.subscribe_handling verdict own s later
  · rw [hgranted, hadded, Registry.hasSubscriber_add, or_comm]
    exact or_congr_right (and_iff_left rfl)
  · rw [hrefused, hsame]
    exact or_iff_right fun hsome => Bool.false_ne_true hsome.2

/-- Of those who are there, the one who leaves is not there afterwards. -/
theorem present_unsubscribe (hnodup : desk.registry.numbers.Nodup)
    (h : x.present = true ↔ desk.registry.HasSubscriber number) (id : Nat) :
    (x.note number (desk.handling verdict own (.unsubscribe id) later)).present = true ↔
      (desk.registry.unsubscribe verdict id).1.HasSubscriber number := by
  have hnote : (x.note number (desk.handling verdict own (.unsubscribe id) later)).present = true ↔
      x.present = true ∧ id ≠ number := by
    show Hearing.present (if id = number then _ else _) = true ↔ _
    split <;> simp_all
  have hothers (hall : ∀ s ∈ desk.registry.subscribers, s.id ≠ id) :
      desk.registry.HasSubscriber number ∧ id ≠ number ↔ desk.registry.HasSubscriber number :=
    and_iff_left_of_imp fun ⟨s, hs, hid⟩ heq => hall s hs (hid.trans heq.symm)
  rw [hnote, h]
  cases desk.registry.unsubscribe_cases verdict id with
  | unsubscribed before after gone id_eq there registry_eq _ =>
    have hrest : (desk.registry.unsubscribe verdict id).1.subscribers = before ++ after := by
      rw [registry_eq]
    rw [Registry.hasSubscriber_of_split hnodup there hrest, id_eq]
  | unmonitored before after gone _ _ others registry_eq _ =>
    rw [registry_eq, hothers others]
    exact Iff.rfl
  | unknown others eq => rw [eq, hothers others]

/-- Handling an event keeps the memory of the desk in step with the registry. -/
theorem present_handling (hnodup : desk.registry.numbers.Nodup)
    (h : x.present = true ↔ desk.registry.HasSubscriber number) (e : DispatchEvent σ) :
    (x.note number (desk.handling verdict own e later)).present = true ↔
      (desk.handling verdict own e later).done.dispatcher.registry.HasSubscriber number := by
  cases e with
  | subscribe s => exact present_subscribe verdict own later h s
  | monitor m =>
    have hkept : (desk.registry.monitor verdict m).registry.HasSubscriber number ↔
        desk.registry.HasSubscriber number := by
      rw [Registry.HasSubscriber, Registry.monitor_subscribers]
      exact Iff.rfl
    exact h.trans hkept.symm
  | unsubscribe id => exact present_unsubscribe verdict own later hnodup h id
  | heard heard =>
    have hkept : (x.note number (desk.handling verdict own (.heard heard) later)).present =
        x.present := by
      cases heard with
      | data frame =>
        show Hearing.present (if x.present then _ else _) = _
        split <;> rfl
      | _ => rfl
    rw [hkept]
    exact h
  | lost => exact h

end

/-- **The memory of a desk agrees with its registry**: a subscription is there by the events that
have been handled exactly if the registry has one of that number. -/
theorem Reachable.present_iff {desk : Desk σ} (h : desk.Reachable) (number : Nat) :
    (desk.hearing number).present = true ↔ desk.registry.HasSubscriber number := by
  refine h.induction (P := fun desk =>
    (desk.hearing number).present = true ↔ desk.registry.HasSubscriber number) ?_ ?_
  · exact ⟨fun h => absurd h Bool.false_ne_true, fun ⟨_, hs, _⟩ => absurd hs List.not_mem_nil⟩
  · intro desk hreach hpresent move
    cases desk.step_cases move with
    | idle registry_eq _ log_eq | halted registry_eq _ log_eq =>
      rw [registry_eq, hearing, log_eq]
      exact hpresent
    | @served verdict own _ e later eq =>
      rw [eq, hearing_record]
      exact present_handling verdict own later hreach.fresh.numbers_nodup hpresent e

/-! ## Who has been answered -/

/-- The numbers under which somebody is still to be registered. -/
def pending (desk : Desk σ) : List Nat :=
  desk.dispatcher.events.filterMap DispatchEvent.number? ++ desk.drawn.map Prod.fst

theorem pending_eq (desk : Desk σ) : desk.pending = desk.awaited.map Prod.fst := by
  have hnumber : DispatchEvent.number? (σ := σ) = fun e => e.asks?.map Prod.fst := by
    funext e
    cases e <;> rfl
  rw [pending, awaited, hnumber, List.map_append, List.map_filterMap]

theorem count_numbers (desk : Desk σ) (n : Nat) :
    desk.numbers.count n = desk.registry.numbers.count n + desk.pending.count n := by
  rw [numbers, List.append_assoc, List.count_append, pending]

/-- What is known of a number whose subscription has been handled: it is not in use for anything that
is still to come, and if it was refused it is not in use at all. -/
structure Answered (desk : Desk σ) (number : Nat) (granted : Bool) : Prop where
  number_lt : number < desk.dispatcher.nextId
  not_pending : number ∉ desk.pending
  refused : granted = false → number ∉ desk.registry.numbers

section
variable {desk after : Desk σ} {number : Nat} {granted : Bool}

/-- A move that handles nothing. -/
theorem Answered.of_registry (h : desk.Answered number granted)
    (hnext : desk.dispatcher.nextId ≤ after.dispatcher.nextId)
    (hregistry : after.registry = desk.registry)
    (hpending : number ∈ after.pending → number ∈ desk.pending) : after.Answered number granted where
  number_lt := Nat.lt_of_lt_of_le h.number_lt hnext
  not_pending hmem := h.not_pending (hpending hmem)
  refused hrefused := hregistry ▸ h.refused hrefused

theorem Answered.draw (h : desk.Answered number granted) (request : Request σ) :
    (desk.draw request).Answered number granted := by
  refine h.of_registry (desk.draw_nextId_le request) (desk.draw_keeps request).1 fun hmem => ?_
  unfold Desk.draw at hmem
  split at hmem
  · have hne := Nat.ne_of_lt h.number_lt
    simp only [pending, Dispatcher.takeId, List.map_append, List.map_singleton, List.mem_append,
      List.mem_singleton] at hmem ⊢
    obtain hqueue | hdrawn | hnew := hmem
    · exact .inl hqueue
    · exact .inr hdrawn
    · exact absurd hnew hne
  · exact hmem

theorem Answered.act (h : desk.Answered number granted) {a : Act}
    (hregistry : (desk.act a).registry = desk.registry) : (desk.act a).Answered number granted := by
  refine h.of_registry (Nat.le_of_eq (desk.act_nextId a).symm) hregistry fun hmem => ?_
  have hcount := desk.act_numbers a number
  rw [count_numbers, count_numbers, hregistry] at hcount
  have hpos := List.count_pos_iff.2 hmem
  exact List.count_pos_iff.1 (by omega)

/-- What is pending after an event has been handled. -/
theorem pending_record (e : DispatchEvent σ) (later : List (DispatchEvent σ)) (verdict : Verdict)
    (own : IndividualAddress) :
    (desk.record (desk.handling verdict own e later)).pending =
      later.filterMap DispatchEvent.number? ++ desk.drawn.map Prod.fst :=
  congrArg (·.filterMap DispatchEvent.number? ++ _)
    (handle_queue verdict own (desk.dispatcher.withEvents later) e).1

/-- An event that is handled does not concern a number that has been answered. -/
theorem Answered.record (h : desk.Answered number granted) {e : DispatchEvent σ}
    {later : List (DispatchEvent σ)} (hevents : desk.dispatcher.events = e :: later)
    (verdict : Verdict) (own : IndividualAddress) :
    (desk.record (desk.handling verdict own e later)).Answered number granted := by
  obtain ⟨hlt, hpending, hrefused⟩ := h
  rw [pending, hevents, List.mem_append, List.mem_filterMap, not_or, not_exists] at hpending
  obtain ⟨hqueue, hdrawn⟩ := hpending
  refine ⟨?_, ?_, fun hgranted hmem => ?_⟩
  · exact (handle_queue verdict own (desk.dispatcher.withEvents later) e).2.symm ▸ hlt
  · rw [pending_record, List.mem_append, List.mem_filterMap, not_or, not_exists]
    exact ⟨fun x hx => hqueue x ⟨List.mem_cons_of_mem e hx.1, hx.2⟩, hdrawn⟩
  · have hregistered := handle_numbers verdict own (desk.dispatcher.withEvents later) e number
    have hother : e.number?.toList.count number = 0 := List.count_eq_zero.2 fun hnew =>
      hqueue e ⟨List.mem_cons_self, Option.mem_toList.1 hnew⟩
    have hbefore := List.count_eq_zero.2 (hrefused hgranted)
    have hafter := List.count_pos_iff.2 hmem
    change 0 < (Dispatcher.handle _ _ _ _).dispatcher.registry.numbers.count number at hafter
    change _ ≤ desk.registry.numbers.count number + _ at hregistered
    omega

/-- A subscription that has just been handled is answered. -/
theorem Fresh.answered {s : Subscriber σ} {later : List (DispatchEvent σ)} (hfresh : desk.Fresh)
    (hevents : desk.dispatcher.events = .subscribe s :: later) (verdict : Verdict)
    (own : IndividualAddress) :
    (desk.record (desk.handling verdict own (.subscribe s) later)).Answered s.id
      (desk.handling verdict own (.subscribe s) later).granted := by
  -- its number stands in the queue and therefore nowhere else
  have hcount := hfresh s.id
  have hqueue : desk.pending = s.id :: (later.filterMap DispatchEvent.number? ++
      desk.drawn.map Prod.fst) := by
    rw [pending, hevents]
    rfl
  rw [count_numbers, hqueue, List.count_cons_self] at hcount
  have hlt : s.id < desk.dispatcher.nextId := by
    split at hcount
    · assumption
    · omega
  rw [if_pos hlt] at hcount
  refine ⟨?_, ?_, fun hrefused => ?_⟩
  · exact hlt
  · rw [pending_record]
    exact List.count_eq_zero.1 (by omega)
  · have hgone : s.id ∉ desk.registry.numbers := List.count_eq_zero.1 (by omega)
    obtain ⟨hgranted, -⟩ | ⟨-, hsame⟩ := desk.subscribe_handling verdict own s later
    · cases hgranted.symm.trans hrefused
    · change s.id ∉ (desk.registry.subscribe verdict s).registry.numbers
      rw [hsame]
      exact hgone

end

/-- **Whoever has been answered is not waited for any more**, and is not there if it was refused. -/
theorem Reachable.answered {desk : Desk σ} (h : desk.Reachable) :
    ∀ x ∈ desk.log, ∀ s, x.event = .subscribe s → desk.Answered s.id x.granted := by
  refine h.induction (P := fun desk =>
    ∀ x ∈ desk.log, ∀ s, x.event = .subscribe s → desk.Answered s.id x.granted) ?_ ?_
  · exact fun x hx => absurd hx List.not_mem_nil
  · intro desk hreach ih move x hx s hs
    cases move with
    | draw request => exact (ih x (desk.draw_log request ▸ hx) s hs).draw request
    | act a =>
      cases desk.step_cases (.act a) with
      | idle registry_eq _ log_eq | halted registry_eq _ log_eq =>
        exact (ih x (log_eq ▸ hx) s hs).act registry_eq
      | @served verdict own _ _ _ _ =>
        change x ∈ (desk.serve verdict own).log at hx
        change (desk.serve verdict own).Answered s.id x.granted
        unfold serve at hx ⊢
        cases hnext : desk.next? verdict own with
        | none =>
          rw [hnext] at hx
          exact ih x hx s hs
        | some handled =>
          rw [hnext] at hx
          obtain ⟨e, later, hevents, rfl⟩ := next?_eq_some hnext
          obtain hold | hnew := List.mem_append.1 hx
          · exact (ih x hold s hs).record hevents verdict own
          · obtain rfl := List.mem_singleton.1 hnew
            obtain rfl : e = .subscribe s := hs
            exact hreach.fresh.answered hevents verdict own

/-! ## Who was asked for -/

/-- The desk knows of a subscription: it is there, or it has been handed in, or its number has been
drawn. -/
def Knows (desk : Desk σ) (s : Subscriber σ) : Prop :=
  s ∈ desk.registry.subscribers ∨ .subscribe s ∈ desk.dispatcher.events ∨
    (s.id, .frames s.route s.sink) ∈ desk.drawn

/-- A number that the desk knows of has been drawn. -/
theorem Knows.id_lt {desk : Desk σ} {s : Subscriber σ} (h : desk.Knows s) (hfresh : desk.Fresh) :
    s.id < desk.dispatcher.nextId := by
  have hused : s.id ∈ desk.numbers := by
    obtain hthere | hwaits | hdrawn := h
    · exact List.mem_append_left _ (List.mem_append_left _
        (List.mem_append_left _ (List.mem_map.2 ⟨s, hthere, rfl⟩)))
    · exact List.mem_append_left _ (List.mem_append_right _
        (List.mem_filterMap.2 ⟨.subscribe s, hwaits, rfl⟩))
    · exact List.mem_append_right _ (List.mem_map.2 ⟨_, hdrawn, rfl⟩)
  have hcount := hfresh s.id
  have hpos := List.count_pos_iff.2 hused
  split at hcount <;> omega

theorem knows_iff {desk : Desk σ} {s : Subscriber σ} :
    desk.Knows s ↔ (s.id, .frames s.route s.sink) ∈ desk.entries := by
  rw [mem_entries, Registry.mem_entries_frames, Knows]
  simp only [DispatchEvent.asks?_eq_frames, exists_eq_right]

/-- Drawing a number adds one subscription at most. -/
theorem Knows.of_draw {desk : Desk σ} {request : Request σ} {s : Subscriber σ}
    (h : (desk.draw request).Knows s) :
    desk.Knows s ∨ s.id = desk.dispatcher.nextId ∧ request = .frames s.route s.sink :=
  (draw_entries (knows_iff.1 h)).imp knows_iff.2 fun heq =>
    ⟨congrArg Prod.fst heq, (congrArg Prod.snd heq).symm⟩

/-- A desk knows of no subscription whose number has not been drawn for it. -/
theorem Knows.of_act {desk : Desk σ} {a : Act} {s : Subscriber σ} (h : (desk.act a).Knows s) :
    desk.Knows s :=
  knows_iff.2 (act_entries (knows_iff.1 h))

/-- A number that nobody has drawn was not there to hear anything. -/
theorem Reachable.hearing_frames {desk : Desk σ} (h : desk.Reachable) {number : Nat}
    (hnumber : desk.dispatcher.nextId ≤ number) : (desk.hearing number).frames = [] := by
  revert hnumber
  refine h.induction (P := fun desk =>
    desk.dispatcher.nextId ≤ number → (desk.hearing number).frames = []) (fun _ => rfl) ?_
  intro desk hreach ih move hnumber
  have hbefore := Nat.le_trans (desk.step_nextId_le move) hnumber
  cases desk.step_cases move with
  | idle _ _ log_eq | halted _ _ log_eq =>
    rw [hearing, log_eq]
    exact ih hbefore
  | @served verdict own _ e later eq =>
    rw [eq, hearing_record]
    cases hframe : e.frame? with
    | none =>
      rw [Hearing.note_frames_of_none hframe]
      exact ih hbefore
    | some frame =>
      obtain rfl := DispatchEvent.eq_of_frame? hframe
      have habsent : (desk.hearing number).present ≠ true := by
        intro hpresent
        obtain ⟨s, hs, hid⟩ := (hreach.present_iff number).1 hpresent
        have hlt := Knows.id_lt (.inl hs) hreach.fresh
        omega
      show Hearing.frames (if _ then _ else _) = _
      rw [if_neg habsent]
      exact ih hbefore

end Desk
end KnxBus
