import KnxBus.Proofs.Dispatch.Circuit

/-!
# What becomes of a circuit whose medium is lost

All that is known of the medium reaches the desk by one way, through the pump and the queue of events,
and nothing overtakes on it.  The news that the medium is lost goes that way too.  So there is a
single line from the medium to the desk's memory: what was handled, what waits to be handled and what
waits at the medium, read one after the other, is what was ever queued there, and where the pump has
ended the news of the loss comes behind what it has taken (`InOrder`).  No step changes what stands in
the line already.  When the desk handles the news of the loss it ends, hence whatever the pump has
taken has been handled by then, and nothing is handled after it (`InOrder.announced`).

The pump does not take everything.  Between the turn in which it finds the inbox empty and the turn in
which it sees the loss something may be queued, and it does not look again.  What is left behind is
known at the moment of the loss (`Wire.missed`): all that waits at the medium if the pump is just then
about to check, and nothing if it is about to look.

That it does come to an end is a matter of turns.  After the loss nothing is queued any more, so each
turn of the pump brings it nearer to its end; after that each turn of the desk brings the news of the
loss nearer to the front of the queue (`pump_toPump`, `serve_toServe`).
-/

namespace KnxBus

variable {σ : Type}

/-- What is left behind if the medium is lost now: all that waits there, unless the pump is still to
look at it. -/
def Wire.missed (w : Wire) : List Lpdu :=
  match w.pump with
  | .looks => []
  | .checks | .ended => w.medium.inbox

namespace Circuit

/-! ## The line from the medium to the desk -/

/-- All events that were handled or wait to be handled, oldest first. -/
def history (c : Circuit σ) : List (DispatchEvent σ) := c.desk.log.map (·.event) ++ c.events

/-- What events say of the medium. -/
def newsIn (events : List (DispatchEvent σ)) : List (Option Lpdu) :=
  events.filterMap DispatchEvent.news?

theorem newsIn_append (a b : List (DispatchEvent σ)) : newsIn (a ++ b) = newsIn a ++ newsIn b :=
  List.filterMap_append

theorem newsIn_quiet {events : List (DispatchEvent σ)} (h : ∀ e ∈ events, e.news? = none) :
    newsIn events = [] :=
  List.filterMap_eq_nil_iff.2 h

/-- Nothing has been handed out that says that the medium is lost. -/
def Unaware (handled : List (Handling σ)) : Prop :=
  ∀ h ∈ handled, h.event ≠ .lost ∧ ∀ x ∈ h.done.handed, x.2 ≠ .lost

/-- The loss of the medium was the last thing that the desk handled, and all who are registered have
been told of it. -/
def Told (c : Circuit σ) : Prop :=
  ∃ earlier last, c.desk.log = earlier ++ [last] ∧ Unaware earlier ∧ last.event = .lost ∧
    last.done.handed = c.desk.registry.announceLoss

/-- How far the news of the medium has come. -/
structure InOrder (c : Circuit σ) : Prop where
  /-- What has been handed to the desk and what waits at the medium is all that was queued there; the
  news of its loss comes last, from a pump that has ended. -/
  news_eq : ∃ taken, taken ++ c.wire.medium.inbox = c.wire.queued ∧
    newsIn c.history = taken.map some ++ if c.wire.pump = .ended then [none] else []
  /-- A pump ends only when the medium is lost. -/
  lost : c.wire.pump = .ended → c.wire.medium.lost = true
  /-- As long as events are handled nobody has been told of a loss. -/
  unaware : c.running = true → Unaware c.desk.log
  /-- When no events are handled any more everybody has. -/
  told : c.running = false → c.Told

theorem start_inOrder (address : IndividualAddress) : (start address : Circuit σ).InOrder where
  news_eq := ⟨[], rfl, rfl⟩
  lost h := by cases h
  unaware _ _ h := absurd h List.not_mem_nil
  told h := by cases h

variable {c c' : Circuit σ}

/-- An event that comes stands last in the history. -/
theorem history_enqueue (e : DispatchEvent σ) (wire : Wire) :
    history ⟨c.desk.enqueue e, wire⟩ = c.history ++ [e] :=
  (List.append_assoc _ _ _).symm

/-- Handling the oldest event takes nothing out of the history. -/
theorem history_served {e : DispatchEvent σ} {later : List (DispatchEvent σ)}
    (queue : c.events = e :: later) (wire : Wire) :
    history ⟨c.desk.record (c.desk.handling c.verdict c.address e later), wire⟩ = c.history := by
  have hlater := (Desk.handle_queue c.verdict c.address (c.desk.dispatcher.withEvents later) e).1
  unfold history
  rw [queue]
  show List.map _ (c.desk.log ++ [_]) ++ (Dispatcher.handle _ _ _ _).dispatcher.events = _
  rw [hlater, List.map_append, List.append_assoc]
  rfl

/-- Whatever is handled enters into the memory; only the loss of the medium ends the desk. -/
theorem InOrder.served (h : c.InOrder) {e : DispatchEvent σ} {later : List (DispatchEvent σ)}
    (works : c.running = true) (queue : c.events = e :: later) :
    InOrder
      ⟨c.desk.record (c.desk.handling c.verdict c.address e later),
        c.wire.obeyAll (c.desk.handling c.verdict c.address e later).done.commands⟩ where
  news_eq := by
    rw [history_served queue, Wire.obeyAll, Loopback.obeyAll_eq]
    exact h.news_eq
  lost := by
    rw [Wire.obeyAll, Loopback.obeyAll_eq]
    exact h.lost
  unaware hgoes g hg := by
    obtain hold | hnew := List.mem_append.1 hg
    · exact h.unaware works g hold
    · rw [List.mem_singleton.1 hnew]
      refine ⟨fun hlost => ?_, Desk.handed_ne_lost hgoes⟩
      obtain rfl : e = .lost := hlost
      cases hgoes
  told hends := by
    by_cases hlost : e = .lost
    · subst hlost
      exact ⟨c.desk.log, _, rfl, h.unaware works, rfl, rfl⟩
    · have hgoes : (Dispatcher.handle c.verdict c.address (c.desk.dispatcher.withEvents later)
          e).dispatcher.running = c.running := Desk.handle_running _ _ _ hlost
      rw [works] at hgoes
      cases hgoes.symm.trans hends

theorem InOrder.step (h : c.InOrder) (hstep : Stepped c c') : c'.InOrder := by
  obtain ⟨taken, htaken, hnews⟩ := h.news_eq
  cases hstep with
  | asked desk more events_eq quiet registry_eq running_eq log_eq =>
    refine ⟨⟨taken, htaken, ?_⟩, h.lost, fun hrun => ?_, fun hends => ?_⟩
    · rw [history, log_eq]
      show newsIn (_ ++ desk.dispatcher.events) = _
      rw [events_eq, ← List.append_assoc, newsIn_append, newsIn_quiet quiet, List.append_nil]
      exact hnews
    · rw [log_eq]
      exact h.unaware (running_eq ▸ hrun)
    · rw [Told, log_eq, registry_eq]
      exact h.told (running_eq ▸ hends)
  | heard item =>
    refine ⟨⟨taken, ?_, hnews⟩, fun hends => ?_, h.unaware, h.told⟩
    · rw [Wire.hear, Loopback.inject_eq, ← List.append_assoc, htaken]
    · rw [Wire.hear, Loopback.inject_eq]
      exact h.lost hends
  | lost => exact ⟨⟨taken, htaken, hnews⟩, fun _ => rfl, h.unaware, h.told⟩
  | pumped item rest pump inbox =>
    refine ⟨⟨taken ++ [item], ?_, ?_⟩, h.lost, h.unaware, h.told⟩
    · rw [← htaken, inbox, List.append_assoc]
      rfl
    · show newsIn _ = _ ++ if c.wire.pump = .ended then _ else _
      rw [history_enqueue, newsIn_append, hnews, pump, if_neg nofun, List.append_nil,
        List.append_nil, List.map_append]
      rfl
  | looked pump inbox =>
    rw [pump] at hnews
    exact ⟨⟨taken, htaken, hnews⟩, nofun, h.unaware, h.told⟩
  | checked pump alive =>
    rw [pump] at hnews
    exact ⟨⟨taken, htaken, hnews⟩, nofun, h.unaware, h.told⟩
  | ended pump isLost =>
    refine ⟨⟨taken, htaken, ?_⟩, fun _ => isLost, h.unaware, h.told⟩
    rw [history_enqueue, newsIn_append, hnews, pump, if_neg nofun, List.append_nil]
    rfl
  | served e later works queue => exact h.served works queue

/-! ## When the loss has been announced -/

/-- Where the news of the loss stands in the line it is the last. -/
theorem eq_nil_of_last {α : Type} {x : α} {before behind all : List α}
    (h : before ++ x :: behind = all ++ [x]) (hx : x ∉ all) : before = all ∧ behind = [] := by
  obtain rfl | ⟨behind, y, rfl⟩ := List.eq_nil_or_concat behind
  · exact ⟨List.append_cancel_right h, rfl⟩
  · rw [List.concat_eq_append, ← List.cons_append, ← List.append_assoc] at h
    have hall := (List.append_inj' h rfl).1
    exact absurd (hall ▸ List.mem_append_right before List.mem_cons_self) hx

/-- **What the pump has taken is dispatched before the loss is announced.**  When no events are handled
any more the pump has ended, and the desk has handled what was queued at the medium, in that order and
without what has been left behind, and after that the loss. -/
theorem InOrder.announced (h : c.InOrder) (hends : c.running = false) :
    ∃ dispatched earlier last, dispatched ++ c.wire.missed = c.wire.queued ∧
      c.desk.log = earlier ++ [last] ∧ Unaware earlier ∧ last.event = .lost ∧
      last.done.handed = c.desk.registry.announceLoss ∧
      newsIn (earlier.map (·.event)) = dispatched.map some := by
  obtain ⟨earlier, last, hlog, hunaware, hevent, hhanded⟩ := h.told hends
  obtain ⟨taken, htaken, hnews⟩ := h.news_eq
  have hline : newsIn (earlier.map (·.event)) ++ none :: newsIn c.events =
      taken.map some ++ if c.wire.pump = .ended then [none] else [] := by
    rw [← hnews, history, hlog, List.map_append, List.append_assoc, newsIn_append]
    show _ ++ _ = _ ++ newsIn (last.event :: c.events)
    rw [hevent]
    rfl
  have hnot : (none : Option Lpdu) ∉ taken.map some := by simp
  by_cases hended : c.wire.pump = .ended
  · have hmissed : c.wire.missed = c.wire.medium.inbox := by rw [Wire.missed, hended]
    rw [if_pos hended] at hline
    exact ⟨taken, earlier, last, hmissed ▸ htaken, hlog, hunaware, hevent, hhanded,
      (eq_nil_of_last hline hnot).1⟩
  · rw [if_neg hended, List.append_nil] at hline
    exact absurd (hline ▸ List.mem_append_right _ List.mem_cons_self) hnot

/-! ## That it comes to this -/

/-- On a lost medium nothing is queued any more, and what is left behind stays so. -/
theorem Stepped.of_lost (hstep : Stepped c c') (hlost : c.wire.medium.lost = true) :
    c'.wire.medium.lost = true ∧ c'.wire.queued = c.wire.queued ∧
      c'.wire.missed = c.wire.missed := by
  cases hstep with
  | heard item =>
    have hheard : c.wire.medium.heard item = [] := if_pos hlost
    rw [Wire.hear, Loopback.inject_eq, hheard, List.append_nil, List.append_nil]
    exact ⟨hlost, rfl, rfl⟩
  | served e later works queue =>
    rw [Wire.obeyAll, Loopback.obeyAll_eq]
    exact ⟨hlost, rfl, rfl⟩
  | lost => exact ⟨rfl, rfl, rfl⟩
  | asked => exact ⟨hlost, rfl, rfl⟩
  | pumped item rest pump inbox =>
    refine ⟨hlost, rfl, ?_⟩
    rw [Wire.missed, Wire.missed, pump]
  | looked pump inbox =>
    refine ⟨hlost, rfl, ?_⟩
    rw [Wire.missed, Wire.missed, pump, inbox]
  | checked pump alive => cases alive.symm.trans hlost
  | ended pump isLost =>
    refine ⟨hlost, rfl, ?_⟩
    rw [Wire.missed, Wire.missed, pump]

/-- How many turns the pump needs until it has ended, once the medium is lost: one for each item, one
in which it finds none, and one in which it sees the loss. -/
def toPump (c : Circuit σ) : Nat :=
  match c.wire.pump with
  | .looks => c.wire.medium.inbox.length + 2
  | .checks => 1
  | .ended => 0

theorem toPump_eq_zero : c.toPump = 0 ↔ c.wire.pump = .ended := by
  unfold toPump
  cases c.wire.pump <;> simp

theorem toPump_le (c : Circuit σ) : c.toPump ≤ c.wire.medium.inbox.length + 2 := by
  unfold toPump
  split <;> omega

/-- No step makes the way to the end of the pump longer once the medium is lost. -/
theorem Stepped.toPump_le (hstep : Stepped c c') (hlost : c.wire.medium.lost = true) :
    c'.toPump ≤ c.toPump := by
  cases hstep with
  | heard item =>
    have hheard : c.wire.medium.heard item = [] := if_pos hlost
    rw [Wire.hear, Loopback.inject_eq, hheard, List.append_nil]
    exact Nat.le_refl _
  | served e later works queue =>
    rw [Wire.obeyAll, Loopback.obeyAll_eq]
    exact Nat.le_refl _
  | pumped item rest pump inbox =>
    unfold toPump
    rw [pump, inbox]
    exact Nat.le_succ _
  | looked pump inbox =>
    unfold toPump
    rw [pump]
    exact Nat.le_add_left 1 _
  | checked pump alive => cases alive.symm.trans hlost
  | ended => exact Nat.zero_le _
  | asked | lost => exact Nat.le_refl _

/-- A turn of the pump makes it shorter. -/
theorem pump_toPump (hlost : c.wire.medium.lost = true) : (c.act .pump).toPump ≤ c.toPump - 1 := by
  cases c.pumps with
  | item item rest pump inbox =>
    rw [(pump_item pump inbox).2]
    unfold toPump
    rw [pump, inbox]
    exact Nat.le_refl _
  | nothing pump inbox =>
    rw [(pump_nothing pump inbox).2]
    unfold toPump
    rw [pump]
    exact Nat.le_add_left 1 _
  | alive pump alive => cases alive.symm.trans hlost
  | lost pump isLost =>
    rw [(pump_lost pump isLost).2]
    exact Nat.zero_le _
  | ended pump =>
    have hdone : c.toPump = 0 := toPump_eq_zero.2 pump
    rw [(pump_ended pump).2]
    omega

/-- Whether an event is the loss of the medium. -/
def isLoss (e : DispatchEvent σ) : Bool := e.news? == some none

theorem isLoss_iff {e : DispatchEvent σ} : isLoss e = true ↔ e = .lost := by
  cases e <;> simp [isLoss, DispatchEvent.news?]

/-- How many turns the desk needs until it has handled the loss of the medium. -/
def toServe (c : Circuit σ) : Nat := if c.running then c.events.findIdx isLoss + 1 else 0

theorem toServe_eq_zero : c.toServe = 0 ↔ c.running = false := by
  unfold toServe
  cases c.running <;> simp

/-- When the pump has ended the news of the loss waits at the desk, unless it has been handled. -/
theorem InOrder.lost_mem (h : c.InOrder) (hends : c.wire.pump = .ended)
    (works : c.running = true) : .lost ∈ c.events := by
  obtain ⟨taken, -, hnews⟩ := h.news_eq
  rw [hends] at hnews
  have hmem : none ∈ newsIn c.history := by
    rw [hnews]
    exact List.mem_append_right _ List.mem_cons_self
  obtain ⟨e, he, hnone⟩ := List.mem_filterMap.1 hmem
  have hlost : e = .lost := isLoss_iff.1 (beq_iff_eq.2 hnone)
  rw [hlost] at he
  obtain hold | hwaits := List.mem_append.1 he
  · obtain ⟨handled, hhandled, hevent⟩ := List.mem_map.1 hold
    exact absurd hevent (h.unaware works handled hhandled).1
  · exact hwaits

theorem toServe_le (h : c.InOrder) (hends : c.wire.pump = .ended) :
    c.toServe ≤ c.events.length := by
  unfold toServe
  split
  · rename_i works
    exact List.findIdx_lt_length_of_exists ⟨.lost, h.lost_mem hends works, rfl⟩
  · exact Nat.zero_le _

/-- Handling the oldest event makes the way of the news shorter. -/
theorem served_toServe {e : DispatchEvent σ} {later : List (DispatchEvent σ)}
    (works : c.running = true) (queue : c.events = e :: later) (wire : Wire) :
    toServe ⟨c.desk.record (c.desk.handling c.verdict c.address e later), wire⟩ ≤
      c.toServe - 1 := by
  have hlater := (Desk.handle_queue c.verdict c.address (c.desk.dispatcher.withEvents later) e).1
  unfold toServe
  rw [if_pos works, queue]
  split
  · rename_i hgoes
    have hother : isLoss e = false := by
      rw [← Bool.not_eq_true, isLoss_iff]
      rintro rfl
      cases hgoes
    show List.findIdx _ (Dispatcher.handle _ _ _ _).dispatcher.events + 1 ≤ _
    rw [hlater, List.findIdx_cons, hother]
    exact Nat.le_refl _
  · exact Nat.zero_le _

/-- No step makes it longer once the pump has ended. -/
theorem Stepped.toServe_le (hstep : Stepped c c') (h : c.InOrder) (hends : c.wire.pump = .ended) :
    c'.toServe ≤ c.toServe := by
  cases hstep with
  | asked desk more events_eq quiet registry_eq running_eq log_eq =>
    show (if desk.dispatcher.running then desk.dispatcher.events.findIdx isLoss + 1 else 0) ≤ _
    rw [running_eq, toServe]
    split
    · rename_i works
      have hthere : c.events.findIdx isLoss < c.events.length :=
        List.findIdx_lt_length_of_exists ⟨.lost, h.lost_mem hends works, rfl⟩
      refine Nat.le_of_eq ?_
      rw [events_eq, List.findIdx_append, if_pos hthere]
    · exact Nat.le_refl _
  | served e later works queue => exact Nat.le_trans (served_toServe works queue _) (Nat.sub_le _ _)
  | pumped _ _ pump | looked pump | checked pump | ended pump => cases pump.symm.trans hends
  | heard | lost => exact Nat.le_refl _

/-- A turn of the desk makes it shorter. -/
theorem serve_toServe (h : c.InOrder) (hends : c.wire.pump = .ended) :
    (c.act .serve).toServe ≤ c.toServe - 1 := by
  cases hworks : c.running with
  | false =>
    have hzero : (c.act .serve).toServe = 0 := by
      rw [serve_idle (.inl hworks)]
      exact if_neg (Bool.eq_false_iff.1 hworks)
    exact Nat.le_trans (Nat.le_of_eq hzero) (Nat.zero_le _)
  | true =>
    obtain ⟨e, later, hevents⟩ := List.exists_cons_of_ne_nil
      (List.ne_nil_of_mem (h.lost_mem hends hworks))
    rw [serve_eq hworks hevents]
    exact served_toServe hworks hevents _

/-! ## Whoever comes too late -/

/-- Nothing can be sent on a lost medium. -/
theorem sending_of_lost (hlost : c.wire.medium.lost = true) (frame : Frame) :
    c.sending frame = .error (if c.running then .medium .connectionLost else .stopped) := by
  unfold sending Loopback.send
  rw [if_pos hlost]
  split <;> rfl

/-- A request that has not been handled by the end is turned down. -/
theorem reply_of_unhandled (hends : c.running = false) {id : Nat}
    (h : ∀ handled ∈ c.desk.log, handled.event.number? ≠ some id) :
    c.reply id = some (.error .stopped) := by
  have hnone : c.desk.log.find? (fun h => h.event.number? = some id) = none :=
    List.find?_eq_none.2 fun handled hhandled => by simpa using h handled hhandled
  rw [reply, hnone]
  exact if_neg (Bool.eq_false_iff.1 hends)

end Circuit
end KnxBus
