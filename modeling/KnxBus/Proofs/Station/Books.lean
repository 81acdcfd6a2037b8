import KnxBus.Proofs.Dispatch.Hearing
import KnxBus.Proofs.Station.Holding

/-!
# The books of a station

Each part knows what it holds, and the registry knows who is registered.  The two are written down
in different places and at different times: a registration is made before there is a part that holds
it, and a part that lets go of one only says so to the dispatcher, which ends it later.  The books
bring them together.  They compare three lists:

* what the members hold, a seat for each member and with it all that it holds (`owed`);
* the registrations that nobody holds at the moment, *extra* ones;
* the subscriptions that will be left when all that waits for the dispatcher has been handled
  (`Dispatcher.staying`).

The books are right if the third list consists of the first two (`Books.staying_perm`).  When
nothing waits and nothing is extra, every subscription is held by exactly one member and every
member has all of its subscriptions.

Nobody holds a bare registration for frames.  The books are therefore kept in one of two ways
(`Scope`): either there are no bare registrations, and they are about all subscriptions, or they
leave the bare ones out.

## How registrations move

To subscribe makes an extra registration, and to leave ends an extra one.  A member that sits down
takes extra registrations with it, and one that rises leaves its own behind as extra ones.  Whatever
a station does with its registrations is made of these four, and each keeps the books right.  The
event by which somebody leaves is counted when it comes, so handling it changes nothing in the
books.
-/

namespace KnxBus

variable {σ : Type}

/-- Nobody is registered by leaving. -/
theorem Registry.unsubscribe_sublist (r : Registry σ) (verdict : Verdict) (id : Nat) :
    (r.unsubscribe verdict id).1.subscribers.Sublist r.subscribers := by
  cases r.unsubscribe_cases verdict id with
  | unsubscribed before after gone _ there registry_eq _ =>
    rw [registry_eq, there]
    exact (List.sublist_cons_self gone after).append_left before
  | unmonitored before after gone _ _ _ registry_eq _ =>
    have hsame := congrArg Registry.subscribers registry_eq
    exact hsame ▸ List.Sublist.refl r.subscribers
  | unknown _ eq =>
    have hsame := congrArg (·.1.subscribers) eq
    exact hsame ▸ List.Sublist.refl r.subscribers

/-- The registration that an event ends. -/
def DispatchEvent.leaver? : DispatchEvent σ → Option Nat
  | .unsubscribe id => some id
  | _ => none

namespace Dispatcher

/-- The registrations that will end when the events that wait have been handled. -/
def leaving (d : Dispatcher σ) : List Nat := d.events.filterMap DispatchEvent.leaver?

/-- The subscriptions that will be left when the events that wait have been handled. -/
def staying (d : Dispatcher σ) : List (Subscriber σ) :=
  d.registry.subscribers.filter fun u => u.id ∉ d.leaving

variable {d : Dispatcher σ}

theorem staying_of_nil (h : d.events = []) : d.staying = d.registry.subscribers := by
  rw [staying, leaving, h]
  exact List.filter_eq_self.2 fun _ _ => rfl

theorem leaving_enqueue (d : Dispatcher σ) (e : DispatchEvent σ) :
    (d.enqueue e).leaving = d.leaving ++ e.leaver?.toList := by
  rw [leaving, leaving, enqueue, List.filterMap_append]
  cases h : e.leaver? <;> simp [h]

/-- Who leaves does not stay. -/
theorem staying_unsubscribe (d : Dispatcher σ) (id : Nat) :
    (d.enqueue (.unsubscribe id)).staying = d.staying.filter fun u => u.id ≠ id := by
  have hleaving : (d.enqueue (.unsubscribe id)).leaving = d.leaving ++ [id] :=
    leaving_enqueue d (.unsubscribe id)
  rw [staying, staying, hleaving, List.filter_filter]
  refine List.filter_congr fun u _ => ?_
  simp [and_comm]

/-- Somebody leaves whom the dispatcher is about to forget. -/
theorem staying_unsubscribe_cons (verdict : Verdict) (d : Dispatcher σ)
    (hnodup : (d.registry.subscribers.map (·.id)).Nodup) (id : Nat)
    (later : List (DispatchEvent σ)) :
    ((d.withRegistry (d.registry.unsubscribe verdict id).1).withEvents later).staying =
      (d.withEvents (.unsubscribe id :: later)).staying := by
  have hkeep : ∀ l : List (Subscriber σ), (∀ u ∈ l, u.id ≠ id) →
      (l.filter fun u => u.id ∉ later.filterMap DispatchEvent.leaver?) =
        l.filter fun u => u.id ∉ id :: later.filterMap DispatchEvent.leaver? := by
    intro l hl
    refine List.filter_congr fun u hu => ?_
    simp [hl u hu]
  show ((d.registry.unsubscribe verdict id).1.subscribers.filter fun u =>
      u.id ∉ later.filterMap DispatchEvent.leaver?) =
    d.registry.subscribers.filter fun u => u.id ∉ id :: later.filterMap DispatchEvent.leaver?
  cases d.registry.unsubscribe_cases verdict id with
  | unsubscribed before after gone id_eq there registry_eq _ =>
    rw [there] at hnodup
    have hothers := Subscriber.id_ne_of_nodup hnodup
    rw [id_eq] at hothers
    rw [registry_eq, there, hkeep _ hothers, List.filter_append, List.filter_append,
      List.filter_cons_of_neg (by simp [id_eq])]
  | unmonitored before after gone _ _ others registry_eq _ =>
    rw [registry_eq]
    exact hkeep _ others
  | unknown others eq =>
    rw [eq]
    exact hkeep _ others

end Dispatcher

/-! ## Numbers -/

/-- Subscriptions have different numbers, all of which have been drawn. -/
structure Dispatcher.Numbered (d : Dispatcher σ) : Prop where
  /-- The numbers are different. -/
  nodup : (d.registry.subscribers.map (·.id)).Nodup
  /-- They have been drawn. -/
  lt_nextId : ∀ u ∈ d.registry.subscribers, u.id < d.nextId

namespace Dispatcher.Numbered

variable {d : Dispatcher σ}

/-- Drawing a number makes no subscription. -/
theorem takeId (h : d.Numbered) : d.takeId.2.Numbered :=
  ⟨h.nodup, fun u hu => Nat.lt_succ_of_lt (h.lt_nextId u hu)⟩

/-- A subscription may be made under the number that was drawn. -/
theorem add (h : d.Numbered) {u : Subscriber σ} (hid : u.id = d.nextId) :
    (d.takeId.2.withRegistry (d.registry.add u)).Numbered where
  nodup := by
    show ((d.registry.subscribers ++ [u]).map (·.id)).Nodup
    rw [List.map_append]
    refine List.nodup_append.2 ⟨h.nodup, List.pairwise_singleton _ _, fun a ha b hb => ?_⟩
    obtain ⟨v, hv, rfl⟩ := List.mem_map.1 ha
    have hb' : b = d.nextId := (List.mem_singleton.1 hb).trans hid
    rw [hb']
    exact Nat.ne_of_lt (h.lt_nextId v hv)
  lt_nextId v hv := by
    obtain hold | hnew := List.mem_append.1 hv
    · exact Nat.lt_succ_of_lt (h.lt_nextId v hold)
    · rw [List.mem_singleton.1 hnew, hid]
      exact Nat.lt_succ_self _

/-- Those that are left had their numbers before. -/
theorem of_sublist (h : d.Numbered) {d' : Dispatcher σ} (hnext : d'.nextId = d.nextId)
    (hsub : d'.registry.subscribers.Sublist d.registry.subscribers) : d'.Numbered :=
  ⟨h.nodup.sublist (hsub.map _), fun u hu => hnext ▸ h.lt_nextId u (hsub.subset hu)⟩

end Dispatcher.Numbered

/-! ## Seats -/

/-- A member as the books know it. -/
structure Seat where
  /-- The serial number. -/
  serial : Nat
  /-- The stance of its part. -/
  stance : Part.Stance
  deriving DecidableEq, Repr

/-- The subscriptions of a member. -/
def Seat.subscribers (x : Seat) : List (Subscriber Sink) :=
  x.stance.holds.map fun h => ⟨h.1, h.2, .part x.serial⟩

/-- The subscriptions that members hold. -/
def owed (seats : List Seat) : List (Subscriber Sink) := seats.flatMap Seat.subscribers

theorem owed_split (before after : List Seat) (x : Seat) :
    (owed (before ++ x :: after)).Perm (x.subscribers ++ owed (before ++ after)) := by
  rw [owed, owed, List.flatMap_append, List.flatMap_cons, List.flatMap_append]
  exact List.perm_append_comm_assoc _ _ _

theorem Seat.ids_subscribers (x : Seat) :
    x.subscribers.map (·.id) = x.stance.holds.map Prod.fst := by
  rw [Seat.subscribers, List.map_map]
  rfl

/-! ## The books -/

/-- The subscriptions that the books are about. -/
inductive Scope where
  /-- All of them. -/
  | all
  /-- Those of parts, and no bare ones. -/
  | parts

/-- Whether the books are about subscriptions with a sink. -/
def Scope.counts : Scope → Sink → Bool
  | all, _ => true
  | parts, .part _ => true
  | parts, .record _ => false

@[simp]
theorem Scope.counts_part (scope : Scope) (serial : Nat) : scope.counts (.part serial) = true := by
  cases scope <;> rfl

/-- The subscriptions that count and will be left when the events that wait have been handled. -/
def Dispatcher.counted (scope : Scope) (d : Dispatcher Sink) : List (Subscriber Sink) :=
  d.staying.filter fun u => scope.counts u.sink

namespace Dispatcher

variable {scope : Scope} {d : Dispatcher Sink}

theorem counted_all (d : Dispatcher Sink) : d.counted .all = d.staying :=
  List.filter_eq_self.2 fun _ _ => rfl

theorem counted_sublist (scope : Scope) (d : Dispatcher Sink) :
    (d.counted scope).Sublist d.registry.subscribers :=
  List.filter_sublist.trans List.filter_sublist

theorem counted_of_nil (h : d.events = []) :
    d.counted scope = d.registry.subscribers.filter fun u => scope.counts u.sink := by
  rw [counted, staying_of_nil h]

/-- Who leaves does not count any more. -/
theorem counted_unsubscribe (scope : Scope) (d : Dispatcher Sink) (id : Nat) :
    (d.enqueue (.unsubscribe id)).counted scope =
      (d.counted scope).filter fun u => u.id ≠ id := by
  rw [counted, counted, staying_unsubscribe, List.filter_filter, List.filter_filter]
  exact List.filter_congr fun u _ => Bool.and_comm _ _

end Dispatcher

/-- The books are right: what members hold and what is extra makes up what stays. -/
structure Books (scope : Scope) (seats : List Seat) (extra : List (Subscriber Sink))
    (d : Dispatcher Sink) : Prop where
  /-- Every subscription that stays is held by one member or is an extra one, and all are there. -/
  staying_perm : (d.counted scope).Perm (owed seats ++ extra)
  /-- The numbers of subscriptions are in order. -/
  numbered : d.Numbered
  /-- Nobody waits to be registered. -/
  quiet : ∀ e ∈ d.events, e.number? = none
  /-- The number of a bare registration is no number of a subscription. -/
  apart : ∀ x ∈ seats, ∀ n, x.stance.listener? = some n →
    n < d.nextId ∧ ∀ u ∈ d.registry.subscribers, scope.counts u.sink = true → u.id ≠ n

namespace Books

variable {scope : Scope} {seats seats' : List Seat} {extra extra' : List (Subscriber Sink)} {d d' : Dispatcher Sink}

/-- The books of a station without members. -/
theorem start : Books scope [] [] (.start : Dispatcher Sink) where
  staying_perm := List.Perm.refl _
  numbered := ⟨List.nodup_nil, fun _ hu => absurd hu List.not_mem_nil⟩
  quiet _ he := absurd he List.not_mem_nil
  apart _ hx := absurd hx List.not_mem_nil

/-- No number is written down twice. -/
theorem nodup (h : Books scope seats extra d) : ((owed seats ++ extra).map (·.id)).Nodup :=
  (h.staying_perm.map _).nodup_iff.1
    (h.numbered.nodup.sublist ((Dispatcher.counted_sublist scope d).map _))

/-- A number that is extra is not that of a member. -/
theorem ne_of_mem_extra (h : Books scope seats extra d) {id : Nat} (hid : id ∈ extra.map (·.id)) :
    ∀ u ∈ owed seats, u.id ≠ id := by
  have hnodup := h.nodup
  rw [List.map_append] at hnodup
  exact fun u hu => (List.nodup_append.1 hnodup).2.2 _ (List.mem_map_of_mem hu) _ hid

/-- Nor is that of a bare registration. -/
theorem ne_of_listener (h : Books scope seats extra d) {x : Seat} (hx : x ∈ seats) {n : Nat}
    (hn : x.stance.listener? = some n) : ∀ u ∈ owed seats, u.id ≠ n := by
  intro u hu
  have hcounted : u ∈ d.counted scope :=
    h.staying_perm.mem_iff.2 (List.mem_append_left extra hu)
  exact (h.apart x hx n hn).2 u ((Dispatcher.counted_sublist scope d).subset hcounted)
    (List.mem_filter.1 hcounted).2

/-! ### What comes to the dispatcher -/

/-- Events that neither register anybody nor let anybody leave do not concern the books. -/
theorem hear (h : Books scope seats extra d) {events : List (DispatchEvent Sink)}
    (hnumber : ∀ e ∈ events, e.number? = none) (hleaver : ∀ e ∈ events, e.leaver? = none) :
    Books scope seats extra (d.withEvents (d.events ++ events)) where
  staying_perm := by
    have hleaving : (d.withEvents (d.events ++ events)).leaving = d.leaving := by
      show (d.events ++ events).filterMap DispatchEvent.leaver? = _
      rw [List.filterMap_append, List.filterMap_eq_nil_iff.2 hleaver, List.append_nil]
      rfl
    rw [Dispatcher.counted, Dispatcher.staying, hleaving]
    exact h.staying_perm
  numbered := ⟨h.numbered.nodup, h.numbered.lt_nextId⟩
  quiet e he := (List.mem_append.1 he).elim (h.quiet e) (hnumber e)
  apart := h.apart

/-- An extra registration is given up. -/
theorem leave (h : Books scope seats extra d) {id : Nat} (hid : ∀ u ∈ owed seats, u.id ≠ id) :
    Books scope seats (extra.filter fun u => u.id ≠ id) (d.enqueue (.unsubscribe id)) where
  staying_perm := by
    have hkept : ((owed seats).filter fun u => u.id ≠ id) = owed seats :=
      List.filter_eq_self.2 fun u hu => decide_eq_true (hid u hu)
    have hfiltered := h.staying_perm.filter fun u => u.id ≠ id
    rw [List.filter_append, hkept] at hfiltered
    rw [Dispatcher.counted_unsubscribe]
    exact hfiltered
  numbered := ⟨h.numbered.nodup, h.numbered.lt_nextId⟩
  quiet e he := by
    obtain hold | hnew := List.mem_append.1 he
    · exact h.quiet e hold
    · rw [List.mem_singleton.1 hnew]
      rfl
  apart := h.apart

/-- **Handling an event keeps the books right** as long as the dispatcher goes on. -/
theorem handle {e : DispatchEvent Sink} {later : List (DispatchEvent Sink)}
    (h : Books scope seats extra (d.withEvents (e :: later))) (verdict : Verdict)
    (own : IndividualAddress) (hgoes : (d.handle verdict own e).dispatcher.running = true) :
    Books scope seats extra ((d.handle verdict own e).dispatcher.withEvents later) := by
  have hquiet : ∀ e' ∈ later, e'.number? = none := fun e' he' =>
    h.quiet e' (List.mem_cons_of_mem e he')
  cases e with
  | subscribe u => cases h.quiet _ List.mem_cons_self
  | monitor m => cases h.quiet _ List.mem_cons_self
  | lost => cases hgoes
  | heard heard =>
    exact ⟨h.staying_perm, ⟨h.numbered.nodup, h.numbered.lt_nextId⟩, hquiet, h.apart⟩
  | unsubscribe id =>
    -- Who leaves was counted out when the event came, so what stays is the same.
    have hsub := d.registry.unsubscribe_sublist verdict id
    have hstaying := Dispatcher.staying_unsubscribe_cons verdict d h.numbered.nodup id later
    refine ⟨?_, h.numbered.of_sublist rfl hsub, hquiet, fun x hx n hn => ?_⟩
    · show (((d.withRegistry (d.registry.unsubscribe verdict id).1).withEvents
        later).staying.filter _).Perm _
      rw [hstaying]
      exact h.staying_perm
    · obtain ⟨hlt, hne⟩ := h.apart x hx n hn
      exact ⟨hlt, fun u hu => hne u (hsub.subset hu)⟩

/-! ### Registering -/

/-- Drawing a number does not concern the books. -/
theorem takeId (h : Books scope seats extra d) : Books scope seats extra d.takeId.2 := by
  refine ⟨h.staying_perm, h.numbered.takeId, h.quiet, fun x hx n hn => ?_⟩
  obtain ⟨hlt, hne⟩ := h.apart x hx n hn
  exact ⟨Nat.lt_succ_of_lt hlt, hne⟩

/-- A subscription under the number that was drawn is an extra one, if it counts. -/
theorem subscribed (h : Books scope seats extra d) (hnil : d.events = []) {u : Subscriber Sink}
    (hid : u.id = d.nextId) :
    Books scope seats (extra ++ [u].filter fun u => scope.counts u.sink)
      (d.takeId.2.withRegistry (d.registry.add u)) := by
  have hstaying := h.staying_perm
  rw [Dispatcher.counted_of_nil hnil] at hstaying
  have hadded : (d.takeId.2.withRegistry (d.registry.add u)).counted scope =
      (d.registry.subscribers ++ [u]).filter fun u => scope.counts u.sink :=
    Dispatcher.counted_of_nil hnil
  refine ⟨?_, h.numbered.add hid, h.quiet, fun x hx n hn => ?_⟩
  · rw [hadded, List.filter_append, ← List.append_assoc]
    exact hstaying.append_right _
  · obtain ⟨hlt, hne⟩ := h.apart x hx n hn
    refine ⟨Nat.lt_succ_of_lt hlt, fun v hv => ?_⟩
    obtain hold | hnew := List.mem_append.1 hv
    · exact hne v hold
    · rw [List.mem_singleton.1 hnew, hid]
      exact fun _ => (Nat.ne_of_lt hlt).symm

/-- A monitor is no subscription. -/
theorem monitor (h : Books scope seats extra d) (verdict : Verdict) (m : Monitor Sink) :
    Books scope seats extra (d.takeId.2.withRegistry (d.registry.monitor verdict m).registry) := by
  have hsame := d.registry.monitor_subscribers verdict m
  have hsub : (d.registry.monitor verdict m).registry.subscribers.Sublist d.registry.subscribers :=
    hsame ▸ List.Sublist.refl _
  refine ⟨?_, h.numbered.takeId.of_sublist rfl hsub, h.quiet, ?_⟩
  · show (((d.registry.monitor verdict m).registry.subscribers.filter _).filter _).Perm _
    rw [hsame]
    exact h.staying_perm
  · intro x hx n hn
    obtain ⟨hlt, hne⟩ := h.takeId.apart x hx n hn
    exact ⟨hlt, fun u hu => hne u (hsame ▸ hu)⟩

/-! ### Members -/

/-- The order of the members does not concern the books. -/
theorem perm (h : Books scope seats extra d) (hseats : seats.Perm seats') : Books scope seats' extra d where
  staying_perm := h.staying_perm.trans ((hseats.flatMap_right _).append_right _)
  numbered := h.numbered
  quiet := h.quiet
  apart x hx := h.apart x (hseats.mem_iff.2 hx)

variable {before after : List Seat} {x : Seat}

/-- A member rises and leaves its subscriptions behind as extra ones. -/
theorem rise (h : Books scope (before ++ x :: after) extra d) :
    Books scope (before ++ after) (x.subscribers ++ extra) d where
  staying_perm := by
    refine h.staying_perm.trans (((owed_split before after x).append_right extra).trans ?_)
    rw [List.append_assoc]
    exact List.perm_append_comm_assoc _ _ _
  numbered := h.numbered
  quiet := h.quiet
  apart y hy := h.apart y (List.perm_middle.mem_iff.2 (List.mem_cons_of_mem x hy))

/-- A member sits down and takes extra subscriptions with it. -/
theorem sit (h : Books scope (before ++ after) (x.subscribers ++ extra) d)
    (hlistener : ∀ n, x.stance.listener? = some n →
      n < d.nextId ∧ ∀ u ∈ d.registry.subscribers, scope.counts u.sink = true → u.id ≠ n) :
    Books scope (before ++ x :: after) extra d where
  staying_perm := by
    refine h.staying_perm.trans (List.Perm.symm ?_)
    refine ((owed_split before after x).append_right extra).trans ?_
    rw [List.append_assoc]
    exact List.perm_append_comm_assoc _ _ _
  numbered := h.numbered
  quiet := h.quiet
  apart y hy := by
    obtain rfl | hold := List.mem_cons.1 (List.perm_middle.mem_iff.1 hy)
    · exact hlistener
    · exact h.apart y hold

end Books
end KnxBus
