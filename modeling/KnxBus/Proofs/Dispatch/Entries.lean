import KnxBus.Proofs.Dispatch.Desk

/-!
# Registrations at a desk

A registration is on its way from the moment when its number is drawn: first it is still to be asked
for, then its event waits to be handled, and in the end it is in the registry.  Wherever it is, its
number and what was asked for go together (`Desk.entries`), and no move of a desk makes one that nobody
has drawn a number for (`Desk.act_entries`).  Nor does a desk believe that somebody leaves who does not
(`Desk.leaving_of_act`).
-/

namespace KnxBus

variable {σ : Type}

/-- Where what is asked for is handed to. -/
def Request.sink : Request σ → σ
  | .frames _ sink => sink
  | .captures _ sink => sink

/-- The registrations of a registry: their numbers, and what was asked for. -/
def Registry.entries (r : Registry σ) : List (Nat × Request σ) :=
  r.subscribers.map (fun s => (s.id, .frames s.route s.sink)) ++
    r.monitors.map fun m => (m.id, .captures m.isVirtual m.sink)

/-- The registration that an event asks for. -/
def DispatchEvent.asks? : DispatchEvent σ → Option (Nat × Request σ)
  | .subscribe s => some (s.id, .frames s.route s.sink)
  | .monitor m => some (m.id, .captures m.isVirtual m.sink)
  | _ => none

@[simp]
theorem Request.event_asks? (id : Nat) (request : Request σ) :
    (request.event id).asks? = some (id, request) := by
  cases request <;> rfl

/-- A subscription is a registration for frames. -/
theorem Registry.mem_entries_frames {r : Registry σ} {s : Subscriber σ} :
    (s.id, .frames s.route s.sink) ∈ r.entries ↔ s ∈ r.subscribers := by
  obtain ⟨id, route, sink⟩ := s
  simp only [entries, List.mem_append, List.mem_map]
  constructor
  · rintro (⟨s, hs, heq⟩ | ⟨m, -, heq⟩)
    · cases s
      cases heq
      exact hs
    · cases heq
  · exact fun hs => .inl ⟨_, hs, rfl⟩

theorem DispatchEvent.asks?_eq_frames {e : DispatchEvent σ} {s : Subscriber σ} :
    e.asks? = some (s.id, .frames s.route s.sink) ↔ e = .subscribe s := by
  obtain ⟨id, route, sink⟩ := s
  constructor
  · intro h
    cases e with
    | subscribe s =>
      cases s
      cases h
      rfl
    | _ => cases h
  · rintro rfl
    rfl

namespace Desk

/-- All registrations that there are, are waited for, or are still to be asked for. -/
def entries (desk : Desk σ) : List (Nat × Request σ) :=
  desk.registry.entries ++ desk.dispatcher.events.filterMap DispatchEvent.asks? ++ desk.drawn

theorem mem_entries {desk : Desk σ} {x : Nat × Request σ} :
    x ∈ desk.entries ↔ x ∈ desk.registry.entries ∨
      (∃ e ∈ desk.dispatcher.events, e.asks? = some x) ∨ x ∈ desk.drawn := by
  simp only [entries, List.mem_append, List.mem_filterMap, or_assoc]

/-- Handling an event makes no registration but the one that it asks for. -/
theorem handle_entries {verdict : Verdict} {own : IndividualAddress} {d : Dispatcher σ}
    {e : DispatchEvent σ} {x : Nat × Request σ}
    (h : x ∈ (d.handle verdict own e).dispatcher.registry.entries) :
    x ∈ d.registry.entries ∨ e.asks? = some x := by
  cases e with
  | subscribe s =>
    change x ∈ (d.registry.subscribe verdict s).registry.entries at h
    obtain ⟨cause, eq⟩ | ⟨c, e, -, -, eq⟩ | ⟨-, -, -, eq⟩ := d.registry.subscribe_cases verdict s
    · rw [eq] at h
      exact .inl h
    · rw [eq] at h
      exact .inl h
    · rw [eq] at h
      simp only [Registry.entries, Registry.add, List.map_append, List.mem_append,
        List.map_singleton, List.mem_singleton] at h ⊢
      obtain (hold | rfl) | hold := h
      · exact .inl (.inl hold)
      · exact .inr rfl
      · exact .inl (.inr hold)
  | monitor m =>
    have hadded (h : x ∈ (d.registry.addMonitor m).entries) :
        x ∈ d.registry.entries ∨ (DispatchEvent.monitor m).asks? = some x := by
      simp only [Registry.entries, Registry.addMonitor, List.map_append, List.mem_append,
        List.map_singleton, List.mem_singleton] at h ⊢
      obtain hold | hold | rfl := h
      · exact .inl (.inl hold)
      · exact .inl (.inr hold)
      · exact .inr rfl
    change x ∈ (d.registry.monitor verdict m).registry.entries at h
    cases d.registry.monitor_cases verdict m with
    | refused _ eq | staysWithoutVirtual _ _ eq | staysNormal _ _ eq | returnsToNormal _ _ _ _ eq =>
      rw [eq] at h
      exact .inl h
    | joins _ _ eq | opensVirtual _ _ eq | takesBus _ _ _ _ eq =>
      rw [eq] at h
      exact hadded h
  | unsubscribe id =>
    refine .inl ?_
    change x ∈ (d.registry.unsubscribe verdict id).1.entries at h
    unfold Registry.entries at h ⊢
    cases d.registry.unsubscribe_cases verdict id with
    | unsubscribed before after gone _ there registry_eq _ =>
      rw [registry_eq] at h
      rw [there]
      refine List.Sublist.subset (.append_right (.map _ ?_) _) h
      exact (List.sublist_cons_self gone after).append_left before
    | unmonitored before after gone _ there _ registry_eq _ =>
      rw [registry_eq] at h
      rw [there]
      refine List.Sublist.subset (.append_left (.map _ ?_) _) h
      exact (List.sublist_cons_self gone after).append_left before
    | unknown _ eq =>
      rw [eq] at h
      exact h
  | heard heard => exact .inl h
  | lost => exact .inl h

/-- All registrations that are waited for or still to be asked for. -/
def awaited (desk : Desk σ) : List (Nat × Request σ) :=
  desk.dispatcher.events.filterMap DispatchEvent.asks? ++ desk.drawn

theorem mem_awaited {desk : Desk σ} {x : Nat × Request σ} :
    x ∈ desk.awaited ↔ (∃ e ∈ desk.dispatcher.events, e.asks? = some x) ∨ x ∈ desk.drawn := by
  simp only [awaited, List.mem_append, List.mem_filterMap]

theorem mem_entries_iff_awaited {desk : Desk σ} {x : Nat × Request σ} :
    x ∈ desk.entries ↔ x ∈ desk.registry.entries ∨ x ∈ desk.awaited := by
  rw [mem_entries, mem_awaited]

/-- An event that comes brings the registration that it asks for. -/
theorem enqueue_awaited {desk : Desk σ} {e : DispatchEvent σ} {x : Nat × Request σ}
    (h : x ∈ (desk.enqueue e).awaited) : x ∈ desk.awaited ∨ e.asks? = some x := by
  obtain ⟨e', he', hx⟩ | hdrawn := mem_awaited.1 h
  · obtain hold | hnew := List.mem_append.1 he'
    · exact .inl (mem_awaited.2 (.inl ⟨e', hold, hx⟩))
    · exact .inr (List.mem_singleton.1 hnew ▸ hx)
  · exact .inl (mem_awaited.2 (.inr hdrawn))

theorem submit_awaited {desk : Desk σ} {id : Nat} {x : Nat × Request σ}
    (h : x ∈ (desk.submit id).awaited) : x ∈ desk.awaited := by
  cases htaken : Registry.takeOut Prod.fst id desk.drawn with
  | none => rwa [submit_of_none htaken] at h
  | some taken =>
    obtain ⟨found, others⟩ := taken
    rw [submit_of_some htaken] at h
    obtain hold | hnew := enqueue_awaited h
    · refine mem_awaited.2 ((mem_awaited.1 hold).imp_right ?_)
      exact fun hdrawn => (Registry.sublist_of_takeOut htaken).subset hdrawn
    · obtain rfl : found = x := Option.some.inj ((Request.event_asks? _ _).symm.trans hnew)
      exact mem_awaited.2 (.inr (Registry.mem_of_takeOut htaken).1)

theorem serve_awaited {desk : Desk σ} {verdict : Verdict} {own : IndividualAddress}
    {x : Nat × Request σ} (h : x ∈ (desk.serve verdict own).awaited) : x ∈ desk.awaited := by
  unfold serve at h
  split at h
  · exact h
  · rename_i handled hnext
    obtain ⟨e, later, hevents, rfl⟩ := next?_eq_some hnext
    refine mem_awaited.2 ((mem_awaited.1 h).imp_left fun ⟨e', he', hx⟩ => ?_)
    have hlater : e' ∈ (desk.dispatcher.withEvents later).events := by
      rw [← (handle_queue verdict own (desk.dispatcher.withEvents later) e).1]
      exact he'
    exact ⟨e', hevents ▸ List.mem_cons_of_mem e hlater, hx⟩

/-- Nothing is waited for that was not waited for before. -/
theorem act_awaited {desk : Desk σ} {a : Act} {x : Nat × Request σ}
    (h : x ∈ (desk.act a).awaited) : x ∈ desk.awaited := by
  cases a with
  | submit id => exact submit_awaited h
  | leave id =>
    change x ∈ awaited { desk with dispatcher := desk.dispatcher.deregister id } at h
    unfold Dispatcher.deregister at h
    split at h
    · exact (enqueue_awaited (e := .unsubscribe id) h).resolve_right nofun
    · exact h
  | hear heard => exact (enqueue_awaited h).resolve_right nofun
  | lose => exact (enqueue_awaited h).resolve_right nofun
  | halt verdict => exact h
  | serve verdict own => exact serve_awaited h

/-- Nobody is there who was not there before and was not waited for. -/
theorem serve_entries {desk : Desk σ} {verdict : Verdict} {own : IndividualAddress}
    {x : Nat × Request σ} (h : x ∈ (desk.serve verdict own).registry.entries) :
    x ∈ desk.entries := by
  unfold serve at h
  split at h
  · exact mem_entries.2 (.inl h)
  · rename_i handled hnext
    obtain ⟨e, later, hevents, rfl⟩ := next?_eq_some hnext
    obtain hold | hnew := handle_entries h
    · exact mem_entries.2 (.inl hold)
    · exact mem_entries.2 (.inr (.inl ⟨e, hevents ▸ List.mem_cons_self, hnew⟩))

/-- No move makes a registration that nobody has asked for. -/
theorem act_entries {desk : Desk σ} {a : Act} {x : Nat × Request σ}
    (h : x ∈ (desk.act a).entries) : x ∈ desk.entries := by
  obtain hthere | hawaited := mem_entries_iff_awaited.1 h
  · cases desk.step_cases (.act a) with
    | idle registry_eq _ _ | halted registry_eq _ _ =>
      exact mem_entries.2 (.inl (registry_eq ▸ hthere))
    | served e later eq => exact serve_entries hthere
  · exact mem_entries_iff_awaited.2 (.inr (act_awaited hawaited))

/-- Drawing a number for a request makes one registration that is still to be asked for. -/
theorem draw_awaited {desk : Desk σ} {request : Request σ} {x : Nat × Request σ}
    (h : x ∈ (desk.draw request).awaited) :
    x ∈ desk.awaited ∨ x = (desk.dispatcher.nextId, request) := by
  unfold draw at h
  split at h
  · obtain hwaits | hdrawn := mem_awaited.1 h
    · exact .inl (mem_awaited.2 (.inl hwaits))
    · exact (List.mem_append.1 hdrawn).imp (fun hold => mem_awaited.2 (.inr hold))
        List.mem_singleton.1
  · exact .inl h

theorem draw_entries {desk : Desk σ} {request : Request σ} {x : Nat × Request σ}
    (h : x ∈ (desk.draw request).entries) :
    x ∈ desk.entries ∨ x = (desk.dispatcher.nextId, request) := by
  obtain hthere | hawaited := mem_entries_iff_awaited.1 h
  · exact .inl (mem_entries.2 (.inl ((desk.draw_keeps request).1 ▸ hthere)))
  · exact (draw_awaited hawaited).imp_left fun hold => mem_entries_iff_awaited.2 (.inr hold)

/-- A desk is told of somebody's leaving by nothing but his leaving. -/
theorem leaving_of_act {desk : Desk σ} {a : Act} {id : Nat}
    (h : .unsubscribe id ∈ (desk.act a).dispatcher.events) :
    .unsubscribe id ∈ desk.dispatcher.events ∨ a = .leave id := by
  have hnew {d : Dispatcher σ} {e : DispatchEvent σ} (h : .unsubscribe id ∈ (d.enqueue e).events) :
      .unsubscribe id ∈ d.events ∨ .unsubscribe id = e :=
    (List.mem_append.1 h).imp_right List.mem_singleton.1
  cases a with
  | submit number =>
    change .unsubscribe id ∈ (desk.submit number).dispatcher.events at h
    unfold submit at h
    split at h
    · exact .inl h
    · rename_i found others _
      refine (hnew h).imp_right fun heq => ?_
      obtain ⟨number, request⟩ := found
      cases request <;> cases heq
  | leave number =>
    change .unsubscribe id ∈ (desk.dispatcher.deregister number).events at h
    unfold Dispatcher.deregister at h
    split at h
    · refine (hnew h).imp_right fun heq => ?_
      cases heq
      rfl
    · exact .inl h
  | hear heard => exact (hnew h).imp_right nofun
  | lose => exact (hnew h).imp_right nofun
  | halt verdict => exact .inl h
  | serve verdict own =>
    refine .inl ?_
    change .unsubscribe id ∈ (desk.serve verdict own).dispatcher.events at h
    unfold serve at h
    split at h
    · exact h
    · rename_i handled hnext
      obtain ⟨e, later, hevents, rfl⟩ := next?_eq_some hnext
      change .unsubscribe id ∈ (Dispatcher.handle _ _ _ _).dispatcher.events at h
      rw [(handle_queue verdict own (desk.dispatcher.withEvents later) e).1] at h
      rw [hevents]
      exact List.mem_cons_of_mem e h

end Desk
end KnxBus
