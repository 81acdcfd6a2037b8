import KnxBus.Proofs.Dispatch.Refusal
import KnxBus.Proofs.Station.Operations

/-!
# What fails leaves nothing behind

Opening a part may take several registrations and a frame that is sent, and it may fail after any of
them.  By then others are registered already, and they are given up again one by one.  In the end a
station at which nothing waited has exactly the registry that it had: the same subscriptions in the
same order, and the same monitors.

## Why leaving restores

Who registers goes to the end of the list, under a number that is higher than all others there.  So
the registry has grown by a tail (`Grown`), and each of those who leave is found in the tail: nobody
before it has that number.  Once they have all left, the tail is gone.
-/

namespace KnxBus

variable {σ : Type}

/-! ## Leaving a registry -/

namespace Registry

theorem takeOut_of_split {α : Type} {number : α → Nat} {before after : List α} {a : α}
    (h : ∀ b ∈ before, number b ≠ number a) :
    takeOut number (number a) (before ++ a :: after) = some (a, before ++ after) := by
  induction before with
  | nil => exact if_pos rfl
  | cons b rest ih =>
    rw [List.cons_append, takeOut, if_neg (h b List.mem_cons_self),
      ih fun c hc => h c (List.mem_cons_of_mem b hc)]
    rfl

/-- The first subscription with a number is the one that ends. -/
theorem unsubscribe_of_split {r : Registry σ} {before after : List (Subscriber σ)}
    {u : Subscriber σ} (there : r.subscribers = before ++ u :: after)
    (h : ∀ v ∈ before, v.id ≠ u.id) (verdict : Verdict) :
    (r.unsubscribe verdict u.id).1 = { r with subscribers := before ++ after } := by
  unfold unsubscribe
  rw [there, takeOut_of_split h]

/-- If the medium agrees, a monitor gets the bus exactly if nobody takes part in it. -/
theorem monitor_ok_iff {r : Registry σ} {verdict : Verdict} (hfinish : verdict .finish = .ok ())
    (henter : verdict .enterBusmonitor = .ok ()) {m : Monitor σ} (hreal : m.isVirtual = false) :
    (r.monitor verdict m).result = .ok () ↔ r.subscribers = [] := by
  unfold monitor takeBus
  rw [hreal, if_neg Bool.false_ne_true, hfinish, henter]
  cases hsubscribers : r.subscribers with
  | nil =>
    refine iff_of_true ?_ rfl
    rw [if_neg (by simp)]
    split <;> rfl
  | cons u rest => exact iff_of_false (fun h => by cases h) (List.cons_ne_nil u rest)

end Registry

/-! ## A registry that has grown -/

/-- The registry of a dispatcher at which nothing waits has grown by subscriptions at its end. -/
structure Grown (base : Registry σ) (added : List (Subscriber σ)) (d : Dispatcher σ) : Prop where
  registry_eq : d.registry = { base with subscribers := base.subscribers ++ added }
  events_eq : d.events = []
  running : d.running = true
  numbered : d.Numbered

namespace Grown

variable {base : Registry σ} {added : List (Subscriber σ)} {d : Dispatcher σ}

theorem start (hnil : d.events = []) (hrun : d.running = true) (hnumbered : d.Numbered) :
    Grown d.registry [] d where
  registry_eq := by rw [List.append_nil]
  events_eq := hnil
  running := hrun
  numbered := hnumbered

theorem takeId (h : Grown base added d) : Grown base added d.takeId.2 :=
  ⟨h.registry_eq, h.events_eq, h.running, h.numbered.takeId⟩

theorem add (h : Grown base added d) {u : Subscriber σ} (hid : u.id = d.nextId) :
    Grown base (added ++ [u]) (d.takeId.2.withRegistry (d.registry.add u)) where
  registry_eq := by
    show d.registry.add u = _
    rw [h.registry_eq, Registry.add, List.append_assoc]
  events_eq := h.events_eq
  running := h.running
  numbered := h.numbered.add hid

end Grown

namespace Station

variable {s s' : Station} {base : Registry Sink} {added : List (Subscriber Sink)} (now : Nat)

/-- Registrations that are given up wait to be ended. -/
theorem performAll_leaves (ids : List Nat) (s : Station) (hrun : s.dispatcher.running = true) :
    (performAll now (ids.map .leave) s).dispatcher =
      s.dispatcher.withEvents (s.dispatcher.events ++ ids.map .unsubscribe) := by
  induction ids generalizing s with
  | nil =>
    show s.dispatcher = s.dispatcher.withEvents (s.dispatcher.events ++ [])
    rw [List.append_nil]
    rfl
  | cons id later ih =>
    have hleft : (s.perform now (.leave id)).dispatcher = s.dispatcher.enqueue (.unsubscribe id) :=
      if_pos hrun
    have hrun' : (s.perform now (.leave id)).dispatcher.running = true := by
      rw [hleft]
      exact hrun
    show (performAll now (later.map .leave) (s.perform now (.leave id))).dispatcher = _
    rw [ih _ hrun', hleft]
    simp [Dispatcher.enqueue, Dispatcher.withEvents]

/-- **When all that a registry has grown by leaves, it is what it was.** -/
theorem handleAll_restores (h : Grown base added s.dispatcher) :
    (handleAll now (added.map fun u => .unsubscribe u.id) s).dispatcher.registry = base := by
  induction added generalizing s with
  | nil =>
    show s.dispatcher.registry = base
    rw [h.registry_eq, List.append_nil]
  | cons u later ih =>
    obtain ⟨hdispatcher, -, -⟩ := handle_dispatcher now s (.unsubscribe u.id)
    have hthere : s.dispatcher.registry.subscribers = base.subscribers ++ u :: later := by
      rw [h.registry_eq]
    have hnodup := h.numbered.nodup
    rw [hthere] at hnodup
    -- Nobody in `base` has the number, so it is the first of the tail that goes.
    have hothers := Subscriber.id_ne_of_nodup hnodup
    have hregistry := Registry.unsubscribe_of_split hthere
      (fun v hv => hothers v (List.mem_append_left later hv)) s.line.verdict
    have hrest : (s.handle now (.unsubscribe u.id)).1.dispatcher.registry =
        { base with subscribers := base.subscribers ++ later } := by
      rw [hdispatcher]
      show (s.dispatcher.registry.unsubscribe s.line.verdict u.id).1 = _
      rw [hregistry, h.registry_eq]
    rw [List.map_cons, handleAll, if_pos h.running]
    refine ih ⟨hrest, ?_, ?_, ?_⟩
    · rw [hdispatcher]
      exact h.events_eq
    · rw [hdispatcher]
      exact h.running
    · refine h.numbered.of_sublist ?_ ?_
      · rw [hdispatcher]
        rfl
      · rw [hrest, hthere]
        exact (List.sublist_cons_self u later).append_left base.subscribers

/-- A station that will have a certain registry when what waits has been handled. -/
def Returns (s : Station) (base : Registry Sink) : Prop :=
  ∀ now, (s.dispatch now).dispatcher.registry = base

theorem returns_of_nil (hnil : s.dispatcher.events = [])
    (hregistry : s.dispatcher.registry = base) : s.Returns base := by
  intro now
  rw [dispatch_of_nil now hnil]
  exact hregistry

/-- So will one at which all that the registry has grown by is given up. -/
theorem returns_of_grown (h : Grown base added s.dispatcher) :
    (performAll now ((added.map (·.id)).map .leave) s).Returns base := by
  intro now'
  have hleft := performAll_leaves now (added.map (·.id)) s h.running
  have hevents : (performAll now ((added.map (·.id)).map .leave) s).dispatcher.events =
      added.map fun u => .unsubscribe u.id := by
    rw [hleft, h.events_eq]
    exact List.map_map
  rw [Station.dispatch, hevents]
  refine handleAll_restores now' ?_
  show Grown base added
    ((performAll now ((added.map (·.id)).map .leave) s).dispatcher.withEvents [])
  rw [hleft]
  exact ⟨h.registry_eq, rfl, h.running, h.numbered.nodup, h.numbered.lt_nextId⟩

/-! ## Registering where nothing waits -/

/-- Registering where nothing waits: the registry grows by the registration, or stays. -/
theorem register_of_nil (hnil : s.dispatcher.events = []) (route : Route) (sink : Sink) :
    (∀ cause, (s.register now route sink).2 = .error cause →
        (s.register now route sink).1.dispatcher = s.dispatcher ∨
          (s.register now route sink).1.dispatcher = s.dispatcher.takeId.2) ∧
      ∀ id, (s.register now route sink).2 = .ok id →
        id = s.dispatcher.nextId ∧ (s.register now route sink).1.dispatcher =
          s.dispatcher.takeId.2.withRegistry (s.dispatcher.registry.add ⟨id, route, sink⟩) := by
  have hcases := register_cases now s route sink
  rw [dispatch_of_nil now hnil] at hcases
  obtain ⟨-, eq⟩ | ⟨cause, result_eq, dispatcher_eq, -, -⟩ | ⟨result_eq, dispatcher_eq, -, -⟩ :=
    hcases
  · rw [eq]
    exact ⟨fun _ _ => Or.inl rfl, fun _ hid => (by cases hid)⟩
  · rw [result_eq]
    exact ⟨fun _ _ => Or.inr dispatcher_eq, fun _ hid => (by cases hid)⟩
  · rw [result_eq]
    refine ⟨fun _ hcause => (by cases hcause), fun id hid => ?_⟩
    cases hid
    exact ⟨rfl, dispatcher_eq⟩

/-- A registration that fails leaves the registry as it was. -/
theorem register_returns (hnil : s.dispatcher.events = []) {route : Route} {sink : Sink}
    {cause : DispatchError} (hfail : (s.register now route sink).2 = .error cause) :
    (s.register now route sink).1.Returns s.dispatcher.registry := by
  obtain heq | heq := (register_of_nil now hnil route sink).1 cause hfail
  · refine returns_of_nil ?_ (by rw [heq])
    rw [heq]
    exact hnil
  · refine returns_of_nil ?_ (by rw [heq]; rfl)
    rw [heq]
    exact hnil

/-! ## Openings that fail -/

theorem openSocket_returns (hnil : s.dispatcher.events = []) {name : String} {kind : SocketKind}
    {writeOnly : Bool} {cause : DispatchError}
    (hfail : (s.openSocket now name kind writeOnly).2 = .error cause) :
    (s.openSocket now name kind writeOnly).1.Returns s.dispatcher.registry := by
  have hreturns : ∀ cause,
      (s.takeSerial.2.register now kind.route (.part s.takeSerial.1)).2 = .error cause → _ :=
    fun _ h => register_returns now (s := s.takeSerial.2) hnil h
  revert hfail
  unfold Station.openSocket
  simp only
  split
  · exact fun hfail => by cases hfail
  · split
    · exact fun hfail => by cases hfail
    · rename_i s' cause' hregister
      rw [hregister] at hreturns
      exact fun _ => hreturns cause' rfl

theorem listen_returns (hnil : s.dispatcher.events = []) {name : String} {route : Route}
    {cause : DispatchError} (hfail : (s.listen now name route).2 = .error cause) :
    (s.listen now name route).1.Returns s.dispatcher.registry := by
  have hreturns : ∀ cause,
      (s.takeSerial.2.register now route (.record name)).2 = .error cause → _ :=
    fun _ h => register_returns now (s := s.takeSerial.2) hnil h
  revert hfail
  unfold Station.listen
  simp only
  split
  · exact fun hfail => by cases hfail
  · rename_i s' cause' hregister
    rw [hregister] at hreturns
    exact fun _ => hreturns cause' rfl

theorem enable_returns (hnil : s.dispatcher.events = []) {serial : Nat} {cache : GroupCache}
    {cause : DispatchError} (hfail : (s.enable now serial cache).2 = .error cause) :
    (s.enable now serial cache).1.Returns s.dispatcher.registry := by
  have hreturns : ∀ cause,
      (s.register now GroupCache.route (.part serial)).2 = .error cause → _ :=
    fun _ h => register_returns now hnil h
  revert hfail
  unfold Station.enable
  split
  · exact fun hfail => by cases hfail
  · split
    · exact fun hfail => by cases hfail
    · rename_i s' cause' hregister
      rw [hregister] at hreturns
      exact fun _ => hreturns cause' rfl

/-- **A connection that cannot greet its peer leaves the registry as it was.** -/
theorem openConnection_returns (hnil : s.dispatcher.events = [])
    (hnumbered : s.dispatcher.Numbered) (hrun : s.dispatcher.running = true) {name : String}
    {peer : IndividualAddress} {config : ConnectionConfig} {cause : DispatchError}
    (hfail : (s.openConnection now name peer config).2 = .error cause) :
    (s.openConnection now name peer config).1.Returns s.dispatcher.registry := by
  obtain ⟨herror, hok⟩ := register_of_nil now (s := s.takeSerial.2) hnil (Connection.route peer)
    (.part s.takeSerial.1)
  have hreturns : ∀ cause, (s.takeSerial.2.register now (Connection.route peer)
      (.part s.takeSerial.1)).2 = .error cause → _ :=
    fun _ h => register_returns now (s := s.takeSerial.2) hnil h
  revert hfail
  unfold Station.openConnection
  simp only
  split
  · rename_i s' cause' hregister
    rw [hregister] at hreturns
    exact fun _ => hreturns cause' rfl
  · rename_i s' id hregister
    rw [hregister] at hok
    obtain ⟨hid, hdispatcher⟩ := hok id rfl
    obtain ⟨hgreeted, -, -⟩ := greet_members s' peer
    have hgrown : Grown s.dispatcher.registry [⟨id, Connection.route peer, .part s.takeSerial.1⟩]
        s'.dispatcher := hdispatcher ▸ (Grown.start hnil hrun hnumbered).add hid
    split
    · rename_i s'' cause' hgreet
      rw [hgreet] at hgreeted
      have hreturn := returns_of_grown now (s := s'') (hgreeted ▸ hgrown)
      exact fun _ => hreturn
    · exact fun hfail => by cases hfail

/-- **Several registrations of which one fails leave the registry as it was.** -/
theorem registerAll_returns {sink : Sink} {routes : List Route} {held : List Nat}
    (h : Grown base added s.dispatcher) (hheld : added.map (·.id) = held) {cause : DispatchError}
    (hfail : s.registerAll now sink held routes = (s', .error cause)) : s'.Returns base := by
  -- Over the routes: the tail that is to leave is what has been granted so far.
  induction routes generalizing s held added with
  | nil => cases hfail
  | cons route rest ih =>
    obtain ⟨herror, hok⟩ := register_of_nil now h.events_eq route sink
    unfold Station.registerAll at hfail
    split at hfail
    · rename_i s'' id hregister
      rw [hregister] at hok
      obtain ⟨hid, hdispatcher⟩ := hok id rfl
      have hgrown : Grown base (added ++ [⟨id, route, sink⟩]) s''.dispatcher :=
        hdispatcher ▸ h.add hid
      refine ih hgrown ?_ hfail
      rw [List.map_append, hheld]
      rfl
    · rename_i s'' cause' hregister
      rw [hregister] at herror
      rw [← hheld] at hfail
      cases hfail
      obtain heq | heq := herror cause rfl
      · exact returns_of_grown now (heq ▸ h)
      · exact returns_of_grown now (heq ▸ h.takeId)

/-- **So does a gateway that does not get all its registrations.** -/
theorem openGateway_returns (hnil : s.dispatcher.events = [])
    (hnumbered : s.dispatcher.Numbered) (hrun : s.dispatcher.running = true) {name : String}
    {config : GatewayConfig} {cause : GatewayError}
    (hfail : (s.openGateway now name config).2 = .error cause) :
    (s.openGateway now name config).1.Returns s.dispatcher.registry := by
  revert hfail
  unfold Station.openGateway
  simp only
  split
  · exact fun _ => returns_of_nil hnil rfl
  · split
    · rename_i s' cause' hregister
      intro _
      show s'.Returns s.dispatcher.registry
      refine registerAll_returns now (?_ : Grown s.dispatcher.registry [] _) rfl hregister
      exact Grown.start hnil hrun hnumbered
    · exact fun hfail => by cases hfail

/-! ## Monitors -/

/-- What becomes of a request for captures where nothing waits. -/
theorem request_monitor (hnil : s.dispatcher.events = []) (hrun : s.dispatcher.running = true)
    (isVirtual : Bool) (sink : Sink) :
    (s.request now fun id => .monitor ⟨id, isVirtual, sink⟩).1.dispatcher =
        s.dispatcher.takeId.2.withRegistry (s.dispatcher.registry.monitor s.line.verdict
          ⟨s.dispatcher.nextId, isVirtual, sink⟩).registry ∧
      (s.request now fun id => .monitor ⟨id, isVirtual, sink⟩).2 =
        (s.dispatcher.registry.monitor s.line.verdict
          ⟨s.dispatcher.nextId, isVirtual, sink⟩).result.map fun _ => s.dispatcher.nextId := by
  have hcases := request_cases now s fun id => .monitor ⟨id, isVirtual, sink⟩
  rw [dispatch_of_nil now hnil] at hcases
  obtain ⟨ended, -⟩ | ⟨-, dispatcher_eq, -, -, result_eq⟩ := hcases
  · rw [hrun] at ended
    cases ended
  · exact ⟨dispatcher_eq, result_eq⟩

/-- **A monitor that does not get the bus leaves the registry as it was.** -/
theorem monitor_returns (hnil : s.dispatcher.events = []) (hrun : s.dispatcher.running = true)
    {name : String} {isVirtual : Bool} {cause : DispatchError}
    (hfail : (s.monitor now name isVirtual).2 = .error cause) :
    (s.monitor now name isVirtual).1.Returns s.dispatcher.registry := by
  obtain ⟨hdispatcher, hresult⟩ :=
    request_monitor now (s := s.takeSerial.2) hnil hrun isVirtual (.record name)
  revert hfail
  unfold Station.monitor
  simp only
  split
  · exact fun hfail => by cases hfail
  · rename_i s' cause' hrequest
    rw [hrequest] at hdispatcher hresult
    have hrefused : (s.dispatcher.registry.monitor s.line.verdict
        ⟨s.dispatcher.nextId, isVirtual, .record name⟩).result = .error cause' := by
      revert hresult
      show _ = Except.map _ (s.dispatcher.registry.monitor s.line.verdict
        ⟨s.dispatcher.nextId, isVirtual, .record name⟩).result → _
      cases (s.dispatcher.registry.monitor s.line.verdict
        ⟨s.dispatcher.nextId, isVirtual, .record name⟩).result with
      | error _ => exact fun heq => by cases heq; rfl
      | ok _ => exact fun heq => by cases heq
    refine fun _ => returns_of_nil ?_ ?_
    · exact (congrArg Dispatcher.events hdispatcher).trans hnil
    · exact (congrArg Dispatcher.registry hdispatcher).trans
        (Registry.failed_monitor _ hrefused).registry_eq

/-- **A monitor gets the bus exactly if nobody takes part in it**, if the medium agrees. -/
theorem monitor_ok_iff (hnil : s.dispatcher.events = []) (hrun : s.dispatcher.running = true)
    (hfinish : s.line.verdict .finish = .ok ()) (henter : s.line.verdict .enterBusmonitor = .ok ())
    (name : String) :
    (s.monitor now name false).2 = .ok () ↔ s.dispatcher.registry.subscribers = [] := by
  obtain ⟨-, hresult⟩ :=
    request_monitor now (s := s.takeSerial.2) hnil hrun false (.record name)
  rw [← Registry.monitor_ok_iff hfinish henter
    (m := ⟨s.dispatcher.nextId, false, .record name⟩) rfl]
  revert hresult
  show _ = Except.map _ (s.dispatcher.registry.monitor s.line.verdict
    ⟨s.dispatcher.nextId, false, .record name⟩).result → _
  unfold Station.monitor
  simp only
  split
  · rename_i s' id hrequest
    rw [hrequest]
    cases (s.dispatcher.registry.monitor s.line.verdict
      ⟨s.dispatcher.nextId, false, .record name⟩).result with
    | error cause => exact fun heq => by cases heq
    | ok _ => exact fun _ => iff_of_true rfl rfl
  · rename_i s' cause hrequest
    rw [hrequest]
    cases (s.dispatcher.registry.monitor s.line.verdict
      ⟨s.dispatcher.nextId, false, .record name⟩).result with
    | error cause => exact fun _ => iff_of_false (fun h => by cases h) (fun h => by cases h)
    | ok _ => exact fun heq => by cases heq

end Station
end KnxBus
