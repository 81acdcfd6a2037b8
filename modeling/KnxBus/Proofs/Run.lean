/-!
# Runs

A component that reacts to events and sends something each time is a function from an event and a
state to a state and a list.  A run feeds it one event after the other and collects what is sent.
The few facts about this are the same for every component.

A component forgets what it has done.  What a statement needs of its past is collected beside it, in
*books*, by a function that is told what each event has made of the component (`noted`).  Books are
read by nothing but statements, so a component with books runs as it does without them.
-/

namespace KnxBus

variable {State Event Out : Type} (step : Event → State → State × List Out)

/-- Feeds events to a component, one after the other, and collects what it sends. -/
def runWith : List Event → State → State × List Out
  | [], s => (s, [])
  | e :: later, s =>
    ((runWith later (step e s).1).1, (step e s).2 ++ (runWith later (step e s).1).2)

theorem runWith_append (a b : List Event) (s : State) :
    runWith step (a ++ b) s =
      ((runWith step b (runWith step a s).1).1,
        (runWith step a s).2 ++ (runWith step b (runWith step a s).1).2) := by
  induction a generalizing s with
  | nil => rfl
  | cons e later ih =>
    simp only [List.cons_append, runWith, ih, List.append_assoc]

theorem runWith_singleton (e : Event) (s : State) : runWith step [e] s = step e s := by
  simp only [runWith, List.append_nil]

/-- What all events of a run keep, the run keeps. -/
theorem runWith_keeps (Inv : State → Prop) {events : List Event}
    (hstep : ∀ e ∈ events, ∀ s, Inv s → Inv (step e s).1) {s : State} (h : Inv s) :
    Inv (runWith step events s).1 := by
  induction events generalizing s with
  | nil => exact h
  | cons e later ih =>
    refine ih (fun e' he' => hstep e' (List.mem_cons_of_mem e he')) ?_
    exact hstep e List.mem_cons_self s h

/-- What every event keeps, a run keeps. -/
theorem runWith_invariant (Inv : State → Prop) (hstep : ∀ e s, Inv s → Inv (step e s).1)
    (events : List Event) {s : State} (h : Inv s) : Inv (runWith step events s).1 :=
  runWith_keeps step Inv (fun e _ => hstep e) h

/-- If what can be seen of a component makes the steps of another one, then it makes its runs. -/
theorem runWith_view {Whole : Type} {step' : Event → Whole → Whole × List Out}
    {view : Whole → State}
    (h : ∀ e s, (view (step' e s).1, (step' e s).2) = step e (view s)) (events : List Event)
    (s : Whole) :
    (view (runWith step' events s).1, (runWith step' events s).2) =
      runWith step events (view s) := by
  induction events generalizing s with
  | nil => rfl
  | cons e later ih =>
    simp only [runWith]
    rw [← h, ← ih]

/-- What each step adds to a list, a run adds too. -/
theorem runWith_collects {Entry : Type} {f : State → List Entry} {g : List Out → List Entry}
    (hnil : g [] = []) (happend : ∀ a b, g (a ++ b) = g a ++ g b)
    (hstep : ∀ e s, f (step e s).1 = f s ++ g (step e s).2) (events : List Event) (s : State) :
    f (runWith step events s).1 = f s ++ g (runWith step events s).2 := by
  induction events generalizing s with
  | nil => rw [runWith, hnil, List.append_nil]
  | cons e later ih =>
    simp only [runWith]
    rw [ih, hstep, happend, List.append_assoc]

/-! ## Countdowns -/

/-- What no event makes larger has gone down by as many as there were events that make it smaller. -/
theorem foldl_countdown (move : State → Event → State) (Inv : State → Prop) (left : State → Nat)
    (counts : Event → Bool) (hinv : ∀ s e, Inv s → Inv (move s e))
    (hmove : ∀ s e, Inv s → left (move s e) ≤ left s - (counts e).toNat) (events : List Event)
    {s : State} (h : Inv s) : left (events.foldl move s) ≤ left s - events.countP counts := by
  induction events generalizing s with
  | nil => exact Nat.le_refl _
  | cons e later ih =>
    have hfirst := hmove s e h
    have hlater := ih (hinv s e h)
    have hcount : (e :: later).countP counts = later.countP counts + (counts e).toNat := by
      rw [List.countP_cons]
      cases counts e <;> rfl
    rw [List.foldl_cons]
    omega

/-! ## Books -/

section
variable {Past : Type} (note : Event → State → State → List Out → Past → Past)

/-- An event reaches a component and enters into the books. -/
def noted (e : Event) (b : State × Past) : (State × Past) × List Out :=
  (((step e b.1).1, note e b.1 (step e b.1).1 (step e b.1).2 b.2), (step e b.1).2)

/-- A component runs as it does without books. -/
theorem runWith_noted (events : List Event) (b : State × Past) :
    ((runWith (noted step note) events b).1.1, (runWith (noted step note) events b).2) =
      runWith step events b.1 :=
  runWith_view step (fun _ _ => rfl) events b

end

end KnxBus
