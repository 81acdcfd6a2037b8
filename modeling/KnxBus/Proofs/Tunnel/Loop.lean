import KnxBus.Proofs.Tunnel.Parts

/-!
# The loop of a client

A client is driven by a loop.  Datagrams reach it through its socket, others give it frames, and
from time to time it takes a turn, until it is told to stop; then the loop is over and nothing
happens to the client any more.  A turn is a run of its parts (`Loop.turn_eq_run`).

Whoever keeps books beside a client writes after each act (`Loop.noteRun`).  What every act leaves
true of client and books is true after every run (`Loop.noteRun_kept`).
-/

namespace KnxBus
namespace Tunnel

/-! ## The loop of a client -/

/-- What happens to a client. -/
inductive Event where
  /-- Something happens at its socket. -/
  | arrive (a : Arrival)
  /-- What has arrived there is taken in. -/
  | takeIn (now : Nat)
  /-- It is given a frame. -/
  | send (frame : Frame)
  /-- Others take what was heard, or change what is reported. -/
  | attend (inbox : List Lpdu) (mode : MonitorMode)
  /-- It takes a turn. -/
  | turn (now : Nat)
  /-- It is told to stop. -/
  | stop
  deriving DecidableEq, Repr

/-- A client and its loop. -/
structure Loop where
  /-- The client. -/
  tunnel : Tunnel
  /-- Whether the loop has ended. -/
  isOver : Bool
  deriving DecidableEq, Repr

/-- The loop ends with the client. -/
def Act.ends : Act → Bool
  | .finish => true
  | _ => false

/-- The parts of a turn. -/
def turnActs (now : Nat) (t : Tunnel) : List Act :=
  List.replicate t.received.length (.look now) ++ [.timers now, .next now]

theorem ends_of_mem_turnActs {now : Nat} {t : Tunnel} {a : Act} (h : a ∈ t.turnActs now) :
    a.ends = false := by
  rcases List.mem_append.1 h with h | h
  · rw [(List.mem_replicate.1 h).2]
    rfl
  · rcases List.mem_cons.1 h with rfl | h
    · rfl
    · rw [List.mem_singleton.1 h]
      rfl

namespace Loop

/-- A client whose loop runs. -/
def running (t : Tunnel) : Loop := ⟨t, false⟩

/-- The session, while the loop runs and there is a channel. -/
def session? (l : Loop) : Option TunnelSession := if l.isOver then none else l.tunnel.session?

/-- One thing happens at the client; the datagrams that it sends come out. -/
def perform (a : Act) (l : Loop) : Loop × List Outgoing :=
  if l.isOver then (l, []) else (⟨(l.tunnel.perform a).1, a.ends⟩, (l.tunnel.perform a).2)

/-- One thing happens to the client; the datagrams that it sends come out. -/
def step (e : Event) (l : Loop) : Loop × List Outgoing :=
  if l.isOver then (l, [])
  else
    match e with
    | .arrive a => (running { l.tunnel with socket := l.tunnel.socket.arrive a }, [])
    | .takeIn now => (running (l.tunnel.pump now), [])
    | .send frame => (running (l.tunnel.send frame), [])
    | .attend inbox mode => (running { l.tunnel with inbox := inbox, mode := mode }, [])
    | .turn now => (running (l.tunnel.turn now).1, (l.tunnel.turn now).2)
    | .stop => (⟨l.tunnel.finish.1, true⟩, l.tunnel.finish.2)

/-- Things happen to the client one after the other. -/
def run (events : List Event) (l : Loop) : Loop × List Outgoing := runWith step events l

theorem run_of_over {l : Loop} (h : l.isOver = true) (acts : List Act) :
    runWith perform acts l = (l, []) := by
  induction acts with
  | nil => rfl
  | cons a later ih =>
    have hstep : perform a l = (l, []) := by rw [perform, if_pos h]
    rw [runWith, hstep]
    simp only
    rw [ih]
    rfl

theorem run_of_running {acts : List Act} (h : ∀ a ∈ acts, a.ends = false) (t : Tunnel) :
    runWith perform acts (running t) =
      (running (runWith Tunnel.perform acts t).1, (runWith Tunnel.perform acts t).2) := by
  induction acts generalizing t with
  | nil => rfl
  | cons a later ih =>
    have hstep : perform a (running t) =
        (running (t.perform a).1, (t.perform a).2) := by
      rw [perform, running, if_neg Bool.false_ne_true, h a List.mem_cons_self]
      rfl
    rw [runWith, runWith, hstep]
    simp only
    rw [ih fun a' ha' => h a' (List.mem_cons_of_mem a ha')]

/-- What a thing that happens to the client is made of; arrivals are not acts. -/
def actsOf (e : Event) (t : Tunnel) : List Act :=
  match e with
  | .arrive _ | .takeIn _ => []
  | .send frame => [.send frame]
  | .attend inbox mode => [.attend inbox mode]
  | .turn now => t.turnActs now
  | .stop => [.finish]

theorem running_of_not_over {l : Loop} (h : l.isOver = false) : l = running l.tunnel := by
  cases l
  cases h
  rfl

/-- **Whatever happens to a client is a run of acts**, unless something arrives. -/
theorem step_eq_run {e : Event} (harrive : ∀ a, e ≠ .arrive a) (htakeIn : ∀ now, e ≠ .takeIn now)
    (l : Loop) : step e l = runWith perform (actsOf e l.tunnel) l := by
  cases hover : l.isOver with
  | true =>
    rw [run_of_over hover]
    unfold step
    rw [if_pos hover]
  | false =>
    have hrunning := running_of_not_over hover
    generalize l.tunnel = t at hrunning ⊢
    subst hrunning
    cases e with
    | arrive a => exact absurd rfl (harrive a)
    | takeIn now => exact absurd rfl (htakeIn now)
    | turn now =>
      have hends : ∀ a ∈ t.turnActs now, a.ends = false := fun a => ends_of_mem_turnActs
      have hparts := run_of_running hends t
      rw [turnActs, ← turn_eq_run] at hparts
      exact hparts.symm
    | send frame => rfl
    | attend inbox mode => rfl
    | stop =>
      rw [actsOf, runWith_singleton]
      rfl

/-! ## Books beside a client -/

section
variable {Past : Type} (note : Act → Loop → Loop → List Outgoing → Past → Past)

/-- One thing happens to the client, and the acts that it is made of enter into the books. -/
def noteStep (e : Event) (b : Loop × Past) : (Loop × Past) × List Outgoing :=
  match e with
  | .arrive _ | .takeIn _ => (((b.1.step e).1, b.2), (b.1.step e).2)
  | other => runWith (noted perform note) (actsOf other b.1.tunnel) b

/-- Things happen to the client one after the other. -/
def noteRun (events : List Event) (b : Loop × Past) : (Loop × Past) × List Outgoing :=
  runWith (noteStep note) events b

theorem noteStep_eq (e : Event) (b : Loop × Past) :
    ((noteStep note e b).1.1, (noteStep note e b).2) = b.1.step e := by
  have hacts : ∀ {e : Event}, (∀ a, e ≠ .arrive a) → (∀ now, e ≠ .takeIn now) →
      ((runWith (noted perform note) (actsOf e b.1.tunnel) b).1.1,
        (runWith (noted perform note) (actsOf e b.1.tunnel) b).2) = b.1.step e :=
    fun harrive htakeIn =>
      (runWith_noted perform note _ b).trans (step_eq_run harrive htakeIn b.1).symm
  cases e with
  | arrive a => rfl
  | takeIn now => rfl
  | send frame => exact hacts (fun _ h => by cases h) (fun _ h => by cases h)
  | attend inbox mode => exact hacts (fun _ h => by cases h) (fun _ h => by cases h)
  | turn now => exact hacts (fun _ h => by cases h) (fun _ h => by cases h)
  | stop => exact hacts (fun _ h => by cases h) (fun _ h => by cases h)

/-- The books are about the client as it runs. -/
theorem noteRun_eq (events : List Event) (b : Loop × Past) :
    ((noteRun note events b).1.1, (noteRun note events b).2) = b.1.run events :=
  runWith_view step (noteStep_eq note) events b

/-- So they are in the middle of a turn. -/
theorem noteRun_acts (events : List Event) (acts : List Act) (b : Loop × Past) :
    ((runWith (noted perform note) acts (noteRun note events b).1).1.1,
        (noteRun note events b).2 ++
          (runWith (noted perform note) acts (noteRun note events b).1).2) =
      ((runWith perform acts (b.1.run events).1).1,
        (b.1.run events).2 ++ (runWith perform acts (b.1.run events).1).2) := by
  rw [← noteRun_eq note events b]
  simp only
  rw [← runWith_noted perform note acts]

/-- What every act adds to a list in the books, a run adds too. -/
theorem noteRun_collects {Entry : Type} {log : Past → List Entry}
    {pick : List Outgoing → List Entry} (hnil : pick [] = [])
    (happend : ∀ a b, pick (a ++ b) = pick a ++ pick b)
    (hact : ∀ a b, log (noted perform note a b).1.2 =
      log b.2 ++ pick (noted perform note a b).2) (events : List Event) (acts : List Act)
    (b : Loop × Past) :
    log (runWith (noted perform note) acts (noteRun note events b).1).1.2 =
      log b.2 ++ pick ((b.1.run events).2 ++ (runWith perform acts (b.1.run events).1).2) := by
  have hacts : ∀ acts b, log (runWith (noted perform note) acts b).1.2 =
      log b.2 ++ pick (runWith (noted perform note) acts b).2 :=
    runWith_collects (noted perform note) (f := fun b => log b.2) hnil happend hact
  have hrun : log (noteRun note events b).1.2 = log b.2 ++ pick (noteRun note events b).2 := by
    refine runWith_collects (noteStep note) (f := fun b => log b.2) hnil happend
      (fun e b => ?_) events b
    have hquiet : ∀ {sent : List Outgoing}, sent = [] → log b.2 = log b.2 ++ pick sent := by
      rintro sent rfl
      rw [hnil, List.append_nil]
    cases e with
    | arrive a =>
      refine hquiet ?_
      unfold noteStep step
      simp only
      split <;> rfl
    | takeIn now =>
      refine hquiet ?_
      unfold noteStep step
      simp only
      split <;> rfl
    | send frame => exact hacts _ b
    | attend inbox mode => exact hacts _ b
    | turn now => exact hacts _ b
    | stop => exact hacts _ b
  have hsent := congrArg Prod.snd (noteRun_acts note events acts b)
  simp only at hsent
  rw [hacts, hrun, List.append_assoc, ← happend, hsent]

variable {note} {P : Loop × Past → Prop}
  (hcalm : ∀ l l' past, l'.isOver = l.isOver → l'.tunnel.link = l.tunnel.link →
    l'.tunnel.config = l.tunnel.config → l'.tunnel.outbox = l.tunnel.outbox →
    l'.tunnel.isConnected = l.tunnel.isConnected → l'.tunnel.inFlight = l.tunnel.inFlight →
    P (l, past) → P (l', past))
  (hact : ∀ a b, P b → P (noted perform note a b).1)

include hcalm hact in
/-- What every act keeps of the client and of the books is kept by every run. -/
theorem noteRun_kept (events : List Event) {b : Loop × Past} (h : P b) :
    P (noteRun note events b).1 := by
  refine runWith_invariant (noteStep note) P (fun e b hb => ?_) events h
  have hacts : ∀ acts, P (runWith (noted perform note) acts b).1 :=
    fun acts => runWith_invariant (noted perform note) P hact acts hb
  obtain ⟨l, past⟩ := b
  cases e with
  | arrive a =>
    unfold noteStep step
    simp only
    split
    · exact hb
    · rename_i hover
      exact hcalm l _ past (Bool.eq_false_iff.2 hover).symm rfl rfl rfl rfl rfl hb
  | takeIn now =>
    unfold noteStep step
    simp only
    split
    · exact hb
    · rename_i hover
      exact hcalm l _ past (Bool.eq_false_iff.2 hover).symm rfl rfl rfl rfl rfl hb
  | send frame => exact hacts _
  | attend inbox mode => exact hacts _
  | turn now => exact hacts _
  | stop => exact hacts _

end
end Loop

end Tunnel
end KnxBus
