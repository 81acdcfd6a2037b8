import KnxBus.Proofs.Dispatch.Delivery
import KnxBus.Proofs.Dispatch.Loss
import KnxBus.Proofs.Run

/-!
# Readers whose medium is lost

A lobby is a hall whose desk is on a loopback medium: sockets are opened and read, others register,
frames are sent and heard, and at some time the medium may be lost.

The main statement is `Lobby.loss_strands_nobody`.  It follows a run through the loss of the medium to
the moment at which the loss is announced and beyond, whatever else happens and however the turns of
the pump and of the desk fall among it.  What was queued at the medium is dispatched first, with one
exception; who is registered is told of the loss once; a socket that is registered keeps what is
queued for its reader, and a reader who has taken that, or waits for more, is sent away at once; and
who wants to send or to register is turned down.  It also says that the moment comes, once pump and
desk have had turns enough.

The exception is what is queued between the two looks of a pump that ends: it has found the inbox
empty, and sees the loss without looking there again.  `Lobby.question_left_behind` is a run in which
a question is lost that way.

## Why no reader waits for ever

A socket learns that it is to end by a flag that nobody lowers: reading lowers another one.  A wait
looks for an item first and for the flag afterwards, so it ends with what is queued as long as there is
something, and then at once (`Mailbox.waits_of_stopped`).  And the flag is up for each socket that is
registered as soon as no events are handled any more, because the desk ends in the same turn in which
it tells everybody (`Hall.Tended`).
-/

namespace KnxBus

/-! ## Reading from a socket that has ended -/

namespace Mailbox

variable {α : Type} (m : Mailbox α) (s : Flags)

/-- How waits for items end that follow one another, each with its deadline, if it has one, and the
time at which it begins. -/
def waits : List (Option Nat × Nat) → Mailbox α → Flags → List (Waited α)
  | [], _, _ => []
  | (deadline, now) :: later, m, s =>
    let ended := m.popWait s deadline now
    ended.1 :: waits later ended.2.1 ended.2.2

/-- A wait that is told to end takes an item if there is one, and ends at once. -/
theorem popWait_of_stopped (hflag : m.flag ≠ .stop) (hstopped : s.isStopped = true)
    (deadline : Option Nat) (now : Nat) :
    m.popWait s deadline now =
      (((m.pop s).1.map fun a => Waited.item a now).getD (.nothing now), (m.pop s).2) := by
  have hstill : (m.pop s).2.2.isStopped = true := (m.pop_isStopped s hflag).trans hstopped
  unfold popWait
  split
  · rename_i hpop
    rw [hpop]
    rfl
  · rename_i hpop
    rw [hpop] at hstill ⊢
    exact if_pos hstill

/-- **Who is told to end never waits**: successive waits give what is queued, in that order, and from
then on nothing, each at the time at which it begins. -/
theorem waits_of_stopped (waiting : List (Option Nat × Nat)) {m : Mailbox α} {s : Flags}
    (hflag : m.flag ≠ .stop) (hstopped : s.isStopped = true) :
    waits waiting m s =
      List.zipWith Waited.item m.queue (waiting.map Prod.snd) ++
        ((waiting.map Prod.snd).drop m.queue.length).map .nothing := by
  induction waiting generalizing m s with
  | nil => simp [waits]
  | cons first later ih =>
    obtain ⟨deadline, now⟩ := first
    have hqueue := m.pop_queue s
    have hlater := ih (m := (m.pop s).2.1) (s := (m.pop s).2.2) (m.pop_flag s ▸ hflag)
      ((m.pop_isStopped s hflag).trans hstopped)
    rw [waits, m.popWait_of_stopped s hflag hstopped]
    simp only [hlater]
    cases hitem : (m.pop s).1 with
    | none =>
      rw [hitem, m.queue_of_pop_none s hitem] at hqueue
      rw [← hqueue, m.queue_of_pop_none s hitem]
      rfl
    | some item =>
      rw [hitem] at hqueue
      rw [← hqueue]
      rfl

end Mailbox

namespace SocketRecord

variable {τ : Type} {r : SocketRecord}

/-- A socket whose reader looks for items under the flag for items. -/
def Listens (r : SocketRecord) : Prop := r.socket.queue.flag = Socket.ready

theorem Listens.ne_stop (h : r.Listens) : r.socket.queue.flag ≠ .stop := by
  rw [h]
  decide

/-- Whatever is handed to a socket, it listens under the same flag, and once it has ended it has. -/
theorem hand_keeps (r : SocketRecord) (x : Outlet τ × Registry.Handed) :
    (r.hand x).socket.queue.flag = r.socket.queue.flag ∧
      (r.socket.isEnded = true → (r.hand x).socket.isEnded = true) := by
  have hdeliver (frame : Frame) : (r.deliver frame).socket.queue.flag = r.socket.queue.flag ∧
      (r.socket.isEnded = true → (r.deliver frame).socket.isEnded = true) := by
    unfold deliver Socket.deliver
    cases himage : r.socket.kind.image? frame with
    | none => exact ⟨rfl, id⟩
    | some item => exact ⟨rfl, r.socket.flags.isRaised_raise .stop _⟩
  unfold hand
  split
  · split
    · exact hdeliver _
    · exact ⟨rfl, id⟩
  · split
    · exact ⟨rfl, fun _ => r.socket.flags.isRaised_raise_self .stop⟩
    · exact ⟨rfl, id⟩
  · exact ⟨rfl, id⟩

theorem foldl_hand_keeps (handed : List (Outlet τ × Registry.Handed)) (r : SocketRecord) :
    (handed.foldl hand r).socket.queue.flag = r.socket.queue.flag ∧
      (r.socket.isEnded = true → (handed.foldl hand r).socket.isEnded = true) := by
  induction handed generalizing r with
  | nil => exact ⟨rfl, id⟩
  | cons x later ih =>
    obtain ⟨hflag, hended⟩ := ih (r.hand x)
    exact ⟨hflag.trans (r.hand_keeps x).1, fun h => hended ((r.hand_keeps x).2 h)⟩

theorem hand_number (r : SocketRecord) (x : Outlet τ × Registry.Handed) :
    (r.hand x).number = r.number := by
  unfold hand
  split
  · split
    · exact r.deliver_number _
    · rfl
  · split <;> rfl
  · rfl

theorem foldl_hand_number (handed : List (Outlet τ × Registry.Handed)) (r : SocketRecord) :
    (handed.foldl hand r).number = r.number :=
  List.foldlRecOn (motive := fun r' => r'.number = r.number) handed hand rfl
    fun r' hr' x _ => (r'.hand_number x).trans hr'

/-- A socket that is told of the loss has ended. -/
theorem foldl_hand_isEnded {handed : List (Outlet τ × Registry.Handed)}
    (h : (.socket r.number, .lost) ∈ handed) : (handed.foldl hand r).socket.isEnded = true := by
  obtain ⟨before, after, rfl⟩ := List.append_of_mem h
  rw [List.foldl_append, List.foldl_cons]
  refine (foldl_hand_keeps after _).2 ?_
  rw [hand, if_pos (foldl_hand_number before r).symm]
  exact Flags.isRaised_raise_self _ _

/-- Reading changes neither. -/
theorem Listens.take (h : r.Listens) :
    r.take.Listens ∧ r.take.socket.isEnded = r.socket.isEnded :=
  ⟨(r.socket.queue.pop_flag r.socket.flags).trans h,
    r.socket.queue.pop_isStopped r.socket.flags h.ne_stop⟩

end SocketRecord

/-! ## The sockets of a hall that is never closed -/

namespace Hall

variable {τ : Type} {hall : Hall τ}

/-- Readers look for items, and when no events are handled any more all sockets that are registered
have ended. -/
structure Tended (hall : Hall τ) : Prop where
  /-- Readers look for items. -/
  listens : ∀ r ∈ hall.sockets, r.Listens
  /-- Who is registered at the end knows of it. -/
  ended : hall.desk.dispatcher.running = false → ∀ r ∈ hall.sockets,
    hall.desk.registry.HasSubscriber r.number → r.socket.isEnded = true

theorem start_tended : (start : Hall τ).Tended where
  listens _ hr := absurd hr List.not_mem_nil
  ended h := by cases h

/-- A move that leaves the sockets alone, the registry and the desk in its work. -/
theorem Tended.of_desk (h : hall.Tended) {desk : Desk (Outlet τ)}
    (hregistry : desk.registry = hall.desk.registry)
    (hrunning : desk.dispatcher.running = hall.desk.dispatcher.running) :
    Tended { hall with desk := desk } where
  listens := h.listens
  ended hends r hr hthere := h.ended (hrunning ▸ hends) r hr (hregistry ▸ hthere)

/-- A move in which no event is handled is one of the desk alone. -/
theorem Tended.act (h : hall.Tended) {a : Desk.Act} (hserve : ∀ verdict own, a ≠ .serve verdict own)
    (hhalt : ∀ verdict, a ≠ .halt verdict) : (hall.step (.act a)).Tended := by
  have hnothing : hall.desk.handedOut a = [] := by
    cases a with
    | serve verdict own => exact absurd rfl (hserve verdict own)
    | _ => rfl
  have hstep : hall.step (.act a) = { hall with desk := hall.desk.act a } := by
    simp [Hall.step, hnothing]
  obtain ⟨hregistry, hrunning⟩ := hall.desk.act_keeps hserve hhalt
  rw [hstep]
  exact h.of_desk hregistry hrunning

theorem Tended.opens (h : hall.Tended) (kind : SocketKind) : (hall.opens kind).Tended := by
  unfold Hall.opens
  split
  · rename_i hrunning
    refine ⟨fun r hr => ?_, fun hends => ?_⟩
    · obtain hold | hnew := List.mem_append.1 hr
      · exact h.listens r hold
      · rw [List.mem_singleton.1 hnew]
        rfl
    · cases hrunning.symm.trans ((hall.desk.draw_keeps _).2.symm.trans hends)
  · exact h

/-- Handling the oldest event: if the desk ends, it tells everybody. -/
theorem Tended.serve (h : hall.Tended) (hsound : hall.Sound) (verdict : Verdict)
    (own : IndividualAddress) : (hall.step (.act (.serve verdict own))).Tended := by
  refine ⟨fun r hr => ?_, fun hends r hr hthere => ?_⟩
  · obtain ⟨before, hbefore, rfl⟩ := List.mem_map.1 hr
    exact (SocketRecord.foldl_hand_keeps _ before).1.trans (h.listens before hbefore)
  · obtain ⟨before, hbefore, rfl⟩ := List.mem_map.1 hr
    change (hall.desk.serve verdict own).dispatcher.running = false at hends
    change (hall.desk.serve verdict own).registry.HasSubscriber _ at hthere
    rw [SocketRecord.foldl_hand_number] at hthere
    change (((hall.desk.next? verdict own).toList.flatMap _).foldl _ before).socket.isEnded = true
    unfold Desk.serve at hends hthere
    cases hnext : hall.desk.next? verdict own with
    | none =>
      rw [hnext] at hends hthere
      exact h.ended hends before hbefore hthere
    | some handled =>
      rw [hnext] at hends hthere
      obtain ⟨e, later, -, rfl⟩ := Desk.next?_eq_some hnext
      by_cases hlost : e = .lost
      · subst hlost
        obtain ⟨s, hs, hid⟩ := hthere
        have hown := (hsound.served before hbefore).bound s (.inl hs) (.inl hid)
        refine SocketRecord.foldl_hand_isEnded (List.mem_flatMap.2 ⟨_, List.mem_singleton.2 rfl, ?_⟩)
        exact List.mem_append_left _ (List.mem_map.2 ⟨s, hs, by rw [hown]⟩)
      · have hgoes : (Dispatcher.handle verdict own (hall.desk.dispatcher.withEvents later)
            e).dispatcher.running = hall.desk.dispatcher.running := Desk.handle_running _ _ _ hlost
        rw [Desk.running_of_next? hnext] at hgoes
        cases hgoes.symm.trans hends

theorem Tended.step (h : hall.Tended) (hsound : hall.Sound) {move : Move τ}
    (hmove : ∀ verdict, move ≠ .act (.halt verdict)) : (hall.step move).Tended := by
  cases move with
  | opens kind => exact h.opens kind
  | asks request => exact h.of_desk (hall.desk.draw_keeps _).1 (hall.desk.draw_keeps _).2
  | act a =>
    cases a with
    | serve verdict own => exact h.serve hsound verdict own
    | halt verdict => exact absurd rfl (hmove verdict)
    | submit | leave | hear | lose => exact h.act nofun nofun
  | reads number =>
    refine ⟨fun r hr => ?_, fun hends r hr hthere => ?_⟩
    · obtain ⟨before, hbefore, rfl⟩ := List.mem_map.1 hr
      split
      · exact (h.listens before hbefore).take.1
      · exact h.listens before hbefore
    · obtain ⟨before, hbefore, rfl⟩ := List.mem_map.1 hr
      by_cases hnumber : before.number = number
      · rw [if_pos hnumber] at hthere ⊢
        rw [(h.listens before hbefore).take.2]
        exact h.ended hends before hbefore hthere
      · rw [if_neg hnumber] at hthere ⊢
        exact h.ended hends before hbefore hthere

end Hall

/-! ## The lobby -/

/-- A hall whose desk is on a loopback medium. -/
structure Lobby (τ : Type) where
  /-- The hall. -/
  hall : Hall τ
  /-- The medium and the pump. -/
  wire : Wire

namespace Lobby

variable {τ : Type}

/-- What can happen in a lobby. -/
inductive Move (τ : Type) where
  /-- A socket is opened for reading. -/
  | opens (kind : SocketKind)
  /-- Somebody else wants to register. -/
  | asks (request : Request τ)
  /-- Something happens at the desk or at the medium. -/
  | act (a : Circuit.Act)
  /-- The reader of the socket of a number takes an item. -/
  | reads (number : Nat)

/-- Whether the pump takes a turn. -/
def Move.isPump : Move τ → Bool
  | .act .pump => true
  | _ => false

/-- Whether the desk takes a turn. -/
def Move.isServe : Move τ → Bool
  | .act .serve => true
  | _ => false

/-- A lobby that has just been opened. -/
def start (address : IndividualAddress) : Lobby τ := ⟨.start, .ofAddress address⟩

/-- The desk on its medium. -/
def circuit (l : Lobby τ) : Circuit (Outlet τ) := ⟨l.hall.desk, l.wire⟩

/-- Something happens. -/
def step (l : Lobby τ) : Move τ → Lobby τ
  | .opens kind => { l with hall := l.hall.step (.opens kind) }
  | .asks request => { l with hall := l.hall.step (.asks request) }
  | .act a =>
    { hall := (l.circuit.atDesk a).elim l.hall fun d => l.hall.step (.act d)
      wire := l.circuit.atWire a }
  | .reads number => { l with hall := l.hall.step (.reads number) }

/-- One thing after the other happens. -/
def run (moves : List (Move τ)) (l : Lobby τ) : Lobby τ := moves.foldl step l

theorem act_circuit (l : Lobby τ) (a : Circuit.Act) :
    (l.step (.act a)).circuit = l.circuit.act a := by
  change (⟨((l.circuit.atDesk a).elim l.hall fun d => l.hall.step (.act d)).desk,
    l.circuit.atWire a⟩ : Circuit (Outlet τ)) =
      ⟨(l.circuit.atDesk a).elim l.hall.desk l.hall.desk.act, _⟩
  cases l.circuit.atDesk a <;> rfl

theorem step_stepped (l : Lobby τ) (move : Move τ) :
    l.circuit.Stepped (l.step move).circuit := by
  cases move with
  | opens kind =>
    show l.circuit.Stepped ⟨(l.hall.opens kind).desk, l.wire⟩
    unfold Hall.opens
    split
    · exact l.circuit.draw_stepped _
    · exact .still _
  | asks request => exact l.circuit.draw_stepped (request.map .other)
  | act a => exact l.act_circuit a ▸ l.circuit.act_stepped a
  | reads number => exact .still _

/-- What happens in a lobby is nothing that could not happen in its hall, which is never closed. -/
theorem step_hall (l : Lobby τ) (move : Move τ) :
    (l.step move).hall = l.hall ∨
      ∃ move', (∀ verdict, move' ≠ .act (.halt verdict)) ∧ (l.step move).hall = l.hall.step move' := by
  cases move with
  | opens kind => exact .inr ⟨.opens kind, nofun, rfl⟩
  | asks request => exact .inr ⟨.asks request, nofun, rfl⟩
  | act a =>
    change (l.circuit.atDesk a).elim l.hall (fun d => l.hall.step (.act d)) = l.hall ∨
      ∃ move', _ ∧ (l.circuit.atDesk a).elim l.hall (fun d => l.hall.step (.act d)) = _
    cases hdesk : l.circuit.atDesk a with
    | none => exact .inl rfl
    | some d =>
      refine .inr ⟨.act d, fun verdict hhalt => ?_, rfl⟩
      cases hhalt
      exact l.circuit.atDesk_ne_halt a verdict hdesk
  | reads number => exact .inr ⟨.reads number, nofun, rfl⟩

/-- What holds of a lobby. -/
structure Sound (l : Lobby τ) : Prop where
  /-- Its hall is one in which things happen as in every other. -/
  hall : l.hall.Sound
  /-- Its sockets are looked after. -/
  tended : l.hall.Tended
  /-- The news of the medium comes in order. -/
  order : l.circuit.InOrder

theorem start_sound (address : IndividualAddress) : (start address : Lobby τ).Sound where
  hall := Hall.start_sound
  tended := Hall.start_tended
  order := Circuit.start_inOrder address

theorem Sound.step {l : Lobby τ} (h : l.Sound) (move : Move τ) : (l.step move).Sound := by
  have horder := h.order.step (l.step_stepped move)
  obtain hsame | ⟨move', hmove', hstep⟩ := l.step_hall move
  · exact ⟨hsame ▸ h.hall, hsame ▸ h.tended, horder⟩
  · exact ⟨hstep ▸ h.hall.step move', hstep ▸ h.tended.step h.hall hmove', horder⟩

theorem run_sound {l : Lobby τ} (h : l.Sound) (moves : List (Move τ)) : (run moves l).Sound :=
  List.foldlRecOn moves step h fun _ h move _ => h.step move

/-! ## Turns -/

/-- Nothing is queued at a lost medium, and what is left behind stays so. -/
theorem run_of_lost {l : Lobby τ} (hlost : l.wire.medium.lost = true) (moves : List (Move τ)) :
    (run moves l).wire.medium.lost = true ∧ (run moves l).wire.queued = l.wire.queued ∧
      (run moves l).wire.missed = l.wire.missed :=
  List.foldlRecOn
    (motive := fun l' => l'.wire.medium.lost = true ∧ l'.wire.queued = l.wire.queued ∧
      l'.wire.missed = l.wire.missed)
    moves step ⟨hlost, rfl, rfl⟩ fun l' ⟨hlost', hqueued, hmissed⟩ move _ =>
      have ⟨hafter, hsame, hstays⟩ := (l'.step_stepped move).of_lost hlost'
      ⟨hafter, hsame.trans hqueued, hstays.trans hmissed⟩

/-- Each turn of the pump brings it nearer to its end. -/
theorem run_toPump {l : Lobby τ} (hlost : l.wire.medium.lost = true) (moves : List (Move τ)) :
    (run moves l).circuit.toPump ≤ l.circuit.toPump - moves.countP Move.isPump := by
  refine foldl_countdown step (fun l => l.wire.medium.lost = true) (fun l => l.circuit.toPump)
    Move.isPump (fun l' move hlost' => ((l'.step_stepped move).of_lost hlost').1) ?_ moves hlost
  intro l' move hlost'
  have hle := (l'.step_stepped move).toPump_le hlost'
  unfold Move.isPump
  split
  · rw [act_circuit]
    exact Circuit.pump_toPump hlost'
  · exact hle

/-- A pump that has ended does not work again. -/
theorem Sound.ended_step {l : Lobby τ} (h : l.Sound) (hends : l.wire.pump = .ended)
    (move : Move τ) : (l.step move).wire.pump = .ended := by
  have hle := (l.step_stepped move).toPump_le (h.order.lost hends)
  rw [Circuit.toPump_eq_zero (c := l.circuit) |>.2 hends] at hle
  exact Circuit.toPump_eq_zero.1 (Nat.le_zero.1 hle)

/-- After that each turn of the desk brings it nearer to its own. -/
theorem run_toServe {l : Lobby τ} (h : l.Sound) (hends : l.wire.pump = .ended)
    (moves : List (Move τ)) :
    (run moves l).circuit.toServe ≤ l.circuit.toServe - moves.countP Move.isServe := by
  refine foldl_countdown step (fun l => l.Sound ∧ l.wire.pump = .ended)
    (fun l => l.circuit.toServe) Move.isServe
    (fun l' move ⟨h', hends'⟩ => ⟨h'.step move, h'.ended_step hends' move⟩) ?_ moves ⟨h, hends⟩
  intro l' move ⟨h', hends'⟩
  have hle := (l'.step_stepped move).toServe_le h'.order hends'
  unfold Move.isServe
  split
  · rw [act_circuit]
    exact Circuit.serve_toServe h'.order hends'
  · exact hle

/-- Pump and desk come to their end once they have had turns enough. -/
theorem Sound.comes_to_end {l : Lobby τ} (h : l.Sound) (hlost : l.wire.medium.lost = true)
    {pumps serves : List (Move τ)}
    (hpumps : l.wire.medium.inbox.length + 2 ≤ pumps.countP Move.isPump)
    (hserves : (run pumps l).circuit.events.length ≤ serves.countP Move.isServe) :
    (run serves (run pumps l)).circuit.running = false := by
  have hpump := run_toPump hlost pumps
  have hqueue := l.circuit.toPump_le
  change l.circuit.toPump ≤ l.wire.medium.inbox.length + 2 at hqueue
  have hends : (run pumps l).circuit.wire.pump = .ended := Circuit.toPump_eq_zero.1 (by omega)
  have hserve := run_toServe (run_sound h pumps) hends serves
  have hevents := Circuit.toServe_le (run_sound h pumps).order hends
  exact Circuit.toServe_eq_zero.1 (by omega)

/-! ## The loss of the medium -/

/-- What the reader of a socket can count on once the loss has been announced. -/
structure Released (r : SocketRecord) : Prop where
  /-- No more than 256 items are queued for the reader. -/
  unread_le : r.unread.length ≤ 256
  /-- They are the newest of those that were pushed. -/
  pushed_eq : r.gone.map Prod.fst ++ r.unread = r.pushed
  /-- What is missing was read, or dropped when something was pushed into a full queue. -/
  gone_eq : Departure.read.items r.gone = r.given ∧ r.dropped.length = r.overfull
  /-- Waits, whatever their deadlines, give those items one by one and from then on nothing, each at
  the time at which it begins. -/
  waits_eq : ∀ waiting, r.socket.queue.waits waiting r.socket.flags =
    List.zipWith Waited.item r.unread (waiting.map Prod.snd) ++
      ((waiting.map Prod.snd).drop r.unread.length).map .nothing

/-- How things stand once the loss of a medium has been announced at which something was queued and
something of it was left behind. -/
structure Announced (l : Lobby τ) (queued missed : List Lpdu) : Prop where
  /-- The rest of that was dispatched before, in order; the loss was handled last. -/
  dispatched : ∃ dispatched earlier last, dispatched ++ missed = queued ∧
    l.hall.desk.log = earlier ++ [last] ∧ last.event = .lost ∧
    Circuit.newsIn (earlier.map (·.event)) = dispatched.map some
  /-- Whoever is registered was told of the loss once, and nobody else was told of a loss. -/
  told : (l.hall.desk.log.flatMap (·.done.handed)).filter (·.2 = .lost) =
    l.hall.desk.registry.announceLoss
  /-- No reader is left waiting. -/
  released : ∀ r ∈ l.hall.sockets, l.hall.desk.registry.HasSubscriber r.number → Released r
  /-- Whoever wants to register is turned down. -/
  drawing_eq : l.circuit.drawing = .error .stopped
  /-- So is whoever was too late with his request. -/
  reply_eq : ∀ id, (∀ h ∈ l.hall.desk.log, h.event.number? ≠ some id) →
    l.circuit.reply id = some (.error .stopped)

theorem Sound.released {l : Lobby τ} (h : l.Sound) (hends : l.circuit.running = false)
    {r : SocketRecord} (hr : r ∈ l.hall.sockets)
    (hthere : l.hall.desk.registry.HasSubscriber r.number) : Released r where
  unread_le := (h.hall.served r hr).kept.unread_le
  pushed_eq := (h.hall.served r hr).kept.pushed_eq
  gone_eq := ⟨(h.hall.served r hr).kept.given_eq, (h.hall.served r hr).kept.dropped_eq⟩
  waits_eq waiting := Mailbox.waits_of_stopped waiting (h.tended.listens r hr).ne_stop
    (h.tended.ended hends r hr hthere)

theorem Sound.announced {l : Lobby τ} (h : l.Sound) (hends : l.circuit.running = false) :
    l.Announced l.wire.queued l.wire.missed := by
  obtain ⟨dispatched, earlier, last, hqueued, hlog, hunaware, hevent, hhanded, hnews⟩ :=
    h.order.announced hends
  refine ⟨⟨dispatched, earlier, last, hqueued, hlog, hevent, hnews⟩, ?_,
    fun r hr => h.released hends hr,
    if_neg (Bool.eq_false_iff.1 hends), fun id => Circuit.reply_of_unhandled hends⟩
  have hquiet : (earlier.flatMap (·.done.handed)).filter (·.2 = .lost) = [] := by
    refine List.filter_eq_nil_iff.2 fun x hx => ?_
    obtain ⟨handled, hhandled, hx⟩ := List.mem_flatMap.1 hx
    simpa using (hunaware handled hhandled).2 x hx
  have hall : last.done.handed.filter (·.2 = .lost) = last.done.handed := by
    refine List.filter_eq_self.2 fun x hx => ?_
    rw [hhanded] at hx
    obtain hx | hx := List.mem_append.1 hx <;> obtain ⟨s, -, rfl⟩ := List.mem_map.1 hx <;> rfl
  show ((Circuit.desk l.circuit).log.flatMap _).filter _ = _
  rw [hlog, List.flatMap_append, List.filter_append, hquiet, List.nil_append, List.flatMap_cons,
    List.flatMap_nil, List.append_nil, hall]
  exact hhanded

/-- **The loss of the medium strands nobody.**  Take any run in which the medium is lost at some time,
and whatever happened before and after.  Nothing can be sent any more.  Once the loss has been
announced, what was queued at the medium when it was lost has been dispatched before, but for what
waited there if the pump had just found nothing; everybody who is registered has been told once;
readers get what is queued for them, at most the newest 256 items, and from then on nothing, without
waiting; and nobody can register.  And the loss is announced once the pump has had a turn for each item
at the medium and two more, and the desk then a turn for each event that waits, whatever else happens
between the turns. -/
theorem loss_strands_nobody (address : IndividualAddress) (before after : List (Move τ)) :
    let known := run before (start address)
    let l := run after (known.step (.act .disconnect))
    (∀ frame, l.circuit.sending frame =
      .error (if l.circuit.running then .medium .connectionLost else .stopped)) ∧
    (l.circuit.running = false → l.Announced known.wire.queued known.wire.missed) ∧
    ∀ pumps serves, l.wire.medium.inbox.length + 2 ≤ pumps.countP Move.isPump →
      (run pumps l).circuit.events.length ≤ serves.countP Move.isServe →
      (run serves (run pumps l)).circuit.running = false := by
  intro known l
  have hsound : l.Sound := run_sound ((run_sound (start_sound address) before).step _) after
  obtain ⟨hlost, hqueued, hmissed⟩ := run_of_lost (l := known.step (.act .disconnect)) rfl after
  refine ⟨Circuit.sending_of_lost hlost, fun hends => ?_, fun pumps serves =>
    hsound.comes_to_end hlost⟩
  have hsame : l.wire.queued = known.wire.queued := hqueued
  have hstays : l.wire.missed = known.wire.missed := hmissed
  exact hsame ▸ hstays ▸ hsound.announced hends

/-- A socket for a group is opened and two questions are heard, one of them to its group, before the
request for the socket is handled. -/
def lateVisit : List (Move Unit) :=
  [.opens (.group ⟨2305⟩), .act (.submit 1), .act (.inject (.data (Hall.question 1))),
    .act (.inject (.data (Hall.question 2)))]

/-- Turns of the pump. -/
def pumpTurns (n : Nat) : List (Move Unit) := List.replicate n (.act .pump)

/-- Turns of the desk. -/
def deskTurns (n : Nat) : List (Move Unit) := List.replicate n (.act .serve)

theorem loss_strands_nobody_lateVisit :
    let known := run lateVisit (start ⟨4353⟩)
    let l := run (pumpTurns 4 ++ deskTurns 4) (known.step (.act .disconnect))
    l.circuit.running = false ∧
      (∃ earlier last, l.hall.desk.log = earlier ++ [last] ∧
        Circuit.newsIn (earlier.map (·.event)) =
          [some (.data (Hall.question 1)), some (.data (Hall.question 2))]) ∧
      (∃ r ∈ l.hall.sockets, r.socket.queue.waits [(none, 5), (some 9, 6)] r.socket.flags =
        [.item ⟨[0, 0], .unset, .group ⟨2305⟩⟩ 5, .nothing 6]) ∧
      l.circuit.sending (Hall.question 1) = .error .stopped := by
  intro known l
  have hends : l.circuit.running = false :=
    (loss_strands_nobody ⟨4353⟩ lateVisit []).2.2 (pumpTurns 4) (deskTurns 4) (by decide) (by decide)
  have hopened : l.hall.sockets ≠ [] := List.cons_ne_nil _ _
  have hthere : l.hall.desk.registry.HasSubscriber (l.hall.sockets.head hopened).number := by
    decide +kernel +revert
  have hunread : (l.hall.sockets.head hopened).unread = [⟨[0, 0], .unset, .group ⟨2305⟩⟩] := by
    decide +kernel +revert
  obtain ⟨hsending, hannounced, -⟩ :=
    loss_strands_nobody ⟨4353⟩ lateVisit (pumpTurns 4 ++ deskTurns 4)
  obtain ⟨⟨dispatched, earlier, last, hqueued, hlog, -, hnews⟩, -, hreleased, -, -⟩ :=
    hannounced hends
  have hall : dispatched = [.data (Hall.question 1), .data (Hall.question 2)] :=
    (List.append_nil dispatched).symm.trans hqueued
  rw [hall] at hnews
  have hwaits := (hreleased _ (List.head_mem hopened) hthere).waits_eq [(none, 5), (some 9, 6)]
  rw [hunread] at hwaits
  have hsent := hsending (Hall.question 1)
  rw [hends] at hsent
  exact ⟨hends, ⟨earlier, last, hlog, hnews⟩, ⟨_, List.head_mem hopened, hwaits⟩, hsent⟩

/-- A socket for a group is opened, and a question to its group is heard after the pump has looked. -/
def unluckyVisit : List (Move Unit) :=
  [.opens (.group ⟨2305⟩), .act (.submit 1), .act .serve, .act .pump,
    .act (.inject (.data (Hall.question 1)))]

/-- **A question is left behind**: it is queued before the medium is lost, and when everybody has been
told of the loss nobody has been told of the question. -/
theorem question_left_behind :
    let known := run unluckyVisit (start ⟨4353⟩)
    let l := run (pumpTurns 1 ++ deskTurns 1) (known.step (.act .disconnect))
    known.wire.medium.lost = false ∧ known.wire.queued = [.data (Hall.question 1)] ∧
      l.circuit.running = false ∧ Circuit.newsIn (l.hall.desk.log.map (·.event)) = [none] ∧
      ∃ r ∈ l.hall.sockets, l.hall.desk.registry.HasSubscriber r.number ∧ r.pushed = [] := by
  decide +kernel

end Lobby
end KnxBus
