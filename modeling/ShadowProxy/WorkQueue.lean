import Mathlib.Data.List.Induction

/-! A bounded queue between an owner that sends items and a worker that takes them out one at a
time. The owner shuts the service down by asking the worker to drain the queue, and by a forced
close when that takes too long. The worker waits in a `select`, which may take any ready case;
which one it takes is an input of a step. -/
namespace ShadowProxy.WorkQueue

variable {α σ : Type*}

inductive Mode
  | serving
  | draining
  deriving DecidableEq, Repr

/-- Where the worker stands: before a `select`, blocked in one, with an item it has received but
not looked at, at work on an item, or gone. -/
inductive Stage (α : Type*)
  | selecting (mode : Mode)
  | parked
  | holding (mode : Mode) (item : α)
  | working (mode : Mode) (item : α)
  | stopped
  deriving DecidableEq

/-- The case a `select` takes; `idle` when none is ready. -/
inductive Pick
  | close
  | drain
  | queue
  | idle
  deriving DecidableEq, Repr

/-- `state` is what the worker acts on. `accepted`, `finished` and `abandoned` are the history:
the items that were sent, worked off, and given up after a forced close. -/
structure Worker (α σ : Type*) where
  queue : List α
  stage : Stage α
  drain : Bool
  force : Bool
  state : σ
  accepted : List α
  finished : List α
  abandoned : List α

/-- How far the owner is: it sends items, has come to its end, waits for the worker to drain the
queue, waits for it to exit, or is through. -/
inductive Phase
  | serving
  | leaving
  | draining
  | joining
  | closed
  deriving DecidableEq, Repr

structure Service (α σ : Type*) where
  worker : Worker α σ
  phase : Phase

/-- What a `send` comes to. -/
inductive Sent
  | queued
  | full
  | closed
  deriving DecidableEq, Repr

/-- A `select` over the close signal, the drain signal and the queue; in drain mode there is no
drain signal, and the worker exits instead of blocking. -/
def Worker.select (w : Worker α σ) (mode : Mode) : Pick → Worker α σ
  | .close => if w.force then { w with stage := .stopped } else w
  | .drain =>
    if mode = .serving ∧ w.drain then { w with stage := .selecting .draining } else w
  | .queue =>
    match w.queue with
    | [] => w
    | a :: rest => { w with queue := rest, stage := .holding mode a }
  | .idle =>
    if w.queue = [] ∧ w.force = false then
      match mode with
      | .serving => if w.drain then w else { w with stage := .parked }
      | .draining => { w with stage := .stopped }
    else w

/-- One step of the worker. An item received is given up if the forced close has come meanwhile.
A pick that is not ready changes nothing. -/
def Worker.step (work : α → σ → σ) (pick : Pick) (w : Worker α σ) : Worker α σ :=
  match w.stage with
  | .selecting mode => w.select mode pick
  | .parked => w.select .serving pick
  | .holding mode a =>
    if w.force then { w with stage := .selecting mode, abandoned := w.abandoned ++ [a] }
    else { w with stage := .working mode a }
  | .working mode a =>
    { w with stage := .selecting mode, state := work a w.state, finished := w.finished ++ [a] }
  | .stopped => w

/-- The item goes to a worker that is blocked, or into the queue if there is room. -/
def Worker.send (capacity : ℕ) (a : α) (w : Worker α σ) : Sent × Worker α σ :=
  if w.drain then (.closed, w)
  else
    match w.stage with
    | .parked =>
      (.queued, { w with stage := .holding .serving a, accepted := w.accepted ++ [a] })
    | _ =>
      if w.queue.length < capacity then
        (.queued, { w with queue := w.queue ++ [a], accepted := w.accepted ++ [a] })
      else (.full, w)

namespace Service

def start (state : σ) : Service α σ :=
  ⟨⟨[], .selecting .serving, false, false, state, [], [], []⟩, .serving⟩

def send (capacity : ℕ) (a : α) (s : Service α σ) : Sent × Service α σ :=
  let sent := s.worker.send capacity a
  (sent.1, { s with worker := sent.2 })

def leave (s : Service α σ) : Service α σ :=
  if s.phase = .serving then { s with phase := .leaving } else s

def close (s : Service α σ) : Service α σ :=
  match s.phase with
  | .serving => s
  | .leaving => ⟨{ s.worker with drain := true }, .draining⟩
  | .draining =>
    match s.worker.stage with
    | .stopped => { s with phase := .joining }
    | _ => s
  | .joining =>
    match s.worker.stage with
    | .stopped => { s with phase := .closed }
    | _ => s
  | .closed => s

def timeout (s : Service α σ) : Service α σ :=
  if s.phase = .draining then ⟨{ s.worker with force := true }, .joining⟩ else s

def step (work : α → σ → σ) (pick : Pick) (s : Service α σ) : Service α σ :=
  { s with worker := s.worker.step work pick }

/-- A `send` would be accepted. -/
def Room (capacity : ℕ) (s : Service α σ) : Prop :=
  s.worker.drain = false ∧ (s.worker.stage = .parked ∨ s.worker.queue.length < capacity)

end Service

/-- The worker is in a `select` of the given mode. -/
def Stage.Waits (stage : Stage α) (mode : Mode) : Prop :=
  stage = .selecting mode ∨ (stage = .parked ∧ mode = .serving)

/-- Everything a step of the worker can do. -/
inductive Worker.Steps (work : α → σ → σ) (w : Worker α σ) : Worker α σ → Prop
  | stay : Steps work w w
  | exit {mode : Mode} : w.stage.Waits mode →
      (w.force = true ∨ (mode = .draining ∧ w.queue = [])) → Steps work w { w with stage := .stopped }
  | drain : w.stage.Waits .serving → w.drain = true →
      Steps work w { w with stage := .selecting .draining }
  | park : w.stage.Waits .serving → w.queue = [] → Steps work w { w with stage := .parked }
  | take {mode : Mode} {a : α} {rest : List α} : w.stage.Waits mode → w.queue = a :: rest →
      Steps work w { w with queue := rest, stage := .holding mode a }
  | abandon {mode : Mode} {a : α} : w.stage = .holding mode a → w.force = true →
      Steps work w { w with stage := .selecting mode, abandoned := w.abandoned ++ [a] }
  | begin {mode : Mode} {a : α} : w.stage = .holding mode a → w.force = false →
      Steps work w { w with stage := .working mode a }
  | finish {mode : Mode} {a : α} : w.stage = .working mode a →
      Steps work w { w with stage := .selecting mode, state := work a w.state,
                            finished := w.finished ++ [a] }

section Steps
variable {work : α → σ → σ} {w : Worker α σ}

lemma Worker.select_steps {mode : Mode} (h : w.stage.Waits mode) (pick : Pick) :
    Worker.Steps work w (w.select mode pick) := by
  unfold Worker.select
  cases pick with
  | close =>
    dsimp only
    split_ifs with hf
    · exact .exit h (.inl hf)
    · exact .stay
  | drain =>
    dsimp only
    split_ifs with hd
    · obtain ⟨rfl, hd⟩ := hd
      exact .drain h hd
    · exact .stay
  | queue =>
    cases hq : w.queue with
    | nil => exact .stay
    | cons a rest => exact .take h hq
  | idle =>
    by_cases hq : w.queue = [] ∧ w.force = false
    · simp only [if_pos hq]
      cases mode with
      | serving =>
        dsimp only
        split_ifs
        · exact .stay
        · exact .park h hq.1
      | draining => exact .exit h (.inr ⟨rfl, hq.1⟩)
    · simp only [if_neg hq]
      exact .stay

lemma Worker.step_steps (work : α → σ → σ) (pick : Pick) (w : Worker α σ) :
    Worker.Steps work w (w.step work pick) := by
  unfold Worker.step
  cases hs : w.stage with
  | selecting mode => exact Worker.select_steps (.inl hs) pick
  | parked => exact Worker.select_steps (.inr ⟨hs, rfl⟩) pick
  | holding mode a =>
    dsimp only
    split_ifs with hf
    · exact .abandon hs hf
    · exact .begin hs (by simpa using hf)
  | working mode a => exact .finish hs
  | stopped => exact .stay

lemma Worker.send_cases (capacity : ℕ) (a : α) (w : Worker α σ) :
    (w.drain = true ∧ w.send capacity a = (.closed, w)) ∨
    (w.drain = false ∧ w.stage = .parked ∧ w.send capacity a =
      (.queued, { w with stage := .holding .serving a, accepted := w.accepted ++ [a] })) ∨
    (w.drain = false ∧ w.stage ≠ .parked ∧ w.queue.length < capacity ∧ w.send capacity a =
      (.queued, { w with queue := w.queue ++ [a], accepted := w.accepted ++ [a] })) ∨
    (w.drain = false ∧ w.stage ≠ .parked ∧ capacity ≤ w.queue.length ∧
      w.send capacity a = (.full, w)) := by
  unfold Worker.send
  by_cases hd : w.drain = true
  · exact .inl ⟨hd, if_pos hd⟩
  · have hd' : w.drain = false := by simpa using hd
    simp only [hd', Bool.false_eq_true, if_false, false_and, true_and, false_or]
    by_cases hl : w.queue.length < capacity
    · cases hs : w.stage <;> simp [hl]
    · cases hs : w.stage <;> simp [hl, Nat.not_lt.mp hl]

lemma Service.send_queued_iff {capacity : ℕ} {a : α} {s : Service α σ} :
    (s.send capacity a).1 = .queued ↔ s.Room capacity := by
  unfold Service.send Service.Room
  rcases s.worker.send_cases capacity a with ⟨hd, h⟩ | ⟨hd, hp, h⟩ | ⟨hd, hp, hl, h⟩ | ⟨hd, hp, hl, h⟩
  · simp [h, hd]
  · simp [h, hd, hp]
  · simp [h, hd, hl]
  · simp [h, hd, hp, hl]

lemma Service.send_accepted (capacity : ℕ) (a : α) (s : Service α σ) :
    (s.send capacity a).2.worker.accepted =
      s.worker.accepted ++ if (s.send capacity a).1 = .queued then [a] else [] := by
  unfold Service.send
  rcases s.worker.send_cases capacity a with ⟨-, h⟩ | ⟨-, -, h⟩ | ⟨-, -, -, h⟩ | ⟨-, -, -, h⟩ <;> simp [h]

@[simp] lemma Service.send_finished (capacity : ℕ) (a : α) (s : Service α σ) :
    (s.send capacity a).2.worker.finished = s.worker.finished := by
  unfold Service.send
  rcases s.worker.send_cases capacity a with ⟨-, h⟩ | ⟨-, -, h⟩ | ⟨-, -, -, h⟩ | ⟨-, -, -, h⟩ <;> simp [h]

@[simp] lemma Service.send_phase (capacity : ℕ) (a : α) (s : Service α σ) :
    (s.send capacity a).2.phase = s.phase := rfl

@[simp] lemma Service.step_phase (work : α → σ → σ) (pick : Pick) (s : Service α σ) :
    (s.step work pick).phase = s.phase := rfl

@[simp] lemma Service.step_accepted (work : α → σ → σ) (pick : Pick) (s : Service α σ) :
    (s.step work pick).worker.accepted = s.worker.accepted := by
  unfold Service.step
  generalize hw : s.worker.step work pick = w'
  have hsteps := s.worker.step_steps work pick
  rw [hw] at hsteps
  cases hsteps <;> rfl

lemma Service.step_finished (work : α → σ → σ) (pick : Pick) (s : Service α σ) :
    (s.step work pick).worker.finished = s.worker.finished ∨
      ∃ mode a, s.worker.stage = .working mode a ∧
        (s.step work pick).worker.finished = s.worker.finished ++ [a] := by
  unfold Service.step
  generalize hw : s.worker.step work pick = w'
  have hsteps := s.worker.step_steps work pick
  rw [hw] at hsteps
  cases hsteps with
  | finish hs => exact .inr ⟨_, _, hs, rfl⟩
  | _ => exact .inl rfl

@[simp] lemma Service.leave_accepted (s : Service α σ) :
    s.leave.worker.accepted = s.worker.accepted := by
  unfold Service.leave
  split_ifs <;> rfl

@[simp] lemma Service.leave_finished (s : Service α σ) :
    s.leave.worker.finished = s.worker.finished := by
  unfold Service.leave
  split_ifs <;> rfl

@[simp] lemma Service.leave_phase (s : Service α σ) : s.leave.phase ≠ .serving := by
  unfold Service.leave
  split_ifs with h
  · simp
  · exact h

@[simp] lemma Service.timeout_accepted (s : Service α σ) :
    s.timeout.worker.accepted = s.worker.accepted := by
  unfold Service.timeout
  split_ifs <;> rfl

@[simp] lemma Service.timeout_finished (s : Service α σ) :
    s.timeout.worker.finished = s.worker.finished := by
  unfold Service.timeout
  split_ifs <;> rfl

@[simp] lemma Service.timeout_phase (s : Service α σ) :
    s.timeout.phase = .serving ↔ s.phase = .serving := by
  unfold Service.timeout
  split_ifs with h
  · simp [h]
  · rfl

@[simp] lemma Service.close_accepted (s : Service α σ) :
    s.close.worker.accepted = s.worker.accepted := by
  unfold Service.close
  cases s.phase <;> cases s.worker.stage <;> rfl

@[simp] lemma Service.close_finished (s : Service α σ) :
    s.close.worker.finished = s.worker.finished := by
  unfold Service.close
  cases s.phase <;> cases s.worker.stage <;> rfl

@[simp] lemma Service.close_phase (s : Service α σ) :
    s.close.phase = .serving ↔ s.phase = .serving := by
  unfold Service.close
  cases hp : s.phase <;> cases s.worker.stage <;> simp [hp]

end Steps

def Stage.inHand : Stage α → List α
  | .holding _ a | .working _ a => [a]
  | .selecting _ | .parked | .stopped => []

@[simp] lemma inHand_selecting (mode : Mode) : (Stage.selecting mode : Stage α).inHand = [] := rfl

@[simp] lemma inHand_parked : (Stage.parked : Stage α).inHand = [] := rfl

@[simp] lemma inHand_holding (mode : Mode) (a : α) : (Stage.holding mode a).inHand = [a] := rfl

@[simp] lemma inHand_working (mode : Mode) (a : α) : (Stage.working mode a).inHand = [a] := rfl

@[simp] lemma inHand_stopped : (Stage.stopped : Stage α).inHand = [] := rfl

def Stage.InDrain : Stage α → Prop
  | .selecting mode | .holding mode _ | .working mode _ => mode = .draining
  | .parked => False
  | .stopped => True

/-- What holds of a service that started with the worker's state `state`. -/
structure Inv (work : α → σ → σ) (state : σ) (s : Service α σ) : Prop where
  conserved : s.worker.accepted =
    s.worker.finished ++ s.worker.abandoned ++ s.worker.stage.inHand ++ s.worker.queue
  worked : s.worker.state = s.worker.finished.foldl (fun state a => work a state) state
  forced : s.worker.abandoned ≠ [] → s.worker.force = true ∧ ∀ m a, s.worker.stage ≠ .working m a
  parked : s.worker.stage = .parked → s.worker.queue = []
  drained : s.worker.stage = .stopped → s.worker.force = true ∨ s.worker.queue = []
  inDrain : s.worker.stage.InDrain → s.worker.drain = true
  forceDrain : s.worker.force = true → s.worker.drain = true
  draining : s.worker.drain = true ↔ s.phase ≠ .serving ∧ s.phase ≠ .leaving
  joined : s.phase = .closed → s.worker.stage = .stopped

section Inv
variable {work : α → σ → σ} {state : σ} {s : Service α σ}

lemma inv_start (work : α → σ → σ) (state : σ) : Inv work state (.start state) := by
  constructor <;> simp [Service.start, Stage.InDrain]

lemma Inv.send (h : Inv work state s) (capacity : ℕ) (a : α) :
    Inv work state (s.send capacity a).2 := by
  unfold Service.send
  rcases s.worker.send_cases capacity a with ⟨hd, hs⟩ | ⟨hd, hp, hs⟩ | ⟨hd, hp, -, hs⟩ | ⟨hd, -, -, hs⟩ <;>
    rw [hs]
  · exact h
  · have hq := h.parked hp
    have hc := h.conserved
    exact {
      conserved := by simp [hc, hp, hq]
      worked := h.worked
      forced := fun hne => ⟨(h.forced hne).1, by simp⟩
      parked := by simp
      drained := by simp
      inDrain := by simp [Stage.InDrain]
      forceDrain := h.forceDrain
      draining := h.draining
      joined := fun hj => by simp [h.joined hj] at hp }
  · have hopen : s.worker.stage ≠ .stopped := by
      intro hstop
      have := h.inDrain (by rw [hstop]; trivial)
      simp [hd] at this
    exact {
      conserved := by simp [h.conserved]
      worked := h.worked
      forced := h.forced
      parked := fun hpark => absurd hpark hp
      drained := fun hstop => absurd hstop hopen
      inDrain := h.inDrain
      forceDrain := h.forceDrain
      draining := h.draining
      joined := h.joined }
  · exact h

lemma Inv.leave (h : Inv work state s) : Inv work state s.leave := by
  unfold Service.leave
  split_ifs with hp
  · have hd := h.draining
    exact { h with draining := by simpa [hp] using hd, joined := by simp }
  · exact h

lemma Inv.close (h : Inv work state s) : Inv work state s.close := by
  have hd := h.draining
  unfold Service.close
  cases hp : s.phase with
  | serving => exact h
  | leaving =>
    exact { h with
      inDrain := fun _ => rfl
      forceDrain := fun _ => rfl
      draining := by simp
      joined := by simp }
  | draining =>
    cases hs : s.worker.stage with
    | stopped => exact { h with draining := by simpa [hp] using hd, joined := by simp }
    | _ => exact h
  | joining =>
    cases hs : s.worker.stage with
    | stopped => exact { h with draining := by simpa [hp] using hd, joined := fun _ => hs }
    | _ => exact h
  | closed => exact h

lemma Inv.timeout (h : Inv work state s) : Inv work state s.timeout := by
  have hd := h.draining
  unfold Service.timeout
  split_ifs with hp
  · exact { h with
      forced := fun hne => ⟨rfl, (h.forced hne).2⟩
      drained := fun _ => .inl rfl
      forceDrain := fun _ => hd.mpr (by simp [hp])
      draining := by simpa [hp] using hd
      joined := by simp }
  · exact h

/-- A worker in a `select` has nothing in its hands, and the owner has not seen it exit. -/
lemma Inv.waits (h : Inv work state s) {mode : Mode} (hw : s.worker.stage.Waits mode) :
    s.worker.stage.inHand = [] ∧ s.phase ≠ .closed ∧ (mode = .draining → s.worker.drain = true) := by
  rcases hw with hw | ⟨hw, rfl⟩
  · refine ⟨by rw [hw]; rfl, fun hclosed => by simp [h.joined hclosed] at hw, ?_⟩
    rintro rfl
    exact h.inDrain (by rw [hw]; rfl)
  · exact ⟨by rw [hw]; rfl, fun hclosed => by simp [h.joined hclosed] at hw, by simp⟩

lemma Inv.step (h : Inv work state s) (pick : Pick) : Inv work state (s.step work pick) := by
  have hc := h.conserved
  unfold Service.step
  generalize hw : s.worker.step work pick = w
  have hsteps := s.worker.step_steps work pick
  rw [hw] at hsteps
  cases hsteps with
  | stay => exact h
  | @exit mode hwait hwhy =>
    obtain ⟨hhand, -, hdrain⟩ := h.waits hwait
    exact { h with
      conserved := by simpa [hhand] using hc
      forced := fun hne => ⟨(h.forced hne).1, by simp⟩
      parked := by simp
      drained := fun _ => hwhy.imp_right And.right
      inDrain := fun _ => hwhy.elim h.forceDrain fun hm => hdrain hm.1
      joined := fun _ => rfl }
  | drain hwait hd =>
    obtain ⟨hhand, hopen, -⟩ := h.waits hwait
    exact { h with
      conserved := by simpa [hhand] using hc
      forced := fun hne => ⟨(h.forced hne).1, by simp⟩
      parked := by simp
      drained := by simp
      inDrain := fun _ => hd
      joined := fun hj => absurd hj hopen }
  | park hwait hq =>
    obtain ⟨hhand, hopen, -⟩ := h.waits hwait
    exact { h with
      conserved := by simpa [hhand] using hc
      forced := fun hne => ⟨(h.forced hne).1, by simp⟩
      parked := fun _ => hq
      drained := by simp
      inDrain := by simp [Stage.InDrain]
      joined := fun hj => absurd hj hopen }
  | take hwait hq =>
    obtain ⟨hhand, hopen, hdrain⟩ := h.waits hwait
    exact { h with
      conserved := by simpa [hhand, hq] using hc
      forced := fun hne => ⟨(h.forced hne).1, by simp⟩
      parked := by simp
      drained := by simp
      inDrain := hdrain
      joined := fun hj => absurd hj hopen }
  | abandon hs hf =>
    exact { h with
      conserved := by simpa [hs] using hc
      forced := fun _ => ⟨hf, by simp⟩
      parked := by simp
      drained := by simp
      inDrain := fun hi => h.inDrain (by rw [hs]; exact hi)
      joined := fun hj => by simp [h.joined hj] at hs }
  | begin hs hf =>
    exact { h with
      conserved := by simpa [hs] using hc
      forced := fun hne => by simp [(h.forced hne).1] at hf
      parked := by simp
      drained := by simp
      inDrain := fun hi => h.inDrain (by rw [hs]; exact hi)
      joined := fun hj => by simp [h.joined hj] at hs }
  | finish hs =>
    have hnone : s.worker.abandoned = [] := by
      by_contra hne
      exact (h.forced hne).2 _ _ hs
    exact { h with
      conserved := by simpa [hs, hnone] using hc
      worked := by simp [h.worked]
      forced := fun hne => absurd hnone hne
      parked := by simp
      drained := by simp
      inDrain := fun hi => h.inDrain (by rw [hs]; exact hi)
      joined := fun hj => by simp [h.joined hj] at hs }

lemma Inv.send_open (h : Inv work state s) (hp : s.phase = .serving) (capacity : ℕ) (a : α) :
    (s.send capacity a).1 ≠ .closed := by
  have hd : s.worker.drain ≠ true := by simp [h.draining, hp]
  unfold Service.send
  rcases s.worker.send_cases capacity a with ⟨hdrain, -⟩ | ⟨-, -, h⟩ | ⟨-, -, -, h⟩ | ⟨-, -, -, h⟩
  · exact absurd hdrain hd
  · simp [h]
  · simp [h]
  · simp [h]

/-- The items worked off are the first of those that were sent. -/
theorem Inv.finished_prefix (h : Inv work state s) : s.worker.finished <+: s.worker.accepted := by
  rw [h.conserved, List.append_assoc, List.append_assoc]
  exact List.prefix_append _ _

/-- Without a forced close, every item that was sent has been worked off when the owner is through. -/
theorem Inv.all_finished (h : Inv work state s) (hclosed : s.phase = .closed)
    (hforce : s.worker.force = false) : s.worker.finished = s.worker.accepted := by
  have hstop := h.joined hclosed
  have hnone : s.worker.abandoned = [] := by
    by_contra hne
    simp [(h.forced hne).1] at hforce
  have hq : s.worker.queue = [] := by
    rcases h.drained hstop with hf | hq
    · simp [hf] at hforce
    · exact hq
  simp [h.conserved, hnone, hstop, hq]

end Inv

/-- The events of a service in an order in which they may come. -/
inductive Act (α : Type*)
  | send (item : α)
  | leave
  | close
  | timeout
  | step (pick : Pick)

def Service.act (capacity : ℕ) (work : α → σ → σ) (s : Service α σ) : Act α → Service α σ
  | .send a => (s.send capacity a).2
  | .leave => s.leave
  | .close => s.close
  | .timeout => s.timeout
  | .step pick => s.step work pick

def Service.exec (capacity : ℕ) (work : α → σ → σ) (acts : List (Act α)) (s : Service α σ) :
    Service α σ :=
  acts.foldl (Service.act capacity work) s

theorem exec_inv (capacity : ℕ) (work : α → σ → σ) (state : σ) (acts : List (Act α)) :
    Inv work state (Service.exec capacity work acts (.start state)) := by
  induction acts using List.reverseRecOn with
  | nil => exact inv_start work state
  | append_singleton acts act ih =>
    simp only [Service.exec, List.foldl_append, List.foldl_cons, List.foldl_nil]
    cases act with
    | send a => exact ih.send capacity a
    | leave => exact ih.leave
    | close => exact ih.close
    | timeout => exact ih.timeout
    | step pick => exact ih.step pick

end ShadowProxy.WorkQueue
