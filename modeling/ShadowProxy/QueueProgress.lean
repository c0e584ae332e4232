import ShadowProxy.WorkQueue

/-! How a service comes to its end. The queue stays within its capacity, a close is forced only after
the drain, and every step that does anything brings the worker or its owner nearer to the end. -/
namespace ShadowProxy.WorkQueue

variable {α σ : Type*}

structure Bounds (capacity : ℕ) (s : Service α σ) : Prop where
  queue : s.worker.queue.length ≤ capacity
  force : s.worker.force = true → s.phase = .joining ∨ s.phase = .closed

section Bounds
variable {work : α → σ → σ} {w w' : Worker α σ} {s : Service α σ} {capacity : ℕ}

lemma Worker.Steps.force (h : Worker.Steps work w w') : w'.force = w.force := by
  cases h <;> rfl

lemma Worker.Steps.state (h : Worker.Steps work w w') :
    w'.state = w.state ∨ ∃ a, w'.state = work a w.state := by
  cases h with
  | finish => exact .inr ⟨_, rfl⟩
  | _ => exact .inl rfl

lemma Worker.Steps.queue_length (h : Worker.Steps work w w') : w'.queue.length ≤ w.queue.length := by
  cases h with
  | take _ hq => simp [hq]
  | _ => exact Nat.le_refl _

@[simp] lemma Service.send_force (capacity : ℕ) (a : α) (s : Service α σ) :
    (s.send capacity a).2.worker.force = s.worker.force := by
  unfold Service.send
  rcases s.worker.send_cases capacity a with ⟨-, h⟩ | ⟨-, -, h⟩ | ⟨-, -, -, h⟩ | ⟨-, -, -, h⟩ <;> simp [h]

@[simp] lemma Service.leave_force (s : Service α σ) : s.leave.worker.force = s.worker.force := by
  unfold Service.leave
  split_ifs <;> rfl

@[simp] lemma Service.close_force (s : Service α σ) : s.close.worker.force = s.worker.force := by
  unfold Service.close
  cases s.phase <;> cases s.worker.stage <;> rfl

@[simp] lemma Service.step_force (work : α → σ → σ) (pick : Pick) (s : Service α σ) :
    (s.step work pick).worker.force = s.worker.force := (s.worker.step_steps work pick).force

lemma bounds_start (capacity : ℕ) (state : σ) : Bounds capacity (.start state : Service α σ) :=
  ⟨Nat.zero_le _, by simp [Service.start]⟩

lemma Bounds.send (h : Bounds capacity s) (a : α) : Bounds capacity (s.send capacity a).2 := by
  unfold Service.send
  rcases s.worker.send_cases capacity a with ⟨-, hs⟩ | ⟨-, -, hs⟩ | ⟨-, -, hl, hs⟩ | ⟨-, -, -, hs⟩ <;> rw [hs]
  · exact h
  · exact ⟨h.queue, h.force⟩
  · exact ⟨by simpa using Nat.succ_le_of_lt hl, h.force⟩
  · exact h

lemma Bounds.leave (h : Bounds capacity s) : Bounds capacity s.leave := by
  unfold Service.leave
  split_ifs with hp
  · exact ⟨h.queue, fun hf => by simpa [hp] using h.force hf⟩
  · exact h

lemma Bounds.close (h : Bounds capacity s) : Bounds capacity s.close := by
  unfold Service.close
  cases hp : s.phase with
  | leaving => exact ⟨h.queue, fun hf => by simpa [hp] using h.force hf⟩
  | draining =>
    cases s.worker.stage with
    | stopped => exact ⟨h.queue, fun _ => .inl rfl⟩
    | _ => exact h
  | joining =>
    cases s.worker.stage with
    | stopped => exact ⟨h.queue, fun _ => .inr rfl⟩
    | _ => exact h
  | serving => exact h
  | closed => exact h

lemma Bounds.timeout (h : Bounds capacity s) : Bounds capacity s.timeout := by
  unfold Service.timeout
  split_ifs
  · exact ⟨h.queue, fun _ => .inl rfl⟩
  · exact h

lemma Bounds.step (h : Bounds capacity s) (work : α → σ → σ) (pick : Pick) :
    Bounds capacity (s.step work pick) := by
  have hsteps := s.worker.step_steps work pick
  exact ⟨Nat.le_trans hsteps.queue_length h.queue, fun hf => h.force (hsteps.force ▸ hf)⟩

end Bounds

def Service.isOpen (s : Service α σ) : Bool :=
  match s.phase with
  | .serving | .leaving => true
  | .draining | .joining | .closed => false

/-- Everything the owner of a worker does to it in a step; it closes only when it is `done`. -/
inductive Service.Tended (capacity : ℕ) (done : Prop) (s : Service α σ) : Service α σ → Prop
  | idle : Tended capacity done s s
  | leaves : Tended capacity done s s.leave
  | sends (a : α) : Tended capacity done s (s.send capacity a).2
  | closes : done → Tended capacity done s s.close

section Tended
variable {capacity : ℕ} {done : Prop} {s s' : Service α σ}

lemma Service.Tended.bounds (h : s.Tended capacity done s') (hb : Bounds capacity s) : Bounds capacity s' := by
  cases h with
  | idle => exact hb
  | leaves => exact hb.leave
  | sends a => exact hb.send a
  | closes => exact hb.close

lemma Service.Tended.force (h : s.Tended capacity done s') : s'.worker.force = s.worker.force := by
  cases h <;> simp

lemma Service.Tended.state (h : s.Tended capacity done s') : s'.worker.state = s.worker.state := by
  cases h with
  | idle => rfl
  | leaves =>
    unfold Service.leave
    split_ifs <;> rfl
  | sends a =>
    unfold Service.send
    rcases s.worker.send_cases capacity a with ⟨-, h⟩ | ⟨-, -, h⟩ | ⟨-, -, -, h⟩ | ⟨-, -, -, h⟩ <;> simp [h]
  | closes =>
    unfold Service.close
    cases s.phase <;> cases s.worker.stage <;> rfl

lemma Service.Tended.working (h : s.Tended capacity done s') {mode : Mode} {a : α}
    (hw : s.worker.stage = .working mode a) (hp : s.phase ≠ .closed) :
    s'.worker.stage = .working mode a ∧ s'.phase ≠ .closed := by
  cases h with
  | idle => exact ⟨hw, hp⟩
  | leaves =>
    unfold Service.leave
    split_ifs
    · exact ⟨hw, by simp⟩
    · exact ⟨hw, hp⟩
  | sends b =>
    unfold Service.send
    rcases s.worker.send_cases capacity b with ⟨-, h⟩ | ⟨-, hpark, -⟩ | ⟨-, -, -, h⟩ | ⟨-, -, -, h⟩
    · exact ⟨by simp [h, hw], hp⟩
    · simp [hw] at hpark
    · exact ⟨by simp [h, hw], hp⟩
    · exact ⟨by simp [h, hw], hp⟩
  | closes =>
    unfold Service.close
    cases hphase : s.phase with
    | closed => exact absurd hphase hp
    | _ => simp [hw, hphase]

/-- The timer does not either: `force` is looked at between items only. -/
lemma Service.timeout_working {mode : Mode} {a : α} (hw : s.worker.stage = .working mode a)
    (hp : s.phase ≠ .closed) : s.timeout.worker.stage = .working mode a ∧ s.timeout.phase ≠ .closed := by
  unfold Service.timeout
  split_ifs
  · exact ⟨hw, by simp⟩
  · exact ⟨hw, hp⟩

lemma Service.Tended.isOpen (h : s.Tended capacity done s') (hserving : s.phase = .serving → ¬ done)
    (hstays : ¬ (done ∧ s.phase = .leaving)) : s'.isOpen = s.isOpen := by
  cases h with
  | idle => rfl
  | leaves =>
    simp only [Service.isOpen, Service.leave]
    split_ifs with hp <;> simp [hp]
  | sends a => simp [Service.isOpen]
  | closes hdone =>
    simp only [Service.isOpen, Service.close]
    cases hp : s.phase with
    | serving => exact absurd hdone (hserving hp)
    | leaving => exact absurd ⟨hdone, hp⟩ hstays
    | closed => simp [hp]
    | draining => cases s.worker.stage <;> simp [hp]
    | joining => cases s.worker.stage <;> simp [hp]

end Tended

def Mode.rank : Mode → ℕ
  | .serving => 3
  | .draining => 1

def Stage.rank : Stage α → ℕ
  | .selecting mode => mode.rank
  | .parked => 2
  | .holding mode _ => mode.rank + 2
  | .working mode _ => mode.rank + 1
  | .stopped => 0

def Phase.rank : Phase → ℕ
  | .serving => 4
  | .leaving => 3
  | .draining => 2
  | .joining => 1
  | .closed => 0

/-- An item in the queue is taken, begun and finished; one more for a worker that was blocked. -/
def Worker.rank (w : Worker α σ) : ℕ := 4 * w.queue.length + w.stage.rank

def Service.rank (s : Service α σ) : ℕ := s.worker.rank + s.phase.rank

/-- A step of the owner that has left, or of the worker. -/
inductive Move
  | close
  | timeout
  | step (pick : Pick)

def Service.move (work : α → σ → σ) (s : Service α σ) : Move → Service α σ
  | .close => s.close
  | .timeout => s.timeout
  | .step pick => s.step work pick

section Progress
variable {work : α → σ → σ} {state : σ} {w w' : Worker α σ} {s : Service α σ}

lemma Stage.rank_le (stage : Stage α) : stage.rank ≤ 5 := by
  have hmode (mode : Mode) : mode.rank ≤ 3 := by cases mode <;> decide
  cases stage with
  | selecting mode => exact Nat.le_trans (hmode mode) (by decide)
  | parked => simp [Stage.rank]
  | holding mode a => exact Nat.add_le_add_right (hmode mode) 2
  | working mode a => exact Nat.add_le_add (hmode mode) (by decide : 1 ≤ 2)
  | stopped => exact Nat.zero_le _

lemma Stage.Waits.rank {stage : Stage α} {mode : Mode} (h : stage.Waits mode) :
    0 < stage.rank ∧ mode.rank ≤ stage.rank + 1 := by
  obtain rfl | ⟨rfl, rfl⟩ := h
  · cases mode <;> simp [Stage.rank, Mode.rank]
  · simp [Stage.rank, Mode.rank]

lemma Worker.Steps.rank_lt (h : Worker.Steps work w w') : w' = w ∨ w'.rank < w.rank := by
  cases h with
  | stay => exact .inl rfl
  | exit hw _ =>
    have hrank := hw.rank.1
    exact .inr (by simpa [Worker.rank, Stage.rank] using hrank)
  | drain hw _ =>
    refine .inr ?_
    obtain hs | ⟨hs, -⟩ := hw <;> simp [Worker.rank, Stage.rank, Mode.rank, hs]
  | park hw _ =>
    obtain hs | ⟨hs, -⟩ := hw
    · exact .inr (by simp [Worker.rank, Stage.rank, Mode.rank, hs])
    · refine .inl ?_
      rw [← hs]
  | @take mode _ rest hw hq =>
    have hrank := hw.rank.2
    refine .inr ?_
    change 4 * rest.length + (mode.rank + 2) < 4 * w.queue.length + w.stage.rank
    rw [hq, List.length_cons]
    omega
  | abandon hs _ => exact .inr (by simp [Worker.rank, Stage.rank, hs])
  | begin hs _ => exact .inr (by simp [Worker.rank, Stage.rank, hs])
  | finish hs => exact .inr (by simp [Worker.rank, Stage.rank, hs])

lemma Service.move_rank (work : α → σ → σ) (s : Service α σ) (m : Move) :
    s.move work m = s ∨ (s.move work m).rank < s.rank := by
  cases m with
  | close =>
    unfold Service.move Service.close
    cases hp : s.phase with
    | leaving => exact .inr (by simp [Service.rank, Worker.rank, Phase.rank, hp])
    | draining =>
      cases hs : s.worker.stage with
      | stopped => exact .inr (by simp [Service.rank, Phase.rank, hp])
      | _ => exact .inl rfl
    | joining =>
      cases hs : s.worker.stage with
      | stopped => exact .inr (by simp [Service.rank, Phase.rank, hp])
      | _ => exact .inl rfl
    | serving => exact .inl rfl
    | closed => exact .inl rfl
  | timeout =>
    dsimp only [Service.move, Service.timeout]
    split_ifs with hp
    · exact .inr (by simp [Service.rank, Worker.rank, Phase.rank, hp])
    · exact .inl rfl
  | step pick =>
    obtain hsame | hlt := (s.worker.step_steps work pick).rank_lt
    · left
      change { s with worker := s.worker.step work pick } = s
      rw [hsame]
    · exact .inr (Nat.add_lt_add_right hlt _)

lemma Worker.exists_pick (work : α → σ → σ) (hd : w.drain = true) (hs : w.stage ≠ .stopped) :
    ∃ pick, w.step work pick ≠ w := by
  have hchange {stage : Stage α} {v : Worker α σ} (hw : w.stage = stage) (hv : v.stage ≠ stage) : v ≠ w :=
    fun heq => hv (heq ▸ hw)
  cases hst : w.stage with
  | selecting mode =>
    cases mode with
    | serving => exact ⟨.drain, hchange hst (by simp [Worker.step, hst, Worker.select, hd])⟩
    | draining =>
      by_cases hf : w.force = true
      · exact ⟨.close, hchange hst (by simp [Worker.step, hst, Worker.select, hf])⟩
      · cases hq : w.queue with
        | nil => exact ⟨.idle, hchange hst (by simp [Worker.step, hst, Worker.select, hq, hf])⟩
        | cons a rest => exact ⟨.queue, hchange hst (by simp [Worker.step, hst, Worker.select, hq])⟩
  | parked => exact ⟨.drain, hchange hst (by simp [Worker.step, hst, Worker.select, hd])⟩
  | holding mode a =>
    refine ⟨.idle, hchange hst ?_⟩
    simp only [Worker.step, hst]
    split_ifs <;> simp
  | working mode a => exact ⟨.idle, hchange hst (by simp [Worker.step, hst])⟩
  | stopped => exact absurd hst hs

lemma Inv.exists_move (h : Inv work state s) (hleft : s.phase ≠ .serving) (hopen : s.phase ≠ .closed) :
    ∃ m, s.move work m ≠ s := by
  have hphase {p : Phase} {t : Service α σ} (hp : s.phase = p) (ht : t.phase ≠ p) : t ≠ s :=
    fun heq => ht (heq ▸ hp)
  have hworker (hd : s.worker.drain = true) (hs : s.worker.stage ≠ .stopped) : ∃ m, s.move work m ≠ s := by
    obtain ⟨pick, hpick⟩ := s.worker.exists_pick work hd hs
    exact ⟨.step pick, fun heq => hpick (congrArg Service.worker heq)⟩
  have hdrain := h.draining
  cases hp : s.phase with
  | serving => exact absurd hp hleft
  | leaving => exact ⟨.close, hphase hp (by simp [Service.move, Service.close, hp])⟩
  | draining =>
    by_cases hs : s.worker.stage = .stopped
    · exact ⟨.close, hphase hp (by simp [Service.move, Service.close, hp, hs])⟩
    · exact hworker (hdrain.mpr (by simp [hp])) hs
  | joining =>
    by_cases hs : s.worker.stage = .stopped
    · exact ⟨.close, hphase hp (by simp [Service.move, Service.close, hp, hs])⟩
    · exact hworker (hdrain.mpr (by simp [hp])) hs
  | closed => exact absurd hp hopen

lemma Bounds.rank_le {capacity : ℕ} (h : Bounds capacity s) (hleft : s.phase ≠ .serving) :
    s.rank ≤ 4 * capacity + 8 := by
  have hqueue := h.queue
  have hstage := s.worker.stage.rank_le
  have hphase : s.phase.rank ≤ 3 := by
    cases hp : s.phase with
    | serving => exact absurd hp hleft
    | _ => simp [Phase.rank]
  unfold Service.rank Worker.rank
  omega

end Progress

end ShadowProxy.WorkQueue
