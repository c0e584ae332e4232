import ShadowProxy.LogFlush

/-! `Close` of the query logger comes to its end. -/
namespace ShadowProxy.LogFlush
open EventHistory SliceBuffer

variable {α : Type*}

/-- `Close` has been called: the context is cancelled, and `flushLoop` is not blocked. -/
structure Stopping (s : Logger α) : Prop where
  called : s.closing ≠ .notCalled
  cancelled : s.cancelled = true
  awake : s.stage ≠ .parked

/-- How many steps are left at most. An entry in the channel costs five: it is received and appended,
and may need a flush of its own. -/
def Logger.rank (s : Logger α) : ℕ :=
  let pending := 5 * s.channel.length + 3 * s.tick.toNat
  match s.stage with
  | .received _ => pending + s.batch.len + 9
  | .ticked => pending + s.batch.len + 8
  | .flushing read => pending + (s.batch.len - read.length) + 7
  | .drained _ => pending + s.batch.len + 7
  | .selecting => pending + s.batch.len + 6
  | .draining => pending + s.batch.len + 5
  | .finishing => pending + s.batch.len + 4
  | .finalFlush read => pending + (s.batch.len - read.length) + 3
  | .exited => if s.closing = .returned then 0 else 1
  | .parked => 0

/-- A step of `flushLoop` or of `Close`. -/
def Action.own : Action α → Bool
  | .close | .loop _ => true
  | .log _ | .count _ | .tick => false

def Action.cost : Action α → ℕ
  | .log _ => 5
  | .tick => 3
  | .count _ | .close | .loop _ => 0

lemma Logger.rank_le (s : Logger α) : s.rank ≤ 5 * s.channel.length + s.batch.len + 12 := by
  have ht : s.tick.toNat ≤ 1 := Bool.toNat_le _
  unfold rank
  dsimp only
  split
  all_goals first | omega | (split_ifs <;> omega)

section Rank
variable {cfg : Config} {s : Logger α}

lemma select_rank (hs : Stopping s) (h : s.stage = .selecting) (pick : Pick) :
    s.select pick = s ∨ (s.select pick).rank < s.rank := by
  cases pick with
  | entry =>
    dsimp only [Logger.select]
    rcases hc : s.channel with _ | ⟨entry, rest⟩
    · exact .inl rfl
    · refine .inr ?_
      simp only [Logger.rank, h, hc, List.length_cons]
      omega
  | tick =>
    dsimp only [Logger.select]
    split_ifs with ht
    · refine .inr ?_
      simp only [Logger.rank, h, ht, Bool.toNat_true, Bool.toNat_false]
      omega
    · exact .inl rfl
  | done =>
    refine .inr ?_
    simp [Logger.select, hs.cancelled, Logger.rank, h]
  | block => exact .inl (by simp [Logger.select, hs.cancelled])

lemma close_rank (hs : Stopping s) : s.close = s ∨ s.close.rank < s.rank := by
  unfold Logger.close
  cases hc : s.closing with
  | notCalled => exact absurd hc hs.called
  | waiting =>
    by_cases hx : s.stage = .exited
    · exact .inr (by simp [hx, Logger.rank, hc])
    · exact .inl (by simp)
  | returned => exact .inl rfl

variable [Inhabited α]

lemma step_rank (hs : Stopping s) (pick : Pick) :
    s.step cfg pick = s ∨ (s.step cfg pick).rank < s.rank := by
  unfold Logger.step
  cases h : s.stage with
  | selecting => exact select_rank hs h pick
  | parked => exact absurd h hs.awake
  | received entry =>
    refine .inr ?_
    dsimp only
    split_ifs
    · simp only [Logger.rank, h, Slice.len_append, List.length_nil]
      omega
    · simp only [Logger.rank, h, Slice.len_append]
      omega
  | ticked =>
    refine .inr ?_
    dsimp only
    split_ifs <;> simp [Logger.rank, h]
  | flushing read =>
    refine .inr ?_
    dsimp only
    rcases hget : s.batch.get? read.length with _ | entry
    · simp only [Logger.rank, h, Slice.clear]
      omega
    · rw [Slice.get?_eq] at hget
      have hlt := (List.getElem?_eq_some_iff.mp hget).1
      rw [Slice.length_toList] at hlt
      simp only [Logger.rank, h, List.length_append, List.length_singleton]
      omega
  | draining =>
    refine .inr ?_
    dsimp only
    rcases hc : s.channel with _ | ⟨entry, rest⟩
    · simp [Logger.rank, h, hc]
    · simp only [Logger.rank, h, hc, List.length_cons]
      omega
  | drained entry =>
    refine .inr ?_
    simp only [Logger.rank, h, Slice.len_append]
    omega
  | finishing =>
    refine .inr ?_
    dsimp only
    split_ifs
    · simp [Logger.rank, h]
    · simp only [Logger.rank, h]
      split_ifs <;> omega
  | finalFlush read =>
    refine .inr ?_
    dsimp only
    rcases hget : s.batch.get? read.length with _ | entry
    · simp only [Logger.rank, h]
      split_ifs <;> omega
    · rw [Slice.get?_eq] at hget
      have hlt := (List.getElem?_eq_some_iff.mp hget).1
      rw [Slice.length_toList] at hlt
      simp only [Logger.rank, h, List.length_append, List.length_singleton]
      omega
  | exited => exact .inl rfl

/-- Steps of `flushLoop` and of `Close` lower the rank, calls from outside raise it by what they cost. -/
lemma act_rank (hs : Stopping s) (a : Action α) (hbusy : a.own = true → s.act cfg a ≠ s) :
    (s.act cfg a).rank + a.own.toNat ≤ s.rank + a.cost := by
  cases a with
  | log entry =>
    dsimp only [Logger.act]
    rcases log_cases cfg s entry with ⟨hp, -⟩ | ⟨-, -, heq⟩ | ⟨-, -, heq⟩
    · exact absurd hp hs.awake
    · rw [heq]
      cases h : s.stage <;>
        simp only [Logger.rank, Logger.accept, h, List.length_append, List.length_singleton, Action.own,
          Action.cost, Bool.toNat_false] <;> omega
    · rw [heq]
      exact Nat.le_add_right _ _
  | count i =>
    dsimp only [Logger.act, Logger.count]
    split <;> exact Nat.le_refl _
  | tick =>
    dsimp only [Logger.act]
    rcases fire_cases s with ⟨hp, -⟩ | ⟨-, heq⟩
    · exact absurd hp hs.awake
    · rw [heq]
      cases h : s.stage <;>
        simp only [Logger.rank, h, Action.own, Action.cost, Bool.toNat_true, Bool.toNat_false] <;> omega
  | close => exact (close_rank hs).resolve_left (hbusy rfl)
  | loop pick => exact (step_rank hs pick).resolve_left (hbusy rfl)

end Rank

section Stopping
variable {cfg : Config} {s s' : Logger α}

lemma select_awake (hc : s.cancelled = true) (h : s.stage ≠ .parked) (pick : Pick) :
    (s.select pick).stage ≠ .parked := by
  cases pick with
  | entry =>
    dsimp only [Logger.select]
    split
    · exact h
    · simp
  | tick =>
    dsimp only [Logger.select]
    split_ifs
    · simp
    · exact h
  | done => simp [Logger.select, hc]
  | block => simpa [Logger.select, hc] using h

lemma close_stopping (h : s.closing ≠ .notCalled → Stopping s) : Stopping s.close := by
  unfold Logger.close
  cases hc : s.closing with
  | notCalled =>
    by_cases hp : s.stage = .parked
    · exact ⟨by simp [hp], by simp [hp], by simp [hp]⟩
    · exact ⟨by simp, by simp, by simpa using hp⟩
  | waiting =>
    have hs := h (by simp [hc])
    by_cases hx : s.stage = .exited
    · exact ⟨by simp [hx], by simpa [hx] using hs.cancelled, by simp [hx]⟩
    · simpa using hs
  | returned => exact h (by simp [hc])

variable [Inhabited α]

lemma steps_closing (h : Steps cfg s s') : s'.closing = s.closing ∧ s'.cancelled = s.cancelled := by
  cases h <;> exact ⟨rfl, rfl⟩

lemma step_awake (hc : s.cancelled = true) (h : s.stage ≠ .parked) (pick : Pick) :
    (s.step cfg pick).stage ≠ .parked := by
  by_cases hs : s.stage = .selecting
  · simpa only [Logger.step, hs] using select_awake hc h pick
  · have hsteps := step_steps cfg pick s
    revert hsteps
    generalize s.step cfg pick = s'
    intro hsteps
    cases hsteps with
    | idle => exact h
    | park hp => exact absurd hp hs
    | _ => simp

lemma act_closing (cfg : Config) (s : Logger α) {a : Action α} (ha : a ≠ .close) :
    (s.act cfg a).closing = s.closing ∧ (s.act cfg a).cancelled = s.cancelled := by
  cases a with
  | log entry =>
    dsimp only [Logger.act]
    rcases log_cases cfg s entry with ⟨-, heq⟩ | ⟨-, -, heq⟩ | ⟨-, -, heq⟩ <;> rw [heq] <;> exact ⟨rfl, rfl⟩
  | count i =>
    dsimp only [Logger.act, Logger.count]
    split <;> exact ⟨rfl, rfl⟩
  | tick =>
    dsimp only [Logger.act]
    rcases fire_cases s with ⟨-, heq⟩ | ⟨-, heq⟩ <;> rw [heq] <;> exact ⟨rfl, rfl⟩
  | close => exact absurd rfl ha
  | loop pick => exact steps_closing (step_steps cfg pick s)

lemma act_awake (hc : s.cancelled = true) (h : s.stage ≠ .parked) {a : Action α} (ha : a ≠ .close) :
    (s.act cfg a).stage ≠ .parked := by
  cases a with
  | log entry =>
    dsimp only [Logger.act]
    rcases log_cases cfg s entry with ⟨hp, -⟩ | ⟨-, -, heq⟩ | ⟨-, -, heq⟩
    · exact absurd hp h
    · rw [heq]
      exact h
    · rw [heq]
      exact h
  | count i =>
    dsimp only [Logger.act, Logger.count]
    split <;> exact h
  | tick =>
    dsimp only [Logger.act]
    rcases fire_cases s with ⟨hp, -⟩ | ⟨-, heq⟩
    · exact absurd hp h
    · rw [heq]
      exact h
  | close => exact absurd rfl ha
  | loop pick => exact step_awake hc h pick

lemma Stopping.act (hs : Stopping s) (a : Action α) : Stopping (s.act cfg a) := by
  by_cases ha : a = .close
  · rw [ha]
    exact close_stopping fun _ => hs
  · obtain ⟨hclosing, hcancelled⟩ := act_closing cfg s ha
    exact ⟨hclosing ▸ hs.called, hcancelled ▸ hs.cancelled, act_awake hs.cancelled hs.awake ha⟩

/-- In every run, once `Close` has been called `flushLoop` is on its way. -/
theorem exec_stopping (cfg : Config) (acts : List (Action α))
    (h : ((Logger.start cfg).exec cfg acts).closing ≠ .notCalled) :
    Stopping ((Logger.start cfg).exec cfg acts) := by
  induction acts using List.reverseRecOn with
  | nil => exact absurd rfl h
  | append_singleton acts a ih =>
    rw [Logger.exec_concat] at h ⊢
    by_cases ha : a = .close
    · rw [ha]
      exact close_stopping ih
    · exact (ih ((act_closing cfg _ ha).1 ▸ h)).act a

lemma step_stage_ne (hs : Stopping s) (hx : s.stage ≠ .exited) : (s.step cfg .done).stage ≠ s.stage := by
  unfold Logger.step
  cases h : s.stage with
  | selecting => simp [Logger.select, hs.cancelled]
  | parked => exact absurd h hs.awake
  | received entry =>
    dsimp only
    split_ifs <;> simp
  | ticked =>
    dsimp only
    split_ifs <;> simp
  | flushing read =>
    dsimp only
    split <;> simp
  | draining =>
    dsimp only
    split <;> simp
  | drained entry => simp
  | finishing =>
    dsimp only
    split_ifs <;> simp
  | finalFlush read =>
    dsimp only
    split <;> simp
  | exited => exact absurd h hx

lemma Stopping.exists_act (hs : Stopping s) (cfg : Config) :
    s.closing = .returned ∨ ∃ a : Action α, a.own = true ∧ s.act cfg a ≠ s := by
  by_cases hx : s.stage = .exited
  · cases hc : s.closing with
    | notCalled => exact absurd hc hs.called
    | waiting =>
      refine .inr ⟨.close, rfl, fun heq => ?_⟩
      have hclosing := congrArg Logger.closing heq
      simp [Logger.act, Logger.close, hc, hx] at hclosing
    | returned => exact .inl rfl
  · exact .inr ⟨.loop .done, rfl, fun heq => step_stage_ne hs hx (congrArg Logger.stage heq)⟩

/-- Once `Close` has been called it returns, whatever the order of the steps: apart from what further
calls of `Log` and ticks cost, there are only so many steps of `flushLoop` and of `Close` that do
anything, and one is always possible until `Close` has returned. A call of `flush` is taken to return,
which the deadline of its upload sees to. -/
theorem logger_close_returns (cfg : Config) (acts more : List (Action α))
    (hcalled : ((Logger.start cfg).exec cfg acts).closing ≠ .notCalled)
    (hbusy : Busy (Logger.act cfg) Action.own ((Logger.start cfg).exec cfg acts) more) :
    let s := (Logger.start cfg).exec cfg acts
    let s' := (Logger.start cfg).exec cfg (acts ++ more)
    more.countP Action.own ≤ 5 * s.channel.length + s.batch.len + 12 + (more.map Action.cost).sum ∧
      (s'.closing = .returned ∨ ∃ a : Action α, a.own = true ∧ s'.act cfg a ≠ s') := by
  intro s s'
  have hs : Stopping s := exec_stopping cfg acts hcalled
  obtain ⟨hlast, hle⟩ := hbusy.count_le Stopping Logger.rank Action.cost
    (fun _ a hs ha => ⟨hs.act a, act_rank hs a ha⟩) hs
  have hs' : s' = more.foldl (Logger.act cfg) s := List.foldl_append
  have hrank := s.rank_le
  rw [hs']
  exact ⟨by omega, hlast.exists_act cfg⟩

end Stopping

/-- A late call of `Log`, all that `flushLoop` does after `Close` was called, and the return of `Close`. -/
def shutdownSteps : List (Action ℕ) := .log 4 :: List.replicate 16 (.loop .done) ++ [.close]

theorem logger_close_returns_sample :
    let acts := [.log 1, .log 2, .log 3, .close]
    let s := (Logger.start ⟨2, 8⟩).exec ⟨2, 8⟩ acts
    let s' := (Logger.start ⟨2, 8⟩).exec ⟨2, 8⟩ (acts ++ shutdownSteps)
    s'.closing = .returned ∧ s'.handed = [1, 2, 3, 4] ∧
      shutdownSteps.countP Action.own ≤
        5 * s.channel.length + s.batch.len + 12 + (shutdownSteps.map Action.cost).sum ∧
      (s'.closing = .returned ∨ ∃ a : Action ℕ, a.own = true ∧ s'.act ⟨2, 8⟩ a ≠ s') := by
  refine ⟨by decide +kernel, by decide +kernel, ?_⟩
  exact logger_close_returns ⟨2, 8⟩ [.log 1, .log 2, .log 3, .close] shutdownSteps (by decide)
    (Busy.of_image id _ (by decide +kernel))

end ShadowProxy.LogFlush
