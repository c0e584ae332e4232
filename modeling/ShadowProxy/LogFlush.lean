import ShadowProxy.EventHistory
import ShadowProxy.QueryLog
import ShadowProxy.SliceBuffer

/-! The logger behind the query log: callers of `Log` put entries into a channel, `flushLoop` takes
them out, collects them in a batch and hands the batch to `flush`, and `Close` makes it drain the
channel and return. All go on at their own pace. The channel itself is never closed. -/
namespace ShadowProxy.LogFlush
open EventHistory SliceBuffer QueryLog

structure Config where
  batchSize : ℕ
  bufferSize : ℕ

/-- Where `flushLoop` stands: before its `select` or blocked in it; with an entry it has received or a
tick; in a call of `flush` that has read some entries of the batch; in the loop that drains the
channel, without or with an entry; behind that loop; in the last call of `flush`; or it has
returned. -/
inductive Stage (α : Type*)
  | selecting
  | parked
  | received (entry : α)
  | ticked
  | flushing (read : List α)
  | draining
  | drained (entry : α)
  | finishing
  | finalFlush (read : List α)
  | exited
  deriving DecidableEq

/-- A call of `flush` that has returned; `shutdown` marks the one after the drain. -/
structure Flush (α : Type*) where
  entries : List α
  shutdown : Bool
  deriving DecidableEq

/-- How far `Close` is: not called, waiting for `flushLoop`, returned. -/
inductive Closing
  | notCalled
  | waiting
  | returned
  deriving DecidableEq

/-- `accepted` and `dropped` are the entries of the `Log` calls in the order of these; of the accepted
ones, `counted` are those whose caller has counted them as queued. -/
structure Logger (α : Type*) where
  channel : List α
  tick : Bool
  cancelled : Bool
  stage : Stage α
  batch : Slice α
  flushes : List (Flush α)
  closing : Closing
  accepted : List α
  dropped : List α
  uncounted : List α
  counted : List α
  deriving DecidableEq

/-- The ready case that a `select` takes, or none. -/
inductive Pick
  | entry
  | tick
  | done
  | block
  deriving DecidableEq

/-- A call of `Log`; one of the callers counts its entry; the ticker fires; a step of `Close` or of
`flushLoop`. -/
inductive Action (α : Type*)
  | log (entry : α)
  | count (i : ℕ)
  | tick
  | close
  | loop (pick : Pick)
  deriving DecidableEq

variable {α : Type*}

namespace Logger

/-- The call of `Log` has sent its entry, and has still to count it. -/
def accept (s : Logger α) (entry : α) : Logger α :=
  { s with accepted := s.accepted ++ [entry], uncounted := s.uncounted ++ [entry] }

/-- The entry goes to `flushLoop` if that is blocked, into the channel if there is room, and is dropped
otherwise. -/
def log (cfg : Config) (entry : α) (s : Logger α) : Logger α :=
  match s.stage with
  | .parked => { s.accept entry with stage := .received entry }
  | _ =>
    if s.channel.length < cfg.bufferSize then
      { s.accept entry with channel := s.channel ++ [entry] }
    else { s with dropped := s.dropped ++ [entry] }

def count (i : ℕ) (s : Logger α) : Logger α :=
  match s.uncounted[i]? with
  | none => s
  | some entry => { s with uncounted := s.uncounted.eraseIdx i, counted := s.counted ++ [entry] }

/-- A tick wakes a blocked `select`, and is kept otherwise. -/
def fire (s : Logger α) : Logger α :=
  match s.stage with
  | .parked => { s with stage := .ticked }
  | _ => { s with tick := true }

/-- `Close` cancels the context, which wakes a blocked `select`, and waits. -/
def close (s : Logger α) : Logger α :=
  match s.closing with
  | .notCalled =>
    let s := { s with cancelled := true, closing := .waiting }
    match s.stage with
    | .parked => { s with stage := .draining }
    | _ => s
  | .waiting =>
    match s.stage with
    | .exited => { s with closing := .returned }
    | _ => s
  | .returned => s

def select (s : Logger α) : Pick → Logger α
  | .entry =>
    match s.channel with
    | [] => s
    | entry :: rest => { s with channel := rest, stage := .received entry }
  | .tick => if s.tick then { s with tick := false, stage := .ticked } else s
  | .done => if s.cancelled then { s with stage := .draining } else s
  | .block =>
    if s.channel.isEmpty ∧ s.tick = false ∧ s.cancelled = false then { s with stage := .parked } else s

/-- The entries that were handed to `flush`. -/
def handed (s : Logger α) : List α := s.flushes.flatMap Flush.entries

/-- The current batch, and the entry that is about to be appended to it. -/
def current (s : Logger α) : List α :=
  match s.stage with
  | .received entry | .drained entry => s.batch.toList ++ [entry]
  | .exited => []
  | .selecting | .parked | .ticked | .flushing _ | .draining | .finishing | .finalFlush _ =>
    s.batch.toList

variable [Inhabited α]

/-- A step of `flushLoop`. -/
def step (cfg : Config) (pick : Pick) (s : Logger α) : Logger α :=
  match s.stage with
  | .selecting => s.select pick
  | .parked => s
  | .received entry =>
    let batch := s.batch.append entry
    { s with batch := batch, stage := if cfg.batchSize ≤ batch.len then .flushing [] else .selecting }
  | .ticked => { s with stage := if 0 < s.batch.len then .flushing [] else .selecting }
  | .flushing read =>
    match s.batch.get? read.length with
    | some entry => { s with stage := .flushing (read ++ [entry]) }
    | none =>
      { s with flushes := s.flushes ++ [⟨read, false⟩], batch := s.batch.clear, stage := .selecting }
  | .draining =>
    match s.channel with
    | [] => { s with stage := .finishing }
    | entry :: rest => { s with channel := rest, stage := .drained entry }
  | .drained entry => { s with batch := s.batch.append entry, stage := .draining }
  | .finishing => { s with stage := if 0 < s.batch.len then .finalFlush [] else .exited }
  | .finalFlush read =>
    match s.batch.get? read.length with
    | some entry => { s with stage := .finalFlush (read ++ [entry]) }
    | none => { s with flushes := s.flushes ++ [⟨read, true⟩], stage := .exited }
  | .exited => s

def start (cfg : Config) : Logger α :=
  ⟨[], false, false, .selecting, .make cfg.batchSize, [], .notCalled, [], [], [], []⟩

def act (cfg : Config) (s : Logger α) : Action α → Logger α
  | .log entry => s.log cfg entry
  | .count i => s.count i
  | .tick => s.fire
  | .close => s.close
  | .loop pick => s.step cfg pick

def exec (cfg : Config) (acts : List (Action α)) (s : Logger α) : Logger α :=
  acts.foldl (act cfg) s

@[simp] lemma exec_nil (cfg : Config) (s : Logger α) : s.exec cfg [] = s := rfl

@[simp] lemma exec_concat (cfg : Config) (acts : List (Action α)) (a : Action α) (s : Logger α) :
    s.exec cfg (acts ++ [a]) = (s.exec cfg acts).act cfg a := by
  simp [exec]

end Logger

/-- Everything a step of `flushLoop` can do. -/
inductive Steps [Inhabited α] (cfg : Config) (s : Logger α) : Logger α → Prop
  | idle : Steps cfg s s
  | receive {entry : α} {rest : List α} : s.stage = .selecting → s.channel = entry :: rest →
      Steps cfg s { s with channel := rest, stage := .received entry }
  | tick : s.stage = .selecting → Steps cfg s { s with tick := false, stage := .ticked }
  | cancel : s.stage = .selecting → Steps cfg s { s with stage := .draining }
  | park : s.stage = .selecting → s.channel = [] → Steps cfg s { s with stage := .parked }
  | collect {entry : α} : s.stage = .received entry → s.batch.len + 1 < cfg.batchSize →
      Steps cfg s { s with batch := s.batch.append entry, stage := .selecting }
  | collectFull {entry : α} : s.stage = .received entry → cfg.batchSize ≤ s.batch.len + 1 →
      Steps cfg s { s with batch := s.batch.append entry, stage := .flushing [] }
  | flush : s.stage = .ticked → 0 < s.batch.len → Steps cfg s { s with stage := .flushing [] }
  | noFlush : s.stage = .ticked → Steps cfg s { s with stage := .selecting }
  | read {read : List α} {entry : α} : s.stage = .flushing read →
      s.batch.toList[read.length]? = some entry →
      Steps cfg s { s with stage := .flushing (read ++ [entry]) }
  | flushed {read : List α} : s.stage = .flushing read → s.batch.len ≤ read.length →
      Steps cfg s { s with
        flushes := s.flushes ++ [⟨read, false⟩], batch := s.batch.clear, stage := .selecting }
  | drainedAll : s.stage = .draining → s.channel = [] →
      Steps cfg s { s with channel := [], stage := .finishing }
  | drain {entry : α} {rest : List α} : s.stage = .draining → s.channel = entry :: rest →
      Steps cfg s { s with channel := rest, stage := .drained entry }
  | collectDrained {entry : α} : s.stage = .drained entry →
      Steps cfg s { s with batch := s.batch.append entry, stage := .draining }
  | finalFlush : s.stage = .finishing → Steps cfg s { s with stage := .finalFlush [] }
  | noFinalFlush : s.stage = .finishing → s.batch.len = 0 → Steps cfg s { s with stage := .exited }
  | finalRead {read : List α} {entry : α} : s.stage = .finalFlush read →
      s.batch.toList[read.length]? = some entry →
      Steps cfg s { s with stage := .finalFlush (read ++ [entry]) }
  | finalFlushed {read : List α} : s.stage = .finalFlush read → s.batch.len ≤ read.length →
      Steps cfg s { s with flushes := s.flushes ++ [⟨read, true⟩], stage := .exited }

section Steps
variable [Inhabited α] (cfg : Config) {s : Logger α}

lemma select_steps (h : s.stage = .selecting) (pick : Pick) : Steps cfg s (s.select pick) := by
  cases pick with
  | entry =>
    dsimp only [Logger.select]
    rcases hc : s.channel with _ | ⟨entry, rest⟩
    · exact .idle
    · exact .receive h hc
  | tick =>
    dsimp only [Logger.select]
    split_ifs
    · exact .tick h
    · exact .idle
  | done =>
    dsimp only [Logger.select]
    split_ifs
    · exact .cancel h
    · exact .idle
  | block =>
    dsimp only [Logger.select]
    split_ifs with hidle
    · exact .park h (List.isEmpty_iff.mp hidle.1)
    · exact .idle

lemma step_steps (pick : Pick) (s : Logger α) : Steps cfg s (s.step cfg pick) := by
  unfold Logger.step
  cases h : s.stage with
  | selecting => exact select_steps cfg h pick
  | parked => exact .idle
  | received entry =>
    dsimp only
    rw [Slice.len_append]
    split_ifs with hlen
    · exact .collectFull h hlen
    · exact .collect h (by omega)
  | ticked =>
    dsimp only
    split_ifs with hlen
    · exact .flush h hlen
    · exact .noFlush h
  | flushing read =>
    dsimp only
    rcases hget : s.batch.get? read.length with _ | entry <;> rw [Slice.get?_eq] at hget
    · exact .flushed h (by simpa using List.getElem?_eq_none_iff.mp hget)
    · exact .read h hget
  | draining =>
    dsimp only
    rcases hc : s.channel with _ | ⟨entry, rest⟩
    · exact .drainedAll h hc
    · exact .drain h hc
  | drained entry => exact .collectDrained h
  | finishing =>
    dsimp only
    split_ifs with hlen
    · exact .finalFlush h
    · exact .noFinalFlush h (by omega)
  | finalFlush read =>
    dsimp only
    rcases hget : s.batch.get? read.length with _ | entry <;> rw [Slice.get?_eq] at hget
    · exact .finalFlushed h (by simpa using List.getElem?_eq_none_iff.mp hget)
    · exact .finalRead h hget
  | exited => exact .idle

end Steps

section Cases
variable (cfg : Config) (s : Logger α)

lemma log_cases (entry : α) :
    (s.stage = .parked ∧ s.log cfg entry = { s.accept entry with stage := .received entry }) ∨
    (s.stage ≠ .parked ∧ s.channel.length < cfg.bufferSize ∧
      s.log cfg entry = { s.accept entry with channel := s.channel ++ [entry] }) ∨
    (s.stage ≠ .parked ∧ cfg.bufferSize ≤ s.channel.length ∧
      s.log cfg entry = { s with dropped := s.dropped ++ [entry] }) := by
  by_cases hp : s.stage = .parked
  · exact .inl ⟨hp, by simp [Logger.log, hp]⟩
  · by_cases hroom : s.channel.length < cfg.bufferSize
    · exact .inr (.inl ⟨hp, hroom, by simp [Logger.log, hroom]⟩)
    · exact .inr (.inr ⟨hp, by omega, by simp [Logger.log, hroom]⟩)

lemma fire_cases :
    (s.stage = .parked ∧ s.fire = { s with stage := .ticked }) ∨
    (s.stage ≠ .parked ∧ s.fire = { s with tick := true }) := by
  by_cases hp : s.stage = .parked
  · exact .inl ⟨hp, by simp [Logger.fire, hp]⟩
  · exact .inr ⟨hp, by simp [Logger.fire]⟩

lemma close_cases :
    (s.stage = .parked ∧
      s.close = { s with cancelled := true, closing := .waiting, stage := .draining }) ∨
    s.close = { s with cancelled := true, closing := .waiting } ∨
    (s.stage = .exited ∧ s.close = { s with closing := .returned }) ∨ s.close = s := by
  unfold Logger.close
  cases s.closing with
  | notCalled =>
    by_cases hp : s.stage = .parked
    · exact .inl ⟨hp, by simp [hp]⟩
    · exact .inr (.inl (by simp))
  | waiting =>
    by_cases hp : s.stage = .exited
    · exact .inr (.inr (.inl ⟨hp, by simp [hp]⟩))
    · exact .inr (.inr (.inr (by simp)))
  | returned => exact .inr (.inr (.inr rfl))

end Cases

/-- What holds at every moment: the accepted entries are those handed to `flush`, then the current
batch, then the channel. -/
structure Ordered (s : Logger α) : Prop where
  order : s.accepted = s.handed ++ s.current ++ s.channel
  reading : ∀ read, s.stage = .flushing read ∨ s.stage = .finalFlush read → read <+: s.batch.toList
  blocked : s.stage = .parked → s.channel = []
  returned : s.closing = .returned → s.stage = .exited
  counts : (s.counted ++ s.uncounted).Perm s.accepted

section Ordered
variable {cfg : Config} {s s' : Logger α}

lemma ordered_start [Inhabited α] (cfg : Config) : Ordered (Logger.start cfg : Logger α) where
  order := rfl
  reading := by simp [Logger.start]
  blocked := by simp [Logger.start]
  returned := by simp [Logger.start]
  counts := .refl _

lemma Ordered.read_all (h : Ordered s) {read : List α}
    (hs : s.stage = .flushing read ∨ s.stage = .finalFlush read) (hlen : s.batch.len ≤ read.length) :
    read = s.batch.toList :=
  (h.reading read hs).eq_of_length_le (by rwa [Slice.length_toList])

lemma prefix_read {read batch : List α} {entry : α} (h : read <+: batch)
    (hget : batch[read.length]? = some entry) : read ++ [entry] <+: batch := by
  obtain ⟨rest, rfl⟩ := h
  cases rest with
  | nil => simp at hget
  | cons a rest =>
    obtain rfl : a = entry := by simpa using hget
    exact ⟨rest, by simp⟩

lemma Ordered.advance (h : Ordered s) (hstage : s.stage ≠ .exited) (haccepted : s'.accepted = s.accepted)
    (hcounts : s'.counted = s.counted ∧ s'.uncounted = s.uncounted) (hclosing : s'.closing = s.closing)
    (horder : s'.handed ++ s'.current ++ s'.channel = s.handed ++ s.current ++ s.channel)
    (hreading : ∀ read, s'.stage = .flushing read ∨ s'.stage = .finalFlush read →
      read <+: s'.batch.toList)
    (hblocked : s'.stage = .parked → s'.channel = []) : Ordered s' where
  order := by rw [haccepted, horder, h.order]
  reading := hreading
  blocked := hblocked
  returned := fun hr => absurd (h.returned (hclosing ▸ hr)) hstage
  counts := by rw [hcounts.1, hcounts.2, haccepted]; exact h.counts

lemma steps_ordered [Inhabited α] (h : Ordered s) (hs : Steps cfg s s') : Ordered s' := by
  cases hs with
  | idle => exact h
  | receive hp hc | drain hp hc =>
    exact h.advance (by simp [hp]) rfl ⟨rfl, rfl⟩ rfl (by simp [Logger.current, Logger.handed, hp, hc])
      (by simp) (by simp)
  | tick hp | cancel hp | noFlush hp =>
    exact h.advance (by simp [hp]) rfl ⟨rfl, rfl⟩ rfl (by simp [Logger.current, Logger.handed, hp])
      (by simp) (by simp)
  | park hp hc =>
    exact h.advance (by simp [hp]) rfl ⟨rfl, rfl⟩ rfl (by simp [Logger.current, Logger.handed, hp])
      (by simp) (fun _ => hc)
  | drainedAll hp hc =>
    exact h.advance (by simp [hp]) rfl ⟨rfl, rfl⟩ rfl (by simp [Logger.current, Logger.handed, hp, hc])
      (by simp) (by simp)
  | collect hp | collectDrained hp =>
    exact h.advance (by simp [hp]) rfl ⟨rfl, rfl⟩ rfl (by simp [Logger.current, Logger.handed, hp])
      (by simp) (by simp)
  | collectFull hp | flush hp | finalFlush hp =>
    exact h.advance (by simp [hp]) rfl ⟨rfl, rfl⟩ rfl (by simp [Logger.current, Logger.handed, hp])
      (by simp) (by simp)
  | read hp hget =>
    refine h.advance (by simp [hp]) rfl ⟨rfl, rfl⟩ rfl (by simp [Logger.current, Logger.handed, hp]) ?_
      (by simp)
    simpa using prefix_read (h.reading _ (.inl hp)) hget
  | finalRead hp hget =>
    refine h.advance (by simp [hp]) rfl ⟨rfl, rfl⟩ rfl (by simp [Logger.current, Logger.handed, hp]) ?_
      (by simp)
    simpa using prefix_read (h.reading _ (.inr hp)) hget
  | flushed hp hlen =>
    obtain rfl := h.read_all (.inl hp) hlen
    exact h.advance (by simp [hp]) rfl ⟨rfl, rfl⟩ rfl (by simp [Logger.current, Logger.handed, hp])
      (by simp) (by simp)
  | noFinalFlush hp hlen =>
    have hempty : s.batch.toList = [] := List.length_eq_zero_iff.mp (by simpa using hlen)
    exact h.advance (by simp [hp]) rfl ⟨rfl, rfl⟩ rfl
      (by simp [Logger.current, Logger.handed, hp, hempty]) (by simp) (by simp)
  | finalFlushed hp hlen =>
    obtain rfl := h.read_all (.inr hp) hlen
    exact h.advance (by simp [hp]) rfl ⟨rfl, rfl⟩ rfl (by simp [Logger.current, Logger.handed, hp])
      (by simp) (by simp)

lemma log_ordered (h : Ordered s) (entry : α) : Ordered (s.log cfg entry) := by
  have horder := h.order
  have hcounts : (s.counted ++ (s.uncounted ++ [entry])).Perm (s.accepted ++ [entry]) := by
    rw [← List.append_assoc]
    exact h.counts.append_right [entry]
  rcases log_cases cfg s entry with ⟨hp, heq⟩ | ⟨hp, -, heq⟩ | ⟨hp, -, heq⟩ <;> rw [heq]
  · have hchannel := h.blocked hp
    refine ⟨?_, by simp, by simp, fun hr => absurd (h.returned hr) (by simp [hp]), hcounts⟩
    simp only [Logger.accept, Logger.current, Logger.handed, hp, hchannel, List.append_nil] at horder ⊢
    rw [horder, List.append_assoc]
  · refine ⟨?_, h.reading, fun hp' => absurd hp' hp, h.returned, hcounts⟩
    simp only [Logger.accept, Logger.current, Logger.handed] at horder ⊢
    rw [horder, List.append_assoc _ s.channel]
  · exact ⟨h.order, h.reading, h.blocked, h.returned, h.counts⟩

lemma count_ordered (h : Ordered s) (i : ℕ) : Ordered (s.count i) := by
  unfold Logger.count
  rcases hi : s.uncounted[i]? with _ | entry
  · exact h
  · refine ⟨h.order, h.reading, h.blocked, h.returned, ?_⟩
    obtain ⟨hlt, hget⟩ := List.getElem?_eq_some_iff.mp hi
    have hmove : (entry :: s.uncounted.eraseIdx i).Perm s.uncounted := by
      rw [← hget]
      exact List.getElem_cons_eraseIdx_perm hlt
    rw [List.append_assoc]
    exact (hmove.append_left s.counted).trans h.counts

lemma fire_ordered (h : Ordered s) : Ordered s.fire := by
  rcases fire_cases s with ⟨hp, heq⟩ | ⟨hp, heq⟩ <;> rw [heq]
  · exact h.advance (by simp [hp]) rfl ⟨rfl, rfl⟩ rfl (by simp [Logger.current, Logger.handed, hp])
      (by simp) (by simp)
  · exact ⟨h.order, h.reading, h.blocked, h.returned, h.counts⟩

lemma close_ordered (h : Ordered s) : Ordered s.close := by
  rcases close_cases s with ⟨hp, heq⟩ | heq | ⟨hp, heq⟩ | heq <;> rw [heq]
  · refine ⟨?_, by simp, by simp, by simp, h.counts⟩
    simpa [Logger.current, Logger.handed, hp] using h.order
  · exact ⟨h.order, h.reading, h.blocked, by simp, h.counts⟩
  · exact ⟨h.order, h.reading, h.blocked, fun _ => hp, h.counts⟩
  · exact h

/-- In every run, at every moment. -/
theorem exec_ordered [Inhabited α] (cfg : Config) (acts : List (Action α)) :
    Ordered ((Logger.start cfg).exec cfg acts) := by
  induction acts using List.reverseRecOn with
  | nil => exact ordered_start cfg
  | append_singleton acts act ih =>
    rw [Logger.exec_concat]
    cases act with
    | log entry => exact log_ordered ih entry
    | count i => exact count_ordered ih i
    | tick => exact fire_ordered ih
    | close => exact close_ordered ih
    | loop pick => exact steps_ordered ih (step_steps cfg pick _)

end Ordered

/-- The loop has not been told to shut down, and is not in `flush`. -/
def Stage.collecting : Stage α → Bool
  | .selecting | .parked | .received _ | .ticked => true
  | .flushing _ | .draining | .drained _ | .finishing | .finalFlush _ | .exited => false

/-- The batch stays below its size until it is flushed. -/
structure Bounded (cfg : Config) (s : Logger α) : Prop where
  collecting : s.stage.collecting = true → s.batch.len < cfg.batchSize
  flushing : ∀ read, s.stage = .flushing read → 1 ≤ s.batch.len ∧ s.batch.len ≤ cfg.batchSize
  flushes : ∀ f ∈ s.flushes, f.shutdown = false →
    1 ≤ f.entries.length ∧ f.entries.length ≤ cfg.batchSize

section Bounded
variable {cfg : Config} {s s' : Logger α}

lemma Bounded.settled (h : Bounded cfg s) (hbatch : s'.batch = s.batch) (hflushes : s'.flushes = s.flushes)
    (hcollecting : s'.stage.collecting = true → s.stage.collecting = true)
    (hflushing : ∀ read, s'.stage = .flushing read → ∃ read, s.stage = .flushing read) :
    Bounded cfg s' where
  collecting := fun hs => hbatch ▸ h.collecting (hcollecting hs)
  flushing := fun read hs => by
    obtain ⟨read', hs'⟩ := hflushing read hs
    exact hbatch ▸ h.flushing read' hs'
  flushes := hflushes ▸ h.flushes

lemma steps_bounded [Inhabited α] (hsize : 0 < cfg.batchSize) (ho : Ordered s) (h : Bounded cfg s)
    (hs : Steps cfg s s') : Bounded cfg s' := by
  cases hs with
  | idle => exact h
  | receive hp | tick hp | park hp | noFlush hp =>
    exact h.settled rfl rfl (by simp [Stage.collecting, hp]) (by simp)
  | cancel hp | drainedAll hp | drain hp | finalFlush hp | noFinalFlush hp | finalRead hp =>
    exact h.settled rfl rfl (by simp [Stage.collecting]) (by simp)
  | read hp => exact h.settled rfl rfl (by simp [Stage.collecting]) (fun _ _ => ⟨_, hp⟩)
  | collect hp hlen => exact ⟨by simpa using fun _ => hlen, by simp, h.flushes⟩
  | collectFull hp hlen =>
    have hroom := h.collecting (by simp [Stage.collecting, hp])
    refine ⟨by simp [Stage.collecting], fun read hs => ?_, h.flushes⟩
    rw [Slice.len_append]
    omega
  | flush hp hlen =>
    have hroom := h.collecting (by simp [Stage.collecting, hp])
    refine ⟨by simp [Stage.collecting], fun read hs => ?_, h.flushes⟩
    dsimp only
    omega
  | flushed hp hlen =>
    obtain rfl := ho.read_all (.inl hp) hlen
    refine ⟨fun _ => hsize, by simp, fun f hf hshutdown => ?_⟩
    rcases List.mem_append.mp hf with hf | hf
    · exact h.flushes f hf hshutdown
    · rw [List.mem_singleton.mp hf, Slice.length_toList]
      exact h.flushing _ hp
  | collectDrained hp => exact ⟨by simp [Stage.collecting], by simp, h.flushes⟩
  | finalFlushed hp hlen =>
    refine ⟨by simp [Stage.collecting], by simp, fun f hf hshutdown => ?_⟩
    rcases List.mem_append.mp hf with hf | hf
    · exact h.flushes f hf hshutdown
    · simp [List.mem_singleton.mp hf] at hshutdown

theorem exec_bounded [Inhabited α] (hsize : 0 < cfg.batchSize) (acts : List (Action α)) :
    Bounded cfg ((Logger.start cfg).exec cfg acts) := by
  induction acts using List.reverseRecOn with
  | nil => exact ⟨fun _ => hsize, by simp [Logger.start], by simp [Logger.start]⟩
  | append_singleton acts act ih =>
    have ho := exec_ordered cfg acts
    rw [Logger.exec_concat]
    cases act with
    | log entry =>
      dsimp only [Logger.act]
      rcases log_cases cfg ((Logger.start cfg).exec cfg acts) entry with
        ⟨hp, heq⟩ | ⟨-, -, heq⟩ | ⟨-, -, heq⟩ <;> rw [heq]
      · exact ih.settled rfl rfl (by simp [Stage.collecting, hp]) (by simp)
      · exact ih.settled rfl rfl id fun read hs => ⟨read, hs⟩
      · exact ih.settled rfl rfl id fun read hs => ⟨read, hs⟩
    | count i =>
      dsimp only [Logger.act, Logger.count]
      split
      · exact ih
      · exact ih.settled rfl rfl id fun read hs => ⟨read, hs⟩
    | tick =>
      dsimp only [Logger.act]
      rcases fire_cases ((Logger.start cfg).exec cfg acts) with ⟨hp, heq⟩ | ⟨hp, heq⟩ <;> rw [heq]
      · exact ih.settled rfl rfl (by simp [Stage.collecting, hp]) (by simp)
      · exact ih.settled rfl rfl id fun read hs => ⟨read, hs⟩
    | close =>
      dsimp only [Logger.act]
      rcases close_cases ((Logger.start cfg).exec cfg acts) with
        ⟨hp, heq⟩ | heq | ⟨hp, heq⟩ | heq <;> rw [heq]
      · exact ih.settled rfl rfl (by simp [Stage.collecting]) (by simp)
      · exact ih.settled rfl rfl id fun read hs => ⟨read, hs⟩
      · exact ih.settled rfl rfl id fun read hs => ⟨read, hs⟩
      · exact ih
    | loop pick => exact steps_bounded hsize ho ih (step_steps cfg pick _)

end Bounded

/-- At every moment of every run the accepted entries are, in their order, those handed to `flush`, the
current batch and the channel; every batch that is flushed before the shutdown has at least one entry
and at most `batchSize`. -/
theorem entries_flushed_in_order [Inhabited α] {cfg : Config} (hsize : 0 < cfg.batchSize)
    (acts : List (Action α)) :
    let s := (Logger.start cfg).exec cfg acts
    s.accepted = s.handed ++ s.current ++ s.channel ∧
      ∀ f ∈ s.flushes, f.shutdown = false →
        1 ≤ f.entries.length ∧ f.entries.length ≤ cfg.batchSize :=
  ⟨(exec_ordered cfg acts).order, (exec_bounded hsize acts).flushes⟩

/-- Two entries fill a batch; a third comes while it is flushed, and a tick flushes that. -/
def sampleActs : List (Action ℕ) :=
  [.log 1, .log 2, .loop .entry, .loop .entry, .loop .entry, .loop .entry, .loop .entry, .log 3,
    .loop .entry, .loop .entry, .loop .entry, .loop .entry, .tick, .loop .tick, .loop .tick, .loop .tick,
    .loop .tick]

theorem entries_flushed_in_order_sampleActs :
    let s := (Logger.start ⟨2, 8⟩).exec ⟨2, 8⟩ sampleActs
    s.flushes = [⟨[1, 2], false⟩, ⟨[3], false⟩] ∧ s.accepted = s.handed ++ s.current ++ s.channel := by
  have hsize : 0 < (⟨2, 8⟩ : Config).batchSize := by decide
  exact ⟨by decide, (entries_flushed_in_order hsize sampleActs).1⟩

/-- The entries of all calls of `Log`. -/
def logged (acts : List (Action α)) : List α :=
  acts.filterMap fun
    | .log entry => some entry
    | .count _ | .tick | .close | .loop _ => none

lemma steps_accepted [Inhabited α] {cfg : Config} {s s' : Logger α} (hs : Steps cfg s s') :
    s'.accepted = s.accepted ∧ s'.dropped = s.dropped := by
  cases hs <;> exact ⟨rfl, rfl⟩

lemma accepted_of_no_drop [Inhabited α] (cfg : Config) (acts : List (Action α))
    (h : ((Logger.start cfg).exec cfg acts).dropped = []) :
    ((Logger.start cfg).exec cfg acts).accepted = logged acts := by
  induction acts using List.reverseRecOn with
  | nil => rfl
  | append_singleton acts act ih =>
    rw [Logger.exec_concat] at h ⊢
    rw [logged, List.filterMap_append, ← logged]
    cases act with
    | log entry =>
      rcases log_cases cfg ((Logger.start cfg).exec cfg acts) entry with
        ⟨hp, heq⟩ | ⟨-, -, heq⟩ | ⟨-, -, heq⟩ <;> simp only [Logger.act, heq] at h ⊢
      · simpa [Logger.accept] using ih h
      · simpa [Logger.accept] using ih h
      · simp at h
    | count i =>
      have hcount : (Logger.count i ((Logger.start cfg).exec cfg acts)).accepted =
          ((Logger.start cfg).exec cfg acts).accepted ∧
          (Logger.count i ((Logger.start cfg).exec cfg acts)).dropped =
          ((Logger.start cfg).exec cfg acts).dropped := by
        unfold Logger.count
        split <;> exact ⟨rfl, rfl⟩
      simp only [Logger.act, hcount] at h ⊢
      simpa using ih h
    | tick =>
      rcases fire_cases ((Logger.start cfg).exec cfg acts) with ⟨hp, heq⟩ | ⟨hp, heq⟩ <;>
        simp only [Logger.act, heq] at h ⊢ <;> simpa using ih h
    | close =>
      rcases close_cases ((Logger.start cfg).exec cfg acts) with
        ⟨hp, heq⟩ | heq | ⟨hp, heq⟩ | heq <;> simp only [Logger.act, heq] at h ⊢ <;> simpa using ih h
    | loop pick =>
      obtain ⟨haccepted, hdropped⟩ := steps_accepted (step_steps cfg pick ((Logger.start cfg).exec cfg acts))
      simp only [Logger.act, haccepted, hdropped] at h ⊢
      simpa using ih h

instance : Inhabited QueryLogEntry := ⟨⟨0, .primary, "", [], 0, 0, none, false, .none⟩⟩

/-- As long as no entry is dropped, the logger accepts what the sessions log. -/
theorem accepted_refines_log (cfg : Config) (acts : List (Action QueryLogEntry))
    (h : ((Logger.start cfg).exec cfg acts).dropped = []) :
    (logged acts).foldl QueryLogger.log (some []) =
      some ((Logger.start cfg).exec cfg acts).accepted := by
  rw [accepted_of_no_drop cfg acts h]
  induction logged acts using List.reverseRecOn with
  | nil => rfl
  | append_singleton entries entry ih =>
    rw [List.foldl_append, ih, List.foldl_cons, List.foldl_nil, log_some]

/-- The loop has found the channel empty after the cancellation. -/
def Stage.late : Stage α → Bool
  | .finishing | .finalFlush _ | .exited => true
  | .selecting | .parked | .received _ | .ticked | .flushing _ | .draining | .drained _ => false

section Shutdown
variable [Inhabited α] (cfg : Config)

/-- Once the loop has drained the channel, no call of `Log` finds room in it. -/
def Punctual (acts : List (Action α)) : Prop :=
  EachStep (fun before act => ∀ entry, act = .log entry →
    ((Logger.start cfg).exec cfg before).stage.late = true →
      cfg.bufferSize ≤ ((Logger.start cfg).exec cfg before).channel.length) acts

variable {cfg} {s s' : Logger α}

lemma steps_late (hs : Steps cfg s s') :
    (s'.stage.late = true → s'.channel = []) ↔ (s.stage.late = true → s.channel = []) := by
  cases hs with
  | idle => exact Iff.rfl
  | drainedAll hp hc => simp [Stage.late, hp]
  | receive hp | tick hp | cancel hp | park hp | collect hp | collectFull hp => simp [Stage.late, hp]
  | flush hp | noFlush hp | read hp | flushed hp | drain hp | collectDrained hp => simp [Stage.late, hp]
  | finalFlush hp | noFinalFlush hp | finalRead hp | finalFlushed hp => simp [Stage.late, hp]

/-- An entry that is left in the channel behind the drain was put there behind the drain. -/
lemma act_late (s : Logger α) (act : Action α) :
    ((s.act cfg act).stage.late = true → (s.act cfg act).channel = []) ↔
      (s.stage.late = true → s.channel = []) ∧
        ∀ entry, act = .log entry → s.stage.late = true → cfg.bufferSize ≤ s.channel.length := by
  cases act with
  | log entry =>
    dsimp only [Logger.act]
    rcases log_cases cfg s entry with ⟨hp, heq⟩ | ⟨hp, hroom, heq⟩ | ⟨hp, hroom, heq⟩ <;> rw [heq]
    · simp [Stage.late, hp]
    · have hnot : ¬ cfg.bufferSize ≤ s.channel.length := by omega
      cases hl : s.stage.late <;> simp [Logger.accept, hl, hnot]
    · simp [hroom]
  | count i =>
    dsimp only [Logger.act, Logger.count]
    split <;> simp
  | tick =>
    dsimp only [Logger.act]
    rcases fire_cases s with ⟨hp, heq⟩ | ⟨hp, heq⟩ <;> rw [heq]
    · simp [Stage.late, hp]
    · simp
  | close =>
    dsimp only [Logger.act]
    rcases close_cases s with ⟨hp, heq⟩ | heq | ⟨hp, heq⟩ | heq <;> rw [heq]
    · simp [Stage.late, hp]
    · simp
    · simp
    · simp
  | loop pick => simpa [Logger.act] using steps_late (step_steps cfg pick s)

lemma punctual_iff (acts : List (Action α)) :
    Punctual cfg acts ↔ (((Logger.start cfg).exec cfg acts).stage.late = true →
      ((Logger.start cfg).exec cfg acts).channel = []) := by
  induction acts using List.reverseRecOn with
  | nil => simp [Punctual, Logger.start, Stage.late]
  | append_singleton acts act ih =>
    rw [Logger.exec_concat, act_late, ← ih, Punctual, eachStep_concat]
    rfl

/-- When `Close` has returned, every entry that was counted as queued has been handed to `flush` if no
entry was accepted after the drain. Once all accepted entries are counted, also only if. -/
theorem queued_entries_flushed_iff (acts : List (Action α)) :
    let s := (Logger.start cfg).exec cfg acts
    s.closing = .returned →
      (Punctual cfg acts → s.counted.Subperm s.handed) ∧
      (s.uncounted = [] → s.counted.Subperm s.handed → Punctual cfg acts) := by
  intro s hret
  have ho : Ordered s := exec_ordered cfg acts
  have hexit := ho.returned hret
  have horder : s.accepted = s.handed ++ s.channel := by
    rw [ho.order, Logger.current, hexit, List.append_nil]
  have hlate : Punctual cfg acts ↔ s.channel = [] := by
    rw [punctual_iff]
    exact ⟨fun h => h (by simp [hexit, s, Stage.late]), fun h _ => h⟩
  rw [hlate]
  constructor
  · intro hempty
    have hperm := ho.counts
    rw [horder, hempty, List.append_nil] at hperm
    exact (List.sublist_append_left _ _).subperm.trans hperm.subperm
  · intro hcounted hsub
    have hlen := hsub.length_le
    have hall := ho.counts.length_eq
    rw [hcounted, List.append_nil, horder, List.length_append] at hall
    exact List.length_eq_zero_iff.mp (by omega)

end Shutdown

/-- An entry is logged and counted, `Close` is called, and the loop drains the channel; `late` comes
after that, then the last flush and the end. -/
def shutdownActs (late : List (Action ℕ)) : List (Action ℕ) :=
  [.log 1, .count 0, .close] ++ List.replicate 4 (.loop .done) ++ late ++
    List.replicate 3 (.loop .done) ++ [.close]

theorem queued_entries_flushed_shutdownActs :
    let s := (Logger.start ⟨2, 8⟩).exec ⟨2, 8⟩ (shutdownActs [])
    s.closing = .returned ∧ s.counted = [1] ∧ s.counted.Subperm s.handed := by
  have hpunctual : Punctual ⟨2, 8⟩ (shutdownActs []) := (punctual_iff _).mpr fun _ => by decide
  exact ⟨by decide, by decide, (queued_entries_flushed_iff (shutdownActs []) (by decide)).1 hpunctual⟩

/-- An entry that comes between the drain and the last flush is counted as queued, and stays in the
channel for good. -/
theorem late_entry_lost :
    let s := (Logger.start ⟨2, 8⟩).exec ⟨2, 8⟩ (shutdownActs [.log 2, .count 0])
    s.closing = .returned ∧ s.counted = [1, 2] ∧ s.handed = [1] ∧ s.channel = [2] := by
  decide

end ShadowProxy.LogFlush
