import Mathlib.Algebra.BigOperators.Group.Finset.Basic
import Mathlib.Algebra.BigOperators.Group.Finset.Piecewise
import Mathlib.Algebra.Order.BigOperators.Group.List
import Mathlib.Algebra.Order.Ring.Nat
import Mathlib.Data.List.Induction

/-! A listener that starts a machine for every connection it accepts. The machines run side by side in
one process and share counters and a registry of those among them that are of interest; a machine that
panics takes the process with it. Each machine says for itself what it adds to the counters; what they
say together is a census of the machines. -/
namespace ShadowProxy.Fleet

variable {ε σ α κ : Type*}

/-- A call that a machine makes on what is shared. -/
inductive Effect (κ : Type*)
  | inc (c : κ)
  | dec (c : κ)
  | register
  | unregister
  deriving DecidableEq

/-- `ε` is what the surroundings give to a machine. -/
structure Machine (ε σ α κ : Type*) where
  start : ε → σ
  step : ε → σ → α → σ
  effects : ε → σ → α → List (Effect κ)
  fatal : σ → Bool

structure Member (ε σ : Type*) where
  env : ε
  state : σ

/-- How far the accepting loop is: its context is cancelled, its listener closed, it has returned; or
the process is gone. -/
inductive Stage
  | listening
  | cancelled
  | closed
  | returned
  | crashed
  deriving DecidableEq

structure System (ε σ κ : Type*) where
  stage : Stage
  members : List (Member ε σ)
  counters : κ → ℤ
  registry : Finset ℕ

def System.start : System ε σ κ := ⟨.listening, [], fun _ => 0, ∅⟩

inductive Event (ε α : Type*)
  | accept (env : ε)
  | acceptFails
  | cancel
  | closeListener
  | step (i : ℕ) (act : α)

def Machine.Reachable (M : Machine ε σ α κ) (env : ε) (state : σ) : Prop :=
  ∃ acts : List α, state = acts.foldl (M.step env) (M.start env)

lemma reachable_start (M : Machine ε σ α κ) (env : ε) : M.Reachable env (M.start env) := ⟨[], rfl⟩

lemma Machine.Reachable.step {M : Machine ε σ α κ} {env : ε} {state : σ} (h : M.Reachable env state)
    (act : α) : M.Reachable env (M.step env state act) := by
  obtain ⟨acts, rfl⟩ := h
  exact ⟨acts ++ [act], by simp⟩

variable [DecidableEq κ]

def Effect.apply (i : ℕ) (s : System ε σ κ) : Effect κ → System ε σ κ
  | .inc c => { s with counters := Function.update s.counters c (s.counters c + 1) }
  | .dec c => { s with counters := Function.update s.counters c (s.counters c - 1) }
  | .register => { s with registry := insert i s.registry }
  | .unregister => { s with registry := s.registry.erase i }

/-- A failed `Accept` ends the loop only if the context is done. A listener that is closed accepts no
more; what was accepted goes on. -/
def System.act (M : Machine ε σ α κ) (s : System ε σ κ) : Event ε α → System ε σ κ
  | .accept env =>
    if s.stage = .listening ∨ s.stage = .cancelled then
      { s with members := s.members ++ [⟨env, M.start env⟩] }
    else s
  | .acceptFails => if s.stage = .cancelled ∨ s.stage = .closed then { s with stage := .returned } else s
  | .cancel => if s.stage = .listening then { s with stage := .cancelled } else s
  | .closeListener => if s.stage = .cancelled then { s with stage := .closed } else s
  | .step i act =>
    if s.stage = .crashed then s
    else
      match s.members[i]? with
      | none => s
      | some m =>
        let state := M.step m.env m.state act
        { (M.effects m.env m.state act).foldl (Effect.apply i) s with
          members := s.members.set i ⟨m.env, state⟩
          stage := if M.fatal state then .crashed else s.stage }

def System.exec (M : Machine ε σ α κ) (events : List (Event ε α)) (s : System ε σ κ) : System ε σ κ :=
  events.foldl (System.act M) s

@[simp] lemma exec_nil (M : Machine ε σ α κ) (s : System ε σ κ) : s.exec M [] = s := rfl

@[simp] lemma exec_concat (M : Machine ε σ α κ) (events : List (Event ε α)) (event : Event ε α)
    (s : System ε σ κ) : s.exec M (events ++ [event]) = (s.exec M events).act M event := by
  simp [System.exec]

lemma exec_append (M : Machine ε σ α κ) (events later : List (Event ε α)) (s : System ε σ κ) :
    s.exec M (events ++ later) = (s.exec M events).exec M later := List.foldl_append

section Effects

def net (c : κ) : List (Effect κ) → ℤ
  | [] => 0
  | .inc d :: es => (if d = c then 1 else 0) + net c es
  | .dec d :: es => (if d = c then -1 else 0) + net c es
  | .register :: es | .unregister :: es => net c es

/-- Whether a machine is registered after a list of calls. -/
def registers (before : Bool) : List (Effect κ) → Bool
  | [] => before
  | .inc _ :: es | .dec _ :: es => registers before es
  | .register :: es => registers true es
  | .unregister :: es => registers false es

variable (i : ℕ) (es : List (Effect κ)) (s : System ε σ κ)

lemma foldl_apply_counters (c : κ) : (es.foldl (Effect.apply i) s).counters c = s.counters c + net c es := by
  induction es generalizing s with
  | nil => simp [net]
  | cons e es ih =>
    rw [List.foldl_cons, ih]
    cases e with
    | inc d =>
      by_cases hd : d = c
      · subst hd
        simp [Effect.apply, net, add_assoc]
      · simp [Effect.apply, net, hd, Function.update_of_ne (Ne.symm hd)]
    | dec d =>
      by_cases hd : d = c
      · subst hd
        simp [Effect.apply, net, sub_eq_add_neg, add_assoc]
      · simp [Effect.apply, net, hd, Function.update_of_ne (Ne.symm hd)]
    | register => rfl
    | unregister => rfl

lemma foldl_apply_registry (j : ℕ) :
    j ∈ (es.foldl (Effect.apply i) s).registry ↔
      if j = i then registers (decide (i ∈ s.registry)) es = true else j ∈ s.registry := by
  induction es generalizing s with
  | nil =>
    by_cases hj : j = i
    · simp [registers, hj]
    · simp [hj]
  | cons e es ih =>
    rw [List.foldl_cons, ih]
    cases e with
    | inc c => exact Iff.rfl
    | dec c => exact Iff.rfl
    | register => by_cases hj : j = i <;> simp [hj, Effect.apply, registers]
    | unregister => by_cases hj : j = i <;> simp [hj, Effect.apply, registers]

end Effects

/-- Everything an event can do to the members. -/
inductive Moves (M : Machine ε σ α κ) (s : System ε σ κ) : System ε σ κ → Prop
  | stays (stage : Stage) : Moves M s { s with stage := stage }
  | joins (env : ε) : Moves M s { s with members := s.members ++ [⟨env, M.start env⟩] }
  | steps {i : ℕ} {m : Member ε σ} (act : α) (s' : System ε σ κ) : s.members[i]? = some m →
      s'.members = s.members.set i ⟨m.env, M.step m.env m.state act⟩ →
      (∀ c, s'.counters c = s.counters c + net c (M.effects m.env m.state act)) →
      (∀ j, j ∈ s'.registry ↔
        if j = i then registers (decide (i ∈ s.registry)) (M.effects m.env m.state act) = true
        else j ∈ s.registry) → Moves M s s'

lemma act_moves (M : Machine ε σ α κ) (s : System ε σ κ) (event : Event ε α) : Moves M s (s.act M event) := by
  have hsame : Moves M s s := .stays s.stage
  cases event with
  | accept env =>
    dsimp only [System.act]
    split_ifs
    · exact .joins env
    · exact hsame
  | acceptFails =>
    dsimp only [System.act]
    split_ifs
    · exact .stays _
    · exact hsame
  | cancel =>
    dsimp only [System.act]
    split_ifs
    · exact .stays _
    · exact hsame
  | closeListener =>
    dsimp only [System.act]
    split_ifs
    · exact .stays _
    · exact hsame
  | step i act =>
    dsimp only [System.act]
    split_ifs
    · exact hsame
    · cases hm : s.members[i]? with
      | none => exact hsame
      | some m =>
        exact .steps act _ hm rfl (foldl_apply_counters i _ s) (foldl_apply_registry i _ s)

lemma exec_crashed (M : Machine ε σ α κ) (events : List (Event ε α)) {s : System ε σ κ}
    (h : s.stage = .crashed) : s.exec M events = s := by
  induction events using List.reverseRecOn with
  | nil => rfl
  | append_singleton events event ih =>
    rw [exec_concat, ih]
    cases event <;> simp [System.act, h]

section Census

lemma countP_set_toInt {β : Type*} (p : β → Bool) {l : List β} {i : ℕ} {a : β} (h : l[i]? = some a) (b : β) :
    (((l.set i b).countP p : ℕ) : ℤ) + (p a).toInt = (l.countP p : ℕ) + (p b).toInt := by
  induction l generalizing i with
  | nil => simp at h
  | cons x l ih =>
    cases i with
    | zero =>
      obtain rfl : x = a := by simpa using h
      simp only [List.set_cons_zero, List.countP_cons]
      cases p x <;> cases p b <;> simp
    | succ i =>
      have := ih (by simpa using h)
      simp only [List.set_cons_succ, List.countP_cons]
      omega

variable {M : Machine ε σ α κ}

/-- Whatever the others do, a member is where steps of its own have brought it. -/
theorem members_reachable (M : Machine ε σ α κ) (events : List (Event ε α)) :
    ∀ m ∈ ((System.start : System ε σ κ).exec M events).members, M.Reachable m.env m.state := by
  induction events using List.reverseRecOn with
  | nil => simp [System.start]
  | append_singleton events event ih =>
    rw [exec_concat]
    generalize (System.start.exec M events).act M event = s', act_moves M (System.start.exec M events) event = hmoves
    cases hmoves with
    | stays stage => exact ih
    | joins env =>
      intro m hm
      obtain hm | hm := List.mem_append.mp hm
      · exact ih m hm
      · rw [List.mem_singleton.mp hm]
        exact reachable_start M env
    | steps act _ hm hmembers _ _ =>
      intro m' hm'
      rw [hmembers] at hm'
      obtain hm' | rfl := List.mem_or_eq_of_mem_set hm'
      · exact ih m' hm'
      · exact (ih _ (List.mem_of_getElem? hm)).step act

/-- The calls of a machine keep each counter at the number of the machines it counts. -/
structure Counts (M : Machine ε σ α κ) (counted : ε → σ → κ → Bool) : Prop where
  start : ∀ env c, counted env (M.start env) c = false
  step : ∀ env state act c, M.Reachable env state →
    (counted env state c).toInt + net c (M.effects env state act) =
      (counted env (M.step env state act) c).toInt

/-- Each counter is the number of the members it counts. -/
theorem Counts.census {counted : ε → σ → κ → Bool} (h : Counts M counted) (events : List (Event ε α))
    (c : κ) :
    ((System.start : System ε σ κ).exec M events).counters c =
      ((System.start.exec M events : System ε σ κ).members.countP fun m => counted m.env m.state c) := by
  induction events using List.reverseRecOn with
  | nil => simp [System.start]
  | append_singleton events event ih =>
    have hreach := members_reachable M events
    rw [exec_concat]
    generalize (System.start.exec M events).act M event = s', act_moves M (System.start.exec M events) event = hmoves
    cases hmoves with
    | stays stage => exact ih
    | joins env => simpa [h.start env c] using ih
    | @steps i m act _ hm hmembers hcounters _ =>
      have hstep := h.step _ _ act c (hreach _ (List.mem_of_getElem? hm))
      have hset := countP_set_toInt (fun m => counted m.env m.state c) hm
        ⟨m.env, M.step m.env m.state act⟩
      dsimp only at hset
      rw [hcounters, hmembers, ih]
      omega

lemma Counts.eq_zero {counted : ε → σ → κ → Bool} (h : Counts M counted) {c : κ}
    (hnone : ∀ env state, M.Reachable env state → counted env state c = false) (events : List (Event ε α)) :
    ((System.start : System ε σ κ).exec M events).counters c = 0 := by
  rw [h.census events c]
  have hzero : (System.start.exec M events : System ε σ κ).members.countP
      (fun m => counted m.env m.state c) = 0 :=
    List.countP_eq_zero.mpr fun m hm => by simp [hnone _ _ (members_reachable M events m hm)]
  simp [hzero]

/-- The calls of a machine keep the registry up to date. -/
structure Registers (M : Machine ε σ α κ) (registered : ε → σ → Bool) : Prop where
  start : ∀ env, registered env (M.start env) = false
  step : ∀ env state act, M.Reachable env state →
    registers (registered env state) (M.effects env state act) = registered env (M.step env state act)

/-- The registry has the members that are registered. -/
theorem Registers.registry {registered : ε → σ → Bool} (h : Registers M registered)
    (events : List (Event ε α)) (i : ℕ) :
    i ∈ ((System.start : System ε σ κ).exec M events).registry ↔
      ∃ m, (System.start.exec M events : System ε σ κ).members[i]? = some m ∧
        registered m.env m.state = true := by
  induction events using List.reverseRecOn generalizing i with
  | nil => simp [System.start]
  | append_singleton events event ih =>
    have hreach := members_reachable M events
    rw [exec_concat]
    generalize (System.start.exec M events).act M event = s', act_moves M (System.start.exec M events) event = hmoves
    cases hmoves with
    | stays stage => exact ih i
    | joins env =>
      rw [ih]
      constructor
      · rintro ⟨m, hm, hreg⟩
        exact ⟨m, by rw [List.getElem?_append_left (List.getElem?_eq_some_iff.mp hm).1, hm], hreg⟩
      · rintro ⟨m, hm, hreg⟩
        by_cases hi : i < (System.start.exec M events : System ε σ κ).members.length
        · exact ⟨m, by rwa [List.getElem?_append_left hi] at hm, hreg⟩
        · rw [List.getElem?_append_right (Nat.not_lt.mp hi)] at hm
          rw [List.mem_singleton.mp (List.mem_of_getElem? hm), h.start env] at hreg
          exact absurd hreg (by decide)
    | @steps j m act _ hm hmembers _ hregistry =>
      have hstep := h.step _ _ act (hreach _ (List.mem_of_getElem? hm))
      rw [hregistry, hmembers]
      by_cases hi : i = j
      · subst hi
        have hbefore : decide (i ∈ (System.start.exec M events : System ε σ κ).registry) =
            registered m.env m.state := by
          simp [ih, hm]
        rw [if_pos rfl, hbefore, hstep, List.getElem?_set_self (List.getElem?_eq_some_iff.mp hm).1]
        simp
      · rw [if_neg hi, ih, List.getElem?_set_ne (Ne.symm hi)]

end Census

section Sums
variable {β : Type*}

lemma sum_range_getElem? (l : List β) (f : β → ℕ) :
    ∑ i ∈ Finset.range l.length, l[i]?.elim 0 f = (l.map f).sum := by
  induction l with
  | nil => simp
  | cons x l ih => simp [Finset.sum_range_succ', ih, add_comm]

lemma sum_positions {l : List β} {p : β → Bool} {S : Finset ℕ}
    (hS : ∀ i, i ∈ S ↔ ∃ b, l[i]? = some b ∧ p b = true) (f : β → ℕ) :
    ∑ i ∈ S, l[i]?.elim 0 f = ((l.filter p).map f).sum := by
  have hsub : S ⊆ Finset.range l.length := by
    intro i hi
    obtain ⟨b, hb, -⟩ := (hS i).mp hi
    exact Finset.mem_range.mpr (List.getElem?_eq_some_iff.mp hb).1
  have hpoint : ∀ i ∈ Finset.range l.length,
      (if i ∈ S then l[i]?.elim 0 f else 0) = l[i]?.elim 0 fun b => if p b then f b else 0 := by
    intro i hi
    have hb := List.getElem?_eq_getElem (Finset.mem_range.mp hi)
    simp [hS, hb]
  rw [← Finset.inter_eq_right.mpr hsub, ← Finset.sum_ite_mem, Finset.sum_congr rfl hpoint,
    sum_range_getElem?]
  clear hS hsub hpoint
  induction l with
  | nil => rfl
  | cons b l ih => by_cases hb : p b = true <;> simp [hb, ih]

end Sums

section Registry
variable {M : Machine ε σ α κ} {registered : ε → σ → Bool} {counted : ε → σ → κ → Bool}

/-- A sum over the registry is one over the members that are registered. -/
theorem Registers.sum_registry (h : Registers M registered) (events : List (Event ε α))
    (f : Member ε σ → ℕ) :
    let s : System ε σ κ := System.start.exec M events
    ∑ i ∈ s.registry, s.members[i]?.elim 0 f =
      ((s.members.filter fun m => registered m.env m.state).map f).sum :=
  sum_positions (h.registry events) f

/-- A sum over the registry is bounded by a counter of the members that can be in it. -/
theorem Registers.sum_registry_le (h : Registers M registered) (hcounts : Counts M counted) {c : κ}
    (hreg : ∀ env state, registered env state = true → counted env state c = true)
    {f : Member ε σ → ℕ} {n : ℕ} (hf : ∀ m, M.Reachable m.env m.state → f m ≤ n) (events : List (Event ε α)) :
    let s : System ε σ κ := System.start.exec M events
    ((∑ i ∈ s.registry, s.members[i]?.elim 0 f : ℕ) : ℤ) ≤ n * s.counters c := by
  intro s
  have hle : ∀ x ∈ (s.members.filter fun m => registered m.env m.state).map f, x ≤ n := by
    intro x hx
    obtain ⟨m, hm, rfl⟩ := List.mem_map.mp hx
    exact hf m (members_reachable M events m (List.mem_of_mem_filter hm))
  have hlength : (s.members.filter fun m => registered m.env m.state).length ≤
      s.members.countP fun m => counted m.env m.state c := by
    rw [← List.countP_eq_length_filter]
    exact List.countP_mono_left fun m _ hm => hreg m.env m.state hm
  have hsum := List.sum_le_card_nsmul _ _ hle
  rw [List.length_map, nsmul_eq_mul, Nat.cast_id] at hsum
  rw [h.sum_registry events f, hcounts.census events c, mul_comm]
  exact_mod_cast hsum.trans (Nat.mul_le_mul_right _ hlength)

end Registry

/-- The machine, with a panic in place of some of its steps. -/
def Machine.guard (M : Machine ε σ α κ) (panics : ε → σ → α → Bool) : Machine ε (σ × Bool) α κ where
  start env := (M.start env, false)
  step env s act := if s.2 = true ∨ panics env s.1 act = true then (s.1, true) else (M.step env s.1 act, false)
  effects env s act := if s.2 = true ∨ panics env s.1 act = true then [] else M.effects env s.1 act
  fatal s := s.2 || M.fatal s.1

section Guard
variable {M : Machine ε σ α κ} {panics : ε → σ → α → Bool} {env : ε} {s : σ × Bool}

omit [DecidableEq κ] in
lemma guard_inv {P : σ → Prop} (hstart : P (M.start env))
    (hstep : ∀ s act, P s → panics env s act = false → P (M.step env s act))
    (h : (M.guard panics).Reachable env s) : P s.1 := by
  obtain ⟨acts, rfl⟩ := h
  induction acts using List.reverseRecOn with
  | nil => exact hstart
  | append_singleton acts act ih =>
    rw [List.foldl_concat]
    generalize acts.foldl ((M.guard panics).step env) ((M.guard panics).start env) = s at ih ⊢
    by_cases hp : s.2 = true ∨ panics env s.1 act = true
    · simpa [Machine.guard, hp] using ih
    · have hact := hstep s.1 act ih (Bool.eq_false_iff.mpr fun h => hp (.inr h))
      simpa [Machine.guard, hp] using hact

omit [DecidableEq κ] in
lemma Machine.Reachable.of_guard (h : (M.guard panics).Reachable env s) : M.Reachable env s.1 :=
  guard_inv (reachable_start M env) (fun _ act hs _ => hs.step act) h

lemma Counts.guard {counted : ε → σ → κ → Bool} (h : Counts M counted) (panics : ε → σ → α → Bool) :
    Counts (M.guard panics) fun env s c => counted env s.1 c where
  start := h.start
  step env s act c hs := by
    by_cases hp : s.2 = true ∨ panics env s.1 act = true
    · simp [Machine.guard, hp, net]
    · simpa [Machine.guard, hp] using h.step env s.1 act c hs.of_guard

lemma guard_crash {t : System ε (σ × Bool) κ} {i : ℕ} {act : α} (hm : t.members[i]? = some ⟨env, s⟩)
    (hp : panics env s.1 act = true) (later : List (Event ε α)) :
    (t.exec (M.guard panics) (.step i act :: later)).stage = .crashed := by
  have hcrash : (t.act (M.guard panics) (.step i act)).stage = .crashed := by
    by_cases hlive : t.stage = .crashed
    · simp [System.act, hlive]
    · simp [System.act, hlive, hm, Machine.guard, hp]
  have hexec : t.exec (M.guard panics) (.step i act :: later) =
      (t.act (M.guard panics) (.step i act)).exec (M.guard panics) later := rfl
  rw [hexec, exec_crashed _ later hcrash, hcrash]

end Guard

end ShadowProxy.Fleet
