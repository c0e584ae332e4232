import Mathlib.Data.List.Induction
import Mathlib.Data.List.Perm.Basic

/-! Sources that run side by side and write to one sink. A source has two writers, each with a stream of
its own; whatever the order in which the sources take their steps, the sink gets from each source what
the source has written, and nothing is mixed up between sources. -/
namespace ShadowProxy.SharedSink

variable {ξ σ α ε β τ : Type*}

structure Source (ξ σ α ε : Type*) where
  start : ξ → σ
  step : σ → α → σ
  front : σ → List ε
  back : σ → List ε

/-- The writers of a source only append, in states that satisfy the invariant. -/
structure Source.Appends (S : Source ξ σ α ε) (Inv : σ → Prop) : Prop where
  start : ∀ x, Inv (S.start x) ∧ S.front (S.start x) = [] ∧ S.back (S.start x) = []
  step : ∀ s a, Inv s →
    Inv (S.step s a) ∧ S.front s <+: S.front (S.step s a) ∧ S.back s <+: S.back (S.step s a)

def Source.written (S : Source ξ σ α ε) (s : σ) : List ε := S.front s ++ S.back s

def Source.since (S : Source ξ σ α ε) (s s' : σ) : List ε :=
  (S.front s').drop (S.front s).length ++ (S.back s').drop (S.back s).length

/-- An entry that the sink gets comes from a source; `τ` is what goes with it. Everything else that
happens to the sink is a `β`. -/
inductive Input (ε β τ : Type*)
  | entry (i : ℕ) (t : τ) (e : ε)
  | other (b : β)

structure System (σ ε β τ : Type*) where
  members : List σ
  inputs : List (Input ε β τ)

inductive Event (ξ α β τ : Type*)
  | join (x : ξ)
  | step (i : ℕ) (a : α) (t : τ)
  | other (b : β)

def System.act (S : Source ξ σ α ε) (p : System σ ε β τ) : Event ξ α β τ → System σ ε β τ
  | .join x => { p with members := p.members ++ [S.start x] }
  | .step i a t =>
    match p.members[i]? with
    | none => p
    | some s =>
      ⟨p.members.set i (S.step s a), p.inputs ++ (S.since s (S.step s a)).map (Input.entry i t)⟩
  | .other b => { p with inputs := p.inputs ++ [.other b] }

def System.run (S : Source ξ σ α ε) (events : List (Event ξ α β τ)) : System σ ε β τ :=
  events.foldl (System.act S) ⟨[], []⟩

def Input.of (i : ℕ) : Input ε β τ → Option ε
  | .entry j _ e => if j = i then some e else none
  | .other _ => none

@[simp] lemma of_entry (i j : ℕ) (t : τ) (e : ε) :
    (Input.entry j t e : Input ε β τ).of i = if j = i then some e else none := rfl

@[simp] lemma of_other (i : ℕ) (b : β) : (Input.other b : Input ε β τ).of i = none := rfl

section Run
variable {S : Source ξ σ α ε} {Inv : σ → Prop}

lemma since_perm {s s' : σ} (hfront : S.front s <+: S.front s') (hback : S.back s <+: S.back s') :
    (S.written s ++ S.since s s').Perm (S.written s') := by
  obtain ⟨f, hf⟩ := hfront
  obtain ⟨b, hb⟩ := hback
  have hsince : S.since s s' = f ++ b := by simp [Source.since, ← hf, ← hb]
  rw [hsince, Source.written, Source.written, ← hf, ← hb, List.append_assoc, List.append_assoc]
  refine List.Perm.append_left _ ?_
  rw [← List.append_assoc, ← List.append_assoc]
  exact List.perm_append_comm.append_right b

lemma filterMap_of_self (i : ℕ) (t : τ) (es : List ε) :
    (es.map (Input.entry i t : ε → Input ε β τ)).filterMap (Input.of i) = es := by
  induction es with
  | nil => rfl
  | cons e es ih => simp [ih]

lemma filterMap_of_ne {i j : ℕ} (h : i ≠ j) (t : τ) (es : List ε) :
    (es.map (Input.entry i t : ε → Input ε β τ)).filterMap (Input.of j) = [] := by
  induction es with
  | nil => rfl
  | cons e es ih => simp [h]

/-- What holds of the members and the inputs together. -/
structure Feeds (S : Source ξ σ α ε) (Inv : σ → Prop) (p : System σ ε β τ) : Prop where
  inv : ∀ s ∈ p.members, Inv s
  fed : ∀ i s, p.members[i]? = some s → (p.inputs.filterMap (Input.of i)).Perm (S.written s)
  rest : ∀ i, p.members.length ≤ i → p.inputs.filterMap (Input.of i) = []

lemma Feeds.join {p : System σ ε β τ} (h : Feeds S Inv p) (hS : S.Appends Inv) (x : ξ) :
    Feeds S Inv (p.act S (.join x)) where
  inv := by
    intro s hs
    obtain hs | hs := List.mem_append.mp hs
    · exact h.inv s hs
    · rw [List.mem_singleton.mp hs]
      exact (hS.start x).1
  fed := by
    intro i s hs
    by_cases hi : i < p.members.length
    · rw [System.act, List.getElem?_append_left hi] at hs
      exact h.fed i s hs
    · have hle := Nat.not_lt.mp hi
      rw [System.act, List.getElem?_append_right hle] at hs
      obtain rfl := List.mem_singleton.mp (List.mem_of_getElem? hs)
      obtain ⟨-, hfront, hback⟩ := hS.start x
      change (p.inputs.filterMap (Input.of i)).Perm _
      rw [h.rest i hle, Source.written, hfront, hback]
      exact List.Perm.refl _
  rest := by
    intro i hi
    refine h.rest i (Nat.le_trans ?_ hi)
    simp [System.act]

lemma Feeds.step {p : System σ ε β τ} (h : Feeds S Inv p) (hS : S.Appends Inv) (i : ℕ) (a : α) (t : τ) :
    Feeds S Inv (p.act S (.step i a t)) := by
  cases hm : p.members[i]? with
  | none => simpa only [System.act, hm] using h
  | some s =>
    have hlt := (List.getElem?_eq_some_iff.mp hm).1
    obtain ⟨hinv, hfront, hback⟩ := hS.step s a (h.inv s (List.mem_of_getElem? hm))
    simp only [System.act, hm]
    refine ⟨?_, ?_, ?_⟩
    · intro s' hs'
      obtain hs' | rfl := List.mem_or_eq_of_mem_set hs'
      · exact h.inv s' hs'
      · exact hinv
    · intro j s' hs'
      rw [List.filterMap_append]
      by_cases hj : i = j
      · subst hj
        obtain rfl : S.step s a = s' := by simpa [List.getElem?_set_self hlt] using hs'
        rw [filterMap_of_self]
        exact ((h.fed i s hm).append_right _).trans (since_perm hfront hback)
      · rw [List.getElem?_set_ne hj] at hs'
        rw [filterMap_of_ne hj, List.append_nil]
        exact h.fed j s' hs'
    · intro j hj
      rw [List.length_set] at hj
      rw [List.filterMap_append, h.rest j hj, filterMap_of_ne (by omega), List.append_nil]

/-- In every run, the sink has got from each source what the source has written. -/
theorem run_feeds (hS : S.Appends Inv) (events : List (Event ξ α β τ)) :
    Feeds S Inv (System.run S events : System σ ε β τ) := by
  induction events using List.reverseRecOn with
  | nil => exact ⟨by simp [System.run], by simp [System.run], by simp [System.run]⟩
  | append_singleton events event ih =>
    rw [System.run, List.foldl_concat, ← System.run]
    cases event with
    | join x => exact ih.join hS x
    | step i a t => exact ih.step hS i a t
    | other b =>
      have hof : ∀ i, ([.other b] : List (Input ε β τ)).filterMap (Input.of i) = [] := fun i => rfl
      refine ⟨ih.inv, fun i s hs => ?_, fun i hi => ?_⟩
      · simpa only [System.act, List.filterMap_append, hof, List.append_nil] using ih.fed i s hs
      · simpa only [System.act, List.filterMap_append, hof, List.append_nil] using ih.rest i hi

/-- A source that runs alone, with what happens to the sink after that. -/
theorem run_alone (hS : S.Appends Inv) (x : ξ) (acts : List α) (t : τ) (others : List β) :
    ∃ es : List ε, es.Perm (S.written (acts.foldl S.step (S.start x))) ∧
      System.run S (.join x :: acts.map (Event.step 0 · t) ++ others.map .other) =
        ⟨[acts.foldl S.step (S.start x)], es.map (.entry 0 t) ++ others.map .other⟩ := by
  have hsteps : ∃ es : List ε, (System.run S (.join x :: acts.map (Event.step 0 · t)) : System σ ε β τ) =
      ⟨[acts.foldl S.step (S.start x)], es.map (.entry 0 t)⟩ := by
    induction acts using List.reverseRecOn with
    | nil => exact ⟨[], rfl⟩
    | append_singleton acts act ih =>
      obtain ⟨es, hes⟩ := ih
      have hrun : (System.run S (.join x :: (acts ++ [act]).map (Event.step 0 · t)) : System σ ε β τ) =
          (System.run S (.join x :: acts.map (Event.step 0 · t))).act S (.step 0 act t) := by
        simp [System.run]
      rw [hrun, hes, List.foldl_concat]
      exact ⟨es ++ S.since _ _, by simp only [System.act, List.map_append]; rfl⟩
  obtain ⟨es, hes⟩ := hsteps
  have hfed := (run_feeds hS (.join x :: acts.map (Event.step 0 · t) : List (Event ξ α β τ))).fed 0
  rw [hes] at hfed
  refine ⟨es, ?_, ?_⟩
  · simpa only [filterMap_of_self] using hfed _ rfl
  · rw [System.run, List.foldl_append, ← System.run, hes]
    induction others using List.reverseRecOn with
    | nil => simp
    | append_singleton others b ih =>
      rw [List.map_append, List.foldl_append, ih]
      simp [System.act]

end Run

end ShadowProxy.SharedSink
