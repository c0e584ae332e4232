import Mathlib.Algebra.Ring.Nat
import Mathlib.Data.List.Induction

/-! Properties of a finite history of events that look back at the last time something
happened, the rule that ties such a property to a flag of a state machine, and a bound on the
number of events that do anything. -/
namespace ShadowProxy.EventHistory

variable {α σ : Type*}

lemma concat_eq_append_cons {h a b : List α} {x y : α} :
    h ++ [x] = a ++ y :: b ↔ (a = h ∧ y = x ∧ b = []) ∨ ∃ b', b = b' ++ [x] ∧ h = a ++ y :: b' := by
  constructor
  · intro heq
    rcases List.eq_nil_or_concat b with rfl | ⟨b', z, rfl⟩
    · obtain ⟨rfl, hxy⟩ := List.append_inj' heq rfl
      obtain rfl : x = y := by simpa using hxy
      exact .inl ⟨rfl, rfl, rfl⟩
    · have heq' : h ++ [x] = (a ++ y :: b') ++ [z] := by simpa using heq
      obtain ⟨rfl, hxz⟩ := List.append_inj' heq' rfl
      obtain rfl : x = z := by simpa using hxz
      exact .inr ⟨b', by simp, rfl⟩
  · rintro (⟨rfl, rfl, rfl⟩ | ⟨b', rfl, rfl⟩)
    · rfl
    · simp

/-- Some event satisfied `φ`, which may depend on the events before it, and no later event
satisfied `ψ`. -/
def Since (φ : List α → α → Prop) (ψ : α → Prop) (h : List α) : Prop :=
  ∃ a x b, h = a ++ x :: b ∧ φ a x ∧ ∀ y ∈ b, ¬ ψ y

section Since
variable {φ : List α → α → Prop} {ψ : α → Prop}

@[simp] lemma since_nil : ¬ Since φ ψ [] := by
  rintro ⟨a, x, b, h, -, -⟩
  simp at h

@[simp] lemma since_concat (h : List α) (x : α) :
    Since φ ψ (h ++ [x]) ↔ φ h x ∨ (Since φ ψ h ∧ ¬ ψ x) := by
  constructor
  · rintro ⟨a, y, b, heq, hy, hb⟩
    obtain ⟨rfl, rfl, rfl⟩ | ⟨b', rfl, rfl⟩ := concat_eq_append_cons.mp heq
    · exact .inl hy
    · exact .inr ⟨⟨a, y, b', rfl, hy, fun w hw => hb w (by simp [hw])⟩, hb x (by simp)⟩
  · rintro (hx | ⟨⟨a, y, b, rfl, hy, hb⟩, hx⟩)
    · exact ⟨h, x, [], rfl, hx, by simp⟩
    · refine ⟨a, y, b ++ [x], by simp, hy, ?_⟩
      simpa [or_imp, forall_and] using ⟨hb, hx⟩

end Since

/-- Every event of the history satisfied `Q` together with the events before it. -/
def EachStep (Q : List α → α → Prop) (h : List α) : Prop := ∀ a x b, h = a ++ x :: b → Q a x

section EachStep
variable {Q : List α → α → Prop}

@[simp] lemma eachStep_nil : EachStep Q [] := by
  intro a x b h
  simp at h

@[simp] lemma eachStep_concat (h : List α) (x : α) :
    EachStep Q (h ++ [x]) ↔ EachStep Q h ∧ Q h x := by
  constructor
  · intro hall
    refine ⟨fun a y b heq => hall a y (b ++ [x]) (by simp [heq]), hall h x [] rfl⟩
  · rintro ⟨hall, hx⟩ a y b heq
    obtain ⟨rfl, rfl, rfl⟩ | ⟨b', rfl, heq'⟩ := concat_eq_append_cons.mp heq
    · exact hx
    · exact hall a y b' heq'

lemma EachStep.of_append {a b : List α} (h : EachStep Q (a ++ b)) : EachStep Q a :=
  fun c x d heq => h c x (d ++ b) (by simp [heq])

lemma eachStep_of_take {h : List α} (hall : ∀ k < h.length, ∀ x, Q (h.take k) x) : EachStep Q h := by
  rintro a x b rfl
  have := hall a.length (by simp) x
  rwa [List.take_left] at this

end EachStep

section Accumulate
variable {β : Type*}

/-- Run through the events with a value that each event updates; the update may depend on the
events before it. -/
def accumFrom (f : List α → β → α → β) : List α → β → List α → β
  | _, b, [] => b
  | before, b, x :: xs => accumFrom f (before ++ [x]) (f before b x) xs

def accum (f : List α → β → α → β) (b : β) (h : List α) : β := accumFrom f [] b h

lemma accumFrom_concat (f : List α → β → α → β) (before h : List α) (b : β) (x : α) :
    accumFrom f before b (h ++ [x]) = f (before ++ h) (accumFrom f before b h) x := by
  induction h generalizing before b with
  | nil => simp [accumFrom]
  | cons y ys ih => simp [accumFrom, ih]

@[simp] lemma accum_nil (f : List α → β → α → β) (b : β) : accum f b [] = b := rfl

@[simp] lemma accum_concat (f : List α → β → α → β) (b : β) (h : List α) (x : α) :
    accum f b (h ++ [x]) = f h (accum f b h) x := by
  simp [accum, accumFrom_concat]

end Accumulate

/-- A flag of a state machine that each event sets or clears, as `φ` and `ψ` say, is set exactly
when the last such event has set it. -/
theorem foldl_iff_since {step : σ → α → σ} {init : σ} {φ : List α → α → Prop} {ψ : α → Prop}
    (flag : σ → Prop) {h : List α} (hinit : ¬ flag init)
    (hstep : EachStep (fun a x =>
      flag (step (a.foldl step init) x) ↔ φ a x ∨ (flag (a.foldl step init) ∧ ¬ ψ x)) h) :
    flag (h.foldl step init) ↔ Since φ ψ h := by
  induction h using List.reverseRecOn with
  | nil => simpa using hinit
  | append_singleton h x ih =>
    rw [eachStep_concat] at hstep
    rw [List.foldl_append, List.foldl_cons, List.foldl_nil, hstep.2, since_concat, ih hstep.1]

/-- What holds of a state machine in the end and did not hold at the start came about at some
event. -/
theorem exists_rise {step : σ → α → σ} {init : σ} (flag : σ → Prop) {h : List α}
    (hinit : ¬ flag init) (hflag : flag (h.foldl step init)) :
    ∃ a x b, h = a ++ x :: b ∧ ¬ flag (a.foldl step init) ∧ flag (step (a.foldl step init) x) := by
  induction h using List.reverseRecOn with
  | nil => exact absurd hflag hinit
  | append_singleton h x ih =>
    by_cases hbefore : flag (h.foldl step init)
    · obtain ⟨a, y, b, rfl, ha, hy⟩ := ih hbefore
      exact ⟨a, y, b ++ [x], by simp, ha, hy⟩
    · rw [List.foldl_append] at hflag
      exact ⟨h, x, [], rfl, hbefore, hflag⟩

/-- Every event of the list that `own` picks out does something. -/
def Busy (step : σ → α → σ) (own : α → Bool) : σ → List α → Prop
  | _, [] => True
  | s, x :: h => (own x = true → step s x ≠ s) ∧ Busy step own (step s x) h

/-- If each event that does something lowers a rank, and the others raise it by their cost at most,
then the rank bounds how many such events there are. -/
theorem Busy.count_le {step : σ → α → σ} {own : α → Bool} (inv : σ → Prop) (rank : σ → ℕ) (cost : α → ℕ)
    (hstep : ∀ s x, inv s → (own x = true → step s x ≠ s) →
      inv (step s x) ∧ rank (step s x) + (own x).toNat ≤ rank s + cost x)
    {s : σ} {h : List α} (hs : inv s) (hbusy : Busy step own s h) :
    inv (h.foldl step s) ∧ rank (h.foldl step s) + h.countP own ≤ rank s + (h.map cost).sum := by
  induction h generalizing s with
  | nil => exact ⟨hs, Nat.le_refl _⟩
  | cons x h ih =>
    obtain ⟨hx, hbusy⟩ := hbusy
    obtain ⟨hnext, hrank⟩ := hstep s x hs hx
    obtain ⟨hlast, hle⟩ := ih hnext hbusy
    have hcount : (x :: h).countP own = h.countP own + (own x).toNat := by
      cases hown : own x <;> simp [hown]
    refine ⟨hlast, ?_⟩
    rw [List.foldl_cons, hcount, List.map_cons, List.sum_cons]
    omega

lemma Busy.of_image {β : Type*} {step : σ → α → σ} (f : σ → β) (own : α → Bool) {s : σ} {h : List α}
    (hne : ∀ k < h.length, f ((h.take (k + 1)).foldl step s) ≠ f ((h.take k).foldl step s)) :
    Busy step own s h := by
  induction h generalizing s with
  | nil => trivial
  | cons x h ih =>
    refine ⟨fun _ hsame => hne 0 (by simp) (congrArg f hsame), ih fun k hk => ?_⟩
    have hk' := hne (k + 1) (by simpa using hk)
    simpa using hk'

end ShadowProxy.EventHistory
