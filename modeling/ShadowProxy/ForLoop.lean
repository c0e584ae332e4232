import Mathlib

/-! A loop without a condition: its body returns or goes round again with another state. -/
namespace ShadowProxy.ForLoop

/-- How one turn of the body ends. -/
inductive Turn (σ ρ : Type*)
  | next (s : σ)
  | done (r : ρ)

/-- The loop started in a state returns a value after finitely many turns. -/
inductive Returns {σ ρ : Type*} (body : σ → Turn σ ρ) : σ → ρ → Prop
  | done {s : σ} {r : ρ} (h : body s = .done r) : Returns body s r
  | next {s s' : σ} {r : ρ} (h : body s = .next s') (hr : Returns body s' r) : Returns body s r

/-- A function that makes as many turns as its first argument allows. -/
def Unrolls {σ ρ : Type*} (body : σ → Turn σ ρ) (loop : ℕ → σ → ρ) : Prop :=
  ∀ n s, loop (n + 1) s = match body s with
    | .done r => r
    | .next s' => loop n s'

def Falls {σ ρ : Type*} (body : σ → Turn σ ρ) (μ : σ → ℕ) : Prop :=
  ∀ s s', body s = .next s' → μ s' < μ s

section Rules
variable {σ ρ : Type*} {body : σ → Turn σ ρ} {loop : ℕ → σ → ρ} {μ : σ → ℕ} {s : σ} {r r' : ρ}

theorem Returns.unique (h : Returns body s r) (h' : Returns body s r') : r = r' := by
  induction h with
  | done h =>
    cases h' with
    | done h' =>
      rw [h] at h'
      exact Turn.done.inj h'
    | next h' =>
      rw [h] at h'
      cases h'
  | next h hr ih =>
    cases h' with
    | done h' =>
      rw [h] at h'
      cases h'
    | next h' hr' =>
      rw [h] at h'
      cases h'
      exact ih hr'

/-- With more fuel than the measure the function is the loop. -/
theorem returns_loop (hloop : Unrolls body loop) (hμ : Falls body μ) {n : ℕ} (hn : μ s < n) :
    Returns body s (loop n s) := by
  induction n generalizing s with
  | zero => omega
  | succ n ih =>
    rw [hloop]
    cases hs : body s with
    | done r => exact .done hs
    | next s' =>
      have hlt := hμ s s' hs
      exact .next hs (ih (by omega))

theorem returns_iff (hloop : Unrolls body loop) (hμ : Falls body μ) {n : ℕ} (hn : μ s < n) :
    Returns body s r ↔ r = loop n s := by
  constructor
  · intro h
    exact h.unique (returns_loop hloop hμ hn)
  · rintro rfl
    exact returns_loop hloop hμ hn

theorem loop_fuel (hloop : Unrolls body loop) (hμ : Falls body μ) {n m : ℕ} (hn : μ s < n)
    (hm : μ s < m) : loop n s = loop m s :=
  (returns_loop hloop hμ hn).unique (returns_loop hloop hμ hm)

theorem loop_done (hloop : Unrolls body loop) (h : body s = .done r) (n : ℕ) : loop (n + 1) s = r := by
  rw [hloop, h]

theorem loop_next (hloop : Unrolls body loop) (hμ : Falls body μ) {s' : σ} (h : body s = .next s') :
    loop (μ s + 1) s = loop (μ s' + 1) s' := by
  rw [hloop, h]
  exact loop_fuel hloop hμ (hμ s s' h) (Nat.lt_succ_self _)

end Rules

end ShadowProxy.ForLoop
