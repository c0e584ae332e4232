import Mathlib

/-! Indexing and slicing with the checks a runtime makes. Positions are integers, since they may be
differences; an access that fails its check ends the computation. -/
namespace ShadowProxy.CheckedSlice

/-- An index out of range, a lower bound that is negative or above the upper one, and an upper bound
past the end. -/
inductive Fault
  | index
  | inverted
  | beyond
  deriving DecidableEq, Repr

abbrev Checked (α : Type) := Except Fault α

@[simp] lemma ok_bind {α β : Type} (a : α) (f : α → Checked β) : (Except.ok a >>= f) = f a := rfl

@[simp] lemma error_bind {α β : Type} (e : Fault) (f : α → Checked β) :
    (Except.error e >>= f) = .error e := rfl

section Access
variable {α : Type} {b : List α}

/-- The element `b[i]`. -/
def index (b : List α) : ℤ → Checked α
  | .ofNat i =>
    match b[i]? with
    | some a => .ok a
    | none => .error .index
  | .negSucc _ => .error .index

/-- The slice `b[lo:hi]`. -/
def slice (b : List α) (lo hi : ℤ) : Checked (List α) :=
  if lo < 0 ∨ hi < lo then .error .inverted
  else if b.length < hi then .error .beyond
  else .ok ((b.take hi.toNat).drop lo.toNat)

lemma index_ok {i : ℕ} {a : α} (h : b[i]? = some a) : index b i = .ok a := by
  change (match b[i]? with | some a => Except.ok a | none => Except.error Fault.index) = .ok a
  rw [h]

lemma slice_ok {lo hi : ℤ} (h₀ : 0 ≤ lo) (h₁ : lo ≤ hi) (h₂ : hi ≤ b.length) :
    slice b lo hi = .ok ((b.take hi.toNat).drop lo.toNat) := by
  rw [slice, if_neg (by omega), if_neg (by omega)]

lemma slice_from {lo : ℤ} (h₀ : 0 ≤ lo) (h₁ : lo ≤ b.length) :
    slice b lo b.length = .ok (b.drop lo.toNat) := by
  rw [slice_ok h₀ h₁ le_rfl, Int.toNat_natCast, List.take_length]

lemma slice_to {hi : ℤ} (h₀ : 0 ≤ hi) (h₁ : hi ≤ b.length) :
    slice b 0 hi = .ok (b.take hi.toNat) := by
  rw [slice_ok le_rfl h₀ h₁]
  rfl

lemma slice_inverted {lo hi : ℤ} (h : hi < lo) : slice b lo hi = .error .inverted :=
  if_pos (.inr h)

end Access

section Scan
variable {α : Type} (keep : α → Bool) (b : List α)

/-- The loop `for pos < len(b) && keep(b[pos]) { pos++ }`. -/
def scan (pos : ℕ) : Checked ℕ :=
  if pos < b.length then do
    let a ← index b pos
    if keep a then scan (pos + 1) else .ok pos
  else .ok pos
  termination_by b.length - pos

lemma scan_eq (pos : ℕ) : scan keep b pos = .ok (pos + ((b.drop pos).takeWhile keep).length) := by
  induction hn : b.length - pos generalizing pos with
  | zero =>
    have hle : b.length ≤ pos := by omega
    rw [scan, if_neg (by omega), List.drop_of_length_le hle]
    rfl
  | succ n ih =>
    have hlt : pos < b.length := by omega
    rw [scan, if_pos hlt, index_ok (List.getElem?_eq_getElem hlt), ok_bind,
      List.drop_eq_getElem_cons hlt]
    cases hk : keep b[pos] with
    | true =>
      rw [if_pos rfl, ih (pos + 1) (by omega), List.takeWhile_cons_of_pos hk, List.length_cons,
        Nat.add_assoc, Nat.add_comm 1]
    | false =>
      have hno : ¬ keep b[pos] = true := by simp [hk]
      rw [if_neg (by decide), List.takeWhile_cons_of_neg hno]
      rfl

end Scan

end ShadowProxy.CheckedSlice
