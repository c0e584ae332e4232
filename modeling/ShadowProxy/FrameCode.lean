import Mathlib.Data.List.Infix
import Mathlib.Data.Set.Defs

/-! Words that delimit themselves: when no word of a code begins another one, the words can be told
from their concatenation, also when it is cut off somewhere. -/
namespace ShadowProxy.FrameCode

variable {α : Type*}

structure PrefixFree (C : Set (List α)) : Prop where
  ne_nil : ∀ x ∈ C, x ≠ []
  eq_of_isPrefix : ∀ x ∈ C, ∀ y ∈ C, x <+: y → x = y

/-- Words whose concatenation begins that of other words are the first of those. -/
theorem PrefixFree.align {C : Set (List α)} (h : PrefixFree C) {xs ys : List (List α)}
    (hx : ∀ x ∈ xs, x ∈ C) (hy : ∀ y ∈ ys, y ∈ C) (hpre : xs.flatten <+: ys.flatten) : xs <+: ys := by
  induction xs generalizing ys with
  | nil => exact List.nil_prefix
  | cons x xs ih =>
    obtain ⟨hx₁, hxs⟩ := List.forall_mem_cons.mp hx
    rw [List.flatten_cons] at hpre
    have hstart := (List.prefix_append x xs.flatten).trans hpre
    cases ys with
    | nil => exact absurd (List.prefix_nil.mp hstart) (h.ne_nil x hx₁)
    | cons y ys =>
      obtain ⟨hy₁, hys⟩ := List.forall_mem_cons.mp hy
      rw [List.flatten_cons] at hpre hstart
      have heq : x = y := by
        rcases List.prefix_or_prefix_of_prefix hstart (List.prefix_append y ys.flatten) with hxy | hyx
        · exact h.eq_of_isPrefix x hx₁ y hy₁ hxy
        · exact (h.eq_of_isPrefix y hy₁ x hx₁ hyx).symm
      subst heq
      rw [List.prefix_append_right_inj] at hpre
      exact List.prefix_cons_inj x |>.mpr (ih hxs hys hpre)

end ShadowProxy.FrameCode
