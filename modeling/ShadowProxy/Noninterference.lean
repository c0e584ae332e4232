import Mathlib.Data.List.Infix

/-! Two systems that take the same actions and show a view of their state. Some actions are visible;
if they do the same to the view in both systems and the other actions do not touch it, what a run
shows depends on its visible actions only. -/
namespace ShadowProxy.Noninterference

variable {σ₁ σ₂ α ω β : Type*}

structure Unwinds (visible : α → Bool) (view₁ : σ₁ → ω) (step₁ : σ₁ → α → σ₁) (view₂ : σ₂ → ω)
    (step₂ : σ₂ → α → σ₂) : Prop where
  consistent : ∀ s t a, visible a = true → view₁ s = view₂ t → view₁ (step₁ s a) = view₂ (step₂ t a)
  hidden₁ : ∀ s a, visible a = false → view₁ (step₁ s a) = view₁ s
  hidden₂ : ∀ t a, visible a = false → view₂ (step₂ t a) = view₂ t

section Unwinds
variable {visible : α → Bool} {view₁ : σ₁ → ω} {step₁ : σ₁ → α → σ₁} {view₂ : σ₂ → ω}
  {step₂ : σ₂ → α → σ₂} {s : σ₁} {t : σ₂} {acts₁ acts₂ : List α}

lemma Unwinds.purge (h : Unwinds visible view₁ step₁ view₂ step₂) (hst : view₁ s = view₂ t)
    (acts : List α) :
    view₁ (acts.foldl step₁ s) = view₂ ((acts.filter visible).foldl step₂ t) := by
  induction acts generalizing s t with
  | nil => exact hst
  | cons a acts ih =>
    cases ha : visible a with
    | true =>
      rw [List.filter_cons_of_pos ha]
      exact ih (h.consistent s t a ha hst)
    | false =>
      rw [List.filter_cons_of_neg (by simp [ha])]
      exact ih ((h.hidden₁ s a ha).trans hst)

lemma Unwinds.symm (h : Unwinds visible view₁ step₁ view₂ step₂) :
    Unwinds visible view₂ step₂ view₁ step₁ :=
  ⟨fun t s a ha hts => (h.consistent s t a ha hts.symm).symm, h.hidden₂, h.hidden₁⟩

lemma Unwinds.self (h : Unwinds visible view₁ step₁ view₂ step₂) (hst : view₁ s = view₂ t)
    (acts : List α) :
    view₂ (acts.foldl step₂ t) = view₂ ((acts.filter visible).foldl step₂ t) := by
  rw [h.symm.purge hst.symm acts, h.purge hst, List.filter_filter]
  simp

/-- Runs with the same visible actions show the same. -/
theorem Unwinds.view_eq (h : Unwinds visible view₁ step₁ view₂ step₂) (hst : view₁ s = view₂ t)
    (hacts : acts₁.filter visible = acts₂.filter visible) :
    view₁ (acts₁.foldl step₁ s) = view₂ (acts₂.foldl step₂ t) := by
  rw [h.purge hst, h.self hst acts₂, hacts]

/-- When the visible actions of one run are the first of the other, so is what comes out of it. -/
theorem Unwinds.output_isPrefix (h : Unwinds visible view₁ step₁ view₂ step₂) (hst : view₁ s = view₂ t)
    (hacts : acts₁.filter visible <+: acts₂.filter visible) (output : ω → List β)
    (hout : ∀ t a, output (view₂ t) <+: output (view₂ (step₂ t a))) :
    output (view₁ (acts₁.foldl step₁ s)) <+: output (view₂ (acts₂.foldl step₂ t)) := by
  obtain ⟨more, hmore⟩ := hacts
  have hgrow : ∀ (more : List α) (t : σ₂), output (view₂ t) <+: output (view₂ (more.foldl step₂ t)) := by
    intro more
    induction more with
    | nil => exact fun t => List.prefix_rfl
    | cons a more ih => exact fun t => (hout t a).trans (ih _)
  rw [h.purge hst, h.self hst acts₂, ← hmore, List.foldl_append]
  exact hgrow more _

/-- If moreover nothing can come out of the first run any more, the same has come out of both. -/
theorem Unwinds.final_output_eq (h : Unwinds visible view₁ step₁ view₂ step₂) (hst : view₁ s = view₂ t)
    (hacts : acts₁.filter visible <+: acts₂.filter visible) (output : ω → β) (final : ω → Prop)
    (hfinal : ∀ t a, final (view₂ t) →
      final (view₂ (step₂ t a)) ∧ output (view₂ (step₂ t a)) = output (view₂ t))
    (hend : final (view₁ (acts₁.foldl step₁ s))) :
    output (view₁ (acts₁.foldl step₁ s)) = output (view₂ (acts₂.foldl step₂ t)) := by
  obtain ⟨more, hmore⟩ := hacts
  have hstay : ∀ (more : List α) (t : σ₂), final (view₂ t) →
      output (view₂ (more.foldl step₂ t)) = output (view₂ t) := by
    intro more
    induction more with
    | nil => exact fun t _ => rfl
    | cons a more ih =>
      intro t ht
      obtain ⟨hnext, hsame⟩ := hfinal t a ht
      exact (ih _ hnext).trans hsame
  have hpurge := h.purge hst acts₁
  rw [h.self hst acts₂, ← hmore, List.foldl_append, hpurge]
  exact (hstay more _ (hpurge ▸ hend)).symm

end Unwinds

end ShadowProxy.Noninterference
