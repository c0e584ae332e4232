import Mathlib.Data.List.Basic

/-! The words of a text: the maximal stretches without a blank, up to the first stop. -/
namespace ShadowProxy.WordFields

variable {α : Type*}

section Definition
variable (blank stop : α → Bool)

/-- The word that is being read is closed, if there is one. -/
def closeWord (cur : List α) : List (List α) := if cur.isEmpty then [] else [cur]

/-- The words of a text that is read with `cur` in front of it. -/
def fieldsFrom : List α → List α → List (List α)
  | cur, [] => closeWord cur
  | cur, c :: s =>
    if stop c then closeWord cur
    else if blank c then closeWord cur ++ fieldsFrom [] s
    else fieldsFrom (cur ++ [c]) s

def fields (s : List α) : List (List α) := fieldsFrom blank stop [] s

def Inner (w : List α) : Prop := ∀ c ∈ w, blank c = false ∧ stop c = false

def Breaks (s : List α) : Prop := ∀ c ∈ s.head?, blank c = true ∨ stop c = true

end Definition

variable {blank stop : α → Bool} {c : α} {cur s t w : List α}

@[simp] lemma closeWord_nil : closeWord ([] : List α) = [] := rfl

lemma closeWord_of_ne_nil (h : cur ≠ []) : closeWord cur = [cur] := by
  simp [closeWord, h]

lemma mem_closeWord : w ∈ closeWord cur ↔ cur ≠ [] ∧ w = cur := by
  by_cases h : cur = []
  · simp [h]
  · simp [closeWord_of_ne_nil h, h]

@[simp] lemma fields_nil : fields blank stop [] = [] := rfl

lemma fields_stop (h : stop c = true) (s : List α) : fields blank stop (c :: s) = [] := by
  simp [fields, fieldsFrom, h]

lemma fields_blank (h : blank c = true) (s : List α) :
    fields blank stop (c :: s) = if stop c then [] else fields blank stop s := by
  simp [fields, fieldsFrom, h]

lemma fieldsFrom_inner (hw : Inner blank stop w) (cur s : List α) :
    fieldsFrom blank stop cur (w ++ s) = fieldsFrom blank stop (cur ++ w) s := by
  induction w generalizing cur with
  | nil => simp
  | cons c w ih =>
    obtain ⟨⟨hblank, hstop⟩, hw⟩ := List.forall_mem_cons.mp hw
    simp [fieldsFrom, hblank, hstop, ih hw]

lemma fieldsFrom_breaks (hs : Breaks blank stop s) (cur : List α) :
    fieldsFrom blank stop cur s = closeWord cur ++ fields blank stop s := by
  cases s with
  | nil => simp [fields, fieldsFrom]
  | cons c s =>
    have hc := hs c rfl
    simp only [fields, fieldsFrom]
    split_ifs with hstop hblank
    · simp
    · simp
    · simp [hstop, hblank] at hc

lemma fields_word (hw : Inner blank stop w) (hne : w ≠ []) (hs : Breaks blank stop s) :
    fields blank stop (w ++ s) = w :: fields blank stop s := by
  rw [fields, fieldsFrom_inner hw, fieldsFrom_breaks hs, List.nil_append, closeWord_of_ne_nil hne,
    List.singleton_append]

lemma exists_fields_cons (hblank : blank c = false) (hstop : stop c = false) (s : List α) :
    ∃ w ws, fields blank stop (c :: s) = (c :: w) :: ws := by
  have hgrow : ∀ (s cur : List α), ∃ w ws, fieldsFrom blank stop (c :: cur) s = (c :: w) :: ws := by
    intro s
    induction s with
    | nil => exact fun cur => ⟨cur, [], rfl⟩
    | cons d s ih =>
      intro cur
      simp only [fieldsFrom]
      split_ifs
      · exact ⟨cur, [], rfl⟩
      · exact ⟨cur, _, rfl⟩
      · exact ih (cur ++ [d])
  obtain ⟨w, ws, h⟩ := hgrow s []
  exact ⟨w, ws, by simpa [fields, fieldsFrom, hblank, hstop] using h⟩

lemma fields_inner (h : w ∈ fields blank stop s) : w ≠ [] ∧ Inner blank stop w := by
  have hall : ∀ (s cur : List α), Inner blank stop cur → ∀ w ∈ fieldsFrom blank stop cur s,
      w ≠ [] ∧ Inner blank stop w := by
    intro s
    induction s with
    | nil =>
      intro cur hcur w hw
      obtain ⟨hne, rfl⟩ := mem_closeWord.mp hw
      exact ⟨hne, hcur⟩
    | cons c s ih =>
      intro cur hcur w hw
      have hclose : w ∈ closeWord cur → w ≠ [] ∧ Inner blank stop w := by
        intro hw
        obtain ⟨hne, rfl⟩ := mem_closeWord.mp hw
        exact ⟨hne, hcur⟩
      simp only [fieldsFrom] at hw
      split_ifs at hw with hstop hblank
      · exact hclose hw
      · exact (List.mem_append.mp hw).elim hclose (ih [] (by simp [Inner]) w)
      · refine ih _ ?_ w hw
        intro d hd
        rcases List.mem_append.mp hd with hd | hd
        · exact hcur d hd
        · rw [List.mem_singleton.mp hd]
          exact ⟨by simpa using hblank, by simpa using hstop⟩
  exact hall s [] (by simp [Inner]) w h

lemma fields_append_breaks (s : List α) (ht : Breaks blank stop t) :
    fields blank stop (s ++ t) =
      fields blank stop s ++ if s.any stop then [] else fields blank stop t := by
  have hall : ∀ (s cur : List α), fieldsFrom blank stop cur (s ++ t) =
      fieldsFrom blank stop cur s ++ if s.any stop then [] else fields blank stop t := by
    intro s
    induction s with
    | nil => intro cur; simp [fieldsFrom, fieldsFrom_breaks ht]
    | cons c s ih =>
      intro cur
      simp only [List.cons_append, fieldsFrom, List.any_cons]
      split_ifs <;> simp_all
  exact hall s []

lemma fields_blanks (hs : ∀ c ∈ s, blank c = true ∧ stop c = false) (t : List α) :
    fields blank stop (s ++ t) = fields blank stop t := by
  induction s with
  | nil => rfl
  | cons c s ih =>
    obtain ⟨⟨hblank, hstop⟩, hs⟩ := List.forall_mem_cons.mp hs
    simp [fields_blank hblank, hstop, ih hs]

end ShadowProxy.WordFields
