import ShadowProxy.ShadowFilter

/-! `strings.TrimSpace` on byte strings. The encodings of the blank characters form a code, of which
none is the beginning or the end of another. -/
namespace ShadowProxy.SqlTrim
open WordBytes ShadowFilter

section Code
variable {seps : List Bytes}

/-- No separator is the beginning of another, and none is empty. -/
structure PrefixCode (seps : List Bytes) : Prop where
  ne_nil : ∀ e ∈ seps, e ≠ []
  free : ∀ e ∈ seps, ∀ e' ∈ seps, e <+: e' → e = e'

def Run (seps : List Bytes) (s : Bytes) : Prop := ∃ es : List Bytes, (∀ e ∈ es, e ∈ seps) ∧ s = es.flatten

def dropSeps (seps : List Bytes) (s : Bytes) : Bytes := dropFront seps s.length s

lemma PrefixCode.find?_eq_some (h : PrefixCode seps) {e : Bytes} (he : e ∈ seps) (s : Bytes) :
    seps.find? (·.isPrefixOf (e ++ s)) = some e := by
  cases hf : seps.find? (·.isPrefixOf (e ++ s)) with
  | none =>
    have hno := List.find?_eq_none.mp hf e he
    simp at hno
  | some e' =>
    have hmem := List.mem_of_find?_eq_some hf
    have hleft : e' <+: e ++ s := by simpa using List.find?_some hf
    rcases List.prefix_or_prefix_of_prefix hleft (List.prefix_append e s) with h' | h'
    · rw [h.free e' hmem e he h']
    · rw [h.free e he e' hmem h']

lemma find?_eq_none_iff {s : Bytes} :
    seps.find? (·.isPrefixOf s) = none ↔ ∀ e ∈ seps, ¬ e <+: s := by
  simp [List.find?_eq_none]

lemma PrefixCode.dropFront_fuel (h : PrefixCode seps) {n m : ℕ} {s : Bytes} (hn : s.length ≤ n)
    (hm : s.length ≤ m) : dropFront seps n s = dropFront seps m s := by
  induction n generalizing m s with
  | zero =>
    obtain rfl := List.eq_nil_of_length_eq_zero (Nat.le_zero.mp hn)
    have hnone : seps.find? (·.isPrefixOf ([] : Bytes)) = none := by
      simpa [find?_eq_none_iff] using h.ne_nil
    cases m <;> simp [dropFront, hnone]
  | succ n ih =>
    cases m with
    | zero =>
      obtain rfl := List.eq_nil_of_length_eq_zero (Nat.le_zero.mp hm)
      have hnone : seps.find? (·.isPrefixOf ([] : Bytes)) = none := by
        simpa [find?_eq_none_iff] using h.ne_nil
      simp [dropFront, hnone]
    | succ m =>
      simp only [dropFront]
      split
      · rfl
      next e he =>
        have hpos : 0 < e.length := List.length_pos_of_ne_nil (h.ne_nil e (List.mem_of_find?_eq_some he))
        exact ih (by simp only [List.length_drop]; omega) (by simp only [List.length_drop]; omega)

lemma dropSeps_of_none {s : Bytes} (hs : ∀ e ∈ seps, ¬ e <+: s) : dropSeps seps s = s := by
  unfold dropSeps
  cases s with
  | nil => rfl
  | cons b s =>
    rw [List.length_cons, dropFront]
    simp only [find?_eq_none_iff.mpr hs]

lemma PrefixCode.dropSeps_sep (h : PrefixCode seps) {e : Bytes} (he : e ∈ seps) (s : Bytes) :
    dropSeps seps (e ++ s) = dropSeps seps s := by
  have hpos : 0 < e.length := List.length_pos_of_ne_nil (h.ne_nil e he)
  obtain ⟨n, hn⟩ : ∃ n, (e ++ s).length = n + 1 := ⟨(e ++ s).length - 1, by simp only [List.length_append]; omega⟩
  rw [dropSeps, hn, dropFront]
  simp only [h.find?_eq_some he, List.drop_left]
  exact h.dropFront_fuel (by simp only [List.length_append] at hn; omega) le_rfl

lemma PrefixCode.dropSeps_run (h : PrefixCode seps) {r : Bytes} (hr : Run seps r) (s : Bytes) :
    dropSeps seps (r ++ s) = dropSeps seps s := by
  obtain ⟨es, hes, rfl⟩ := hr
  induction es with
  | nil => rfl
  | cons e es ih =>
    obtain ⟨he, hes⟩ := List.forall_mem_cons.mp hes
    rw [List.flatten_cons, List.append_assoc, h.dropSeps_sep he, ih hes]

lemma PrefixCode.exists_run (h : PrefixCode seps) (s : Bytes) :
    ∃ r, Run seps r ∧ s = r ++ dropSeps seps s ∧ ∀ e ∈ seps, ¬ e <+: dropSeps seps s := by
  induction hn : s.length using Nat.strong_induction_on generalizing s with
  | _ n ih =>
    by_cases hnone : ∀ e ∈ seps, ¬ e <+: s
    · exact ⟨[], ⟨[], by simp, rfl⟩, by simp [dropSeps_of_none hnone], by rwa [dropSeps_of_none hnone]⟩
    · obtain ⟨e, he, s', rfl⟩ : ∃ e ∈ seps, e <+: s := by simpa using hnone
      have hpos : 0 < e.length := List.length_pos_of_ne_nil (h.ne_nil e he)
      obtain ⟨r, ⟨es, hes, rfl⟩, hsplit, hno⟩ := ih s'.length
        (by simp only [List.length_append] at hn; omega) s' rfl
      rw [h.dropSeps_sep he]
      refine ⟨e ++ es.flatten, ⟨e :: es, ?_, rfl⟩, ?_, hno⟩
      · exact List.forall_mem_cons.mpr ⟨he, hes⟩
      · rw [List.append_assoc, ← hsplit]

end Code

section Trim

/-- Separators that can be told apart from both ends: each is a single ASCII byte or has none of
these, and what one starts with does not stand inside of another. -/
structure TwoWayCode (seps : List Bytes) : Prop where
  front : PrefixCode seps
  back : PrefixCode (seps.map List.reverse)
  wide : ∀ e ∈ seps, e.length = 1 ∨ e.all (0x80 ≤ ·)
  heads : ∀ e ∈ seps, ∀ e' ∈ seps, e'.tail.all fun b => e.head? ≠ some b

/-- The text does not start with a separator. -/
def Flush (seps : List Bytes) (s : Bytes) : Prop := ∀ e ∈ seps, ¬ e <+: s

/-- The text does not end with a separator. -/
def Shut (seps : List Bytes) (s : Bytes) : Prop := ∀ e ∈ seps, ¬ e <:+ s

def trimRight (seps : List Bytes) (s : Bytes) : Bytes :=
  (dropSeps (seps.map List.reverse) s.reverse).reverse

def trim (seps : List Bytes) (s : Bytes) : Bytes := trimRight seps (dropSeps seps s)

variable {seps : List Bytes} {r s t x y : Bytes} {b : UInt8}

lemma Run.nil : Run seps [] := ⟨[], by simp, rfl⟩

lemma Run.append (hx : Run seps x) (hy : Run seps y) : Run seps (x ++ y) := by
  obtain ⟨es, hes, rfl⟩ := hx
  obtain ⟨es', hes', rfl⟩ := hy
  refine ⟨es ++ es', ?_, by simp⟩
  intro e he
  exact (List.mem_append.mp he).elim (hes e) (hes' e)

lemma Run.reverse (h : Run seps r) : Run (seps.map List.reverse) r.reverse := by
  obtain ⟨es, hes, rfl⟩ := h
  refine ⟨(es.map List.reverse).reverse, ?_, by rw [List.reverse_flatten]⟩
  intro e he
  obtain ⟨e', he', rfl⟩ := List.mem_map.mp (List.mem_reverse.mp he)
  exact List.mem_map_of_mem (hes e' he')

lemma Run.of_reverse (h : Run (seps.map List.reverse) r) : Run seps r.reverse := by
  have h' := h.reverse
  rwa [List.map_map, List.reverse_involutive.comp_self, List.map_id] at h'

lemma Flush.of_prefix (h : Flush seps s) (ht : t <+: s) : Flush seps t := fun e he hleft =>
  h e he (hleft.trans ht)

lemma trimRight_of_shut (h : Shut seps s) : trimRight seps s = s := by
  rw [trimRight, dropSeps_of_none, List.reverse_reverse]
  intro e he hleft
  obtain ⟨e', he', rfl⟩ := List.mem_map.mp he
  exact h e' he' (List.reverse_prefix.mp hleft)

lemma trim_of_flush (hs : Flush seps s) : trim seps s = trimRight seps s := by
  rw [trim, dropSeps_of_none hs]

lemma trim_of_trimmed (hs : Flush seps s) (hs' : Shut seps s) : trim seps s = s := by
  rw [trim_of_flush hs, trimRight_of_shut hs']

namespace TwoWayCode
variable (h : TwoWayCode seps)
include h

lemma high {e : Bytes} (he : e ∈ seps) (hlen : e.length ≠ 1) (hb : b ∈ e) : 0x80 ≤ b := by
  have hall := (h.wide e he).resolve_left hlen
  exact of_decide_eq_true (List.all_eq_true.mp hall b hb)

lemma trimRight_run (hr : Run seps r) (s : Bytes) : trimRight seps (s ++ r) = trimRight seps s := by
  rw [trimRight, List.reverse_append, h.back.dropSeps_run hr.reverse, trimRight]

lemma exists_trimRight (s : Bytes) :
    ∃ r, Run seps r ∧ s = trimRight seps s ++ r ∧ Shut seps (trimRight seps s) := by
  obtain ⟨r, hr, hsplit, hno⟩ := h.back.exists_run s.reverse
  refine ⟨r.reverse, hr.of_reverse, ?_, ?_⟩
  · rw [trimRight, ← List.reverse_append, ← hsplit, List.reverse_reverse]
  · intro e he hsuffix
    refine hno e.reverse (List.mem_map_of_mem he) ?_
    rw [trimRight] at hsuffix
    simpa using List.reverse_prefix.mpr hsuffix

lemma trimRight_prefix (s : Bytes) : trimRight seps s <+: s := by
  obtain ⟨r, -, hsplit, -⟩ := h.exists_trimRight s
  exact ⟨r, hsplit.symm⟩

/-- A text is trimmed at the end of its last part, unless nothing is left of that; the parts must
not divide a separator. -/
lemma trimRight_append (hxy : (∀ b ∈ x.getLast?, b < 0x80) ∨ ∀ b ∈ y.head?, b < 0x80) :
    trimRight seps (x ++ y) =
      if trimRight seps y = [] then trimRight seps x else x ++ trimRight seps y := by
  obtain ⟨r, hr, hy, hshut⟩ := h.exists_trimRight y
  split_ifs with hnil
  · rw [hnil, List.nil_append] at hy
    rw [hy, h.trimRight_run hr]
  · have hsplit : x ++ y = (x ++ trimRight seps y) ++ r := by rw [List.append_assoc, ← hy]
    rw [hsplit, h.trimRight_run hr]
    refine trimRight_of_shut fun e he hsuffix => ?_
    rcases List.suffix_or_suffix_of_suffix hsuffix (List.suffix_append x _) with h' | ⟨x₁, rfl⟩
    · exact hshut e he h'
    · obtain ⟨z, hz⟩ := hsuffix
      rw [← List.append_assoc] at hz
      have hx : z ++ x₁ = x := List.append_cancel_right hz
      rcases List.eq_nil_or_concat x₁ with rfl | ⟨x₁, b, rfl⟩
      · exact hshut _ he (List.suffix_refl _)
      · obtain ⟨c, t, hc⟩ := List.exists_cons_of_ne_nil hnil
        have hhead : y.head? = some c := by rw [hy, hc]; rfl
        rw [List.concat_eq_append] at he hx
        have hlen : (x₁ ++ [b] ++ trimRight seps y).length ≠ 1 := by
          simp only [hc, List.length_append, List.length_cons]
          omega
        rcases hxy with hlow | hlow
        · have hb : x.getLast? = some b := by rw [← hx, ← List.append_assoc, List.getLast?_concat]
          exact absurd (hlow b hb) (UInt8.not_lt.mpr (h.high he hlen (by simp)))
        · exact absurd (hlow c hhead) (UInt8.not_lt.mpr (h.high he hlen (by simp [hc])))

lemma flush_append_run (hr : Run seps r) (hx : x ≠ []) (hflush : Flush seps x) :
    Flush seps (x ++ r) := by
  intro e he hleft
  rcases List.prefix_or_prefix_of_prefix hleft (List.prefix_append _ _) with h' | ⟨e₁, rfl⟩
  · exact hflush e he h'
  · obtain ⟨b, x, rfl⟩ := List.exists_cons_of_ne_nil hx
    obtain ⟨es, hes, rfl⟩ := hr
    have hrest : e₁ <+: es.flatten := (List.prefix_append_right_inj _).mp hleft
    cases e₁ with
    | nil => exact hflush _ he (by simp)
    | cons c e₁ =>
      cases es with
      | nil => simp at hrest
      | cons e' es =>
        obtain ⟨he', -⟩ := List.forall_mem_cons.mp hes
        obtain ⟨d, e', rfl⟩ := List.exists_cons_of_ne_nil (h.front.ne_nil e' he')
        obtain ⟨rfl, -⟩ := List.cons_prefix_cons.mp hrest
        have hhead := List.all_eq_true.mp (h.heads _ he' _ he) c (by simp)
        simp at hhead

lemma trim_left (hr : Run seps r) (s : Bytes) : trim seps (r ++ s) = trim seps s := by
  rw [trim, h.front.dropSeps_run hr, trim]

lemma flush_append_ascii (hx : x ≠ []) (hflush : Flush seps x) (hy : ∀ b ∈ y.head?, b < 0x80) :
    Flush seps (x ++ y) := by
  intro e he hleft
  rcases List.prefix_or_prefix_of_prefix hleft (List.prefix_append _ _) with h' | ⟨e₁, rfl⟩
  · exact hflush e he h'
  · cases e₁ with
    | nil => exact hflush _ he (by simp)
    | cons c e₁ =>
      have hpos : 0 < x.length := List.length_pos_of_ne_nil hx
      have hlen : (x ++ c :: e₁).length ≠ 1 := by
        simp only [List.length_append, List.length_cons]
        omega
      obtain ⟨z, rfl⟩ := (List.prefix_append_right_inj _).mp hleft
      exact absurd (hy c rfl) (UInt8.not_lt.mpr (h.high he hlen (by simp)))

lemma exists_trim (s : Bytes) : ∃ r r', Run seps r ∧ Run seps r' ∧ s = r ++ (trim seps s ++ r') ∧
    Flush seps (trim seps s) ∧ Shut seps (trim seps s) := by
  obtain ⟨r, hr, hs, hflush⟩ := h.front.exists_run s
  obtain ⟨r', hr', hs', hshut⟩ := h.exists_trimRight (dropSeps seps s)
  refine ⟨r, r', hr, hr', ?_, ?_, hshut⟩
  · rw [trim, ← hs', ← hs]
  · exact Flush.of_prefix hflush ⟨r', hs'.symm⟩

lemma trim_eq_nil_iff : trim seps s = [] ↔ Run seps s := by
  constructor
  · intro hnil
    obtain ⟨r, r', hr, hr', hs, -⟩ := h.exists_trim s
    rw [hnil, List.nil_append] at hs
    rw [hs]
    exact hr.append hr'
  · intro hs
    have htrim := h.trim_left hs []
    rwa [List.append_nil] at htrim

lemma trim_right (hr : Run seps r) (s : Bytes) : trim seps (s ++ r) = trim seps s := by
  obtain ⟨r₁, r₂, hr₁, hr₂, hs, hflush, hshut⟩ := h.exists_trim s
  by_cases hnil : trim seps s = []
  · rw [hnil, h.trim_eq_nil_iff]
    exact (h.trim_eq_nil_iff.mp hnil).append hr
  · have hsplit : s ++ r = r₁ ++ (trim seps s ++ (r₂ ++ r)) := by
      conv_lhs => rw [hs]
      simp only [List.append_assoc]
    rw [hsplit, h.trim_left hr₁, trim_of_flush (h.flush_append_run (hr₂.append hr) hnil hflush),
      h.trimRight_run (hr₂.append hr), trimRight_of_shut hshut]

lemma trim_trimRight (s : Bytes) : trim seps (trimRight seps s) = trim seps s := by
  obtain ⟨r, hr, hs, -⟩ := h.exists_trimRight s
  have htrim := h.trim_right hr (trimRight seps s)
  rw [← hs] at htrim
  exact htrim.symm

lemma trim_idem (s : Bytes) : trim seps (trim seps s) = trim seps s := by
  obtain ⟨r, r', -, -, -, hflush, hshut⟩ := h.exists_trim s
  exact trim_of_trimmed hflush hshut

end TwoWayCode

end Trim

section Spaces
variable {r s x y : Bytes} {b : UInt8}

/-- A text made of blank characters. -/
abbrev Spaces (r : Bytes) : Prop := Run spaceEncodings r

lemma spaceEncodings_apart :
    (∀ e ∈ spaceEncodings, ∀ e' ∈ spaceEncodings, (e <+: e' → e = e') ∧
      (e.reverse <+: e'.reverse → e.reverse = e'.reverse) ∧ e'.tail.all fun b => e.head? ≠ some b) ∧
    ∀ e ∈ spaceEncodings, e.length = 1 ∨ e.all (0x80 ≤ ·) := by decide +kernel

lemma spaces_code : TwoWayCode spaceEncodings where
  front := ⟨by decide, fun e he e' he' => (spaceEncodings_apart.1 e he e' he').1⟩
  back := by
    refine ⟨by decide, fun e he e' he' => ?_⟩
    obtain ⟨d, hd, rfl⟩ := List.mem_map.mp he
    obtain ⟨d', hd', rfl⟩ := List.mem_map.mp he'
    exact (spaceEncodings_apart.1 d hd d' hd').2.1
  wide := spaceEncodings_apart.2
  heads := fun e he e' he' => (spaceEncodings_apart.1 e he e' he').2.2

lemma trimSpace_eq (s : Bytes) : trimSpace s = trim spaceEncodings s := by
  simp only [trimSpace, trim, trimRight, dropSeps, List.length_reverse]

def isInk (b : UInt8) : Bool := b < 0x80 && !spaceEncodings.contains [b]

lemma isInk_iff : isInk b = true ↔ b < 0x80 ∧ [b] ∉ spaceEncodings := by
  simp [isInk]

lemma not_mem_of_ink (hb : isInk b = true) {e : Bytes} (he : e ∈ spaceEncodings) : b ∉ e := by
  obtain ⟨hlow, hsep⟩ : b < 0x80 ∧ [b] ∉ spaceEncodings := isInk_iff.mp hb
  intro hmem
  by_cases hone : e.length = 1
  · obtain ⟨c, rfl⟩ := List.length_eq_one_iff.mp hone
    rw [List.mem_singleton.mp hmem] at hsep
    exact hsep he
  · exact absurd hlow (UInt8.not_lt.mpr (spaces_code.high he hone hmem))

lemma shut_of_ink (hb : isInk b = true) (s : Bytes) : Shut spaceEncodings (s ++ [b]) := by
  intro e he hsuffix
  rcases List.suffix_concat_iff.mp hsuffix with rfl | ⟨t, rfl, -⟩
  · exact spaces_code.front.ne_nil [] he rfl
  · exact not_mem_of_ink hb he (List.mem_append_right _ (List.mem_singleton_self b))

lemma trimRight_ink_append (hb : isInk b = true) (x y : Bytes) :
    trimRight spaceEncodings (x ++ [b] ++ y) = x ++ [b] ++ trimRight spaceEncodings y := by
  have hlow : ∀ c ∈ (x ++ [b]).getLast?, c < 0x80 := by
    intro c hc
    obtain rfl : b = c := by simpa using hc
    exact (isInk_iff.mp hb).1
  rw [spaces_code.trimRight_append (.inl hlow), trimRight_of_shut (shut_of_ink hb x)]
  split_ifs with hnil
  · simp [hnil]
  · rfl

lemma flush_of_ink (hb : isInk b = true) (s : Bytes) : Flush spaceEncodings (b :: s) := by
  intro e he hleft
  rcases List.prefix_cons_iff.mp hleft with rfl | ⟨t, rfl, -⟩
  · exact spaces_code.front.ne_nil [] he rfl
  · exact not_mem_of_ink hb he List.mem_cons_self

lemma spaces_of_blank (hr : ∀ b ∈ r, isBlank b = true) : Spaces r := by
  refine ⟨r.map fun b => [b], ?_, ?_⟩
  swap
  · rw [← List.flatMap_def, List.flatMap_singleton']
  intro e he
  obtain ⟨b, hb, rfl⟩ := List.mem_map.mp he
  have hblank : b = space ∨ b = 0x09 ∨ b = newline ∨ b = 0x0D := of_decide_eq_true (hr b hb)
  rcases hblank with rfl | rfl | rfl | rfl <;> decide

end Spaces

end ShadowProxy.SqlTrim
