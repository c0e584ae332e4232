import Mathlib.Data.List.Infix

/-! Texts that are cut at a separator, unless it stands within quotation marks or is escaped. A scan
with any memory comes first, then the scans that quotation marks call for, and last the comparison of
two of them, one of which knows an escape everywhere and the other one only in places. -/
namespace ShadowProxy.QuotedText

/-- A scan of a text that cuts it at some of its symbols. -/
structure Scanner (σ α : Type*) where
  step : σ → α → σ
  cuts : σ → α → Bool

namespace Scanner

section Parts
variable {σ α : Type*} (S : Scanner σ α) {s : σ} {c : α} {cur x y p : List α} {ps qs : List (List α)}

def run (s : σ) (x : List α) : σ := x.foldl S.step s

/-- The parts of a text that is scanned with `cur` in front of it. -/
def partsFrom : List α → σ → List α → List (List α)
  | cur, _, [] => [cur]
  | cur, s, c :: x =>
    if S.cuts s c then cur :: partsFrom [] (S.step s c) x else partsFrom (cur ++ [c]) (S.step s c) x

@[simp] lemma run_nil (s : σ) : S.run s [] = s := rfl

@[simp] lemma run_cons (s : σ) (c : α) (x : List α) : S.run s (c :: x) = S.run (S.step s c) x := rfl

lemma run_append (s : σ) (x y : List α) : S.run s (x ++ y) = S.run (S.run s x) y := by
  simp [run]

@[simp] lemma partsFrom_nil (cur : List α) (s : σ) : S.partsFrom cur s [] = [cur] := rfl

lemma partsFrom_cut (h : S.cuts s c = true) (cur x : List α) :
    S.partsFrom cur s (c :: x) = cur :: S.partsFrom [] (S.step s c) x := by
  rw [partsFrom, if_pos h]

lemma partsFrom_keep (h : S.cuts s c = false) (cur x : List α) :
    S.partsFrom cur s (c :: x) = S.partsFrom (cur ++ [c]) (S.step s c) x := by
  rw [partsFrom, if_neg (by simp [h])]

lemma exists_partsFrom (cur : List α) (s : σ) (x : List α) :
    ∃ ps y, S.partsFrom cur s x = ps ++ [y] := by
  induction x generalizing cur s with
  | nil => exact ⟨[], cur, rfl⟩
  | cons c x ih =>
    cases hc : S.cuts s c with
    | true =>
      obtain ⟨ps, y, h⟩ := ih [] (S.step s c)
      exact ⟨cur :: ps, y, by rw [S.partsFrom_cut hc, h, List.cons_append]⟩
    | false =>
      obtain ⟨ps, y, h⟩ := ih (cur ++ [c]) (S.step s c)
      exact ⟨ps, y, by rw [S.partsFrom_keep hc, h]⟩

lemma partsFrom_ne_nil (cur : List α) (s : σ) (x : List α) : S.partsFrom cur s x ≠ [] := by
  obtain ⟨ps, y, h⟩ := S.exists_partsFrom cur s x
  simp [h]

lemma partsFrom_append (h : S.partsFrom cur s x = ps ++ [y]) (z : List α) :
    S.partsFrom cur s (x ++ z) = ps ++ S.partsFrom y (S.run s x) z := by
  induction x generalizing cur s ps with
  | nil =>
    have h' : [] ++ [cur] = ps ++ [y] := h
    obtain ⟨rfl, hy⟩ := List.append_inj' h' rfl
    obtain rfl : cur = y := by simpa using hy
    rfl
  | cons c x ih =>
    rw [List.cons_append, run_cons]
    cases hc : S.cuts s c with
    | true =>
      rw [S.partsFrom_cut hc] at h ⊢
      obtain ⟨ps', y', h'⟩ := S.exists_partsFrom [] (S.step s c) x
      rw [h', ← List.cons_append] at h
      obtain ⟨rfl, hy⟩ := List.append_inj' h rfl
      obtain rfl : y' = y := by simpa using hy
      rw [ih h', List.cons_append]
    | false =>
      rw [S.partsFrom_keep hc] at h ⊢
      exact ih h

lemma partsFrom_cons (h : S.partsFrom x s y = p :: qs) (cur : List α) :
    S.partsFrom (cur ++ x) s y = (cur ++ p) :: qs := by
  induction y generalizing x s with
  | nil =>
    obtain ⟨rfl, rfl⟩ : x = p ∧ [] = qs := by simpa using h
    rfl
  | cons c y ih =>
    cases hc : S.cuts s c with
    | true =>
      rw [S.partsFrom_cut hc] at h ⊢
      obtain ⟨rfl, rfl⟩ := List.cons.inj h
      rfl
    | false =>
      rw [S.partsFrom_keep hc] at h ⊢
      rw [List.append_assoc]
      exact ih h

lemma mem_of_mem_partsFrom {b : α} (hp : p ∈ S.partsFrom cur s x) (hb : b ∈ p) : b ∈ cur ∨ b ∈ x := by
  induction x generalizing cur s with
  | nil =>
    obtain rfl : p = cur := by simpa using hp
    exact .inl hb
  | cons c x ih =>
    cases hc : S.cuts s c with
    | true =>
      rw [S.partsFrom_cut hc] at hp
      rcases List.mem_cons.mp hp with rfl | hp
      · exact .inl hb
      · exact .inr (List.mem_cons_of_mem c ((ih hp).resolve_left (by simp)))
    | false =>
      rw [S.partsFrom_keep hc] at hp
      rcases ih hp with h | h
      · rcases List.mem_append.mp h with h | h
        · exact .inl h
        · exact .inr (by simp [List.mem_singleton.mp h])
      · exact .inr (List.mem_cons_of_mem c h)

lemma partsFrom_single (h : S.partsFrom cur s x = [y]) : y = cur ++ x := by
  induction x generalizing cur s with
  | nil => simpa [eq_comm] using h
  | cons c x ih =>
    cases hc : S.cuts s c with
    | true =>
      rw [S.partsFrom_cut hc, List.cons.injEq] at h
      exact absurd h.2 (S.partsFrom_ne_nil _ _ _)
    | false =>
      rw [S.partsFrom_keep hc] at h
      simpa using ih h

lemma uncut_of_append (h : S.partsFrom cur s (x ++ y) = [p]) (z : List α) :
    S.partsFrom cur s x = [cur ++ x] ∧ S.partsFrom z (S.run s x) y = [z ++ y] := by
  obtain ⟨ps, w, hx⟩ := S.exists_partsFrom cur s x
  rw [S.partsFrom_append hx] at h
  obtain ⟨v, rest, hy⟩ := List.exists_cons_of_ne_nil (S.partsFrom_ne_nil w (S.run s x) y)
  rw [hy] at h
  have hnil : ps = [] ∧ rest = [] := by
    have hlen := congrArg List.length h
    simp only [List.length_append, List.length_cons, List.length_nil] at hlen
    exact ⟨List.length_eq_zero_iff.mp (by omega), List.length_eq_zero_iff.mp (by omega)⟩
  obtain ⟨rfl, rfl⟩ := hnil
  refine ⟨by rw [hx, List.nil_append, S.partsFrom_single hx], ?_⟩
  obtain ⟨v', rest', hz⟩ := List.exists_cons_of_ne_nil (S.partsFrom_ne_nil [] (S.run s x) y)
  have hw := S.partsFrom_cons hz w
  rw [List.append_nil, hy, List.cons.injEq] at hw
  have hlast := S.partsFrom_cons hz z
  rw [← hw.2, List.append_nil] at hlast
  rw [hlast, S.partsFrom_single hlast]

end Parts

section Separator
variable {σ α : Type*} (S : Scanner σ α) {sep : α} {s s₀ : σ} {cur x : List α}

lemma intercalate_partsFrom (hsep : ∀ s c, S.cuts s c = true → c = sep) (cur : List α) (s : σ)
    (x : List α) : List.intercalate [sep] (S.partsFrom cur s x) = cur ++ x := by
  induction x generalizing cur s with
  | nil => simp
  | cons c x ih =>
    cases hc : S.cuts s c with
    | true =>
      obtain ⟨v, rest, hv⟩ := List.exists_cons_of_ne_nil (S.partsFrom_ne_nil [] (S.step s c) x)
      have hx := ih [] (S.step s c)
      rw [S.partsFrom_cut hc, hv, List.intercalate_cons_cons, ← hv, hx, hsep s c hc]
      simp
    | false =>
      rw [S.partsFrom_keep hc, ih]
      simp

lemma partsFrom_eq_append_iff (hsep : ∀ s c, S.cuts s c = true → c = sep) {a b : List α} :
    (∃ l r, l ≠ [] ∧ r ≠ [] ∧ S.partsFrom [] s x = l ++ r ∧ a = List.intercalate [sep] l ∧
      b = List.intercalate [sep] r) ↔ x = a ++ sep :: b ∧ S.cuts (S.run s a) sep = true := by
  constructor
  · have hall : ∀ (x cur : List α) (s : σ) (l r : List (List α)), l ≠ [] → r ≠ [] →
        S.partsFrom cur s x = l ++ r → ∃ a', List.intercalate [sep] l = cur ++ a' ∧
          x = a' ++ sep :: List.intercalate [sep] r ∧ S.cuts (S.run s a') sep = true := by
      intro x
      induction x with
      | nil =>
        intro cur s l r hl hr h
        have hlen := congrArg List.length h
        simp only [partsFrom_nil, List.length_append, List.length_cons, List.length_nil] at hlen
        have := List.length_pos_of_ne_nil hl
        have := List.length_pos_of_ne_nil hr
        omega
      | cons c x ih =>
        intro cur s l r hl hr h
        cases hc : S.cuts s c with
        | true =>
          rw [S.partsFrom_cut hc] at h
          obtain rfl := hsep s c hc
          obtain ⟨v, l, rfl⟩ := List.exists_cons_of_ne_nil hl
          rw [List.cons_append, List.cons.injEq] at h
          obtain ⟨rfl, h⟩ := h
          by_cases hnil : l = []
          · subst hnil
            rw [List.nil_append] at h
            have hx := S.intercalate_partsFrom hsep [] (S.step s c) x
            rw [h] at hx
            exact ⟨[], by simp, by simp [hx], hc⟩
          · obtain ⟨a', ha, hx, hcut⟩ := ih [] _ l r hnil hr h
            obtain ⟨w, l, rfl⟩ := List.exists_cons_of_ne_nil hnil
            refine ⟨c :: a', ?_, by rw [hx, List.cons_append], hcut⟩
            rw [List.intercalate_cons_cons, ha]
            simp
        | false =>
          rw [S.partsFrom_keep hc] at h
          obtain ⟨a', ha, hx, hcut⟩ := ih _ _ l r hl hr h
          exact ⟨c :: a', by simp [ha], by rw [hx, List.cons_append], hcut⟩
    rintro ⟨l, r, hl, hr, h, rfl, rfl⟩
    obtain ⟨a', ha, hx, hcut⟩ := hall x [] s l r hl hr h
    rw [List.nil_append] at ha
    rw [ha]
    exact ⟨hx, hcut⟩
  · rintro ⟨rfl, hcut⟩
    obtain ⟨ps, y, ha⟩ := S.exists_partsFrom [] s a
    refine ⟨S.partsFrom [] s a, S.partsFrom [] (S.step (S.run s a) sep) b, S.partsFrom_ne_nil _ _ _,
      S.partsFrom_ne_nil _ _ _, ?_, ?_, ?_⟩
    · rw [S.partsFrom_append ha, S.partsFrom_cut hcut, ha, List.append_assoc, List.singleton_append]
    · rw [S.intercalate_partsFrom hsep, List.nil_append]
    · rw [S.intercalate_partsFrom hsep, List.nil_append]

lemma uncut_of_mem_partsFrom (hnew : ∀ s c, S.cuts s c = true → S.step s c = s₀)
    (hcur : S.partsFrom [] s₀ cur = [cur]) {p : List α}
    (hp : p ∈ S.partsFrom cur (S.run s₀ cur) x) : S.partsFrom [] s₀ p = [p] := by
  induction x generalizing cur with
  | nil =>
    obtain rfl : p = cur := by simpa using hp
    exact hcur
  | cons c x ih =>
    cases hc : S.cuts (S.run s₀ cur) c with
    | true =>
      rw [S.partsFrom_cut hc, hnew _ _ hc] at hp
      rcases List.mem_cons.mp hp with rfl | hp
      · exact hcur
      · exact ih rfl hp
    | false =>
      rw [S.partsFrom_keep hc] at hp
      have hrun : S.step (S.run s₀ cur) c = S.run s₀ (cur ++ [c]) := by
        rw [S.run_append]
        rfl
      rw [hrun] at hp
      have happ := S.partsFrom_append ((List.nil_append [cur]).symm ▸ hcur) [c]
      refine ih ?_ hp
      rw [happ, S.partsFrom_keep hc]
      rfl

end Separator

lemma partsFrom_eq_of_sim {σ τ α : Type*} {S : Scanner σ α} {T : Scanner τ α}
    {R : σ → τ → List α → Prop}
    (hstep : ∀ {s t c x}, R s t (c :: x) → S.cuts s c = T.cuts t c ∧ R (S.step s c) (T.step t c) x)
    {s : σ} {t : τ} {x : List α} (h : R s t x) (cur : List α) :
    S.partsFrom cur s x = T.partsFrom cur t x := by
  induction x generalizing s t cur with
  | nil => rfl
  | cons c x ih =>
    obtain ⟨hcuts, hnext⟩ := hstep h
    rw [partsFrom, partsFrom, hcuts, ih hnext, ih hnext]

end Scanner

/-- How a language quotes: by which marks, and where the escape symbol has a meaning, which is told by
the mark of the quoted part, if any. -/
structure Dialect (α : Type*) where
  quotes : List α
  escapes : Option α → Bool

/-- Where a scan stands: in a part quoted with a mark or in none, and behind an escape or not. -/
structure Stand (α : Type*) where
  quote : Option α
  escaped : Bool
  deriving DecidableEq

/-- Where a lexer stands that takes a doubled mark within a quoted part for the mark itself: behind a
mark that ends the part it does not know yet whether the part is over. -/
inductive Place (α : Type*)
  | plain
  | quoted (mark : α)
  | closing (mark : α)

namespace Place
variable {α : Type*}

def quote : Place α → Option α
  | plain => none
  | quoted mark => some mark
  | closing _ => none

/-- What a symbol leaves of a place that is not the mark. -/
def settle : Place α → Place α
  | plain => plain
  | quoted mark => quoted mark
  | closing _ => plain

end Place

namespace Dialect

section Scans
variable {α : Type*} [DecidableEq α] (D : Dialect α) (esc sep : α)

def turn : Option α → α → Option α
  | none, c => if c ∈ D.quotes then some c else none
  | some mark, c => if c = mark then none else some mark

/-- The scan that goes in and out of quotes at each mark. -/
def scanner : Scanner (Stand α) α where
  step s c :=
    if s.escaped then ⟨s.quote, false⟩
    else if c = esc ∧ D.escapes s.quote then ⟨s.quote, true⟩
    else ⟨D.turn s.quote c, false⟩
  cuts s c := s.quote = none ∧ s.escaped = false ∧ c = sep

def read : Place α → α → Place α
  | .plain, c => if c ∈ D.quotes then .quoted c else .plain
  | .quoted mark, c => if c = mark then .closing mark else .quoted mark
  | .closing mark, c => if c = mark ∨ c ∈ D.quotes then .quoted c else .plain

def lexer : Scanner (Place α × Bool) α where
  step s c :=
    if s.2 then (s.1, false)
    else if c = esc ∧ D.escapes s.1.quote then (s.1.settle, true)
    else (D.read s.1 c, false)
  cuts s c := s.1.quote = none ∧ s.2 = false ∧ c = sep

def parts (x : List α) : List (List α) := (D.lexer esc sep).partsFrom [] (.plain, false) x

end Scans

section Doubled
variable {α : Type*} [DecidableEq α] {D : Dialect α} {esc sep : α}

/-- To take a doubled mark for the mark itself, or to leave the quoted part and enter one again, is
the same to the separators. -/
theorem parts_eq (x : List α) :
    D.parts esc sep x = (D.scanner esc sep).partsFrom [] ⟨none, false⟩ x := by
  refine Scanner.partsFrom_eq_of_sim (R := fun s t _ => s.1.quote = t.quote ∧ s.2 = t.escaped ∧
    ∀ mark, s.1 = .closing mark ∨ s.1 = .quoted mark → mark ∈ D.quotes) ?_ (by simp [Place.quote]) []
  rintro ⟨place, escaped⟩ ⟨quote, escaped'⟩ c x ⟨hquote, rfl, hmark⟩
  obtain rfl : place.quote = quote := hquote
  refine ⟨rfl, ?_⟩
  cases escaped with
  | true => simpa [lexer, scanner] using hmark
  | false =>
    by_cases hesc : c = esc ∧ D.escapes place.quote = true
    · cases place <;> simp_all [lexer, scanner, Place.settle, Place.quote]
    · simp only [lexer, scanner, if_neg hesc, Bool.false_eq_true, if_false, true_and]
      cases place with
      | plain =>
        by_cases hc : c ∈ D.quotes <;> simp [read, turn, Place.quote, hc]
      | quoted mark =>
        have hin := hmark mark (.inr rfl)
        by_cases hc : c = mark <;> simp [read, turn, Place.quote, hc, hin]
      | closing mark =>
        have hin := hmark mark (.inl rfl)
        by_cases hc : c ∈ D.quotes
        · simp [read, turn, Place.quote, hc]
        · have hne : c ≠ mark := fun h => hc (h ▸ hin)
          simp [read, turn, Place.quote, hc, hne]

end Doubled

section Wider
variable {α : Type*}

/-- The same marks, and an escape that has its meaning everywhere. -/
def everywhere (D : Dialect α) : Dialect α := ⟨D.quotes, fun _ => true⟩

/-- `C` knows the escape everywhere, and the marks `alien` besides those of `D`. -/
structure Wider (C D : Dialect α) (alien : List α) (esc sep : α) : Prop where
  escapes : ∀ quote, C.escapes quote = true
  quotes : ∀ c, c ∈ C.quotes ↔ c ∈ D.quotes ∨ c ∈ alien
  apart : ∀ c ∈ alien, c ∉ D.quotes
  esc_not_mem : esc ∉ C.quotes
  sep_not_mem : sep ∉ C.quotes
  esc_ne_sep : esc ≠ sep

lemma Wider.esc_not_mem' {C D : Dialect α} {alien : List α} {esc sep : α}
    (hw : Wider C D alien esc sep) : esc ∉ D.quotes := fun h =>
  hw.esc_not_mem ((hw.quotes esc).mpr (.inl h))

/-- Of two ways to cut one text, one ends in the part `[a]`, and the other in a part with the
separator. -/
def Parted (sep a : α) (ps qs : List (List α)) : Prop :=
  (ps.getLast? = some [a] ∧ ∃ y ∈ qs.getLast?, sep ∈ y) ∨
    (qs.getLast? = some [a] ∧ ∃ y ∈ ps.getLast?, sep ∈ y)

lemma Parted.cons {sep a : α} {ps qs : List (List α)} (h : Parted sep a ps qs) (p q : List α) :
    Parted sep a (p :: ps) (q :: qs) := by
  have hlast : ∀ (p : List α) {ps : List (List α)} {y : List α}, ps.getLast? = some y →
      (p :: ps).getLast? = some y := by
    intro p ps y h
    rw [List.getLast?_cons, h]
    rfl
  rcases h with ⟨hps, y, hqs, hy⟩ | ⟨hqs, y, hps, hy⟩
  · exact .inl ⟨hlast p hps, y, hlast q hqs, hy⟩
  · exact .inr ⟨hlast q hqs, y, hlast p hps, hy⟩

end Wider

section Compare
variable {α : Type*} [DecidableEq α] (D : Dialect α) (alien : List α) (esc sep : α)

def Matters : Option α → α → Prop
  | none, c => c = sep ∨ c ∈ D.quotes
  | some mark, c => c = mark

/-- Behind an escape that is none to `D` the symbol has no meaning to `D`, and elsewhere it is no mark
that `D` does not know. -/
def Alike (s : Stand α) (c : α) : Prop :=
  (s.escaped = true → D.escapes s.quote = false → ¬ D.Matters sep s.quote c) ∧
    (s.escaped = false → s.quote = none → c ∉ alien)

/-- The text reads alike with the marks `alien` and the escape everywhere. -/
def Fair : Stand α → List α → Prop
  | _, [] => True
  | s, c :: x => D.Alike alien sep s c ∧ Fair ((D.everywhere.scanner esc sep).step s c) x

instance (quote : Option α) (c : α) : Decidable (D.Matters sep quote c) :=
  match quote with
  | none => inferInstanceAs (Decidable (c = sep ∨ c ∈ D.quotes))
  | some mark => inferInstanceAs (Decidable (c = mark))

instance (s : Stand α) (c : α) : Decidable (D.Alike alien sep s c) := inferInstanceAs (Decidable (_ ∧ _))

instance decidableFair : ∀ (s : Stand α) (x : List α), Decidable (D.Fair alien esc sep s x)
  | _, [] => inferInstanceAs (Decidable True)
  | s, c :: x =>
    have := decidableFair ((D.everywhere.scanner esc sep).step s c) x
    inferInstanceAs (Decidable (D.Alike alien sep s c ∧ _))

/-- Where `D` stands if an escape that it does not know has been taken for one. -/
def view (s : Stand α) : Stand α := ⟨s.quote, s.escaped && D.escapes s.quote⟩

variable {C D : Dialect α} {alien : List α} {esc sep : α} {s : Stand α} {c : α}

lemma turn_of_not_matters {quote : Option α} (h : ¬ D.Matters sep quote c) : D.turn quote c = quote := by
  cases quote with
  | none => simp_all [Matters, turn]
  | some mark => simp_all [Matters, turn]

lemma scanner_step_escaped (quote : Option α) (c : α) :
    (D.scanner esc sep).step ⟨quote, true⟩ c = ⟨quote, false⟩ := rfl

lemma scanner_step_esc {quote : Option α} (h : D.escapes quote = true) :
    (D.scanner esc sep).step ⟨quote, false⟩ esc = ⟨quote, true⟩ := by
  simp [scanner, h]

lemma scanner_step_turn {quote : Option α} (h : c ≠ esc ∨ D.escapes quote = false) :
    (D.scanner esc sep).step ⟨quote, false⟩ c = ⟨D.turn quote c, false⟩ := by
  have hno : ¬ (c = esc ∧ D.escapes quote = true) := by
    rintro ⟨hc, he⟩
    simp_all
  simp only [scanner, if_neg hno]
  rfl

namespace Wider

lemma turn_esc (hw : Wider C D alien esc sep) {quote : Option α} (hq : ∀ mark ∈ quote, mark ∈ D.quotes) :
    D.turn quote esc = quote := by
  have hno : ¬ D.Matters sep quote esc := by
    cases quote with
    | none => exact fun h => h.elim hw.esc_ne_sep hw.esc_not_mem'
    | some mark => exact fun h => hw.esc_not_mem' (h ▸ hq mark rfl)
  exact turn_of_not_matters hno

lemma turn_eq (hw : Wider C D alien esc sep) {quote : Option α} (h : quote = none → c ∉ alien) :
    C.turn quote c = D.turn quote c := by
  cases quote with
  | none => simp [turn, hw.quotes, h rfl]
  | some mark => rfl

lemma mem_turn {quote : Option α} (hq : ∀ mark ∈ quote, mark ∈ D.quotes) :
    ∀ mark ∈ D.turn quote c, mark ∈ D.quotes := by
  intro mark hmark
  cases quote with
  | none =>
    by_cases hc : c ∈ D.quotes
    · obtain rfl : c = mark := by simpa [turn, hc] using hmark
      exact hc
    · simp [turn, hc] at hmark
  | some m =>
    by_cases hc : c = m
    · simp [turn, hc] at hmark
    · exact hq mark (by simpa [turn, hc] using hmark)

lemma step_alike (hw : Wider C D alien esc sep) (hq : ∀ mark ∈ s.quote, mark ∈ D.quotes)
    (h : D.Alike alien sep s c) :
    (C.scanner esc sep).step s c = (D.everywhere.scanner esc sep).step s c ∧
      (D.scanner esc sep).step (D.view s) c = D.view ((D.everywhere.scanner esc sep).step s c) ∧
      (C.scanner esc sep).cuts s c = (D.scanner esc sep).cuts (D.view s) c ∧
      ∀ mark ∈ ((D.everywhere.scanner esc sep).step s c).quote, mark ∈ D.quotes := by
  obtain ⟨quote, escaped⟩ := s
  cases escaped with
  | true =>
    refine ⟨rfl, ?_, ?_, hq⟩
    · cases he : D.escapes quote with
      | true => simp [view, he, scanner_step_escaped]
      | false =>
        have hm := h.1 rfl he
        simp only [view, he, Bool.and_false, scanner_step_escaped,
          scanner_step_turn (.inr he), turn_of_not_matters hm]
    · cases he : D.escapes quote with
      | true => simp [view, he, scanner]
      | false =>
        have hm := h.1 rfl he
        have hno : ¬ (quote = none ∧ c = sep) := by
          rintro ⟨rfl, rfl⟩
          exact hm (.inl rfl)
        simpa [view, he, scanner] using hno
  | false =>
    have hview : D.view ⟨quote, false⟩ = ⟨quote, false⟩ := rfl
    rw [hview]
    refine ⟨?_, ?_, rfl, ?_⟩
    all_goals by_cases hc : c = esc
    · subst hc
      rw [scanner_step_esc (hw.escapes _), scanner_step_esc rfl]
    · rw [scanner_step_turn (.inl hc), scanner_step_turn (.inl hc), hw.turn_eq (h.2 rfl)]
      rfl
    · subst hc
      rw [scanner_step_esc (D := D.everywhere) rfl]
      cases he : D.escapes quote with
      | true => rw [scanner_step_esc he, view, he]; rfl
      | false => rw [scanner_step_turn (.inr he), hw.turn_esc hq, view, he]; rfl
    · rw [scanner_step_turn (.inl hc), scanner_step_turn (.inl hc)]
      rfl
    · subst hc
      rw [scanner_step_esc rfl]
      exact hq
    · rw [scanner_step_turn (.inl hc)]
      exact mem_turn hq

/-- Of a fair text both make the same parts. -/
theorem partsFrom_eq (hw : Wider C D alien esc sep) (hq : ∀ mark ∈ s.quote, mark ∈ D.quotes)
    {x : List α} (h : D.Fair alien esc sep s x) (cur : List α) :
    (C.scanner esc sep).partsFrom cur s x = (D.scanner esc sep).partsFrom cur (D.view s) x := by
  refine Scanner.partsFrom_eq_of_sim (R := fun s t x => t = D.view s ∧
    (∀ mark ∈ s.quote, mark ∈ D.quotes) ∧ D.Fair alien esc sep s x) ?_ ⟨rfl, hq, h⟩ cur
  rintro s _ c x ⟨rfl, hq, hfair⟩
  obtain ⟨hC, hD, hcuts, hq'⟩ := hw.step_alike hq hfair.1
  exact ⟨hcuts, by rw [hC, hD], by rw [hC]; exact hq', by rw [hC]; exact hfair.2⟩

end Wider

lemma parts_outside {a : α} (hne : sep ≠ esc) (hsep : sep ∉ D.quotes) (ha : a ≠ sep) (cur : List α) :
    (D.scanner esc sep).partsFrom cur ⟨none, false⟩ [sep, a] = [cur, [a]] := by
  have hcut : (D.scanner esc sep).cuts ⟨none, false⟩ sep = true := by simp [scanner]
  have hkeep : (D.scanner esc sep).cuts ⟨none, false⟩ a = false := by simp [scanner, ha]
  rw [Scanner.partsFrom_cut _ hcut, scanner_step_turn (.inl hne)]
  have hturn : D.turn none sep = none := by simp [turn, hsep]
  rw [hturn, Scanner.partsFrom_keep _ hkeep]
  rfl

lemma parts_quoted {a mark : α} (hne : sep ≠ esc) (hsep : sep ≠ mark) (cur : List α) :
    (D.scanner esc sep).partsFrom cur ⟨some mark, false⟩ [sep, a] = [cur ++ [sep, a]] := by
  have hkeep : ∀ c, (D.scanner esc sep).cuts ⟨some mark, false⟩ c = false := fun c => by simp [scanner]
  have hturn : D.turn (some mark) sep = some mark := by simp [turn, hsep]
  rw [Scanner.partsFrom_keep _ (hkeep sep), scanner_step_turn (.inl hne), hturn,
    Scanner.partsFrom_keep _ (hkeep a)]
  simp

/-- Where a symbol does not read alike, there is a text behind it that is cut differently. -/
lemma Wider.parted_of_not_alike (hw : Wider C D alien esc sep) {a : α} (ha : a ≠ sep)
    (hq : ∀ mark ∈ s.quote, mark ∈ D.quotes) (h : ¬ D.Alike alien sep s c) (cur : List α) :
    c ≠ esc ∧ ∃ t, (t = [a] ∨ t = [sep, a]) ∧ Parted sep a
      ((C.scanner esc sep).partsFrom cur s (c :: t))
      ((D.scanner esc sep).partsFrom cur (D.view s) (c :: t)) := by
  have hsepC := hw.sep_not_mem
  have hsepD : sep ∉ D.quotes := fun h => hsepC ((hw.quotes sep).mpr (.inl h))
  have hne := hw.esc_ne_sep.symm
  obtain ⟨quote, escaped⟩ := s
  cases escaped with
  | true =>
    obtain ⟨he, hm⟩ : D.escapes quote = false ∧ D.Matters sep quote c := by
      simpa [Alike] using h
    have hview : D.view ⟨quote, true⟩ = ⟨quote, false⟩ := by simp [view, he]
    have hkeepC : (C.scanner esc sep).cuts ⟨quote, true⟩ c = false := by simp [scanner]
    have hturn : (D.scanner esc sep).step ⟨quote, false⟩ c = ⟨D.turn quote c, false⟩ :=
      scanner_step_turn (.inr he)
    cases quote with
    | none =>
      by_cases hc : c = sep
      · subst hc
        refine ⟨hw.esc_ne_sep.symm, [a], .inl rfl, .inr ⟨?_, cur ++ [c, a], ?_, by simp⟩⟩
        · have hcut : (D.scanner esc c).cuts ⟨none, false⟩ c = true := by simp [scanner]
          have hkeep : (D.scanner esc c).cuts ⟨D.turn none c, false⟩ a = false := by simp [scanner, ha]
          rw [hview, Scanner.partsFrom_cut _ hcut, hturn, Scanner.partsFrom_keep _ hkeep]
          rfl
        · have hkeep : (C.scanner esc c).cuts ⟨none, false⟩ a = false := by simp [scanner, ha]
          rw [Scanner.partsFrom_keep _ hkeepC, scanner_step_escaped, Scanner.partsFrom_keep _ hkeep]
          simp
      · have hmem : c ∈ D.quotes := hm.resolve_left hc
        have hkeep : (D.scanner esc sep).cuts ⟨none, false⟩ c = false := by simp [scanner, hc]
        have hin : D.turn none c = some c := by simp [turn, hmem]
        refine ⟨fun h => hw.esc_not_mem' (h ▸ hmem), [sep, a], .inr rfl,
          .inl ⟨?_, cur ++ [c] ++ [sep, a], ?_, by simp⟩⟩
        · rw [Scanner.partsFrom_keep _ hkeepC, scanner_step_escaped, parts_outside hne hsepC ha]
          rfl
        · rw [hview, Scanner.partsFrom_keep _ hkeep, hturn, hin, parts_quoted hne (Ne.symm hc)]
          rfl
    | some mark =>
      obtain rfl : c = mark := hm
      have hmem : c ∈ D.quotes := hq c rfl
      have hkeep : (D.scanner esc sep).cuts ⟨some c, false⟩ c = false := by simp [scanner]
      have hout : D.turn (some c) c = none := by simp [turn]
      refine ⟨fun h => hw.esc_not_mem' (h ▸ hmem), [sep, a], .inr rfl,
        .inr ⟨?_, cur ++ [c] ++ [sep, a], ?_, by simp⟩⟩
      · rw [hview, Scanner.partsFrom_keep _ hkeep, hturn, hout, parts_outside hne hsepD ha]
        rfl
      · rw [Scanner.partsFrom_keep _ hkeepC, scanner_step_escaped,
          parts_quoted hne fun h => hsepD (h ▸ hmem)]
        rfl
  | false =>
    obtain ⟨rfl, hc⟩ : quote = none ∧ c ∈ alien := by simpa [Alike] using h
    have hmemC : c ∈ C.quotes := (hw.quotes c).mpr (.inr hc)
    have hmemD : c ∉ D.quotes := hw.apart c hc
    have hesc : c ≠ esc := fun h => hw.esc_not_mem (h ▸ hmemC)
    have hcs : c ≠ sep := fun h => hsepC (h ▸ hmemC)
    have hkeep : ∀ E : Dialect α, (E.scanner esc sep).cuts ⟨none, false⟩ c = false := fun E => by
      simp [scanner, hcs]
    have hin : C.turn none c = some c := by simp [turn, hmemC]
    have hout : D.turn none c = none := by simp [turn, hmemD]
    refine ⟨hesc, [sep, a], .inr rfl, .inr ⟨?_, cur ++ [c] ++ [sep, a], ?_, by simp⟩⟩
    · rw [show D.view ⟨none, false⟩ = ⟨none, false⟩ from rfl, Scanner.partsFrom_keep _ (hkeep D),
        scanner_step_turn (.inl hesc), hout, parts_outside hne hsepD ha]
      rfl
    · rw [Scanner.partsFrom_keep _ (hkeep C), scanner_step_turn (.inl hesc), hin,
        parts_quoted hne hcs.symm]
      rfl

/-- A text that is not fair starts with one behind which the two cut differently. -/
theorem Wider.parted_of_not_fair (hw : Wider C D alien esc sep) {a : α} (ha : a ≠ sep)
    (hq : ∀ mark ∈ s.quote, mark ∈ D.quotes) {x : List α} (h : ¬ D.Fair alien esc sep s x)
    (cur : List α) :
    ∃ p t, p <+: x ∧ (∃ c ∈ p.getLast?, c ≠ esc) ∧ (t = [a] ∨ t = [sep, a]) ∧ Parted sep a
      ((C.scanner esc sep).partsFrom cur s (p ++ t))
      ((D.scanner esc sep).partsFrom cur (D.view s) (p ++ t)) := by
  induction x generalizing s cur with
  | nil => exact absurd trivial h
  | cons c x ih =>
    by_cases halike : D.Alike alien sep s c
    · obtain ⟨hC, hD, hcuts, hq'⟩ := hw.step_alike hq halike
      have hrest : ¬ D.Fair alien esc sep ((D.everywhere.scanner esc sep).step s c) x := fun hx =>
        h ⟨halike, hx⟩
      have hlast : ∀ {p : List α}, (∃ b ∈ p.getLast?, b ≠ esc) → ∃ b ∈ (c :: p).getLast?, b ≠ esc := by
        rintro p ⟨b, hb, hne⟩
        exact ⟨b, by simp [List.getLast?_cons, Option.mem_def.mp hb], hne⟩
      cases hcut : (C.scanner esc sep).cuts s c with
      | true =>
        obtain ⟨p, t, hp, hend, ht, hparted⟩ := ih hq' hrest []
        refine ⟨c :: p, t, (List.prefix_cons_inj c).mpr hp, hlast hend, ht, ?_⟩
        rw [List.cons_append, Scanner.partsFrom_cut _ hcut, Scanner.partsFrom_cut _ (hcuts ▸ hcut), hC, hD]
        exact hparted.cons cur cur
      | false =>
        obtain ⟨p, t, hp, hend, ht, hparted⟩ := ih hq' hrest (cur ++ [c])
        refine ⟨c :: p, t, (List.prefix_cons_inj c).mpr hp, hlast hend, ht, ?_⟩
        rwa [List.cons_append, Scanner.partsFrom_keep _ hcut, Scanner.partsFrom_keep _ (hcuts ▸ hcut), hC,
          hD]
    · obtain ⟨hesc, t, ht, hparted⟩ := hw.parted_of_not_alike ha hq halike cur
      exact ⟨[c], t, by simp, ⟨c, rfl, hesc⟩, ht, hparted⟩

lemma fair_plain {t : List α} (ht : ∀ c ∈ t, c ≠ esc ∧ c ∉ alien) (quote : Option α) :
    D.Fair alien esc sep ⟨quote, false⟩ t := by
  induction t generalizing quote with
  | nil => trivial
  | cons c t ih =>
    obtain ⟨hc, ht⟩ := List.forall_mem_cons.mp ht
    refine ⟨⟨by simp, fun _ _ => hc.2⟩, ?_⟩
    rw [scanner_step_turn (.inl hc.1)]
    exact ih ht _

lemma Fair.replace {p x t : List α} (h : D.Fair alien esc sep s x) (hp : p <+: x)
    (hs : p = [] → s.escaped = false) (hlast : p.getLast? ≠ some esc)
    (ht : ∀ c ∈ t, c ≠ esc ∧ c ∉ alien) : D.Fair alien esc sep s (p ++ t) := by
  induction p generalizing s x with
  | nil =>
    obtain ⟨quote, escaped⟩ := s
    obtain rfl : escaped = false := hs rfl
    exact fair_plain ht quote
  | cons c p ih =>
    obtain ⟨y, rfl⟩ := hp
    refine ⟨h.1, ih h.2 (List.prefix_append p y) ?_ ?_⟩
    · rintro rfl
      have hc : c ≠ esc := by simpa using hlast
      simp only [scanner, everywhere, hc, false_and, if_false]
      split_ifs <;> rfl
    · intro hp
      refine hlast ?_
      rw [List.getLast?_cons, hp]
      rfl

end Compare

end Dialect

end ShadowProxy.QuotedText
