import ShadowProxy.SqlTrim
import ShadowProxy.SqlSplit

/-! The statements of a query text, by the scan of `splitStatements` and by the lexers of the servers
it is meant for. Comments, dollar quotes and E-strings are no part of these lexers. -/
namespace ShadowProxy.SqlDialect
open WordBytes ShadowFilter SqlTrim SqlSplit QuotedText

section Decomposition
variable {p q r y : Bytes}

lemma cuts_semicolon {m : Mode} {c : UInt8} (h : codeScan.cuts m c = true) :
    m = .outside ∧ c = semicolon := of_decide_eq_true h

lemma spaces_outside : ∀ e ∈ spaceEncodings, e.all fun b => Mode.outside.step b = .outside := by
  decide +kernel

lemma run_spaces (hr : Spaces r) : Mode.outside.run r = .outside := by
  obtain ⟨es, hes, rfl⟩ := hr
  induction es with
  | nil => rfl
  | cons e es ih =>
    have hrun : Mode.outside.run e = .outside := by
      have hall := spaces_outside e (hes e List.mem_cons_self)
      clear ih hes
      induction e with
      | nil => rfl
      | cons b e ihe =>
        simp only [List.all_cons, Bool.and_eq_true, decide_eq_true_eq] at hall
        rw [run_cons, hall.1]
        exact ihe hall.2
    rw [List.flatten_cons, run_append, hrun]
    exact ih fun e he => hes e (List.mem_cons_of_mem _ he)

lemma uncut_of_mem_pieces (hp : p ∈ pieces q) : pieces p = [p] := by
  rw [pieces, piecesFrom_eq] at hp ⊢
  have hnew : ∀ m c, codeScan.cuts m c = true → codeScan.step m c = .outside := by
    intro m c hcut
    rw [← (cuts_semicolon hcut).1]
    exact step_of_cuts hcut
  exact codeScan.uncut_of_mem_partsFrom hnew rfl hp

lemma uncut_trimSpace (h : pieces p = [p]) : pieces (trimSpace p) = [trimSpace p] := by
  obtain ⟨r, r', hr, -, hp, -⟩ := spaces_code.exists_trim p
  rw [← trimSpace_eq] at hp
  rw [pieces, piecesFrom_eq, hp] at h
  have hrest := (codeScan.uncut_of_append h []).2
  have hrun : codeScan.run .outside r = .outside := run_spaces hr
  rw [hrun] at hrest
  rw [pieces, piecesFrom_eq, (codeScan.uncut_of_append hrest []).1, List.nil_append]

/-- The statements are the parts of the text between the semicolons that the scan finds outside of
quotes and not escaped, and a statement is its own only statement. -/
theorem splitStatements_decomposition (query : Bytes) :
    (∃ ps, ps ≠ [] ∧ query = List.intercalate [semicolon] ps ∧
      (∀ a b, (∃ l r, l ≠ [] ∧ r ≠ [] ∧ ps = l ++ r ∧ a = List.intercalate [semicolon] l ∧
          b = List.intercalate [semicolon] r) ↔
        query = a ++ semicolon :: b ∧ let s := a.foldl splitStep .start
          s.escaped = false ∧ s.inSingleQuote = false ∧ s.inDoubleQuote = false ∧ s.inBacktick = false) ∧
      splitStatements query = (ps.map trimSpace).filter (· ≠ [])) ∧
    ∀ s ∈ splitStatements query, splitStatements s = [s] := by
  have hsep : ∀ m c, codeScan.cuts m c = true → c = semicolon := fun m c h => (cuts_semicolon h).2
  refine ⟨⟨pieces query, ?_, ?_, fun a b => ?_, splitStatements_eq query⟩, fun s hs => ?_⟩
  · rw [pieces, piecesFrom_eq]
    exact codeScan.partsFrom_ne_nil _ _ _
  · rw [pieces, piecesFrom_eq, codeScan.intercalate_partsFrom hsep, List.nil_append]
  · rw [pieces, piecesFrom_eq, codeScan.partsFrom_eq_append_iff hsep]
    refine and_congr_right fun _ => ?_
    have hmode : codeScan.run .outside a = mode (a.foldl splitStep .start) := (mode_foldl a .start).symm
    rw [hmode]
    refine (cuts_iff _ semicolon).trans ?_
    simp
  · rw [splitStatements_eq, List.mem_filter, List.mem_map] at hs
    obtain ⟨⟨p, hp, rfl⟩, hne⟩ := hs
    have hself : trimSpace (trimSpace p) = trimSpace p := by
      rw [trimSpace_eq, trimSpace_eq, spaces_code.trim_idem]
    rw [splitStatements_eq, uncut_trimSpace (uncut_of_mem_pieces hp), List.map_singleton, hself]
    simpa using hne

end Decomposition

section Servers

/-- The scan of `splitStatements` as a way to quote. -/
def proxy : Dialect UInt8 := ⟨[singleQuote, doubleQuote, backtick], fun _ => true⟩

/-- MySQL and StarRocks: a backslash is an escape in strings, but neither in a backtick identifier nor
outside of quotes. -/
def mysql : Dialect UInt8 :=
  ⟨[singleQuote, doubleQuote, backtick], fun quote => quote = some singleQuote ∨ quote = some doubleQuote⟩

/-- PostgreSQL with `standard_conforming_strings`: a backslash and a backtick are ordinary. -/
def postgres : Dialect UInt8 := ⟨[singleQuote, doubleQuote], fun _ => false⟩

def statements (D : Dialect UInt8) (q : Bytes) : List Bytes :=
  ((D.parts backslash semicolon q).map trimSpace).filter (· ≠ [])

/-- The text reads alike to the server and to `splitStatements`. -/
def Fair (D : Dialect UInt8) (alien : Bytes) (q : Bytes) : Prop :=
  D.Fair alien backslash semicolon ⟨none, false⟩ q

instance (D : Dialect UInt8) (alien : Bytes) (q : Bytes) : Decidable (Fair D alien q) :=
  inferInstanceAs (Decidable (D.Fair _ _ _ _ _))

def modeOf (s : Stand UInt8) : Mode :=
  ⟨s.quote = some singleQuote, s.quote = some doubleQuote, s.quote = some backtick, s.escaped⟩

lemma modeOf_step {s : Stand UInt8} (hs : ∀ mark ∈ s.quote, mark ∈ proxy.quotes) (c : UInt8) :
    (modeOf s).step c = modeOf ((proxy.scanner backslash semicolon).step s c) := by
  obtain ⟨quote, escaped⟩ := s
  cases escaped with
  | true => simp [modeOf, Mode.step, Dialect.scanner]
  | false =>
    by_cases hc : c = backslash
    · simp [modeOf, Mode.step, Dialect.scanner, hc, proxy]
    · rw [Dialect.scanner_step_turn (.inl hc)]
      cases quote with
      | none =>
        by_cases h₁ : c = singleQuote
        · subst h₁; rfl
        by_cases h₂ : c = doubleQuote
        · subst h₂; rfl
        by_cases h₃ : c = backtick
        · subst h₃; rfl
        simp [modeOf, Mode.step, Dialect.turn, proxy, hc, h₁, h₂, h₃]
      | some mark =>
        have hmark : mark = singleQuote ∨ mark = doubleQuote ∨ mark = backtick := by
          simpa [proxy] using hs mark rfl
        rcases hmark with rfl | rfl | rfl
        · by_cases h₁ : c = singleQuote
          · subst h₁; rfl
          · simp only [singleQuote] at h₁
            simp [modeOf, Mode.step, Dialect.turn, hc, h₁, singleQuote, doubleQuote, backtick]
        · by_cases h₁ : c = doubleQuote
          · subst h₁; rfl
          · simp only [doubleQuote] at h₁
            simp [modeOf, Mode.step, Dialect.turn, hc, h₁, singleQuote, doubleQuote, backtick]
        · by_cases h₁ : c = backtick
          · subst h₁; rfl
          · simp only [backtick] at h₁
            simp [modeOf, Mode.step, Dialect.turn, hc, h₁, singleQuote, doubleQuote, backtick]

lemma modeOf_cuts {s : Stand UInt8} (hs : ∀ mark ∈ s.quote, mark ∈ proxy.quotes) (c : UInt8) :
    (modeOf s).cuts c = (proxy.scanner backslash semicolon).cuts s c := by
  have hout : modeOf s = .outside ↔ s.quote = none ∧ s.escaped = false := by
    obtain ⟨quote, escaped⟩ := s
    cases quote with
    | none => simp [modeOf, Mode.outside]
    | some mark =>
      have hmark : mark = singleQuote ∨ mark = doubleQuote ∨ mark = backtick := by
        simpa [proxy] using hs mark rfl
      simp only [modeOf, Mode.outside, Mode.mk.injEq, Option.some.injEq, decide_eq_false_iff_not]
      tauto
  simp [Mode.cuts, Dialect.scanner, hout, and_assoc]

lemma mem_step {s : Stand UInt8} (hs : ∀ mark ∈ s.quote, mark ∈ proxy.quotes) (c : UInt8) :
    ∀ mark ∈ ((proxy.scanner backslash semicolon).step s c).quote, mark ∈ proxy.quotes := by
  obtain ⟨quote, escaped⟩ := s
  cases escaped with
  | true => exact hs
  | false =>
    by_cases hc : c = backslash
    · subst hc
      rw [Dialect.scanner_step_esc rfl]
      exact hs
    · rw [Dialect.scanner_step_turn (.inl hc)]
      exact Dialect.Wider.mem_turn hs

lemma pieces_eq (q : Bytes) :
    pieces q = (proxy.scanner backslash semicolon).partsFrom [] ⟨none, false⟩ q := by
  rw [pieces, piecesFrom_eq]
  refine Scanner.partsFrom_eq_of_sim (R := fun m s _ => m = modeOf s ∧
    ∀ mark ∈ s.quote, mark ∈ proxy.quotes) ?_
    ⟨(rfl : Mode.outside = modeOf ⟨none, false⟩), by simp⟩ []
  rintro _ s c x ⟨rfl, hs⟩
  exact ⟨modeOf_cuts hs c, modeOf_step hs c, mem_step hs c⟩

variable {D : Dialect UInt8} {alien q : Bytes}

lemma splitStatements_of_fair (hw : Dialect.Wider proxy D alien backslash semicolon)
    (h : Fair D alien q) : splitStatements q = statements D q := by
  have hparts := hw.partsFrom_eq (s := ⟨none, false⟩) (by simp) h []
  rw [splitStatements_eq, statements, Dialect.parts_eq, pieces_eq, hparts]
  rfl

lemma mem_trimSpace_of_ink {b : UInt8} {y : Bytes} (hb : isInk b = true) (hy : b ∈ y) :
    b ∈ trimSpace y := by
  have hno : ∀ {r : Bytes}, Spaces r → b ∉ r := by
    rintro r ⟨es, hes, rfl⟩ hmem
    obtain ⟨e, he, hbe⟩ := List.mem_flatten.mp hmem
    exact not_mem_of_ink hb (hes e he) hbe
  obtain ⟨r, r', hr, hr', hsplit, -⟩ := spaces_code.exists_trim y
  rw [← trimSpace_eq] at hsplit
  rw [hsplit, List.mem_append, List.mem_append] at hy
  exact (hy.resolve_left (hno hr)).resolve_right (hno hr')

lemma getLast?_statements {ps : List Bytes} {y : Bytes} (h : ps.getLast? = some y)
    (hy : trimSpace y ≠ []) : ((ps.map trimSpace).filter (· ≠ [])).getLast? = some (trimSpace y) := by
  obtain ⟨l, rfl⟩ := List.getLast?_eq_some_iff.mp h
  simp [List.filter_append, hy]

lemma trimSpace_letter : trimSpace [0x41] = [0x41] := by decide +kernel

lemma isInk_semicolon : isInk semicolon = true := by decide +kernel

lemma not_parted_of_statements_eq {ps qs : List Bytes}
    (h : (ps.map trimSpace).filter (· ≠ []) = (qs.map trimSpace).filter (· ≠ [])) :
    ¬ Dialect.Parted semicolon 0x41 ps qs := by
  have hno : ∀ {ps qs : List Bytes}, (ps.map trimSpace).filter (· ≠ []) =
      (qs.map trimSpace).filter (· ≠ []) → ps.getLast? = some [0x41] →
      ∀ y ∈ qs.getLast?, semicolon ∉ y := by
    intro ps qs h hps y hqs hmem
    have hin := mem_trimSpace_of_ink isInk_semicolon hmem
    have hlast := getLast?_statements hqs (List.ne_nil_of_mem hin)
    have hlast' := getLast?_statements hps (by rw [trimSpace_letter]; simp)
    rw [← h, hlast', Option.some.injEq, trimSpace_letter] at hlast
    rw [← hlast] at hin
    exact absurd hin (by decide)
  rintro (⟨hps, y, hqs, hy⟩ | ⟨hqs, y, hps, hy⟩)
  · exact hno h hps y hqs hy
  · exact hno h.symm hqs y hps hy

lemma fair_iff (hw : Dialect.Wider proxy D alien backslash semicolon) (q : Bytes) :
    Fair D alien q ↔ ∀ p t, p <+: q → p.getLast? ≠ some backslash →
      (∀ c ∈ t, c ≠ backslash ∧ c ∉ alien) → splitStatements (p ++ t) = statements D (p ++ t) := by
  constructor
  · intro h p t hp hlast ht
    exact splitStatements_of_fair hw (Dialect.Fair.replace h hp (fun _ => rfl) hlast ht)
  · intro h
    by_contra hfair
    obtain ⟨p, t, hp, ⟨c, hc, hne⟩, ht, hparted⟩ :=
      hw.parted_of_not_fair (a := 0x41) (by decide) (by simp) hfair []
    refine not_parted_of_statements_eq ?_ hparted
    have hplain : ∀ c ∈ t, c ≠ backslash ∧ c ∉ alien := by
      intro c hc
      have hc' : c = 0x41 ∨ c = semicolon := by
        rcases ht with rfl | rfl <;> simp_all [or_comm]
      have halien : c ∉ proxy.quotes := by rcases hc' with rfl | rfl <;> decide
      exact ⟨by rcases hc' with rfl | rfl <;> decide, fun h => halien ((hw.quotes c).mpr (.inr h))⟩
    have hsame := h p t hp (by rw [hc]; simpa using hne) hplain
    rw [splitStatements_eq, statements, Dialect.parts_eq, pieces_eq] at hsame
    exact hsame

lemma mysql_wider : Dialect.Wider proxy mysql [] backslash semicolon := by
  constructor <;> simp [proxy, mysql, backslash, semicolon, singleQuote, doubleQuote, backtick]

lemma postgres_wider : Dialect.Wider proxy postgres [backtick] backslash semicolon := by
  constructor <;> simp [proxy, postgres, backslash, semicolon, singleQuote, doubleQuote, backtick, or_assoc]

/-- The verdict of the filter on a text that runs as the statements `stmts`. -/
def judge (f : QueryFilter) (stmts : List Bytes) (q : Bytes) : Bool × FilterReason :=
  let operation := primaryOf (stmts.map (extractStatementOperation f))
  if q = [] then (true, .none)
  else if f.sqlOperations ≠ [] ∧ (f.sqlOperations.contains operation = true ↔ f.mode = .excludeMode) then
    (false, .sqlOperation)
  else if f.patterns ≠ [] ∧ (f.matchAnyPattern q = true ↔ f.mode = .excludeMode) then (false, .pattern)
  else (true, .none)

lemma shouldShadowMirror_eq (f : QueryFilter) (q : Bytes) :
    shouldShadowMirror q (some f) = judge f (splitStatements q) q := by
  rw [judge, ← extractPrimarySQLOperation_statements]
  unfold shouldShadowMirror QueryFilter.allowDeterministic QueryFilter.passesFilter
  cases hmode : f.mode with
  | includeMode =>
    simp only [QueryFilter.matchInclude]
    split_ifs <;> simp_all
  | excludeMode =>
    simp only [QueryFilter.matchExclude]
    split_ifs <;> simp_all

/-- `splitStatements` finds the statements that MySQL finds, provided no backslash outside of quotes
stands in front of a semicolon or a mark, and none in a backtick identifier in front of a backtick. With
such a backslash, the beginning of the text up to there can go on so that the statements differ. -/
theorem mysql_statements_iff (q : Bytes) :
    (Fair mysql [] q → splitStatements q = statements mysql q) ∧
      (Fair mysql [] q ↔ ∀ p t, p <+: q → p.getLast? ≠ some backslash → backslash ∉ t →
        splitStatements (p ++ t) = statements mysql (p ++ t)) := by
  refine ⟨splitStatements_of_fair mysql_wider, (fair_iff mysql_wider q).trans ?_⟩
  have hplain : ∀ t : Bytes, (∀ c ∈ t, c ≠ backslash ∧ c ∉ ([] : Bytes)) ↔ backslash ∉ t := by
    intro t
    simp only [List.not_mem_nil, not_false_eq_true, and_true]
    exact ⟨fun h hmem => h _ hmem rfl, fun h c hc hne => h (hne ▸ hc)⟩
  simp only [hplain]

theorem mysql_statements_iff_quoted :
    Fair mysql [] (ascii "SELECT 'it\\'s;', `a;b`; USE c") ∧
      splitStatements (ascii "SELECT 'it\\'s;', `a;b`; USE c") =
        statements mysql (ascii "SELECT 'it\\'s;', `a;b`; USE c") := by
  have hfair : Fair mysql [] (ascii "SELECT 'it\\'s;', `a;b`; USE c") := by decide +kernel
  exact ⟨hfair, (mysql_statements_iff _).1 hfair⟩

def aliasText : Bytes := ascii "SELECT 1 AS `a\\`; DELETE FROM t"

def includeSelect : QueryFilter := ⟨.includeMode, [ascii "SELECT"], [], id⟩

/-- MySQL runs two statements, of which the filter sees only the first. -/
theorem backslash_in_backticks :
    splitStatements aliasText = [aliasText] ∧
      statements mysql aliasText = [ascii "SELECT 1 AS `a\\`", ascii "DELETE FROM t"] ∧
      includeSelect.passesFilter aliasText = (true, .none) ∧
      includeSelect.passesFilter (ascii "DELETE FROM t") = (false, .sqlOperation) := by
  decide +kernel

/-- `splitStatements` finds the statements that PostgreSQL finds, and so the filter judges these,
provided there is no backtick outside of quotes, no backslash outside of quotes in front of a semicolon or
a mark, and none in quotes in front of the mark. Otherwise the beginning of the text up to there can go
on so that the statements differ. -/
theorem postgres_statements_iff (q : Bytes) :
    (Fair postgres [backtick] q → splitStatements q = statements postgres q ∧
      ∀ f, shouldShadowMirror q (some f) = judge f (statements postgres q) q) ∧
      (Fair postgres [backtick] q ↔ ∀ p t, p <+: q → p.getLast? ≠ some backslash →
        (∀ c ∈ t, c ≠ backslash ∧ c ≠ backtick) →
        splitStatements (p ++ t) = statements postgres (p ++ t)) := by
  refine ⟨fun h => ?_, (fair_iff postgres_wider q).trans (by simp only [List.mem_singleton])⟩
  have hsame := splitStatements_of_fair postgres_wider h
  exact ⟨hsame, fun f => by rw [shouldShadowMirror_eq, hsame]⟩

theorem postgres_statements_iff_quoted :
    Fair postgres [backtick] (ascii "SELECT 'C:\\a;', \"b;`\"; RESET c") ∧
      splitStatements (ascii "SELECT 'C:\\a;', \"b;`\"; RESET c") =
        statements postgres (ascii "SELECT 'C:\\a;', \"b;`\"; RESET c") := by
  have hfair : Fair postgres [backtick] (ascii "SELECT 'C:\\a;', \"b;`\"; RESET c") := by decide +kernel
  exact ⟨hfair, ((postgres_statements_iff _).1 hfair).1⟩

def pathText : Bytes := ascii "SELECT 'C:\\'; DELETE FROM t"

/-- PostgreSQL runs two statements, of which the filter sees only the first. -/
theorem string_ends_in_backslash :
    splitStatements pathText = [pathText] ∧
      statements postgres pathText = [ascii "SELECT 'C:\\'", ascii "DELETE FROM t"] ∧
      shouldShadowMirror pathText (some includeSelect) = (true, .none) ∧
      judge includeSelect (statements postgres pathText) pathText = (false, .sqlOperation) := by
  decide +kernel

end Servers

end ShadowProxy.SqlDialect
