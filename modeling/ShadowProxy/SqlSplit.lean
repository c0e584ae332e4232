import ShadowProxy.ShadowFilter
import ShadowProxy.QuotedText

/-! The division of a query text into statements, and the operation of the query as a function of the
operations of its parts. -/
namespace ShadowProxy.SqlSplit
open WordBytes ShadowFilter QuotedText

/-- What the scan of `splitStatements` remembers of the text before, apart from the text itself. -/
structure Mode where
  inSingleQuote : Bool
  inDoubleQuote : Bool
  inBacktick : Bool
  escaped : Bool
  deriving DecidableEq, Repr

def Mode.outside : Mode := ⟨false, false, false, false⟩

def Mode.step (m : Mode) (c : UInt8) : Mode :=
  if m.escaped then { m with escaped := false }
  else if c = backslash then { m with escaped := true }
  else if c = singleQuote ∧ ¬ m.inDoubleQuote ∧ ¬ m.inBacktick then
    { m with inSingleQuote := !m.inSingleQuote }
  else if c = doubleQuote ∧ ¬ m.inSingleQuote ∧ ¬ m.inBacktick then
    { m with inDoubleQuote := !m.inDoubleQuote }
  else if c = backtick ∧ ¬ m.inSingleQuote ∧ ¬ m.inDoubleQuote then
    { m with inBacktick := !m.inBacktick }
  else m

def Mode.run (m : Mode) (s : Bytes) : Mode := s.foldl Mode.step m

def Mode.cuts (m : Mode) (c : UInt8) : Bool := m = .outside ∧ c = semicolon

/-- The parts of a text that is scanned with `cur` in front of it. -/
def piecesFrom : Bytes → Mode → Bytes → List Bytes
  | cur, _, [] => [cur]
  | cur, m, c :: s => if m.cuts c then cur :: piecesFrom [] m s else piecesFrom (cur ++ [c]) (m.step c) s

/-- The parts of a text between the semicolons that end a statement. -/
def pieces (s : Bytes) : List Bytes := piecesFrom [] .outside s

section Pieces
variable {m : Mode} {c : UInt8} {cur s t x p : Bytes} {ps qs : List Bytes}

@[simp] lemma run_nil (m : Mode) : m.run [] = m := rfl

@[simp] lemma run_cons (m : Mode) (c : UInt8) (s : Bytes) : m.run (c :: s) = (m.step c).run s := rfl

lemma run_append (m : Mode) (s t : Bytes) : m.run (s ++ t) = (m.run s).run t := by
  simp [Mode.run]

lemma step_of_cuts (h : m.cuts c = true) : m.step c = m := by
  obtain ⟨rfl, rfl⟩ : m = .outside ∧ c = semicolon := of_decide_eq_true h
  rfl

def codeScan : Scanner Mode UInt8 := ⟨Mode.step, Mode.cuts⟩

lemma piecesFrom_eq (cur : Bytes) (m : Mode) (s : Bytes) :
    piecesFrom cur m s = codeScan.partsFrom cur m s := by
  induction s generalizing cur m with
  | nil => rfl
  | cons c s ih =>
    cases hc : m.cuts c with
    | true =>
      have hstep : codeScan.step m c = m := step_of_cuts hc
      rw [codeScan.partsFrom_cut hc, hstep, piecesFrom, if_pos hc, ih]
    | false =>
      rw [codeScan.partsFrom_keep hc, piecesFrom, if_neg (by simp [hc]), ih]
      rfl

lemma exists_piecesFrom (cur : Bytes) (m : Mode) (s : Bytes) :
    ∃ ps x, piecesFrom cur m s = ps ++ [x] := by
  rw [piecesFrom_eq]
  exact codeScan.exists_partsFrom cur m s

lemma piecesFrom_append (h : piecesFrom cur m s = ps ++ [x]) (t : Bytes) :
    piecesFrom cur m (s ++ t) = ps ++ piecesFrom x (m.run s) t := by
  rw [piecesFrom_eq] at h
  rw [piecesFrom_eq, piecesFrom_eq, codeScan.partsFrom_append h]
  rfl

lemma piecesFrom_cons (h : piecesFrom [] m s = p :: qs) (cur : Bytes) :
    piecesFrom cur m s = (cur ++ p) :: qs := by
  rw [piecesFrom_eq] at h ⊢
  simpa using codeScan.partsFrom_cons h cur

lemma mem_of_mem_pieces {b : UInt8} (hp : p ∈ pieces s) (hb : b ∈ p) : b ∈ s := by
  rw [pieces, piecesFrom_eq] at hp
  exact (codeScan.mem_of_mem_partsFrom hp hb).resolve_left (by simp)

lemma exists_pieces_last (s : Bytes) : ∃ ps x, pieces s = ps ++ [x] := exists_piecesFrom [] .outside s

lemma exists_pieces_head (s : Bytes) : ∃ p qs, pieces s = p :: qs := by
  obtain ⟨ps, x, h⟩ := exists_pieces_last s
  cases ps with
  | nil => exact ⟨x, [], h⟩
  | cons p ps => exact ⟨p, ps ++ [x], h⟩

lemma pieces_append (hs : pieces s = ps ++ [x]) (hm : Mode.outside.run s = .outside)
    (ht : pieces t = p :: qs) : pieces (s ++ t) = ps ++ (x ++ p) :: qs := by
  rw [pieces, piecesFrom_append hs, hm, piecesFrom_cons ht]

lemma piecesFrom_single (h : piecesFrom cur m s = [x]) : x = cur ++ s := by
  rw [piecesFrom_eq] at h
  exact codeScan.partsFrom_single h

end Pieces

section Statements

def mode (s : SplitState) : Mode := ⟨s.inSingleQuote, s.inDoubleQuote, s.inBacktick, s.escaped⟩

lemma cuts_iff (s : SplitState) (c : UInt8) : (mode s).cuts c = true ↔ s.escaped = false ∧
    c = semicolon ∧ s.inSingleQuote = false ∧ s.inDoubleQuote = false ∧ s.inBacktick = false := by
  simp only [Mode.cuts, mode, Mode.outside, Mode.mk.injEq, decide_eq_true_eq]
  tauto

lemma splitStep_eq (s : SplitState) (c : UInt8) :
    ((mode s).cuts c = true ∧ splitStep s c = s.flush) ∨
      ((mode s).cuts c = false ∧ mode (splitStep s c) = (mode s).step c ∧
        (splitStep s c).current = s.current ++ [c] ∧ (splitStep s c).statements = s.statements) := by
  rw [← Bool.not_eq_true, cuts_iff]
  unfold splitStep
  split_ifs with he hb hs hd ht hc
  · exact .inr ⟨by simp [he], by simp [mode, Mode.step, SplitState.put, he], rfl, rfl⟩
  · exact .inr ⟨by simp [hb, backslash, semicolon], by simp [mode, Mode.step, SplitState.put, he, hb],
      rfl, rfl⟩
  · exact .inr ⟨by simp [hs.1, singleQuote, semicolon], by simp_all [mode, Mode.step, SplitState.put],
      rfl, rfl⟩
  · exact .inr ⟨by simp [hd.1, doubleQuote, semicolon],
      by simp_all [mode, Mode.step, SplitState.put, doubleQuote, singleQuote], rfl, rfl⟩
  · exact .inr ⟨by simp [ht.1, backtick, semicolon],
      by simp_all [mode, Mode.step, SplitState.put, doubleQuote, singleQuote, backtick], rfl, rfl⟩
  · exact .inl ⟨by simp_all, rfl⟩
  · refine .inr ⟨by simp_all, ?_, rfl, rfl⟩
    have hstep : (mode s).step c = mode s := by
      unfold Mode.step
      exact (if_neg he).trans ((if_neg hb).trans ((if_neg hs).trans ((if_neg hd).trans (if_neg ht))))
    exact hstep.symm

lemma mode_foldl (q : Bytes) (s : SplitState) : mode (q.foldl splitStep s) = (mode s).run q := by
  induction q generalizing s with
  | nil => rfl
  | cons c q ih =>
    rw [List.foldl_cons, ih, run_cons]
    rcases splitStep_eq s c with ⟨hcut, hstep⟩ | ⟨-, hmode, -⟩
    · rw [hstep, step_of_cuts hcut]
      rfl
    · rw [hmode]

lemma foldl_splitStep (q : Bytes) (s : SplitState) :
    (q.foldl splitStep s).flush.statements =
      s.statements ++ ((piecesFrom s.current (mode s) q).map trimSpace).filter (· ≠ []) := by
  induction q generalizing s with
  | nil =>
    simp only [List.foldl_nil, piecesFrom, SplitState.flush, List.map_cons, List.map_nil,
      List.filter_cons, List.filter_nil]
    by_cases h : trimSpace s.current = [] <;> simp [h]
  | cons c q ih =>
    rw [List.foldl_cons, ih, piecesFrom]
    rcases splitStep_eq s c with ⟨hcut, hstep⟩ | ⟨hcut, hmode, hcur, hstmts⟩
    · have hmode : mode s.flush = mode s := rfl
      rw [hstep, if_pos hcut, hmode]
      simp only [SplitState.flush, List.map_cons, List.filter_cons]
      by_cases h : trimSpace s.current = [] <;> simp [h]
    · rw [hmode, hcur, hstmts]
      simp [hcut]

/-- The statements are the parts that are not blank, without the blanks around them. -/
theorem splitStatements_eq (q : Bytes) :
    splitStatements q = ((pieces q).map trimSpace).filter (· ≠ []) := by
  rw [splitStatements, foldl_splitStep]
  rfl

end Statements

section Primary
variable {f : QueryFilter}

/-- An operation that is not session set-up. -/
abbrev IsMain (op : Bytes) : Prop := op ≠ [] ∧ op ∉ preambleOperations

/-- The last operation that is not session set-up; else the last operation at all. -/
def primaryOf (ops : List Bytes) : Bytes :=
  ((ops.reverse.find? fun op => op ≠ [] && !preambleOperations.contains op).or
    (ops.reverse.find? (· ≠ []))).getD (ascii "UNKNOWN")

lemma primaryOf_eq (ops : List Bytes) : primaryOf ops =
    ((ops.reverse.find? fun op => IsMain op).or (ops.reverse.find? (· ≠ []))).getD (ascii "UNKNOWN") := by
  simp [primaryOf]

def pieceOperation (f : QueryFilter) (piece : Bytes) : Bytes :=
  extractStatementOperation f (trimSpace piece)

lemma pieceOperation_of_blank {p : Bytes} (h : trimSpace p = []) : pieceOperation f p = [] := by
  rw [pieceOperation, h]
  rfl

lemma primaryOf_filter (ops : List Bytes) : primaryOf (ops.filter (· ≠ [])) = primaryOf ops := by
  rw [primaryOf_eq, primaryOf_eq, ← List.filter_reverse, List.find?_filter, List.find?_filter]
  simp

lemma primaryOf_congr {ops ops' : List Bytes} (h : ops.filter (· ≠ []) = ops'.filter (· ≠ [])) :
    primaryOf ops = primaryOf ops' := by
  rw [← primaryOf_filter, h, primaryOf_filter]

lemma primaryOf_concat {op : Bytes} (h : IsMain op) (ops : List Bytes) : primaryOf (ops ++ [op]) = op := by
  rw [primaryOf_eq, List.reverse_append, List.reverse_singleton, List.singleton_append,
    List.find?_cons_of_pos (by simpa using h)]
  rfl

lemma not_isMain_of_primaryOf {ops : List Bytes} (h : primaryOf ops ∈ preambleOperations) :
    ∀ op ∈ ops, ¬ IsMain op := by
  intro op hop hmain
  obtain ⟨op', hfind⟩ : ∃ op', ops.reverse.find? (fun op => IsMain op) = some op' := by
    rw [← Option.isSome_iff_exists, List.find?_isSome]
    exact ⟨op, by simpa using hop, by simpa using hmain⟩
  rw [primaryOf_eq, hfind] at h
  have hmain' : IsMain op' := by simpa using List.find?_some hfind
  exact hmain'.2 h

lemma primaryOf_of_no_main {ops : List Bytes} (h : ∀ op ∈ ops, ¬ IsMain op) :
    primaryOf ops = (ops.reverse.find? (· ≠ [])).getD (ascii "UNKNOWN") := by
  have hnone : ops.reverse.find? (fun op => IsMain op) = none := by
    rw [List.find?_eq_none]
    intro op hop
    simpa using h op (List.mem_reverse.mp hop)
  rw [primaryOf_eq, hnone]
  rfl

lemma empty_of_primaryOf_ne {a b : Bytes} {ops : List Bytes} (ha : primaryOf (a :: ops) ∈ preambleOperations)
    (hb : primaryOf (b :: ops) ∈ preambleOperations) (hne : primaryOf (a :: ops) ≠ primaryOf (b :: ops)) :
    ∀ op ∈ ops, op = [] := by
  by_contra hsome
  obtain ⟨op', hfind⟩ : ∃ op', ops.reverse.find? (· ≠ []) = some op' := by
    rw [← Option.isSome_iff_exists, List.find?_isSome]
    simpa using hsome
  refine hne ?_
  rw [primaryOf_of_no_main (not_isMain_of_primaryOf ha), primaryOf_of_no_main (not_isMain_of_primaryOf hb),
    List.reverse_cons, List.reverse_cons, List.find?_append, List.find?_append, hfind]
  rfl

lemma primaryOf_letters {a b : Bytes} {ops : List Bytes} {x y : UInt8} (hab : a.head? = b.head?)
    (hx : ∀ op ∈ preambleOperations, op.head? ≠ some x) (hy : ∀ op ∈ preambleOperations, op.head? ≠ some y)
    (ha : primaryOf (ops ++ [a]) = [x]) (hb : primaryOf (ops ++ [b]) = [y]) : x = y := by
  have hmain : ∀ {a b : Bytes} {x y : UInt8}, a.head? = b.head? →
      (∀ op ∈ preambleOperations, op.head? ≠ some x) → primaryOf (ops ++ [a]) = [x] →
      primaryOf (ops ++ [b]) = [y] → IsMain a → x = y := by
    intro a b x y hab hx ha hb hm
    rw [primaryOf_concat hm] at ha
    subst ha
    have hb' : IsMain b := ⟨by rintro rfl; simp at hab, fun hmem => hx b hmem hab.symm⟩
    rw [primaryOf_concat hb'] at hb
    subst hb
    simpa using hab
  by_cases hma : IsMain a
  · exact hmain hab hx ha hb hma
  by_cases hmb : IsMain b
  · exact (hmain hab.symm hy hb ha hmb).symm
  simp only [primaryOf_eq, List.reverse_append, List.reverse_singleton, List.singleton_append] at ha hb
  rw [List.find?_cons_of_neg (by simpa using hma)] at ha
  rw [List.find?_cons_of_neg (by simpa using hmb)] at hb
  cases hfind : ops.reverse.find? (fun op => IsMain op) with
  | some m =>
    rw [hfind] at ha hb
    simpa using ha.symm.trans hb
  | none =>
    rw [hfind] at ha hb
    by_cases hnil : a = []
    · obtain rfl : b = [] := by simpa [hnil, eq_comm] using hab
      rw [hnil] at ha
      simpa using ha.symm.trans hb
    · rw [List.find?_cons_of_pos (by simpa using hnil)] at ha
      obtain rfl : a = [x] := ha
      refine absurd rfl (hx [x] ?_)
      by_contra hmem
      exact hma ⟨hnil, hmem⟩

lemma extractPrimarySQLOperation_statements (f : QueryFilter) (q : Bytes) :
    extractPrimarySQLOperation f q =
      primaryOf ((splitStatements q).map (extractStatementOperation f)) := by
  unfold extractPrimarySQLOperation
  rw [primaryOf_eq]
  dsimp only
  generalize ((splitStatements q).map (extractStatementOperation f)).reverse.find?
    (fun op => decide (op ≠ [] ∧ op ∉ preambleOperations)) = main
  cases main <;> rfl

/-- The operation of a query, by its parts. -/
theorem extractPrimarySQLOperation_eq (f : QueryFilter) (q : Bytes) :
    extractPrimarySQLOperation f q = primaryOf ((pieces q).map (pieceOperation f)) := by
  have hops : ((splitStatements q).map (extractStatementOperation f)).filter (· ≠ []) =
      ((pieces q).map (pieceOperation f)).filter (· ≠ []) := by
    rw [splitStatements_eq]
    induction pieces q with
    | nil => simp only [List.map_nil, List.filter_nil]
    | cons p ps ih =>
      simp only [List.map_cons, List.filter_cons]
      by_cases h : trimSpace p = []
      · simpa [h, pieceOperation_of_blank h] using ih
      · simp only [ne_eq, h, not_false_eq_true, decide_true, if_true, List.map_cons, List.filter_cons]
        rw [← pieceOperation, ih]
  rw [extractPrimarySQLOperation_statements, ← primaryOf_filter, hops, primaryOf_filter]

end Primary

end ShadowProxy.SqlSplit
