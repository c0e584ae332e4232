import ShadowProxy.ShadowFilter
import ShadowProxy.WordFields

/-! The operation of a statement as a function of its first words. -/
namespace ShadowProxy.SqlWords
open WordBytes ShadowFilter WordFields

def isParen (c : UInt8) : Bool := c = openParen

def sqlWords (s : Bytes) : List Bytes := fields isBlank isParen s

abbrev WordInner (w : Bytes) : Prop := Inner isBlank isParen w

abbrev WordBreak (s : Bytes) : Prop := Breaks isBlank isParen s

section FirstWords

lemma sqlWords_dropWhile (s : Bytes) : sqlWords (s.dropWhile isBlank) = sqlWords s := by
  have hblanks : ∀ c ∈ s.takeWhile isBlank, isBlank c = true ∧ isParen c = false := by
    intro c hc
    have hblank : isBlank c = true := List.mem_takeWhile_imp hc
    refine ⟨hblank, ?_⟩
    by_contra hparen
    obtain rfl : c = openParen := by simpa [isParen] using hparen
    exact absurd hblank (by decide)
  have h := fields_blanks hblanks (s.dropWhile isBlank)
  rw [List.takeWhile_append_dropWhile] at h
  exact h.symm

def wordAt (s : Bytes) : Bytes := s.takeWhile fun b => !isBlank b && b ≠ openParen

lemma wordAt_inner (s : Bytes) : WordInner (wordAt s) := by
  intro c hc
  have h := List.mem_takeWhile_imp hc
  simpa [isParen] using h

lemma wordAt_break (s : Bytes) : WordBreak (s.drop (wordAt s).length) := by
  intro c hc
  have hdrop : s.drop (wordAt s).length = s.dropWhile fun b => !isBlank b && b ≠ openParen := by
    have hdrop : (wordAt s ++ s.dropWhile fun b => !isBlank b && b ≠ openParen).drop (wordAt s).length =
        s.dropWhile fun b => !isBlank b && b ≠ openParen := List.drop_left
    rwa [wordAt, List.takeWhile_append_dropWhile] at hdrop
  rw [hdrop] at hc
  have hnot := List.head?_dropWhile_not (fun b => !isBlank b && b ≠ openParen) s
  rw [Option.mem_def.mp hc] at hnot
  by_cases hblank : isBlank c = true
  · exact .inl hblank
  · exact .inr (by simpa [isParen, hblank] using hnot)

lemma wordAt_append_drop (s : Bytes) : wordAt s ++ s.drop (wordAt s).length = s := by
  have hstart : wordAt s <+: s := List.takeWhile_prefix _
  rw [List.prefix_iff_eq_append.mp hstart]

lemma sqlWords_wordAt {s : Bytes} (hne : wordAt s ≠ []) :
    sqlWords s = wordAt s :: sqlWords (s.drop (wordAt s).length) := by
  have h := fields_word (wordAt_inner s) hne (wordAt_break s)
  rwa [wordAt_append_drop] at h

/-- What can follow the words that were read: nothing, a parenthesis, or more when the number of
words was reached. -/
def Follows (tail : Bytes) (full : Prop) : Prop :=
  tail = [] ∨ tail.head? = some openParen ∨ (WordBreak tail ∧ full)

lemma firstWords_spec (n : ℕ) (s : Bytes) (hs : n = 0 → WordBreak s) :
    (firstWords n s).1 = (sqlWords s).take n ∧
      Follows (firstWords n s).2 ((firstWords n s).1.length = n) := by
  induction n generalizing s with
  | zero => exact ⟨by simp [firstWords], .inr (.inr ⟨hs rfl, rfl⟩)⟩
  | succ n ih =>
    rw [← sqlWords_dropWhile s]
    simp only [firstWords]
    split
    next hrest => simp [hrest, sqlWords, Follows]
    next c rest hrest =>
      have hblank : isBlank c = false := by
        have hnot := List.head?_dropWhile_not isBlank s
        rw [hrest] at hnot
        simpa using hnot
      split_ifs with hparen
      · have hstop : isParen c = true := by simp [isParen, hparen]
        rw [hrest, sqlWords, fields_stop hstop]
        exact ⟨rfl, .inr (.inl (congrArg some hparen))⟩
      · have hne : wordAt (c :: rest) ≠ [] := by simp [wordAt, hblank, hparen]
        obtain ⟨hws, htail⟩ := ih _ fun _ => wordAt_break (c :: rest)
        rw [hrest, sqlWords_wordAt hne]
        refine ⟨?_, ?_⟩
        · simpa [wordAt] using hws
        · simpa [wordAt, Follows] using htail

end FirstWords

section Matching

lemma inner_break_unique {w w' r r' : Bytes} (hw : WordInner w) (hw' : WordInner w')
    (hr : WordBreak r) (hr' : WordBreak r') (h : w ++ r = w' ++ r') : w = w' ∧ r = r' := by
  induction w generalizing w' with
  | nil =>
    cases w' with
    | nil => exact ⟨rfl, h⟩
    | cons c w' =>
      have hc := hw' c (by simp)
      have hbreak := hr c (by simp [show r = _ from h])
      simp [hc.1, hc.2] at hbreak
  | cons c w ih =>
    cases w' with
    | nil =>
      have hc := hw c (by simp)
      have hbreak := hr' c (by simp [← show _ = r' from h])
      simp [hc.1, hc.2] at hbreak
    | cons c' w' =>
      obtain ⟨rfl, hrest⟩ : c = c' ∧ w ++ r = w' ++ r' := by simpa using h
      obtain ⟨rfl, rfl⟩ :=
        ih (List.forall_mem_cons.mp hw).2 (List.forall_mem_cons.mp hw').2 hrest
      exact ⟨rfl, rfl⟩

/-- The end of a text, or what may follow an operation in it. -/
def OpEnd (r : Bytes) : Prop := ∀ b ∈ r.head?, b = space ∨ b = openParen

lemma OpEnd.break {r : Bytes} (h : OpEnd r) : WordBreak r := by
  intro b hb
  rcases h b hb with rfl | rfl
  · exact .inl (by decide)
  · exact .inr (by decide)

lemma matchesOperation_iff (normalized : Bytes) (op : Bytes × Bytes) :
    matchesOperation normalized op = true ↔ ∃ r, normalized = op.1 ++ r ∧ OpEnd r := by
  simp only [matchesOperation, Bool.decide_and, Bool.and_eq_true, decide_eq_true_eq,
    List.isPrefixOf_iff_prefix]
  constructor
  · rintro ⟨⟨r, rfl⟩, hend⟩
    refine ⟨r, rfl, ?_⟩
    intro b hb
    cases r with
    | nil => simp at hb
    | cons c r =>
      obtain rfl : c = b := by simpa using hb
      simpa using hend
  · rintro ⟨r, rfl, hend⟩
    refine ⟨List.prefix_append _ _, ?_⟩
    cases r with
    | nil => exact .inl (by simp)
    | cons c r => exact .inr (by simpa using hend c rfl)

def spelled (ws : List Bytes) (tail : Bytes) : Bytes :=
  ws.foldr (fun w s => space :: (w ++ s)) tail

lemma intercalate_spelled (w : Bytes) (ws : List Bytes) (tail : Bytes) :
    List.intercalate [space] (w :: ws) ++ tail = w ++ spelled ws tail := by
  induction ws generalizing w with
  | nil => simp [List.intercalate, spelled]
  | cons w' ws ih =>
    have h := ih w'
    simp only [List.intercalate, spelled] at h ⊢
    simp [← h]

lemma spelled_break {ws : List Bytes} {tail : Bytes} (h : WordBreak tail) :
    WordBreak (spelled ws tail) := by
  cases ws with
  | nil => exact h
  | cons w ws =>
    intro c hc
    obtain rfl : space = c := by simpa [spelled] using hc
    exact .inl (by decide)

lemma Follows.break {tail : Bytes} {full : Prop} (h : Follows tail full) : WordBreak tail := by
  rcases h with rfl | h | ⟨h, -⟩
  · simp [Breaks]
  · intro c hc
    rw [h] at hc
    obtain rfl : openParen = c := by simpa using hc
    exact .inr (by decide)
  · exact h

lemma Follows.opEnd {tail : Bytes} {full : Prop} (h : Follows tail full) (hfull : ¬ full) :
    OpEnd tail := by
  rcases h with rfl | h | ⟨-, h⟩
  · simp [OpEnd]
  · simp [OpEnd, h]
  · exact absurd h hfull

lemma spelled_opEnd {ws : List Bytes} {tail : Bytes} (h : ws = [] → OpEnd tail) :
    OpEnd (spelled ws tail) := by
  cases ws with
  | nil => exact h rfl
  | cons w ws => simp [OpEnd, spelled]

lemma spelled_match {ks ws : List Bytes} {tail : Bytes} (hk : ∀ k ∈ ks, WordInner k)
    (hw : ∀ w ∈ ws, WordInner w) (htail : Follows tail (ks.length < ws.length)) :
    (∃ r, spelled ws tail = spelled ks r ∧ OpEnd r) ↔ ks <+: ws := by
  induction ks generalizing ws with
  | nil =>
    exact iff_of_true ⟨_, rfl, spelled_opEnd fun h => htail.opEnd (by simp [h])⟩ List.nil_prefix
  | cons k ks ih =>
    obtain ⟨hk, hks⟩ := List.forall_mem_cons.mp hk
    cases ws with
    | nil =>
      refine iff_of_false ?_ (by simp)
      rintro ⟨r, heq, -⟩
      have hspace : tail = space :: (k ++ spelled ks r) := heq
      rcases htail with rfl | h | ⟨-, h⟩
      · simp at hspace
      · rw [hspace] at h
        exact absurd h (by simp [space, openParen])
      · simp at h
    | cons w ws =>
      obtain ⟨hw, hws⟩ := List.forall_mem_cons.mp hw
      replace htail : Follows tail (ks.length < ws.length) := by simpa [Follows] using htail
      rw [List.cons_prefix_cons, ← ih hks hws htail]
      constructor
      · rintro ⟨r, heq, hr⟩
        have heq' : w ++ spelled ws tail = k ++ spelled ks r := (List.cons.inj heq).2
        obtain ⟨rfl, hrest⟩ := inner_break_unique hw hk (spelled_break htail.break)
          (spelled_break hr.break) heq'
        exact ⟨rfl, r, hrest, hr⟩
      · rintro ⟨rfl, r, hrest, hr⟩
        exact ⟨r, congrArg (fun s => space :: (k ++ s)) hrest, hr⟩

end Matching

section Operation

/-- The operation that the words of a statement stand for. -/
def wordOperation (ws : List Bytes) : Bytes :=
  match multiWordOps.find? fun op => (sqlWords op.1).isPrefixOf ws with
  | some op => op.2
  | none => ws.headD []

lemma multiWordOps_spelled : ∀ op ∈ multiWordOps,
    op.1 = List.intercalate [space] (sqlWords op.1) ∧ sqlWords op.1 ≠ [] ∧
      (sqlWords op.1).length < 4 := by
  decide +kernel

lemma sqlWords_inner {s w : Bytes} (h : w ∈ sqlWords s) : w ≠ [] ∧ WordInner w := fields_inner h

lemma matchesOperation_words {w : Bytes} {ws : List Bytes} {tail : Bytes} {op : Bytes × Bytes}
    (hop : op ∈ multiWordOps) (hw : ∀ v ∈ w :: ws, WordInner v)
    (htail : Follows tail ((w :: ws).length = 4)) :
    matchesOperation (List.intercalate [space] (w :: ws) ++ tail) op =
      (sqlWords op.1).isPrefixOf (w :: ws) := by
  obtain ⟨hspell, hne, hlen⟩ := multiWordOps_spelled op hop
  obtain ⟨k, ks, hks⟩ := List.exists_cons_of_ne_nil hne
  have hk : ∀ v ∈ k :: ks, WordInner v := fun v hv => (sqlWords_inner (hks ▸ hv)).2
  obtain ⟨hk, hks'⟩ := List.forall_mem_cons.mp hk
  obtain ⟨hw, hws⟩ := List.forall_mem_cons.mp hw
  rw [hks] at hspell hlen
  have htail' : Follows tail (ks.length < ws.length) := by
    refine htail.imp_right (Or.imp_right (And.imp_right fun hfull => ?_))
    simp only [List.length_cons] at hlen hfull
    omega
  rw [Bool.eq_iff_iff, matchesOperation_iff, List.isPrefixOf_iff_prefix, hks, List.cons_prefix_cons,
    ← spelled_match hks' hws htail', intercalate_spelled]
  have hfirst : ∀ r, op.1 ++ r = k ++ spelled ks r := fun r => by
    rw [hspell, intercalate_spelled]
  constructor
  · rintro ⟨r, heq, hr⟩
    rw [hfirst] at heq
    obtain ⟨rfl, hrest⟩ := inner_break_unique hw hk (spelled_break htail.break)
      (spelled_break hr.break) heq
    exact ⟨rfl, r, hrest, hr⟩
  · rintro ⟨rfl, r, hrest, hr⟩
    exact ⟨r, by rw [hfirst, hrest], hr⟩

lemma wordOperation_take (ws : List Bytes) : wordOperation (ws.take 4) = wordOperation ws := by
  have hfind : ∀ op ∈ multiWordOps,
      (sqlWords op.1).isPrefixOf (ws.take 4) = (sqlWords op.1).isPrefixOf ws := by
    intro op hop
    have hlen := (multiWordOps_spelled op hop).2.2
    rw [Bool.eq_iff_iff, List.isPrefixOf_iff_prefix, List.isPrefixOf_iff_prefix]
    exact ⟨fun h => h.trans (List.take_prefix _ _), fun h => List.prefix_take_iff.mpr ⟨h, by omega⟩⟩
  rw [wordOperation, wordOperation, List.find?_congr hfind]
  cases ws <;> simp

/-- Words that are not the beginning of a longer listed operation. -/
def Settled (ws : List Bytes) : Prop :=
  ws ≠ [] ∧ ∀ op ∈ multiWordOps, ws <+: sqlWords op.1 → sqlWords op.1 = ws

instance (ws : List Bytes) : Decidable (Settled ws) := inferInstanceAs (Decidable (_ ∧ _))

/-- Behind words that settle the operation, more words make no difference. -/
lemma Settled.wordOperation_append {ws : List Bytes} (h : Settled ws) (more : List Bytes) :
    wordOperation (ws ++ more) = wordOperation ws := by
  have hfind : ∀ op ∈ multiWordOps,
      (sqlWords op.1).isPrefixOf (ws ++ more) = (sqlWords op.1).isPrefixOf ws := by
    intro op hop
    rw [Bool.eq_iff_iff, List.isPrefixOf_iff_prefix, List.isPrefixOf_iff_prefix]
    refine ⟨fun hprefix => ?_, fun hprefix => hprefix.trans (List.prefix_append _ _)⟩
    rcases List.prefix_or_prefix_of_prefix hprefix (List.prefix_append _ _) with h' | h'
    · exact h'
    · rw [h.2 op hop h']
  obtain ⟨w, ws, rfl⟩ := List.exists_cons_of_ne_nil h.1
  rw [wordOperation, wordOperation, List.find?_congr hfind]
  rfl

def firstWord (normalized : Bytes) : Bytes :=
  match normalized.findIdx? fun b => b = space ∨ b = openParen with
  | some idx => if 0 < idx then normalized.take idx else normalized
  | none => normalized

lemma firstWord_eq {w r : Bytes} (hw : WordInner w) (hne : w ≠ []) (hr : OpEnd r) :
    firstWord (w ++ r) = w := by
  have hinner : w.findIdx? (fun b => decide (b = space ∨ b = openParen)) = none := by
    rw [List.findIdx?_eq_none_iff]
    intro c hc
    have hbreak := hw c hc
    simp only [isBlank, isParen, decide_eq_false_iff_not] at hbreak
    simp only [decide_eq_false_iff_not]
    tauto
  rw [firstWord, List.findIdx?_append, hinner]
  cases r with
  | nil => simp
  | cons c r =>
    have hlen : 0 < w.length := List.length_pos_of_ne_nil hne
    simp [List.findIdx?_cons, hr c rfl, hne]

/-- What is left to do once comments are stripped and letters are in upper case. -/
def textOperation (s : Bytes) : Bytes :=
  match multiWordOps.find? (matchesOperation (normalizeWhitespacePrefix s 4)) with
  | some op => op.2
  | none => firstWord (normalizeWhitespacePrefix s 4)

lemma textOperation_words {s : Bytes} (hne : sqlWords s ≠ []) :
    textOperation s = wordOperation (sqlWords s) := by
  obtain ⟨hws, htail⟩ := firstWords_spec 4 s (by simp)
  obtain ⟨w, ws, hcons⟩ : ∃ w ws, (firstWords 4 s).1 = w :: ws := by
    rw [hws]
    obtain ⟨w, ws, h⟩ := List.exists_cons_of_ne_nil hne
    exact ⟨w, ws.take 3, by simp [h]⟩
  have hinner : ∀ v ∈ w :: ws, v ≠ [] ∧ WordInner v := by
    intro v hv
    rw [← hcons, hws] at hv
    exact sqlWords_inner (List.mem_of_mem_take hv)
  have hnorm : normalizeWhitespacePrefix s 4 =
      List.intercalate [space] (w :: ws) ++ (firstWords 4 s).2 := by
    rw [normalizeWhitespacePrefix, ← hcons]
  rw [hcons] at htail
  have hfind : multiWordOps.find? (matchesOperation (normalizeWhitespacePrefix s 4)) =
      multiWordOps.find? fun op => (sqlWords op.1).isPrefixOf (w :: ws) := by
    refine List.find?_congr fun op hop => ?_
    rw [hnorm, matchesOperation_words hop (fun v hv => (hinner v hv).2) htail]
  have hfirst : firstWord (normalizeWhitespacePrefix s 4) = w := by
    obtain ⟨hwne, hw⟩ := hinner w (by simp)
    have hend : OpEnd (spelled ws (firstWords 4 s).2) :=
      spelled_opEnd fun h => htail.opEnd (by simp [h])
    rw [hnorm, intercalate_spelled, firstWord_eq hw hwne hend]
  rw [← wordOperation_take, ← hws, hcons, wordOperation, textOperation]
  simp only [hfind, hfirst, List.headD_cons]

lemma multiWordOps_head : ∀ op ∈ multiWordOps, op.1 ≠ [] ∧ op.1.head? ≠ some openParen ∧
    op.2.head? = ((sqlWords op.1).headD []).head? := by
  decide +kernel

lemma textOperation_head {c : UInt8} (hc : isBlank c = false) (s : Bytes) :
    (textOperation (c :: s)).head? = some c := by
  by_cases hparen : c = openParen
  · subst hparen
    have hnorm : normalizeWhitespacePrefix (openParen :: s) 4 = openParen :: s := rfl
    have hfind : multiWordOps.find? (matchesOperation (openParen :: s)) = none := by
      rw [List.find?_eq_none]
      intro op hop hmatch
      obtain ⟨r, hr, -⟩ := (matchesOperation_iff _ _).mp hmatch
      obtain ⟨hne, hstart, -⟩ := multiWordOps_head op hop
      obtain ⟨b, k, hk⟩ := List.exists_cons_of_ne_nil hne
      rw [hk, List.cons_append] at hr
      exact hstart (by rw [hk, (List.cons.inj hr).1]; rfl)
    rw [textOperation, hnorm, hfind]
    rfl
  · obtain ⟨w, ws, hws⟩ : ∃ w ws, sqlWords (c :: s) = (c :: w) :: ws :=
      exists_fields_cons hc (by simpa [isParen] using hparen) s
    rw [textOperation_words (by simp [hws]), hws, wordOperation]
    split
    next op hfind =>
      have hop := List.mem_of_find?_eq_some hfind
      have hprefix : sqlWords op.1 <+: (c :: w) :: ws := by simpa using List.find?_some hfind
      obtain ⟨k, ks, hk⟩ := List.exists_cons_of_ne_nil (multiWordOps_spelled op hop).2.1
      rw [hk, List.cons_prefix_cons] at hprefix
      rw [(multiWordOps_head op hop).2.2, hk, hprefix.1]
      rfl
    next => rfl

lemma extractStatementOperation_eq (f : QueryFilter) (stmt : Bytes) :
    extractStatementOperation f stmt =
      if trimSpace (stripLeadingComments stmt) = [] then []
      else textOperation (toUpper f (stripAllBlockComments (trimSpace (stripLeadingComments stmt)))) := by
  unfold extractStatementOperation
  generalize trimSpace (stripLeadingComments stmt) = s
  split_ifs with hs
  · simp [hs]
  · rw [if_neg hs, textOperation]
    generalize normalizeWhitespacePrefix _ _ = normalized
    dsimp only
    cases multiWordOps.find? (matchesOperation normalized) <;> rfl

end Operation

end ShadowProxy.SqlWords
