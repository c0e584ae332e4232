import ShadowProxy.SqlComment

/-! Keywords at the start of a statement, and what the filter makes of them: how they are spelled, how
far apart they stand and what follows them. -/
namespace ShadowProxy.SqlKeyword
open WordBytes ShadowFilter WordFields SqlWords SqlTrim SqlStrip SqlComment

section Letters
variable {b : UInt8} {w x y : Bytes} {f : QueryFilter}

def isLetter (b : UInt8) : Bool := (0x41 ≤ b ∧ b ≤ 0x5A) ∨ (0x61 ≤ b ∧ b ≤ 0x7A)

lemma letter_plain : ∀ b : UInt8, isLetter b = true → b < 0x80 ∧ isInk b = true ∧ b ≠ slash ∧
    b ≠ star ∧ b ≠ dash ∧ isBlank (asciiUpper b) = false ∧ isParen (asciiUpper b) = false := by
  decide +kernel

def IsKeyword (w : Bytes) : Prop := w ≠ [] ∧ ∀ b ∈ w, isLetter b = true

instance (w : Bytes) : Decidable (IsKeyword w) := inferInstanceAs (Decidable (_ ∧ _))

def upper (w : Bytes) : Bytes := w.map asciiUpper

/-- A text that starts and ends with letters. -/
structure Lettered (x : Bytes) : Prop where
  first : ∃ b ∈ x.head?, isLetter b = true
  last : ∃ b ∈ x.getLast?, isLetter b = true

lemma IsKeyword.lettered (h : IsKeyword w) : Lettered w := by
  obtain ⟨b, v, rfl⟩ := List.exists_cons_of_ne_nil h.1
  refine ⟨⟨b, rfl, h.2 b List.mem_cons_self⟩, _, List.getLast?_eq_getLast_of_ne_nil h.1, ?_⟩
  exact h.2 _ (List.getLast_mem h.1)

lemma IsKeyword.inner (h : IsKeyword w) : WordInner (upper w) := by
  intro c hc
  obtain ⟨b, hb, rfl⟩ := List.mem_map.mp hc
  exact (letter_plain b (h.2 b hb)).2.2.2.2.2

lemma IsKeyword.not_slash (h : IsKeyword w) : slash ∉ w := fun hmem =>
  (letter_plain slash (h.2 slash hmem)).2.2.1 rfl

lemma Lettered.body (h : Lettered x) (y : Bytes) : Body (x ++ y) := by
  obtain ⟨b, hb, hletter⟩ := h.first
  obtain ⟨-, hink, hslash, -, hdash, -⟩ := letter_plain b hletter
  cases x with
  | nil => simp at hb
  | cons c x =>
    obtain rfl : c = b := by simpa using hb
    refine ⟨by simp, flush_of_ink hink _, fun hp => hdash ?_, fun hp => hslash ?_⟩
    · rw [ascii_dashes, List.cons_append, List.cons_prefix_cons] at hp
      exact hp.1.symm
    · rw [ascii_open, List.cons_append, List.cons_prefix_cons] at hp
      exact hp.1.symm

lemma Lettered.strip (h : Lettered x) (y : Bytes) :
    stripLeadingComments (x ++ y) = x ++ trimRight spaceEncodings y := by
  obtain ⟨b, hb, hletter⟩ := h.last
  obtain ⟨-, hink, -⟩ := letter_plain b hletter
  obtain ⟨v, rfl⟩ := List.getLast?_eq_some_iff.mp hb
  rw [stripLeadingComments_body (h.body y), trimRight_ink_append hink]

lemma Lettered.operation (h : Lettered x) {l : Bytes} (hl : Lead l) (y : Bytes) :
    extractStatementOperation f (l ++ (x ++ y)) =
      textOperation (toUpper f (stripAllBlockComments (x ++ trimRight spaceEncodings y))) := by
  have hne : x ++ trimRight spaceEncodings y ≠ [] := (h.body _).ne_nil
  rw [extractStatementOperation_strip, hl.strip, h.strip, if_neg hne]

lemma toUpper_ascii (hx : ∀ b ∈ x, b < 0x80) (y : Bytes) :
    toUpper f (x ++ y) = upper x ++ toUpper f y := by
  induction x with
  | nil => rfl
  | cons b x ih =>
    obtain ⟨hb, hx⟩ := List.forall_mem_cons.mp hx
    rw [List.cons_append, toUpper_cons hb, ih hx, upper, upper, List.map_cons, List.cons_append]

lemma IsKeyword.toUpper_append (h : IsKeyword w) (y : Bytes) :
    toUpper f (w ++ y) = upper w ++ toUpper f y :=
  toUpper_ascii (fun b hb => (letter_plain b (h.2 b hb)).1) y

lemma IsKeyword.sqlWords_append (h : IsKeyword w) (hy : WordBreak y) :
    sqlWords (upper w ++ y) = upper w :: sqlWords y :=
  fields_word h.inner (by simpa [upper] using h.1) hy

lemma free_of_not_slash (h : slash ∉ x) : ¬ ascii "/*" <:+: x := fun hp =>
  h (hp.subset (by simp [ascii_open]))

lemma stripAllBlockComments_of_not_slash (h : slash ∉ x) (y : Bytes) :
    stripAllBlockComments (x ++ y) = x ++ stripAllBlockComments y :=
  stripAllBlockComments_plain_append (free_of_not_slash h) fun hs => h (List.mem_of_getLast? hs.1)

lemma break_strip (hy : WordBreak y) :
    WordBreak (toUpper f (stripAllBlockComments (trimRight spaceEncodings y))) := by
  obtain ⟨z, hz⟩ := spaces_code.trimRight_prefix y
  cases hr : trimRight spaceEncodings y with
  | nil => simp [stripAllBlockComments_plain (free_of_not_slash (x := []) (by simp)), Breaks]
  | cons b r =>
    have hb : isBlank b = true ∨ isParen b = true := hy b (by rw [← hz, hr]; rfl)
    obtain ⟨hlow, hupper⟩ := asciiUpper_break b hb
    rw [stripAllBlockComments_break hb, toUpper_cons hlow, hupper]
    intro c hc
    obtain rfl : b = c := by simpa using hc
    exact hb

end Letters

section Phrase
variable {f : QueryFilter} {w x y : Bytes} {rest : List (Bytes × Bytes)}

/-- What may stand between two keywords: blanks and closed block comments. -/
inductive Gap : Bytes → Prop
  | blank (b : UInt8) (hb : isBlank b = true) : Gap [b]
  | comment (text : Bytes) (h : ¬ ascii "*/" <:+: text) : Gap (ascii "/*" ++ text ++ ascii "*/")
  | append {x y : Bytes} (hx : Gap x) (hy : Gap y) : Gap (x ++ y)

/-- A keyword, the keywords behind it with what stands in front of each, and the rest. -/
def phrase (w : Bytes) : List (Bytes × Bytes) → Bytes → Bytes
  | [], tail => w ++ tail
  | (gap, v) :: rest, tail => w ++ gap ++ phrase v rest tail

def plainPhrase (w : Bytes) (rest : List (Bytes × Bytes)) (tail : Bytes) : Bytes :=
  phrase (upper w) (rest.map fun p => ([space], upper p.2)) tail

lemma phrase_append (w : Bytes) (rest : List (Bytes × Bytes)) (x y : Bytes) :
    phrase w rest (x ++ y) = phrase w rest x ++ y := by
  induction rest generalizing w with
  | nil => simp [phrase]
  | cons p rest ih => simp [phrase, ih]

lemma Gap.strip (h : Gap x) : ∃ g, g ≠ [] ∧ (∀ b ∈ g, isBlank b = true) ∧
    ∀ a, ¬ ascii "/*" <:+: a → ∀ y,
      stripAllBlockComments (a ++ x ++ y) = stripAllBlockComments (a ++ g ++ y) := by
  induction h with
  | blank b hb => exact ⟨[b], by simp, by simpa using hb, fun _ _ _ => rfl⟩
  | comment text ht =>
    refine ⟨[space], by simp, by simp [isBlank], fun a ha y => ?_⟩
    have hclosed := stripAllBlockComments_closed ha ht y
    simpa only [List.append_assoc, List.singleton_append] using hclosed
  | @append u v _ _ ihx ihy =>
    obtain ⟨g, hg, hblank, hx⟩ := ihx
    obtain ⟨g', hg', hblank', hy⟩ := ihy
    refine ⟨g ++ g', by simp [hg], ?_, fun a ha z => ?_⟩
    · exact fun b hb => (List.mem_append.mp hb).elim (hblank b) (hblank' b)
    · have hfree : ¬ ascii "/*" <:+: a ++ g := by
        obtain ⟨hslash, hstar⟩ := blank_plain hblank
        rw [ascii_open, infix_pair_append]
        rintro (h | h | ⟨-, h⟩)
        · exact ha h
        · exact free_of_not_slash hslash h
        · exact hstar (List.mem_of_mem_head? h)
      have hfirst := hx a ha (v ++ z)
      have hsecond := hy (a ++ g) hfree z
      simp only [List.append_assoc] at hfirst hsecond ⊢
      rw [hfirst, hsecond]

/-- The keywords of a phrase and the gaps between them. -/
structure IsPhrase (w : Bytes) (rest : List (Bytes × Bytes)) : Prop where
  first : IsKeyword w
  words : ∀ p ∈ rest, Gap p.1 ∧ IsKeyword p.2

lemma IsPhrase.behind {p : Bytes × Bytes} (h : IsPhrase w (p :: rest)) : IsPhrase p.2 rest :=
  ⟨(h.words p List.mem_cons_self).2, fun q hq => h.words q (List.mem_cons_of_mem p hq)⟩

lemma IsPhrase.lettered (h : IsPhrase w rest) : Lettered (phrase w rest []) := by
  induction rest generalizing w with
  | nil => simpa [phrase] using h.first.lettered
  | cons p rest ih =>
    obtain ⟨b, hb, hletter⟩ := (ih h.behind).last
    refine ⟨?_, b, ?_, hletter⟩
    · obtain ⟨c, v, rfl⟩ := List.exists_cons_of_ne_nil h.first.1
      exact ⟨c, rfl, h.first.2 c List.mem_cons_self⟩
    · simp [phrase, List.getLast?_append, Option.mem_def.mp hb]

lemma IsPhrase.words_eq (h : IsPhrase w rest)
    (hy : WordBreak (toUpper f (stripAllBlockComments y))) :
    sqlWords (toUpper f (stripAllBlockComments (phrase w rest y))) =
      upper w :: (rest.map fun p => upper p.2) ++ sqlWords (toUpper f (stripAllBlockComments y)) := by
  induction rest generalizing w with
  | nil =>
    rw [phrase, stripAllBlockComments_of_not_slash h.first.not_slash, h.first.toUpper_append,
      h.first.sqlWords_append hy]
    rfl
  | cons p rest ih =>
    obtain ⟨gap, v⟩ := p
    obtain ⟨g, hg, hblank, hgap⟩ := (h.words (gap, v) List.mem_cons_self).1.strip
    have hslash : slash ∉ w ++ g := fun hmem =>
      (List.mem_append.mp hmem).elim h.first.not_slash (blank_plain hblank).1
    have hbreak : ∀ z, WordBreak (g ++ z) := by
      intro z c hc
      obtain ⟨b, g, rfl⟩ := List.exists_cons_of_ne_nil hg
      obtain rfl : b = c := by simpa using hc
      exact .inl (hblank b List.mem_cons_self)
    have hskip : ∀ z, sqlWords (g ++ z) = sqlWords z := fun z =>
      fields_blanks (fun b hb => ⟨hblank b hb, isParen_blank (hblank b hb)⟩) z
    rw [phrase, hgap w (free_of_not_slash h.first.not_slash), stripAllBlockComments_of_not_slash hslash,
      List.append_assoc, h.first.toUpper_append, toUpper_blanks hblank,
      h.first.sqlWords_append (hbreak _), hskip, ih h.behind]
    rfl

lemma upper_idem (w : Bytes) : upper (upper w) = upper w := by
  have hidem : ∀ b : UInt8, asciiUpper (asciiUpper b) = asciiUpper b := by decide +kernel
  simp [upper, hidem]

lemma IsKeyword.keyword_upper (h : IsKeyword w) : IsKeyword (upper w) := by
  have hletter : ∀ b : UInt8, isLetter b = true → isLetter (asciiUpper b) = true := by decide +kernel
  refine ⟨by simpa [upper] using h.1, fun c hc => ?_⟩
  obtain ⟨b, hb, rfl⟩ := List.mem_map.mp hc
  exact hletter b (h.2 b hb)

lemma IsPhrase.operation (h : IsPhrase w rest) {tail : Bytes}
    (htail : WordBreak tail) :
    extractStatementOperation f (phrase w rest tail) = wordOperation
      (upper w :: (rest.map fun p => upper p.2) ++
        sqlWords (toUpper f (stripAllBlockComments (trimRight spaceEncodings tail)))) := by
  have hsplit : ∀ y, phrase w rest y = phrase w rest [] ++ y := fun y => phrase_append w rest [] y
  have hwords := h.words_eq (break_strip (f := f) htail)
  rw [hsplit tail, ← List.nil_append (phrase w rest [] ++ tail), h.lettered.operation .nil, ← hsplit,
    textOperation_words (by rw [hwords]; simp), hwords]

/-- Neither the case of the keywords nor what stands between them makes a difference. -/
theorem phrase_operation (h : IsPhrase w rest) {tail : Bytes}
    (htail : WordBreak tail) :
    extractStatementOperation f (phrase w rest tail) =
      extractStatementOperation f (plainPhrase w rest tail) := by
  have hplain : IsPhrase (upper w) (rest.map fun p => ([space], upper p.2)) := by
    refine ⟨h.first.keyword_upper, fun p hp => ?_⟩
    obtain ⟨q, hq, rfl⟩ := List.mem_map.mp hp
    exact ⟨.blank space (by decide), (h.words q hq).2.keyword_upper⟩
  rw [h.operation htail, plainPhrase, hplain.operation htail, upper_idem]
  simp [Function.comp_def, upper_idem]

theorem phrase_operation_hint :
    extractStatementOperation asciiFilter
        (phrase (ascii "submit") [(ascii " /*+ a */\t", ascii "Task")] (ascii " AS x")) =
      extractStatementOperation asciiFilter (ascii "SUBMIT TASK AS x") := by
  have hgap : Gap (ascii " /*+ a */\t") := by
    have hcomment : ¬ ascii "*/" <:+: ascii "+ a " := by decide +kernel
    have hsplit : ascii " /*+ a */\t" =
        [space] ++ ((ascii "/*" ++ ascii "+ a " ++ ascii "*/") ++ [0x09]) := by decide +kernel
    rw [hsplit]
    exact (Gap.blank space (by decide)).append ((Gap.comment _ hcomment).append (.blank 0x09 (by decide)))
  have hphrase : IsPhrase (ascii "submit") [(ascii " /*+ a */\t", ascii "Task")] :=
    ⟨by decide +kernel, List.forall_mem_singleton.mpr ⟨hgap, by decide +kernel⟩⟩
  have htail : WordBreak (ascii " AS x") := by
    intro c hc
    obtain rfl : space = c := Option.some.inj hc
    exact .inl (by decide)
  have hplain : plainPhrase (ascii "submit") [(ascii " /*+ a */\t", ascii "Task")] (ascii " AS x") =
      ascii "SUBMIT TASK AS x" := by decide +kernel
  rw [phrase_operation hphrase htail, hplain]

end Phrase

section Follow
variable {f : QueryFilter} {k pre rest : Bytes}

def continuesIdent (b : UInt8) : Bool :=
  isLetter b || (0x30 ≤ b && b ≤ 0x39) || b = 0x5F || b = 0x24 || 0x80 ≤ b

/-- The operation is the keyword itself, or a listed one whose first word it is. -/
def Names (k op : Bytes) : Prop :=
  op = upper k ∨ ∃ listed ∈ multiWordOps, (sqlWords listed.1).head? = some (upper k) ∧ op = listed.2

/-- The keyword ends for the filter where it ends: at the end of the statement, at a blank, at a
parenthesis or at a closed block comment. -/
def Delimits (rest : Bytes) : Prop :=
  Spaces rest ∨ (∃ b ∈ rest.head?, isBlank b = true ∨ isParen b = true) ∨
    ∃ text y, rest = ascii "/*" ++ text ++ ascii "*/" ++ y

/-- What may stand in front of the first keyword of a statement. -/
inductive Front : Bytes → Prop
  | nil : Front []
  | spaces {r s : Bytes} (hr : Spaces r) (hs : Front s) : Front (r ++ s)
  | comment (c : Comment) {s : Bytes} (hs : Front s) : Front (c.bytes ++ s)
  | paren {s : Bytes} (hs : Front s) : Front (openParen :: s)

def isNameByte (b : UInt8) : Bool := (0x41 ≤ b && b ≤ 0x5A) || b = 0x5F

lemma multiWordOps_names : ∀ op ∈ multiWordOps, op.2.all isNameByte = true ∧
    ((sqlWords op.1).headD []).all isNameByte = true := by
  decide +kernel

lemma names_of_words (ws : List Bytes) : Names k (wordOperation (upper k :: ws)) := by
  rw [wordOperation]
  split
  next op hfind =>
    have hop := List.mem_of_find?_eq_some hfind
    have hstart : sqlWords op.1 <+: upper k :: ws := by simpa using List.find?_some hfind
    obtain ⟨v, vs, hv⟩ := List.exists_cons_of_ne_nil (multiWordOps_spelled op hop).2.1
    rw [hv, List.cons_prefix_cons] at hstart
    exact .inr ⟨op, hop, by rw [hv, hstart.1]; rfl, rfl⟩
  next => exact .inl rfl

lemma not_names_of_words {w : Bytes} {ws : List Bytes} {b : UInt8} (hb : b ∈ w)
    (hname : isNameByte b = false) (hk : ∀ c ∈ upper k, c ≠ b) : ¬ Names k (wordOperation (w :: ws)) := by
  have hnot : ∀ {s : Bytes}, s.all isNameByte = true → b ∉ s := by
    intro s hs hmem
    have := List.all_eq_true.mp hs b hmem
    simp [hname] at this
  have hnone : multiWordOps.find? (fun op => (sqlWords op.1).isPrefixOf (w :: ws)) = none := by
    rw [List.find?_eq_none]
    intro op hop hstart
    obtain ⟨v, vs, hv⟩ := List.exists_cons_of_ne_nil (multiWordOps_spelled op hop).2.1
    rw [hv, List.isPrefixOf_iff_prefix, List.cons_prefix_cons] at hstart
    have hall := (multiWordOps_names op hop).2
    rw [hv, List.headD_cons, hstart.1] at hall
    exact hnot hall hb
  rw [wordOperation, hnone]
  rintro (h | ⟨op, hop, -, h⟩)
  · exact hk b (by rw [← h]; exact hb) rfl
  · refine hnot (multiWordOps_names op hop).1 ?_
    rw [← h]
    exact hb

lemma trimRight_closed (text y : Bytes) :
    trimRight spaceEncodings (ascii "/*" ++ text ++ ascii "*/" ++ y) =
      ascii "/*" ++ text ++ ascii "*/" ++ trimRight spaceEncodings y := by
  have hend : ascii "/*" ++ text ++ ascii "*/" = ascii "/*" ++ text ++ [star] ++ [slash] := by
    simp [ascii_close]
  rw [hend, trimRight_ink_append isInk_slash]

lemma follow_cases (hrest : ∀ b ∈ rest.head?, continuesIdent b = false) :
    (Delimits rest ∧ WordBreak (toUpper f (stripAllBlockComments (trimRight spaceEncodings rest)))) ∨
      (¬ Delimits rest ∧ ∃ b ∈ rest.head?, isBlank b = false ∧ isParen b = false ∧
        ∃ z, toUpper f (stripAllBlockComments (trimRight spaceEncodings rest)) = asciiUpper b :: z) := by
  obtain ⟨sp, hsp, hsplit, -⟩ := spaces_code.exists_trimRight rest
  cases hr : trimRight spaceEncodings rest with
  | nil =>
    refine .inl ⟨.inl (spaces_of_trimRight hr), ?_⟩
    simp [stripAllBlockComments_plain (free_of_not_slash (x := []) (by simp)), Breaks]
  | cons b r =>
    rw [hr] at hsplit
    have hhead : rest.head? = some b := by rw [hsplit]; rfl
    have hnot : ¬ Spaces rest := by
      intro h
      have hnil : trimRight spaceEncodings rest = [] := spaces_code.trimRight_run h []
      simp [hnil] at hr
    have hlow : b < 0x80 := by
      have hb := hrest b hhead
      simp only [continuesIdent, Bool.or_eq_false_iff, decide_eq_false_iff_not] at hb
      exact UInt8.not_le.mp hb.2
    have hclosed : ∀ {text y : Bytes}, rest = ascii "/*" ++ text ++ ascii "*/" ++ y →
        b :: r = ascii "/*" ++ text ++ ascii "*/" ++ trimRight spaceEncodings y := by
      rintro text y rfl
      rw [← hr, trimRight_closed]
    by_cases hopen : ascii "/*" <+: b :: r
    · obtain ⟨t, ht⟩ := hopen
      rw [← ht]
      by_cases hclose : ascii "*/" <:+: t
      · obtain ⟨text, y, rfl⟩ := hclose
        refine .inl ⟨.inr (.inr ⟨text, y ++ sp, ?_⟩), ?_⟩
        · rw [hsplit, ← ht]
          simp
        · cases hext : blockExtent (ascii "/*" ++ (text ++ ascii "*/" ++ y)) with
          | none =>
            have hno : indexOf (ascii "*/") (text ++ ascii "*/" ++ y) = none := by
              exact Option.map_eq_none_iff.mp hext
            exact absurd ⟨text, y, rfl⟩ (indexOf_none_iff.mp hno)
          | some n =>
            rw [stripAllBlockComments_extent (List.prefix_append _ _), hext, Option.elim_some,
              stripAllBlockComments_break (.inl (by decide)), toUpper_cons (by decide)]
            intro c hc
            obtain rfl : asciiUpper space = c := by simpa using hc
            exact .inl (by decide)
      · obtain rfl : slash = b := by
          rw [ascii_open] at ht
          exact (List.cons.inj ht).1
        have hkeep := stripAllBlockComments_open (a := []) (by simp [ascii_open]) hclose
        rw [List.nil_append] at hkeep
        refine .inr ⟨?_, slash, hhead, by decide, by decide, toUpper f (star :: t), ?_⟩
        · rintro (h | ⟨c, hc, h⟩ | ⟨text, y, h⟩)
          · exact hnot h
          · rw [hhead] at hc
            obtain rfl : slash = c := by simpa using hc
            exact absurd h (by decide)
          · refine hclose ⟨text, trimRight spaceEncodings y, ?_⟩
            have hsame := ht.trans (hclosed h)
            rw [List.append_assoc, List.append_assoc] at hsame
            rw [List.append_assoc, List.append_cancel_left hsame]
        · rw [hkeep, ascii_open]
          exact toUpper_cons (by decide) (star :: t)
    · rw [stripAllBlockComments_cons hopen, toUpper_cons hlow]
      by_cases hb : isBlank b = true ∨ isParen b = true
      · refine .inl ⟨.inr (.inl ⟨b, hhead, hb⟩), ?_⟩
        intro c hc
        obtain rfl : asciiUpper b = c := by simpa using hc
        rwa [(asciiUpper_break b hb).2]
      · refine .inr ⟨?_, b, hhead, by simpa using fun h => hb (.inl h), by simpa using fun h => hb (.inr h), _, rfl⟩
        rintro (h | ⟨c, hc, h⟩ | ⟨text, y, h⟩)
        · exact hnot h
        · rw [hhead] at hc
          obtain rfl : b = c := by simpa using hc
          exact hb h
        · refine hopen ?_
          rw [hclosed h, List.append_assoc, List.append_assoc]
          exact List.prefix_append _ _

lemma operation_of_keyword (hl : Lead pre) (hk : IsKeyword k) (rest : Bytes) :
    extractStatementOperation f (pre ++ (k ++ rest)) = textOperation
      (upper k ++ toUpper f (stripAllBlockComments (trimRight spaceEncodings rest))) := by
  rw [hk.lettered.operation hl, stripAllBlockComments_of_not_slash hk.not_slash, hk.toUpper_append]

lemma asciiUpper_other : ∀ b : UInt8, continuesIdent b = false → isNameByte (asciiUpper b) = false ∧
    isLetter (asciiUpper b) = false ∧ isBlank (asciiUpper b) = isBlank b ∧
    isParen (asciiUpper b) = isParen b := by
  decide +kernel

lemma Names.name_bytes {op : Bytes} (hk : IsKeyword k) (h : Names k op) : ∀ b ∈ op, isNameByte b = true := by
  have hletter : ∀ b : UInt8, isLetter b = true → isNameByte (asciiUpper b) = true := by decide +kernel
  intro b hb
  rcases h with rfl | ⟨listed, hlisted, -, rfl⟩
  · obtain ⟨a, ha, rfl⟩ := List.mem_map.mp hb
    exact hletter a (hk.2 a ha)
  · exact List.all_eq_true.mp (multiWordOps_names listed hlisted).1 b hb

/-- Behind comments that the filter knows, the keyword names the operation exactly if it ends for the
filter where it ends. -/
lemma names_iff_delimits (hl : Lead pre) (hk : IsKeyword k)
    (hrest : ∀ b ∈ rest.head?, continuesIdent b = false) :
    Names k (extractStatementOperation f (pre ++ (k ++ rest))) ↔ Delimits rest := by
  rw [operation_of_keyword hl hk]
  rcases follow_cases hrest with ⟨hdel, hbreak⟩ | ⟨hdel, b, hb, hblank, hparen, z, hz⟩
  · refine iff_of_true ?_ hdel
    have hwords := hk.sqlWords_append hbreak
    rw [textOperation_words (by rw [hwords]; simp), hwords]
    exact names_of_words _
  · refine iff_of_false ?_ hdel
    obtain ⟨hname, hletter, hblank', hparen'⟩ := asciiUpper_other b (hrest b hb)
    have hmem : asciiUpper b ∈ wordAt (upper k ++ asciiUpper b :: z) := by
      have hpass : ∀ c ∈ upper k, (!isBlank c && c ≠ openParen) = true := by
        intro c hc
        simpa [isParen] using hk.inner c hc
      rw [wordAt, List.takeWhile_append_of_pos hpass, List.takeWhile_cons_of_pos]
      · simp
      · simpa [hblank', hblank] using show ¬ asciiUpper b = openParen by
          simpa [isParen] using hparen'.trans hparen
    rw [hz]
    have hwords := sqlWords_wordAt (List.ne_nil_of_mem hmem)
    rw [textOperation_words (by rw [hwords]; simp), hwords]
    refine not_names_of_words hmem hname fun c hc heq => ?_
    have hupper := hk.keyword_upper.2 c hc
    rw [heq, hletter] at hupper
    exact absurd hupper (by decide)

lemma not_names_of_paren (hl : Lead pre) (hk : IsKeyword k) (y : Bytes) :
    ¬ Names k (extractStatementOperation f (pre ++ openParen :: y)) := by
  have hink : isInk openParen = true := by decide +kernel
  have hbody : Body (openParen :: y) := by
    refine ⟨by simp, flush_of_ink hink y, fun hp => ?_, fun hp => ?_⟩
    · rw [ascii_dashes, List.cons_prefix_cons] at hp
      exact absurd hp.1 (by decide)
    · rw [ascii_open, List.cons_prefix_cons] at hp
      exact absurd hp.1 (by decide)
  have hstrip : stripLeadingComments (openParen :: y) = openParen :: trimRight spaceEncodings y := by
    rw [stripLeadingComments_body hbody]
    exact trimRight_ink_append hink [] y
  have hhead : (extractStatementOperation f (pre ++ openParen :: y)).head? = some openParen := by
    rw [extractStatementOperation_strip, hl.strip, hstrip, if_neg (by simp),
      stripAllBlockComments_break (.inr (by decide)), toUpper_cons (by decide)]
    exact textOperation_head (by decide) _
  have hmem := List.mem_of_mem_head? hhead
  rintro (h | ⟨op, hop, -, h⟩)
  · rw [h] at hmem
    exact absurd (hk.keyword_upper.2 _ hmem) (by decide)
  · rw [h] at hmem
    have hname := List.all_eq_true.mp (multiWordOps_names op hop).1 _ hmem
    exact absurd hname (by decide)

lemma closedBlock_comment {text : Bytes} (ht : ¬ ascii "*/" <:+: text) (hs : text.head? ≠ some slash) :
    ClosedBlock (ascii "/*" ++ text ++ ascii "*/") := by
  have hfree : ¬ [star, slash] <:+: ascii "/*" ++ text := by
    rw [infix_pair_append]
    rintro (h | h | h)
    · exact absurd h (by decide)
    · exact ht h
    · exact hs h.2
  have hopen : ascii "/*" <+: ascii "/*" ++ text ++ [star, slash] := by
    rw [List.append_assoc]
    exact List.prefix_append _ _
  exact closedBlock_of_first hopen hfree

/-- What stands in front of a keyword is what `stripLeadingComments` removes, or it has a parenthesis or
a comment that starts with a slash. -/
lemma Front.cases (h : Front pre) : Lead pre ∨ (∃ l y, Lead l ∧ pre = l ++ openParen :: y) ∨
    ∃ l y, Lead l ∧ pre = l ++ (ascii "/*/" ++ y) := by
  have hgrow : ∀ {l s : Bytes}, (∀ {t}, Lead t → Lead (l ++ t)) →
      (Lead s ∨ (∃ l' y, Lead l' ∧ s = l' ++ openParen :: y) ∨
        ∃ l' y, Lead l' ∧ s = l' ++ (ascii "/*/" ++ y)) →
      Lead (l ++ s) ∨ (∃ l' y, Lead l' ∧ l ++ s = l' ++ openParen :: y) ∨
        ∃ l' y, Lead l' ∧ l ++ s = l' ++ (ascii "/*/" ++ y) := by
    rintro l s hl (hs | ⟨l', y, hl', rfl⟩ | ⟨l', y, hl', rfl⟩)
    · exact .inl (hl hs)
    · exact .inr (.inl ⟨l ++ l', y, hl hl', by simp⟩)
    · exact .inr (.inr ⟨l ++ l', y, hl hl', by simp⟩)
  induction h with
  | nil => exact .inl .nil
  | spaces hr _ ih => exact hgrow (Lead.spaces hr) ih
  | paren => exact .inr (.inl ⟨[], _, .nil, rfl⟩)
  | @comment c s _ ih =>
    cases c with
    | line text ht =>
      refine hgrow (fun {t} hl => ?_) ih
      have hline := Lead.line (t := space :: text) (by simpa [space, newline] using ht) hl
      have hsplit : ascii "-- " = ascii "--" ++ [space] := by decide
      simpa [Comment.bytes, hsplit] using hline
    | block text ht =>
      by_cases hs : text.head? = some slash
      · obtain ⟨v, rfl⟩ := List.head?_eq_some_iff.mp hs
        refine .inr (.inr ⟨[], v ++ ascii "*/" ++ s, .nil, ?_⟩)
        have hsplit : ascii "/*/" = ascii "/*" ++ [slash] := by decide
        simp [Comment.bytes, hsplit]
      · exact hgrow (Lead.block (closedBlock_comment ht hs)) ih

/-- Behind comments that the filter knows, the keyword names the operation exactly if it ends at the end
of the statement, a blank, a parenthesis or a closed block comment; and behind an opening parenthesis it
never does. What stands in front is of these kinds, unless there is a comment that starts with a slash.
An operation that a keyword names has only capital letters and underscores in it. -/
theorem keyword_names_operation_iff (hpre : Front pre) (hk : IsKeyword k)
    (hrest : ∀ b ∈ rest.head?, continuesIdent b = false) :
    (Lead pre → (Names k (extractStatementOperation f (pre ++ (k ++ rest))) ↔ Delimits rest)) ∧
      (∀ l y, Lead l → pre = l ++ openParen :: y →
        ¬ Names k (extractStatementOperation f (pre ++ (k ++ rest)))) ∧
      (Lead pre ∨ (∃ l y, Lead l ∧ pre = l ++ openParen :: y) ∨
        ∃ l y, Lead l ∧ pre = l ++ (ascii "/*/" ++ y)) ∧
      ∀ op, Names k op → ∀ b ∈ op, isNameByte b = true := by
  refine ⟨fun hl => names_iff_delimits hl hk hrest, ?_, hpre.cases, fun op => Names.name_bytes hk⟩
  rintro l y hl rfl
  rw [List.append_assoc, List.cons_append]
  exact not_names_of_paren hl hk _

theorem keyword_names_operation_count :
    Names (ascii "select") (extractStatementOperation asciiFilter (ascii "select(1)")) := by
  have hrest : ∀ b ∈ (ascii "(1)").head?, continuesIdent b = false := by
    intro b hb
    obtain rfl : openParen = b := Option.some.inj hb
    decide
  have hdel : Delimits (ascii "(1)") := .inr (.inl ⟨openParen, rfl, .inr (by decide)⟩)
  have hk : IsKeyword (ascii "select") := by decide +kernel
  have hsplit : ascii "select(1)" = [] ++ (ascii "select" ++ ascii "(1)") := by decide +kernel
  rw [hsplit]
  exact ((keyword_names_operation_iff .nil hk hrest).1 .nil).mpr hdel

/-- A star behind the keyword, a parenthesis in front of it, and a quote behind it. -/
theorem keyword_with_punctuation :
    extractStatementOperation asciiFilter (ascii "SELECT*FROM t") = ascii "SELECT*FROM" ∧
      extractStatementOperation asciiFilter (ascii "(SELECT 1)") = ascii "(SELECT 1)" ∧
      extractStatementOperation asciiFilter (ascii "SELECT'a' FROM t") = ascii "SELECT'A'" := by
  decide +kernel

end Follow

end ShadowProxy.SqlKeyword
