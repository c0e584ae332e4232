import ShadowProxy.SqlWords
import ShadowProxy.SqlSplit
import ShadowProxy.SqlStrip

/-! What a comment in a query text does to the operation that the filter finds in it. -/
namespace ShadowProxy.SqlComment
open WordBytes Utf8Text ShadowFilter WordFields SqlWords SqlTrim SqlSplit SqlStrip

section Upper

/-- No character beyond ASCII has a blank or a parenthesis for its upper case. -/
def WideUpper (f : QueryFilter) : Prop :=
  ∀ c : Char, 0x80 ≤ c.toNat → ∀ b ∈ String.utf8EncodeChar (f.unicodeUpper c),
    isBlank b = false ∧ b ≠ openParen

lemma isBlank_asciiUpper : ∀ b : UInt8, isBlank (asciiUpper b) = isBlank b := by decide +kernel

lemma asciiUpper_openParen : ∀ b : UInt8, asciiUpper b = openParen ↔ b = openParen := by decide +kernel

lemma asciiUpper_break : ∀ b : UInt8, isBlank b = true ∨ isParen b = true →
    b < 0x80 ∧ asciiUpper b = b := by decide +kernel

lemma utf8EncodeChar_upper (table : Char → Char) {b : UInt8} (hb : b < 0x80) :
    String.utf8EncodeChar (unicodeToUpper table (asciiChar b)) = [asciiUpper b] := by
  have hlow : ∀ b : UInt8, b < 0x80 → (asciiChar b).toNat < 0x80 ∧
      String.utf8EncodeChar (asciiChar b).toUpper = [asciiUpper b] := by decide +kernel
  rw [unicodeToUpper, if_pos (hlow b hb).1, (hlow b hb).2]

lemma upperText_eq (table : Char → Char) (s : Bytes) :
    upperText table s = mapChars (unicodeToUpper table) s := by
  unfold upperText
  split_ifs with h
  · exact (mapChars_ascii (by simpa using h) fun b hb => utf8EncodeChar_upper table hb).symm
  · rfl

variable {f : QueryFilter}

lemma toUpper_append_ascii (f : QueryFilter) (x y : Bytes) {b : UInt8} (hb : b < 0x80) :
    toUpper f (x ++ b :: y) = toUpper f x ++ asciiUpper b :: toUpper f y := by
  simp only [toUpper, upperText_eq, mapChars_append_ascii x y hb, utf8EncodeChar_upper _ hb,
    List.singleton_append]

lemma WideUpper.toUpper_wide (hf : WideUpper f) {x : Bytes} (hne : x ≠ []) (hx : ∀ b ∈ x, 0x80 ≤ b) :
    toUpper f x ≠ [] ∧ ∀ b ∈ toUpper f x, isBlank b = false ∧ b ≠ openParen := by
  rw [toUpper, upperText_eq]
  refine ⟨mapChars_ne_nil hne, forall_mem_mapChars hx fun c hc => ?_⟩
  rw [unicodeToUpper, if_neg (by omega)]
  exact hf c hc

@[simp] lemma toUpper_nil (f : QueryFilter) : toUpper f [] = [] := rfl

lemma toUpper_cons {b : UInt8} (hb : b < 0x80) (y : Bytes) :
    toUpper f (b :: y) = asciiUpper b :: toUpper f y := by
  simpa using toUpper_append_ascii f [] y hb

variable (hf : WideUpper f)

include hf in
lemma toUpper_head {b : UInt8} (s : Bytes) :
    ∃ c t, toUpper f (b :: s) = c :: t ∧ (isBlank c = true → isBlank b = true) ∧
      (c = openParen → b = openParen) := by
  by_cases hb : b < 0x80
  · refine ⟨asciiUpper b, toUpper f s, toUpper_cons hb s, ?_, (asciiUpper_openParen b).mp⟩
    rw [isBlank_asciiUpper]
    exact id
  · have hrun : (b :: s).takeWhile (0x80 ≤ ·) ≠ [] := by
      simp [UInt8.not_lt.mp hb]
    have hwide := hf.toUpper_wide hrun fun c hc => by simpa using List.mem_takeWhile_imp hc
    obtain ⟨c, t, hct⟩ := List.exists_cons_of_ne_nil hwide.1
    obtain ⟨hblank, hparen⟩ := hwide.2 c (by simp [hct])
    have hstart : ∃ t', toUpper f (b :: s) = c :: t' := by
      have hsplit := List.takeWhile_append_dropWhile (p := (0x80 ≤ ·)) (l := b :: s)
      cases hrest : (b :: s).dropWhile (0x80 ≤ ·) with
      | nil =>
        rw [hrest, List.append_nil] at hsplit
        exact ⟨t, by rw [← hsplit, hct]⟩
      | cons d rest =>
        have hd : d < 0x80 := by
          have hnot := List.head?_dropWhile_not (0x80 ≤ ·) (b :: s)
          rw [hrest] at hnot
          simpa using hnot
        rw [hrest] at hsplit
        exact ⟨t ++ asciiUpper d :: toUpper f rest, by rw [← hsplit, toUpper_append_ascii f _ _ hd, hct]; rfl⟩
    obtain ⟨t', ht'⟩ := hstart
    exact ⟨c, t', ht', by simp [hblank], fun h => absurd h hparen⟩

lemma toUpper_blanks {g : Bytes} (hg : ∀ b ∈ g, isBlank b = true) (y : Bytes) :
    toUpper f (g ++ y) = g ++ toUpper f y := by
  induction g with
  | nil => rfl
  | cons b g ih =>
    obtain ⟨hb, hg⟩ := List.forall_mem_cons.mp hg
    obtain ⟨hlow, hupper⟩ := asciiUpper_break b (.inl hb)
    rw [List.cons_append, toUpper_cons hlow, hupper, ih hg, List.cons_append]

lemma isParen_blank {b : UInt8} (hb : isBlank b = true) : isParen b = false := by
  by_contra h
  obtain rfl : b = openParen := by simpa [isParen] using h
  exact absurd hb (by decide)

lemma sqlWords_joint (f : QueryFilter) {a g y : Bytes} (hg : ∀ b ∈ g, isBlank b = true)
    (hgap : g ≠ [] ∨ WordBreak y) :
    sqlWords (toUpper f (a ++ g ++ y)) =
      sqlWords (toUpper f a) ++ if (toUpper f a).any isParen then [] else sqlWords (toUpper f y) := by
  have hblanks : ∀ b ∈ g, isBlank b = true ∧ isParen b = false := fun b hb =>
    ⟨hg b hb, isParen_blank (hg b hb)⟩
  have hjoint : toUpper f (a ++ g ++ y) = toUpper f a ++ (g ++ toUpper f y) ∧
      WordBreak (g ++ toUpper f y) := by
    cases g with
    | cons b g =>
      obtain ⟨hb, hg'⟩ := List.forall_mem_cons.mp hg
      obtain ⟨hlow, hupper⟩ := asciiUpper_break b (.inl hb)
      refine ⟨?_, ?_⟩
      · rw [List.append_assoc, List.cons_append, toUpper_append_ascii f _ _ hlow, hupper, toUpper_blanks hg',
          List.cons_append]
      · intro c hc
        obtain rfl : b = c := by simpa using hc
        exact .inl hb
    | nil =>
      have hy : WordBreak y := hgap.resolve_left (by simp)
      cases y with
      | nil => exact ⟨by simp, by simp [Breaks]⟩
      | cons b y =>
        obtain ⟨hlow, hupper⟩ := asciiUpper_break b (hy b rfl)
        refine ⟨by rw [List.append_nil, toUpper_append_ascii f _ _ hlow, toUpper_cons hlow]; rfl, ?_⟩
        rw [toUpper_cons hlow, hupper]
        intro c hc
        obtain rfl : b = c := by simpa using hc
        exact hy b rfl
  rw [hjoint.1, sqlWords, fields_append_breaks _ hjoint.2, fields_blanks hblanks]
  rfl

def asciiFilter : QueryFilter := ⟨.includeMode, [], [], id⟩

lemma isBlank_wide : ∀ b : UInt8, 0x80 ≤ b → isBlank b = false ∧ b ≠ openParen := by decide +kernel

lemma asciiFilter_wideUpper : WideUpper asciiFilter := by
  intro c hc b hb
  rcases utf8EncodeChar_cases c with ⟨hlow, -⟩ | ⟨-, hwide⟩
  · omega
  · exact isBlank_wide b (hwide b hb)

end Upper

section Piece
variable {f : QueryFilter} {l w g p : Bytes}

lemma trimSpace_stripLeadingComments (s : Bytes) :
    trimSpace (stripLeadingComments s) = stripLeadingComments s := by
  obtain ⟨l, y, rfl, hl, hy⟩ := exists_lead s
  rw [hl.strip]
  rcases hy with rfl | hy | hy | hy
  · rfl
  · rw [stripLeadingComments_openLine hy]
    rfl
  · rw [stripLeadingComments_openBlock hy]
    rfl
  · obtain ⟨r, -, hsplit, hshut⟩ := spaces_code.exists_trimRight y
    rw [stripLeadingComments_body hy, trimSpace_eq]
    exact trim_of_trimmed (hy.flush.of_prefix (spaces_code.trimRight_prefix y)) hshut

lemma extractStatementOperation_strip (f : QueryFilter) (stmt : Bytes) :
    extractStatementOperation f stmt = if stripLeadingComments stmt = [] then []
      else textOperation (toUpper f (stripAllBlockComments (stripLeadingComments stmt))) := by
  rw [extractStatementOperation_eq, trimSpace_stripLeadingComments]

lemma pieceOperation_eq (f : QueryFilter) (p : Bytes) :
    pieceOperation f p = if stripLeadingComments p = [] then []
      else textOperation (toUpper f (stripAllBlockComments (stripLeadingComments p))) := by
  have htrim : stripLeadingComments (trimSpace p) = stripLeadingComments p :=
    stripLeadingComments_congr (by rw [trimSpace_eq, trimSpace_eq, spaces_code.trim_idem])
  rw [pieceOperation, extractStatementOperation_strip, htrim]

lemma pieceOperation_words {ws : List Bytes}
    (hws : sqlWords (toUpper f (stripAllBlockComments (stripLeadingComments p))) = ws) (hne : ws ≠ []) :
    pieceOperation f p = wordOperation ws := by
  rw [pieceOperation_eq, if_neg, textOperation_words (by rwa [hws]), hws]
  intro hnil
  rw [hnil] at hws
  exact hne hws.symm

lemma pieceOperation_lead (hl : Lead l) (p : Bytes) :
    pieceOperation f (l ++ p) = pieceOperation f p := by
  rw [pieceOperation_eq, pieceOperation_eq, hl.strip]

/-- A place within a statement: behind the comments in front of it and its first text `w`, in which
every block comment is closed, and next to blanks `g` or to a break in what follows. -/
structure Inner (l w g p : Bytes) : Prop where
  lead : Lead l
  body : Body w
  start : w.head? ≠ some openParen
  shut : Shut spaceEncodings w
  closed : ¬ ascii "/*" <:+: stripAllBlockComments w
  blank : ∀ b ∈ g, isBlank b = true
  gap : g ≠ [] ∨ WordBreak p

/-- The comments of SQL. -/
inductive Comment
  | line (text : Bytes) (h : newline ∉ text)
  | block (text : Bytes) (h : ¬ ascii "*/" <:+: text)

def Comment.bytes : Comment → Bytes
  | .line text _ => ascii "-- " ++ text ++ [newline]
  | .block text _ => ascii "/*" ++ text ++ ascii "*/"

lemma break_mark : ∀ b : UInt8, isBlank b = true ∨ isParen b = true →
    b < 0x80 ∧ b ≠ dash ∧ b ≠ star ∧ b ≠ slash := by decide +kernel

lemma blank_mem : ∀ b : UInt8, isBlank b = true → [b] ∈ spaceEncodings := by decide +kernel

lemma blank_plain (hg : ∀ b ∈ g, isBlank b = true) : slash ∉ g ∧ star ∉ g :=
  ⟨fun h => (break_mark _ (.inl (hg _ h))).2.2.2 rfl, fun h => (break_mark _ (.inl (hg _ h))).2.2.1 rfl⟩

lemma stripAllBlockComments_blanks (hg : ∀ b ∈ g, isBlank b = true) (y : Bytes) :
    stripAllBlockComments (g ++ y) = g ++ stripAllBlockComments y := by
  obtain ⟨hslash, -⟩ := blank_plain hg
  refine stripAllBlockComments_plain_append (fun h => hslash (h.subset (by simp [ascii_open]))) ?_
  exact fun h => hslash (List.mem_of_getLast? h.1)

lemma stripAllBlockComments_break {b : UInt8} (hb : isBlank b = true ∨ isParen b = true) (y : Bytes) :
    stripAllBlockComments (b :: y) = b :: stripAllBlockComments y := by
  refine stripAllBlockComments_cons fun h => (break_mark b hb).2.2.2 ?_
  rw [ascii_open, List.cons_prefix_cons] at h
  exact h.1.symm

lemma Inner.strip_block (h : Inner l w g p) {t : Bytes} (ht : ¬ ascii "*/" <:+: t) :
    stripAllBlockComments (stripLeadingComments
      (l ++ w ++ g ++ (ascii "/*" ++ t ++ ascii "*/") ++ p)) =
      stripAllBlockComments w ++ (g ++ [space]) ++
        stripAllBlockComments (trimRight spaceEncodings p) := by
  have hhead : ∀ y, ∀ b ∈ (g ++ (ascii "/*" ++ t ++ ascii "*/") ++ y).head?,
      b < 0x80 ∧ b ≠ dash ∧ b ≠ star := by
    intro y b hb
    cases g with
    | nil =>
      obtain rfl : slash = b := by simpa [ascii_open] using hb
      decide
    | cons c g =>
      obtain rfl : c = b := by simpa using hb
      obtain ⟨hlow, hdash, hstar, -⟩ := break_mark c (.inl (h.blank c (by simp)))
      exact ⟨hlow, hdash, hstar⟩
  have hshut : trimRight spaceEncodings (w ++ g ++ (ascii "/*" ++ t ++ ascii "*/")) =
      w ++ g ++ (ascii "/*" ++ t ++ ascii "*/") := by
    refine trimRight_of_shut ?_
    have hend := shut_of_ink isInk_slash (w ++ g ++ (ascii "/*" ++ t ++ [star]))
    simpa [ascii_close] using hend
  have htrim : stripLeadingComments (l ++ w ++ g ++ (ascii "/*" ++ t ++ ascii "*/") ++ p) =
      w ++ (g ++ (ascii "/*" ++ t ++ ascii "*/") ++ trimRight spaceEncodings p) := by
    have hassoc : l ++ w ++ g ++ (ascii "/*" ++ t ++ ascii "*/") ++ p =
        l ++ (w ++ (g ++ (ascii "/*" ++ t ++ ascii "*/") ++ p)) := by simp only [List.append_assoc]
    rw [hassoc, h.lead.strip, stripLeadingComments_body (h.body.append (hhead p)), ← List.append_assoc,
      ← List.append_assoc, spaces_code.trimRight_append (.inl (by simp [ascii_close, slash])), hshut]
    split_ifs with hnil <;> simp [hnil]
  have hseam : ¬ Straddles slash star (stripAllBlockComments w)
      (g ++ (ascii "/*" ++ t ++ ascii "*/") ++ trimRight spaceEncodings p) :=
    fun hs => (hhead _ star hs.2).2.2 rfl
  have hcomment := stripAllBlockComments_closed (a := []) (by simp [ascii_open]) ht
    (trimRight spaceEncodings p)
  rw [htrim, stripAllBlockComments_append h.closed hseam, List.append_assoc g,
    stripAllBlockComments_blanks h.blank]
  simp only [List.nil_append] at hcomment
  rw [hcomment, stripAllBlockComments_break (.inl (by decide))]
  simp

lemma Inner.strip (h : Inner l w g p) :
    ∃ g', (∀ b ∈ g', isBlank b = true) ∧
      (g' ≠ [] ∨ WordBreak (stripAllBlockComments (trimRight spaceEncodings p))) ∧
      stripAllBlockComments (stripLeadingComments (l ++ w ++ g ++ p)) =
        stripAllBlockComments w ++ g' ++ stripAllBlockComments (trimRight spaceEncodings p) := by
  have hbreak : WordBreak (g ++ p) := by
    cases g with
    | nil => exact h.gap.resolve_left (by simp)
    | cons c g =>
      intro b hb
      obtain rfl : c = b := by simpa using hb
      exact .inl (h.blank c (by simp))
  have hhead : ∀ b ∈ (g ++ p).head?, b < 0x80 ∧ b ≠ dash ∧ b ≠ star := by
    intro b hb
    obtain ⟨hlow, hdash, hstar, -⟩ := break_mark b (hbreak b hb)
    exact ⟨hlow, hdash, hstar⟩
  have hstrip : stripLeadingComments (l ++ w ++ g ++ p) = trimRight spaceEncodings (w ++ (g ++ p)) := by
    rw [List.append_assoc, List.append_assoc, h.lead.strip, stripLeadingComments_body (h.body.append hhead)]
  rw [hstrip]
  by_cases hnil : trimRight spaceEncodings p = []
  · have hspaces : Spaces (g ++ p) := (spaces_of_blank h.blank).append (spaces_of_trimRight hnil)
    refine ⟨[], by simp, .inr (by rw [hnil]; simp [Breaks]), ?_⟩
    rw [spaces_code.trimRight_run hspaces, trimRight_of_shut h.shut, hnil]
    simp
  · have hseam : (∀ b ∈ (w ++ g).getLast?, b < 0x80) ∨ ∀ b ∈ p.head?, b < 0x80 := by
      rcases h.gap with hg | hp
      · refine .inl fun b hb => ?_
        rw [List.getLast?_append_of_ne_nil _ hg] at hb
        exact (break_mark b (.inl (h.blank b (List.mem_of_getLast? hb)))).1
      · exact .inr fun b hb => (break_mark b (hp b hb)).1
    refine ⟨g, h.blank, h.gap.imp_right fun hp => ?_, ?_⟩
    · obtain ⟨b, y, hby⟩ := List.exists_cons_of_ne_nil hnil
      have hb : isBlank b = true ∨ isParen b = true := by
        obtain ⟨z, hz⟩ := spaces_code.trimRight_prefix p
        exact hp b (by rw [← hz, hby]; rfl)
      rw [hby, stripAllBlockComments_break hb]
      intro c hc
      obtain rfl : b = c := by simpa using hc
      exact hb
    · rw [← List.append_assoc, spaces_code.trimRight_append hseam, if_neg hnil, List.append_assoc,
        stripAllBlockComments_append h.closed, stripAllBlockComments_blanks h.blank, List.append_assoc]
      rintro ⟨-, hstar⟩
      obtain ⟨z, hz⟩ := (List.prefix_append_right_inj g).mpr (spaces_code.trimRight_prefix p)
      refine (hhead star ?_).2.2 rfl
      rw [← hz, List.head?_append, hstar]
      rfl

lemma Inner.words_ne_nil (hf : WideUpper f) (h : Inner l w g p) :
    sqlWords (toUpper f (stripAllBlockComments w)) ≠ [] := by
  obtain ⟨b, w', rfl⟩ := List.exists_cons_of_ne_nil h.body.ne_nil
  rw [stripAllBlockComments_cons h.body.block]
  obtain ⟨c, t, hct, hblank, hparen⟩ := toUpper_head hf (b := b) (stripAllBlockComments w')
  have hne : ∀ {ws : List Bytes}, (∃ w ws', ws = (c :: w) :: ws') → ws ≠ [] := by
    rintro _ ⟨w, ws, rfl⟩
    simp
  rw [hct]
  refine hne (exists_fields_cons ?_ ?_ t)
  · by_contra hc
    refine h.body.flush [b] ?_ ⟨w', rfl⟩
    exact blank_mem b (hblank (by simpa using hc))
  · by_contra hc
    exact h.start (by rw [hparen (by simpa [isParen] using hc)]; rfl)

lemma Inner.block_ignored (hf : WideUpper f) (h : Inner l w g p) {t : Bytes}
    (ht : ¬ ascii "*/" <:+: t) :
    pieceOperation f (l ++ w ++ g ++ (ascii "/*" ++ t ++ ascii "*/") ++ p) =
      pieceOperation f (l ++ w ++ g ++ p) := by
  obtain ⟨g', hg', hgap, hplain⟩ := h.strip
  have hcomment := h.strip_block ht
  have hspace : ∀ b ∈ g ++ [space], isBlank b = true := by
    intro b hb
    rcases List.mem_append.mp hb with hb | hb
    · exact h.blank b hb
    · rw [List.mem_singleton.mp hb]
      decide
  have hwords := sqlWords_joint f (a := stripAllBlockComments w) hspace
    (y := stripAllBlockComments (trimRight spaceEncodings p)) (.inl (by simp))
  have hwords' := sqlWords_joint f (a := stripAllBlockComments w) hg' hgap
  rw [← hcomment] at hwords
  rw [← hplain] at hwords'
  have hne := List.append_ne_nil_of_left_ne_nil (h.words_ne_nil hf)
  rw [pieceOperation_words hwords (hne _), pieceOperation_words hwords' (hne _)]

lemma Inner.settled_operation (h : Inner l w g p)
    (hw : Settled (sqlWords (toUpper f (stripAllBlockComments w)))) :
    pieceOperation f (l ++ w ++ g ++ p) =
      wordOperation (sqlWords (toUpper f (stripAllBlockComments w))) := by
  obtain ⟨g', hg', hgap, hplain⟩ := h.strip
  have hwords := sqlWords_joint f (a := stripAllBlockComments w) hg' hgap
  rw [← hplain] at hwords
  rw [pieceOperation_words hwords (List.append_ne_nil_of_left_ne_nil hw.1 _), hw.wordOperation_append]

end Piece

section Places
variable {f : QueryFilter} {pre post c : Bytes}

/-- A place within a statement, behind its first word. -/
def InnerPlace (pre post : Bytes) : Prop :=
  Mode.outside.run pre = .outside ∧ ∃ ps l w g p qs,
    pieces pre = ps ++ [l ++ w ++ g] ∧ pieces post = p :: qs ∧ Inner l w g p

/-- A place in front of a statement. -/
def LeadPlace (pre : Bytes) : Prop :=
  Mode.outside.run pre = .outside ∧ ∃ ps l, pieces pre = ps ++ [l] ∧ Lead l

/-- A place within a statement, behind words that settle its operation. -/
def SettledPlace (f : QueryFilter) (pre : Bytes) : Prop :=
  Mode.outside.run pre = .outside ∧ ∃ ps l w g e,
    pieces pre = ps ++ [l ++ w ++ g ++ e] ∧ (∀ y, Inner l w g (e ++ y)) ∧
      Settled (sqlWords (toUpper f (stripAllBlockComments w)))

/-- The scan of `splitStatements` finds no end of a statement in the text and no quote open at its
end. -/
def Quiet (c : Bytes) : Prop := Mode.outside.run c = .outside ∧ pieces c = [c]

/-- The scan of `splitStatements` finds no quote open at the end of the text, and what it makes of it
are comments as `stripLeadingComments` reads them, the last of which is closed. -/
def Vanishes (c : Bytes) : Prop :=
  Mode.outside.run c = .outside ∧ ∃ ps x, pieces c = ps ++ [x] ∧
    (∀ p ∈ ps, stripLeadingComments p = []) ∧ Lead x

lemma operation_of_pieces {q q' : Bytes}
    (h : ((pieces q).map (pieceOperation f)).filter (· ≠ []) =
      ((pieces q').map (pieceOperation f)).filter (· ≠ [])) :
    extractPrimarySQLOperation f q = extractPrimarySQLOperation f q' := by
  rw [extractPrimarySQLOperation_eq, extractPrimarySQLOperation_eq, primaryOf_congr h]

lemma inner_ignored (hf : WideUpper f) (h : InnerPlace pre post) {t : Bytes}
    (ht : ¬ ascii "*/" <:+: t) (hq : Quiet (ascii "/*" ++ t ++ ascii "*/")) :
    extractPrimarySQLOperation f (pre ++ (ascii "/*" ++ t ++ ascii "*/") ++ post) =
      extractPrimarySQLOperation f (pre ++ post) := by
  obtain ⟨hm, ps, l, w, g, p, qs, hpre, hpost, hinner⟩ := h
  have hcomment : pieces (ascii "/*" ++ t ++ ascii "*/" ++ post) =
      [] ++ (ascii "/*" ++ t ++ ascii "*/" ++ p) :: qs := pieces_append hq.2 hq.1 hpost
  refine operation_of_pieces ?_
  rw [List.append_assoc, pieces_append hpre hm hcomment, pieces_append hpre hm hpost]
  have hsame := hinner.block_ignored hf ht
  simp only [List.map_append, List.map_cons, List.append_assoc] at hsame ⊢
  rw [hsame]

lemma settled_ignored (h : SettledPlace f pre) (hc : Quiet c) (post : Bytes) :
    extractPrimarySQLOperation f (pre ++ c ++ post) = extractPrimarySQLOperation f (pre ++ post) := by
  obtain ⟨hm, ps, l, w, g, e, hpre, hinner, hw⟩ := h
  obtain ⟨p, qs, hpost⟩ := exists_pieces_head post
  have hcomment : pieces (c ++ post) = [] ++ (c ++ p) :: qs := pieces_append hc.2 hc.1 hpost
  refine operation_of_pieces ?_
  rw [List.append_assoc, pieces_append hpre hm hcomment, pieces_append hpre hm hpost]
  have hsame : ∀ y, pieceOperation f (l ++ w ++ g ++ e ++ y) =
      wordOperation (sqlWords (toUpper f (stripAllBlockComments w))) := fun y => by
    rw [List.append_assoc _ e y]
    exact (hinner y).settled_operation hw
  simp only [List.map_append, List.map_cons, hsame]

lemma lead_ignored (h : LeadPlace pre) (hc : Vanishes c) (post : Bytes) :
    extractPrimarySQLOperation f (pre ++ c ++ post) = extractPrimarySQLOperation f (pre ++ post) := by
  obtain ⟨hm, ps, l, hpre, hl⟩ := h
  obtain ⟨hmc, cs, x, hcs, hempty, hx⟩ := hc
  obtain ⟨p, qs, hpost⟩ := exists_pieces_head post
  have hnone : ∀ d, stripLeadingComments d = [] → pieceOperation f d = [] := fun d hd => by
    rw [pieceOperation_eq, if_pos hd]
  have hcomment := pieces_append hcs hmc hpost
  refine operation_of_pieces ?_
  rw [List.append_assoc, pieces_append hpre hm hpost]
  cases cs with
  | nil =>
    rw [pieces_append hpre hm hcomment]
    simp only [List.map_append, List.map_cons, pieceOperation_lead hl, pieceOperation_lead hx]
  | cons d cs =>
    obtain ⟨hd, hcs'⟩ := List.forall_mem_cons.mp hempty
    have hmid : (cs.map (pieceOperation f)).filter (· ≠ []) = [] := by
      simpa [List.filter_eq_nil_iff] using fun p hp => hnone p (hcs' p hp)
    rw [List.cons_append] at hcomment
    rw [pieces_append hpre hm hcomment]
    simp only [List.map_append, List.map_cons, List.filter_append, pieceOperation_lead hl,
      pieceOperation_lead hx, hnone d hd, List.filter_cons_of_neg (p := (· ≠ [])) (a := []) (by simp),
      hmid, List.nil_append]

end Places

end ShadowProxy.SqlComment
