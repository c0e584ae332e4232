import ShadowProxy.SqlComment

/-! Which comments the filter does not see: a comment that makes no difference at any place of a kind
is one that the scan of `splitStatements` passes as it should. -/
namespace ShadowProxy.SqlCommentLimits
open WordBytes ShadowFilter WordFields SqlWords SqlTrim SqlSplit SqlStrip SqlComment

section Ascii
variable {p q : Bytes}

lemma pieceOperation_ascii (f g : QueryFilter) (hp : ∀ b ∈ p, b < 0x80) :
    pieceOperation f p = pieceOperation g p := by
  have htext : (stripAllBlockComments (stripLeadingComments p)).all (· < 0x80) = true := by
    rw [List.all_eq_true]
    intro b hb
    rcases mem_of_mem_stripAllBlockComments hb with h | rfl
    · exact decide_eq_true (hp b (mem_of_mem_stripLeadingComments h))
    · decide
  rw [pieceOperation_eq, pieceOperation_eq, toUpper, toUpper, upperText, upperText, if_pos htext, if_pos htext]

lemma operation_ascii (f g : QueryFilter) (hq : ∀ b ∈ q, b < 0x80) :
    extractPrimarySQLOperation f q = extractPrimarySQLOperation g q := by
  have hmap : (pieces q).map (pieceOperation f) = (pieces q).map (pieceOperation g) := by
    refine List.map_congr_left fun p hp => ?_
    exact pieceOperation_ascii f g fun b hb => hq b (mem_of_mem_pieces hp hb)
  rw [extractPrimarySQLOperation_eq, extractPrimarySQLOperation_eq, hmap]

def sampleOperations : List (Bytes × Bytes) :=
  [("A", "A"), ("B", "B"), (";A", "A"), (";B", "B"), ("USE;", "USE"), ("SET;", "SET"), ("A ", "A"),
    ("B ", "B"), ("A ;A", "A"), ("A ;B", "B"), ("A B", "A"), ("A \nB", "A"), ("A */B", "A"),
    ("USE ", "USE"), ("SET X ", "SET"), ("INSERT OVERWRITE", "INSERT_OVERWRITE")].map
    fun x => (ascii x.1, ascii x.2)

def samplePieces : List (Bytes × Bytes) :=
  [("B", "B"), (";A", ";A"), (";B", ";B"), ("USE", "USE"), ("SET", "SET")].map
    fun x => (ascii x.1, ascii x.2)

lemma sampleOperations_ascii : ∀ x ∈ sampleOperations, x.1.all (· < 0x80) = true ∧
    extractPrimarySQLOperation asciiFilter x.1 = x.2 := by decide +kernel

lemma samplePieces_ascii : ∀ x ∈ samplePieces, x.1.all (· < 0x80) = true ∧
    pieceOperation asciiFilter x.1 = x.2 := by decide +kernel

lemma operation_eq (f : QueryFilter) (op : Bytes) (h : (q, op) ∈ sampleOperations) :
    extractPrimarySQLOperation f q = op := by
  obtain ⟨hq, hop⟩ := sampleOperations_ascii _ h
  rw [operation_ascii f asciiFilter fun b hb => of_decide_eq_true (List.all_eq_true.mp hq b hb), hop]

lemma pieceOperation_of_ascii (f : QueryFilter) (op : Bytes) (h : (p, op) ∈ samplePieces) :
    pieceOperation f p = op := by
  obtain ⟨hp, hop⟩ := samplePieces_ascii _ h
  rw [pieceOperation_ascii f asciiFilter fun b hb => of_decide_eq_true (List.all_eq_true.mp hp b hb), hop]

end Ascii

section Heads
variable {f : QueryFilter} {x u v : Bytes}

/-- Visible text that has no part in comments. -/
structure Tame (u : Bytes) : Prop where
  ne_nil : u ≠ []
  ink : ∀ b ∈ u, isInk b = true
  marks : dash ∉ u ∧ star ∉ u ∧ slash ∉ u

lemma Tame.head (h : Tame u) : ∀ b ∈ u.head?, b < 0x80 ∧ b ≠ dash ∧ b ≠ star := by
  intro b hb
  have hmem : b ∈ u := List.mem_of_mem_head? hb
  obtain ⟨hlow, -⟩ : b < 0x80 ∧ [b] ∉ spaceEncodings := isInk_iff.mp (h.ink b hmem)
  exact ⟨hlow, fun hd => h.marks.1 (hd ▸ hmem), fun hs => h.marks.2.1 (hs ▸ hmem)⟩

lemma Tame.shut (h : Tame u) (x : Bytes) : Shut spaceEncodings (x ++ u) := by
  obtain ⟨u', b, hu⟩ := List.eq_nil_or_concat u |>.resolve_left h.ne_nil
  rw [hu, List.concat_eq_append, ← List.append_assoc]
  exact shut_of_ink (h.ink b (by simp [hu])) _

lemma not_blank_of_flush {b : UInt8} {y : Bytes} (h : Flush spaceEncodings (b :: y)) :
    isBlank b = false := by
  by_contra hb
  exact h [b] (blank_mem b (by simpa using hb)) ⟨y, rfl⟩

lemma body_head (hf : WideUpper f) {y : Bytes} (hy : Body y) :
    ∃ c, ∀ u, Tame u → (pieceOperation f (y ++ u)).head? = some c := by
  obtain ⟨b, y, rfl⟩ := List.exists_cons_of_ne_nil hy.ne_nil
  obtain ⟨c, t, hct, hblank, -⟩ := toUpper_head hf (b := b) (stripAllBlockComments y)
  have hc : isBlank c = false := by
    by_contra h
    have hb := hblank (by simpa using h)
    rw [not_blank_of_flush hy.flush] at hb
    simp at hb
  refine ⟨c, fun u hu => ?_⟩
  have hstrip : stripLeadingComments (b :: y ++ u) = b :: y ++ u := by
    rw [stripLeadingComments_body (hy.append hu.head), trimRight_of_shut (hu.shut _)]
  have hall : stripAllBlockComments (b :: y ++ u) = b :: stripAllBlockComments y ++ u := by
    rw [stripAllBlockComments_append_plain hu.marks.2.2 hu.marks.2.1, stripAllBlockComments_cons hy.block]
  obtain ⟨d, u', rfl⟩ := List.exists_cons_of_ne_nil hu.ne_nil
  have hupper : toUpper f (b :: stripAllBlockComments y ++ d :: u') =
      c :: (t ++ asciiUpper d :: toUpper f u') := by
    rw [toUpper_append_ascii f _ _ (hu.head d rfl).1, hct, List.cons_append]
  rw [pieceOperation_eq, hstrip, if_neg (by simp), hall, hupper, textOperation_head hc]

lemma openLine_append {y : Bytes} (hy : OpenLine y) (hu : newline ∉ u) : OpenLine (y ++ u) :=
  ⟨hy.1.trans (List.prefix_append _ _), by simp [hy.2, hu]⟩

lemma openBlock_append {y : Bytes} (hy : OpenBlock y) (hu : slash ∉ u) : OpenBlock (y ++ u) := by
  refine ⟨hy.1.trans (List.prefix_append _ _), ?_⟩
  have hclose := hy.2
  rw [ascii_close, indexOf_none_iff] at hclose ⊢
  rw [infix_pair_append, not_or, not_or]
  refine ⟨hclose, fun h => hu (h.subset (by simp)), fun h => hu (List.mem_of_mem_head? h.2)⟩

lemma Tame.newline (h : Tame u) : newline ∉ u := fun hmem => by
  have := h.ink _ hmem
  exact absurd this (by decide)

lemma head_fixed (hf : WideUpper f) (hx : ¬ Lead x) (hu : Tame u) (hv : Tame v) :
    (pieceOperation f (x ++ u)).head? = (pieceOperation f (x ++ v)).head? := by
  obtain ⟨l, y, rfl, hl, hy⟩ := exists_lead x
  rw [List.append_assoc, List.append_assoc, pieceOperation_lead hl, pieceOperation_lead hl]
  rcases hy with rfl | hy | hy | hy
  · exact absurd (by simpa using hl) hx
  · rw [pieceOperation_eq, pieceOperation_eq, stripLeadingComments_openLine (openLine_append hy hu.newline),
      stripLeadingComments_openLine (openLine_append hy hv.newline)]
  · rw [pieceOperation_eq, pieceOperation_eq,
      stripLeadingComments_openBlock (openBlock_append hy hu.marks.2.2),
      stripLeadingComments_openBlock (openBlock_append hy hv.marks.2.2)]
  · obtain ⟨c, hc⟩ := body_head hf hy
    rw [hc u hu, hc v hv]

end Heads

section Scan
variable {f : QueryFilter} {q c : Bytes}

lemma pieces_quoted {ps : List Bytes} {x : Bytes} {a : UInt8} (hq : pieces q = ps ++ [x])
    (hm : Mode.outside.run q ≠ .outside) (ha : a ≠ semicolon) :
    pieces (q ++ [semicolon, a]) = ps ++ [x ++ [semicolon, a]] := by
  rw [pieces, piecesFrom_append hq]
  simp [piecesFrom, Mode.cuts, hm, ha]

lemma ink_letters : isInk semicolon = true ∧ isInk 0x41 = true ∧ isInk 0x42 = true := by decide +kernel

lemma tame_quoted : Tame [semicolon, 0x41] ∧ Tame [semicolon, 0x42] :=
  ⟨⟨by simp, by simp [ink_letters], by decide⟩, ⟨by simp, by simp [ink_letters], by decide⟩⟩

lemma tame_letters : Tame [0x41] ∧ Tame [0x42] :=
  ⟨⟨by simp, by simp [ink_letters], by decide⟩, ⟨by simp, by simp [ink_letters], by decide⟩⟩

lemma preamble_letters : (∀ op ∈ preambleOperations, op.head? ≠ some 0x41) ∧
    ∀ op ∈ preambleOperations, op.head? ≠ some 0x42 := by decide

lemma outside_of_letters (hf : WideUpper f)
    (hA : extractPrimarySQLOperation f (q ++ [semicolon, 0x41]) = [0x41])
    (hB : extractPrimarySQLOperation f (q ++ [semicolon, 0x42]) = [0x42]) :
    Mode.outside.run q = .outside := by
  by_contra hm
  obtain ⟨ps, x, hq⟩ := exists_pieces_last q
  rw [extractPrimarySQLOperation_eq, pieces_quoted hq hm (by decide), List.map_append] at hA hB
  have hheads : (pieceOperation f (x ++ [semicolon, 0x41])).head? =
      (pieceOperation f (x ++ [semicolon, 0x42])).head? := by
    by_cases hx : Lead x
    · rw [pieceOperation_lead hx, pieceOperation_lead hx,
        pieceOperation_of_ascii f [semicolon, 0x41] (by decide),
        pieceOperation_of_ascii f [semicolon, 0x42] (by decide)]
      rfl
    · exact head_fixed hf hx tame_quoted.1 tame_quoted.2
  exact absurd (primaryOf_letters hheads preamble_letters.1 preamble_letters.2 hA hB) (by decide)

lemma lead_of_letters (hf : WideUpper f) {ops : List Bytes} {x : Bytes}
    (hA : primaryOf (ops ++ [pieceOperation f (x ++ [0x41])]) = [0x41])
    (hB : primaryOf (ops ++ [pieceOperation f (x ++ [0x42])]) = [0x42]) : Lead x := by
  by_contra hx
  have hheads := head_fixed hf hx tame_letters.1 tame_letters.2
  exact absurd (primaryOf_letters hheads preamble_letters.1 preamble_letters.2 hA hB) (by decide)

lemma strip_eq_nil_of_operation (hf : WideUpper f) {p : Bytes} (hp : pieceOperation f p = []) :
    stripLeadingComments p = [] := by
  by_contra hne
  obtain ⟨l, y, rfl, hl, hy⟩ := exists_lead p
  rw [hl.strip] at hne
  rw [pieceOperation_lead hl, pieceOperation_eq, if_neg hne] at hp
  rcases hy with rfl | hy | hy | hy
  · exact hne rfl
  · exact hne (stripLeadingComments_openLine hy)
  · exact hne (stripLeadingComments_openBlock hy)
  · rw [stripLeadingComments_body hy] at hp hne
    obtain ⟨b, z, hz⟩ := List.exists_cons_of_ne_nil hne
    have hleft := spaces_code.trimRight_prefix y
    rw [hz] at hp hleft
    have hblock : ¬ ascii "/*" <+: b :: z := fun h => hy.block (h.trans hleft)
    rw [stripAllBlockComments_cons hblock] at hp
    obtain ⟨c, t, hct, hblank, -⟩ := toUpper_head hf (b := b) (stripAllBlockComments z)
    have hc : isBlank c = false := by
      by_contra h
      have hb := hblank (by simpa using h)
      rw [not_blank_of_flush (hy.flush.of_prefix hleft)] at hb
      simp at hb
    have hhead := textOperation_head hc t
    rw [← hct, hp] at hhead
    simp at hhead

end Scan

section Lead
variable {f : QueryFilter} {c : Bytes}

lemma leadPlace_nil : LeadPlace [] := ⟨rfl, [], [], rfl, .nil⟩

lemma leadPlace_of_pieces {pre p : Bytes} (hm : Mode.outside.run pre = .outside)
    (hp : pieces pre = [p, []]) : LeadPlace pre := ⟨hm, [p], [], hp, .nil⟩

lemma vanishes_of_ignored (hf : WideUpper f)
    (h : ∀ pre post, LeadPlace pre →
      extractPrimarySQLOperation f (pre ++ c ++ post) = extractPrimarySQLOperation f (pre ++ post)) :
    Vanishes c := by
  have hfront : ∀ {post op : Bytes}, extractPrimarySQLOperation f post = op →
      extractPrimarySQLOperation f (c ++ post) = op := fun {post op} hop =>
    (h [] post leadPlace_nil).trans hop
  have hm : Mode.outside.run c = .outside :=
    outside_of_letters hf (hfront (operation_eq f _ (by decide)))
      (hfront (operation_eq f _ (by decide)))
  obtain ⟨cs, x, hcs⟩ := exists_pieces_last c
  have hletter : ∀ a, pieces [a] = [[a]] → extractPrimarySQLOperation f [a] = [a] →
      primaryOf (cs.map (pieceOperation f) ++ [pieceOperation f (x ++ [a])]) = [a] := by
    intro a ha hop
    have hsame := hfront hop
    rw [extractPrimarySQLOperation_eq, pieces_append hcs hm ha, List.map_append] at hsame
    exact hsame
  have hx : Lead x := lead_of_letters hf
    (hletter 0x41 (by decide) (operation_eq f _ (by decide)))
    (hletter 0x42 (by decide) (operation_eq f _ (by decide)))
  refine ⟨hm, cs, x, hcs, ?_, hx⟩
  have hpre : ∀ pre op : Bytes, Mode.outside.run pre = .outside → pieces pre = [op, []] →
      pieceOperation f op = op → extractPrimarySQLOperation f pre = op →
      primaryOf (op :: (cs.map (pieceOperation f) ++ [pieceOperation f x])) = op := by
    intro pre op hmode hpieces hop hwhole
    have hsame := h pre [] (leadPlace_of_pieces hmode hpieces)
    obtain ⟨d, ds, hds⟩ := exists_pieces_head c
    have hsplit : pieces (pre ++ c) = [op] ++ ([] ++ d) :: ds :=
      pieces_append (s := pre) (x := []) hpieces hmode hds
    rw [List.append_nil, List.append_nil, hwhole, extractPrimarySQLOperation_eq, hsplit, List.nil_append,
      ← hds, hcs] at hsame
    simpa [hop] using hsame
  have huse : primaryOf (ascii "USE" :: _) = ascii "USE" := hpre (ascii "USE;") _
    (by decide) (by decide) (pieceOperation_of_ascii f _ (by decide))
    (operation_eq f _ (by decide))
  have hset : primaryOf (ascii "SET" :: _) = ascii "SET" := hpre (ascii "SET;") _
    (by decide) (by decide) (pieceOperation_of_ascii f _ (by decide))
    (operation_eq f _ (by decide))
  have hempty := empty_of_primaryOf_ne (by rw [huse]; decide) (by rw [hset]; decide)
    (by rw [huse, hset]; decide)
  intro p hp
  exact strip_eq_nil_of_operation hf (hempty _ (List.mem_append_left _ (List.mem_map_of_mem hp)))

end Lead

section Inner
variable {f : QueryFilter} {c w x : Bytes}

/-- A text without comments that starts and ends with visible characters. -/
def PlainWord (w : Bytes) : Prop :=
  w ≠ [] ∧ (∀ e ∈ spaceEncodings, ¬ e <+: w) ∧ ¬ ascii "--" <+: w ∧ ¬ ascii "/*" <+: w ∧
    w.head? ≠ some openParen ∧ (∀ e ∈ spaceEncodings, ¬ e <:+ w) ∧
    ¬ ascii "/*" <:+: stripAllBlockComments w

instance (w : Bytes) : Decidable (PlainWord w) := inferInstanceAs (Decidable (_ ∧ _))

lemma PlainWord.inner (h : PlainWord w) (y : Bytes) : Inner [] w [space] y := by
  obtain ⟨hne, hflush, hline, hblock, hparen, hshut, hclosed⟩ := h
  exact ⟨.nil, ⟨hne, hflush, hline, hblock⟩, hparen, hshut, hclosed, by simp [isBlank],
    .inl (by simp)⟩

/-- The scan takes the word and a space for one part. -/
def Alone (w : Bytes) : Prop :=
  PlainWord w ∧ Mode.outside.run (w ++ [space]) = .outside ∧ pieces (w ++ [space]) = [w ++ [space]]

instance (w : Bytes) : Decidable (Alone w) := inferInstanceAs (Decidable (_ ∧ _))

lemma Alone.innerPlace (h : Alone w) (post : Bytes) : InnerPlace (w ++ [space]) post := by
  obtain ⟨p, qs, hpost⟩ := exists_pieces_head post
  exact ⟨h.2.1, [], [], w, [space], p, qs, h.2.2, hpost, h.1.inner p⟩

lemma Alone.settledPlace (h : Alone w) (hw : Settled (sqlWords (toUpper f (stripAllBlockComments w)))) :
    SettledPlace f (w ++ [space]) :=
  ⟨h.2.1, [], [], w, [space], [], by simpa using h.2.2, fun y => h.1.inner y, hw⟩

lemma main_of_ne_nil {op : Bytes} (h : op ≠ []) : IsMain op ∨ op ∈ preambleOperations := by
  by_cases hop : op ∈ preambleOperations
  · exact .inr hop
  · exact .inl ⟨h, hop⟩

lemma strip_body_ne_nil {y : Bytes} (hy : Body y) : stripLeadingComments y ≠ [] := by
  rw [stripLeadingComments_body hy]
  intro hnil
  obtain ⟨es, hes, rfl⟩ := spaces_of_trimRight hnil
  cases es with
  | nil => exact hy.ne_nil rfl
  | cons e es => exact hy.flush e (hes e (by simp)) (List.prefix_append _ _)

lemma exists_letter (hx : ∀ y l, x = l ++ y → Lead l → ¬ Body y) :
    ∃ post ∈ [[0x42], [newline, 0x42], [star, slash, 0x42]], pieceOperation f (x ++ post) = [0x42] := by
  have hB : pieceOperation f [0x42] = [0x42] := pieceOperation_of_ascii f _ (by decide)
  obtain ⟨l, y, rfl, hl, hy⟩ := exists_lead x
  rcases hy with rfl | ⟨⟨t, rfl⟩, hnl⟩ | ⟨hopen, hclose⟩ | hy
  · refine ⟨[0x42], by simp, ?_⟩
    rw [List.append_assoc, pieceOperation_lead hl]
    exact hB
  · refine ⟨[newline, 0x42], by simp, ?_⟩
    have hline : Lead (ascii "--" ++ t ++ newline :: []) :=
      .line (fun h => hnl (List.mem_append_right _ h)) .nil
    have hassoc : l ++ (ascii "--" ++ t) ++ [newline, 0x42] =
        l ++ ((ascii "--" ++ t ++ newline :: []) ++ [0x42]) := by simp
    rw [hassoc, pieceOperation_lead hl, pieceOperation_lead hline]
    exact hB
  · refine ⟨[star, slash, 0x42], by simp, ?_⟩
    have hblock : ClosedBlock (y ++ [star, slash]) :=
      closedBlock_of_first (hopen.trans (List.prefix_append y [star, slash]))
        (indexOf_none_iff.mp hclose)
    have hlead : Lead (y ++ [star, slash] ++ []) := .block hblock .nil
    have hassoc : l ++ y ++ [star, slash, 0x42] = l ++ ((y ++ [star, slash] ++ []) ++ [0x42]) := by simp
    rw [hassoc, pieceOperation_lead hl, pieceOperation_lead hlead]
    exact hB
  · exact absurd hy (hx y l rfl hl)

lemma settled_of_ascii (f : QueryFilter)
    (h : ((stripAllBlockComments w).all (· < 0x80) &&
      Settled (sqlWords ((stripAllBlockComments w).map asciiUpper))) = true) :
    Settled (sqlWords (toUpper f (stripAllBlockComments w))) := by
  obtain ⟨hlow, hw⟩ := Bool.and_eq_true_iff.mp h
  rw [toUpper, upperText, if_pos hlow]
  exact of_decide_eq_true hw

def probes : List Bytes := ["A", "B", "USE", "SET X"].map ascii

lemma probes_alone : ∀ w ∈ probes, Alone w := by decide +kernel

lemma insert_alone : Alone (ascii "INSERT") := by decide +kernel

lemma probes_settled (f : QueryFilter) : ∀ w ∈ probes,
    Settled (sqlWords (toUpper f (stripAllBlockComments w))) := by
  have hall : ∀ w ∈ probes, ((stripAllBlockComments w).all (· < 0x80) &&
      Settled (sqlWords ((stripAllBlockComments w).map asciiUpper))) = true := by decide +kernel
  exact fun w hw => settled_of_ascii f (hall w hw)

def probeTails : List Bytes :=
  [[], [0x42], [newline, 0x42], [star, slash, 0x42], [semicolon, 0x41], [semicolon, 0x42]]

/-- A comment that makes no difference at the side of these words is passed by the scan. -/
lemma quiet_of_probes (hf : WideUpper f)
    (h : ∀ w ∈ probes, ∀ post ∈ probeTails,
      extractPrimarySQLOperation f (w ++ [space] ++ c ++ post) =
        extractPrimarySQLOperation f (w ++ [space] ++ post)) : Quiet c := by
  have hm : Mode.outside.run c = .outside := by
    have hrun := outside_of_letters hf
      ((h (ascii "A") (by decide) [semicolon, 0x41] (by decide)).trans
        (operation_eq f [0x41] (by decide)))
      ((h (ascii "A") (by decide) [semicolon, 0x42] (by decide)).trans
        (operation_eq f [0x42] (by decide)))
    rwa [run_append, show Mode.outside.run (ascii "A" ++ [space]) = .outside by decide] at hrun
  obtain ⟨cs, x, hcs⟩ := exists_pieces_last c
  cases cs with
  | nil =>
    obtain rfl : x = c := by simpa using piecesFrom_single hcs
    exact ⟨hm, hcs⟩
  | cons d ds =>
    exfalso
    have hcut : ∀ w ∈ probes, ∀ post ∈ probeTails, pieces post = [post] → ∀ op,
        extractPrimarySQLOperation f (w ++ [space] ++ post) = op →
        primaryOf ((pieceOperation f (w ++ [space] ++ d) :: ds.map (pieceOperation f)) ++
          [pieceOperation f (x ++ post)]) = op := by
      intro w hw post hp hpost op hop
      have halone := probes_alone w hw
      have hcomment : pieces (c ++ post) = d :: (ds ++ [x ++ post]) := pieces_append hcs hm hpost
      have hsplit : pieces (w ++ [space] ++ (c ++ post)) =
          [] ++ (w ++ [space] ++ d) :: (ds ++ [x ++ post]) :=
        pieces_append halone.2.2 halone.2.1 hcomment
      have hsame := h w hw post hp
      rw [hop, List.append_assoc _ c, extractPrimarySQLOperation_eq, hsplit] at hsame
      simpa using hsame
    by_cases hx : ∀ y l, x = l ++ y → Lead l → ¬ Body y
    · obtain ⟨post, hpost, hB⟩ := exists_letter (f := f) hx
      have htail : post ∈ probeTails ∧ pieces post = [post] ∧
          extractPrimarySQLOperation f (ascii "A" ++ [space] ++ post) = [0x41] := by
        simp only [List.mem_cons, List.not_mem_nil, or_false] at hpost
        rcases hpost with rfl | rfl | rfl
        · exact ⟨by decide, by decide, operation_eq f _ (by decide)⟩
        · exact ⟨by decide, by decide, operation_eq f _ (by decide)⟩
        · exact ⟨by decide, by decide, operation_eq f _ (by decide)⟩
      have hA := hcut (ascii "A") (by decide) post htail.1 htail.2.1 _ htail.2.2
      rw [hB, primaryOf_concat (by decide)] at hA
      exact absurd hA (by decide)
    · obtain ⟨y, l, rfl, hl, hy⟩ : ∃ y l, x = l ++ y ∧ Lead l ∧ Body y := by simpa using hx
      have hop : ∀ w ∈ probes, ∀ op, extractPrimarySQLOperation f (w ++ [space] ++ []) = op →
          primaryOf ((pieceOperation f (w ++ [space] ++ d) :: ds.map (pieceOperation f)) ++
            [pieceOperation f y]) = op := by
        intro w hw op hop
        have hlast := hcut w hw [] (by decide) rfl op hop
        rwa [List.append_nil (l ++ y), pieceOperation_lead hl] at hlast
      have hne : pieceOperation f y ≠ [] := fun hnil =>
        strip_body_ne_nil hy (strip_eq_nil_of_operation hf hnil)
      rcases main_of_ne_nil hne with hmain | hpre
      · have hA := hop (ascii "A") (by decide) [0x41] (operation_eq f _ (by decide))
        have hB := hop (ascii "B") (by decide) [0x42] (operation_eq f _ (by decide))
        rw [primaryOf_concat hmain] at hA hB
        exact absurd (hA.symm.trans hB) (by decide)
      · have huse := hop (ascii "USE") (by decide) (ascii "USE") (operation_eq f _ (by decide))
        have hset := hop (ascii "SET X") (by decide) (ascii "SET") (operation_eq f _ (by decide))
        have hlast : ∀ ops : List Bytes, primaryOf (ops ++ [pieceOperation f y]) ∈ preambleOperations →
            primaryOf (ops ++ [pieceOperation f y]) = pieceOperation f y := by
          intro ops hops
          rw [primaryOf_of_no_main (not_isMain_of_primaryOf hops), List.reverse_append,
            List.reverse_singleton, List.singleton_append, List.find?_cons_of_pos (by simpa using hne),
            Option.getD_some]
        rw [hlast _ (by rw [huse]; decide)] at huse
        rw [hlast _ (by rw [hset]; decide)] at hset
        exact absurd (huse.symm.trans hset) (by decide)

lemma line_between_keywords {t : Bytes}
    (hq : Quiet (ascii "-- " ++ t ++ [newline])) :
    extractPrimarySQLOperation f
      (ascii "INSERT" ++ [space] ++ (ascii "-- " ++ t ++ [newline]) ++ ascii "OVERWRITE") =
        ascii "INSERT" := by
  have hcomment : pieces (ascii "-- " ++ t ++ [newline] ++ ascii "OVERWRITE") =
      [] ++ [ascii "-- " ++ t ++ [newline] ++ ascii "OVERWRITE"] :=
    pieces_append hq.2 hq.1 (by decide)
  have hpieces : pieces (ascii "INSERT" ++ [space] ++ (ascii "-- " ++ t ++ [newline] ++ ascii "OVERWRITE")) =
      [] ++ [ascii "INSERT" ++ [space] ++ (ascii "-- " ++ t ++ [newline] ++ ascii "OVERWRITE")] :=
    pieces_append (by decide) (by decide) hcomment
  have hword : PlainWord (ascii "INSERT --") := by decide
  have hop := (hword.inner (t ++ [newline] ++ ascii "OVERWRITE")).settled_operation
    (settled_of_ascii f (by decide))
  have hword' : wordOperation (sqlWords (toUpper f (stripAllBlockComments (ascii "INSERT --")))) =
      ascii "INSERT" := by
    rw [toUpper, upperText, if_pos (by decide)]
    decide
  have htext : ascii "INSERT" ++ [space] ++ (ascii "-- " ++ t ++ [newline] ++ ascii "OVERWRITE") =
      [] ++ ascii "INSERT --" ++ [space] ++ (t ++ [newline] ++ ascii "OVERWRITE") := by
    have hdashes : ascii "-- " = ascii "--" ++ [space] := by decide
    have hinsert : ascii "INSERT --" = ascii "INSERT" ++ [space] ++ ascii "--" := by decide
    simp only [hdashes, hinsert, List.append_assoc, List.nil_append]
  rw [List.append_assoc _ _ (ascii "OVERWRITE"), extractPrimarySQLOperation_eq, hpieces, htext,
    List.nil_append, List.map_singleton, hop, hword']
  decide

end Inner

section Invisible
variable {f : QueryFilter}

/-- The comment can be put at all places with `P` without a difference for the operation. -/
def Invisible (f : QueryFilter) (P : Bytes → Bytes → Prop) (c : Comment) : Prop :=
  ∀ pre post, P pre post →
    extractPrimarySQLOperation f (pre ++ c.bytes ++ post) = extractPrimarySQLOperation f (pre ++ post)

def Comment.IsBlock : Comment → Prop
  | .line _ _ => False
  | .block _ _ => True

/-- Which comments the filter does not see. In front of a statement these are the comments that the
scan of `splitStatements` and the stripping of leading comments take for comments; within a statement
the block comments that the scan passes without a cut and without a quote left open; and behind words
that settle the operation all comments that the scan passes so. -/
theorem comment_invisible_iff (hf : WideUpper f) (c : Comment) :
    (Invisible f (fun pre _ => LeadPlace pre) c ↔ Vanishes c.bytes) ∧
      (Invisible f InnerPlace c ↔ Comment.IsBlock c ∧ Quiet c.bytes) ∧
      (Invisible f (fun pre _ => SettledPlace f pre) c ↔ Quiet c.bytes) := by
  refine ⟨⟨vanishes_of_ignored hf, fun hc pre post h => lead_ignored h hc post⟩, ⟨fun h => ?_, ?_⟩,
    ⟨fun h => ?_, fun hc pre post h => settled_ignored h hc post⟩⟩
  · have hq : Quiet c.bytes := quiet_of_probes hf fun w hw post _ =>
      h _ _ ((probes_alone w hw).innerPlace post)
    refine ⟨?_, hq⟩
    cases c with
    | block t ht => trivial
    | line t ht =>
      have hsame := h _ (ascii "OVERWRITE") (insert_alone.innerPlace _)
      rw [Comment.bytes, line_between_keywords hq,
        operation_eq f (ascii "INSERT_OVERWRITE") (by decide)] at hsame
      exact absurd hsame (by decide)
  · rintro ⟨hblock, hq⟩ pre post h
    cases c with
    | block t ht => exact inner_ignored hf h ht hq
    | line t ht => exact hblock.elim
  · exact quiet_of_probes hf fun w hw post _ =>
      h _ _ ((probes_alone w hw).settledPlace (probes_settled f w hw))

end Invisible

def hint : Comment := .block (ascii "+set_var(query_timeout=300)") (by decide +kernel)

theorem comment_invisible_iff_hint :
    Comment.IsBlock hint ∧ Quiet hint.bytes ∧
      extractPrimarySQLOperation asciiFilter (ascii "INSERT" ++ [space] ++ hint.bytes ++ ascii "OVERWRITE") =
        extractPrimarySQLOperation asciiFilter (ascii "INSERT" ++ [space] ++ ascii "OVERWRITE") := by
  have hq : Quiet hint.bytes := ⟨by decide, by decide⟩
  exact ⟨trivial, hq, (comment_invisible_iff asciiFilter_wideUpper hint).2.1.mpr ⟨trivial, hq⟩ _ _
    (insert_alone.innerPlace _)⟩

/-- Comments that change the operation: one with a semicolon and one with a quote in front of a
statement, one that closes for `stripLeadingComments` where it opens, and a line comment between two
keywords. -/
theorem comments_change_operation :
    (∃ c : Comment, c.bytes = ascii "/* a; b */" ∧
      extractPrimarySQLOperation asciiFilter (c.bytes ++ ascii "SELECT 1") = ascii "B" ∧
      extractPrimarySQLOperation asciiFilter (ascii "SELECT 1") = ascii "SELECT") ∧
    (∃ c : Comment, c.bytes = ascii "-- it's\n" ∧
      extractPrimarySQLOperation asciiFilter (c.bytes ++ ascii "SELECT 1; DELETE FROM t") =
        ascii "SELECT" ∧
      extractPrimarySQLOperation asciiFilter (ascii "SELECT 1; DELETE FROM t") = ascii "DELETE") ∧
    (∃ c : Comment, c.bytes = ascii "/*/ x */" ∧
      extractPrimarySQLOperation asciiFilter (c.bytes ++ ascii "SELECT 1") = ascii "X" ∧
      extractPrimarySQLOperation asciiFilter (ascii "SELECT 1") = ascii "SELECT") ∧
    ∃ c : Comment, c.bytes = ascii "-- x\n" ∧
      extractPrimarySQLOperation asciiFilter (ascii "INSERT " ++ c.bytes ++ ascii "OVERWRITE t") =
        ascii "INSERT" ∧
      extractPrimarySQLOperation asciiFilter (ascii "INSERT " ++ ascii "OVERWRITE t") =
        ascii "INSERT_OVERWRITE" := by
  refine ⟨⟨.block (ascii " a; b ") ?_, ?_⟩, ⟨.line (ascii "it's") ?_, ?_⟩,
    ⟨.block (ascii "/ x ") ?_, ?_⟩, ⟨.line (ascii "x") ?_, ?_⟩⟩ <;> decide +kernel

end ShadowProxy.SqlCommentLimits
