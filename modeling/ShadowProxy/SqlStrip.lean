import ShadowProxy.ForLoop
import ShadowProxy.SqlTrim

/-! What the removal of comments leaves of a statement: of the comments in front of it, and of block
comments anywhere. -/
namespace ShadowProxy.SqlStrip
open WordBytes ShadowFilter SqlTrim ForLoop

def slash : UInt8 := 0x2F
def star : UInt8 := 0x2A
def dash : UInt8 := 0x2D

lemma ascii_dashes : ascii "--" = [dash, dash] := rfl

lemma ascii_open : ascii "/*" = [slash, star] := rfl

lemma ascii_close : ascii "*/" = [star, slash] := rfl

section Search
variable {a b s : Bytes} {x y : UInt8} {i : ℕ}

/-- A pattern of two bytes across the seam of two texts. -/
def Straddles (x y : UInt8) (a b : Bytes) : Prop := a.getLast? = some x ∧ b.head? = some y

lemma isPrefixOf_pair (x y c : UInt8) (s : Bytes) :
    [x, y].isPrefixOf (c :: s) = true ↔ x = c ∧ s.head? = some y := by
  cases s with
  | nil => simp [List.isPrefixOf]
  | cons d s => simp [List.isPrefixOf, eq_comm (a := y)]

lemma infix_pair_cons (x y c : UInt8) (s : Bytes) :
    [x, y] <:+: c :: s ↔ (x = c ∧ s.head? = some y) ∨ [x, y] <:+: s := by
  rw [List.infix_cons_iff, ← isPrefixOf_pair, List.isPrefixOf_iff_prefix]

lemma indexOf_none_iff : indexOf [x, y] s = none ↔ ¬ [x, y] <:+: s := by
  induction s with
  | nil => simp [indexOf]
  | cons c s ih =>
    rw [infix_pair_cons, ← isPrefixOf_pair, indexOf]
    split_ifs with h
    · simp [h]
    · simp [h, ih]

lemma infix_pair_append : [x, y] <:+: a ++ b ↔ [x, y] <:+: a ∨ [x, y] <:+: b ∨ Straddles x y a b := by
  induction a with
  | nil => simp [Straddles]
  | cons c a ih =>
    rw [List.cons_append, infix_pair_cons, infix_pair_cons, ih]
    cases a with
    | nil => simp [Straddles]; tauto
    | cons d a => simp [Straddles]; tauto

lemma indexOf_append (ha : ¬ [x, y] <:+: a) (hab : ¬ Straddles x y a b) :
    indexOf [x, y] (a ++ b) = (indexOf [x, y] b).map (· + a.length) := by
  induction a with
  | nil => simp
  | cons c a ih =>
    rw [infix_pair_cons, not_or] at ha
    have hhead : ¬ (x = c ∧ (a ++ b).head? = some y) := by
      rintro ⟨rfl, hy⟩
      cases a with
      | nil => exact hab ⟨rfl, hy⟩
      | cons d a => exact ha.1 ⟨rfl, hy⟩
    have hab' : ¬ Straddles x y a b := by
      rintro ⟨hx, hy⟩
      refine hab ⟨?_, hy⟩
      rw [List.getLast?_cons, hx]
      rfl
    rw [List.cons_append, indexOf, if_neg (by rwa [isPrefixOf_pair]), ih ha.2 hab', Option.map_map]
    rfl

lemma indexOf_left (h : indexOf [x, y] a = some i) (b : Bytes) : indexOf [x, y] (a ++ b) = some i := by
  induction a generalizing i with
  | nil => simp [indexOf] at h
  | cons c a ih =>
    rw [indexOf] at h
    rw [List.cons_append, indexOf]
    split_ifs at h with hp
    · rw [isPrefixOf_pair] at hp
      have hp' : [x, y].isPrefixOf (c :: (a ++ b)) = true := by
        rw [isPrefixOf_pair]
        refine ⟨hp.1, ?_⟩
        cases a with
        | nil => simp at hp
        | cons d a => exact hp.2
      rw [if_pos hp']
      exact h
    · obtain ⟨j, hj, rfl⟩ := Option.map_eq_some_iff.mp h
      have hp' : ¬ [x, y].isPrefixOf (c :: (a ++ b)) = true := by
        rw [isPrefixOf_pair] at hp ⊢
        cases a with
        | nil => simp [indexOf] at hj
        | cons d a => exact hp
      rw [if_neg hp', ih hj]
      rfl

lemma indexOf_some (h : indexOf [x, y] s = some i) :
    ∃ a b, s = a ++ x :: y :: b ∧ a.length = i ∧ ¬ [x, y] <:+: a := by
  induction s generalizing i with
  | nil => simp [indexOf] at h
  | cons c s ih =>
    rw [indexOf] at h
    split_ifs at h with hp
    · rw [isPrefixOf_pair] at hp
      obtain ⟨rfl, hy⟩ := hp
      cases s with
      | nil => simp at hy
      | cons d s =>
        obtain rfl : d = y := by simpa using hy
        obtain rfl : 0 = i := by simpa using h
        exact ⟨[], s, rfl, rfl, by simp⟩
    · obtain ⟨j, hj, rfl⟩ := Option.map_eq_some_iff.mp h
      obtain ⟨a, b, rfl, rfl, ha⟩ := ih hj
      refine ⟨c :: a, b, rfl, rfl, ?_⟩
      rw [isPrefixOf_pair] at hp
      rw [infix_pair_cons, not_or]
      refine ⟨?_, ha⟩
      rintro ⟨rfl, hy⟩
      cases a with
      | nil => simp at hy
      | cons d a => exact hp ⟨rfl, hy⟩

lemma indexOf_first (hxy : x ≠ y) (ha : ¬ [x, y] <:+: a) (b : Bytes) :
    indexOf [x, y] (a ++ x :: y :: b) = some a.length := by
  rw [indexOf_append ha]
  · simp [indexOf]
  · rintro ⟨-, hy⟩
    exact hxy (by simpa using hy)

lemma idxOf?_first {c : UInt8} (ha : c ∉ a) (b : Bytes) : (a ++ c :: b).idxOf? c = some a.length := by
  have hnone : a.findIdx? (· == c) = none := List.idxOf?_eq_none_iff.mpr ha
  rw [List.idxOf?, List.findIdx?_append, hnone]
  simp [List.findIdx?_cons]

end Search

section Leading
variable {r s t l y b : Bytes} {i : ℕ}

lemma trimSpace_length_le (s : Bytes) : (trimSpace s).length ≤ s.length := by
  rw [trimSpace_eq]
  obtain ⟨r, r', -, -, hs, -⟩ := spaces_code.exists_trim s
  have hlen := congrArg List.length hs
  simp only [List.length_append] at hlen
  omega

/-- One turn of `stripLeadingComments`. -/
def leadingTurn (s : Bytes) : Turn Bytes Bytes :=
  let s := trimSpace s
  if s = [] then .done []
  else if (ascii "--").isPrefixOf s then
    match s.idxOf? newline with
    | some idx => .next (s.drop (idx + 1))
    | none => .done []
  else if (ascii "/*").isPrefixOf s then
    match indexOf (ascii "*/") s with
    | some idx => .next (s.drop (idx + 2))
    | none => .done []
  else .done s

lemma leadingTurn_unrolls : Unrolls leadingTurn stripLeadingCommentsLoop := by
  intro n s
  simp only [stripLeadingCommentsLoop, leadingTurn]
  split_ifs
  · rfl
  · cases (trimSpace s).idxOf? newline <;> rfl
  · cases indexOf (ascii "*/") (trimSpace s) <;> rfl
  · rfl

lemma leadingTurn_next (h : leadingTurn s = .next t) :
    trimSpace s ≠ [] ∧ ∃ k, t = (trimSpace s).drop (k + 1) := by
  simp only [leadingTurn] at h
  split_ifs at h with hnil
  · refine ⟨hnil, ?_⟩
    cases hidx : (trimSpace s).idxOf? newline with
    | none => simp [hidx] at h
    | some idx => exact ⟨idx, by simpa [hidx] using h.symm⟩
  · refine ⟨hnil, ?_⟩
    cases hidx : indexOf (ascii "*/") (trimSpace s) with
    | none => simp [hidx] at h
    | some idx => exact ⟨idx + 1, by simpa [hidx] using h.symm⟩

lemma leadingTurn_falls : Falls leadingTurn List.length := by
  intro s t h
  obtain ⟨hnil, k, rfl⟩ := leadingTurn_next h
  have hpos : 0 < (trimSpace s).length := List.length_pos_of_ne_nil hnil
  have hlen := trimSpace_length_le s
  rw [List.length_drop]
  omega

lemma stripLeadingComments_done (h : leadingTurn s = .done t) : stripLeadingComments s = t :=
  loop_done leadingTurn_unrolls h _

lemma stripLeadingComments_next (h : leadingTurn s = .next t) :
    stripLeadingComments s = stripLeadingComments t :=
  loop_next leadingTurn_unrolls leadingTurn_falls h

lemma stripLeadingComments_eq (s : Bytes) :
    stripLeadingComments s =
      if trimSpace s = [] then []
      else if (ascii "--").isPrefixOf (trimSpace s) then
        match (trimSpace s).idxOf? newline with
        | some idx => stripLeadingComments ((trimSpace s).drop (idx + 1))
        | none => []
      else if (ascii "/*").isPrefixOf (trimSpace s) then
        match indexOf (ascii "*/") (trimSpace s) with
        | some idx => stripLeadingComments ((trimSpace s).drop (idx + 2))
        | none => []
      else trimSpace s := by
  split_ifs with hnil hline hblock
  · exact stripLeadingComments_done (by simp [leadingTurn, hnil])
  · cases hidx : (trimSpace s).idxOf? newline with
    | none => exact stripLeadingComments_done (by simp [leadingTurn, hnil, hline, hidx])
    | some idx => exact stripLeadingComments_next (by simp [leadingTurn, hnil, hline, hidx])
  · cases hidx : indexOf (ascii "*/") (trimSpace s) with
    | none => exact stripLeadingComments_done (by simp [leadingTurn, hnil, hline, hblock, hidx])
    | some idx => exact stripLeadingComments_next (by simp [leadingTurn, hnil, hline, hblock, hidx])
  · exact stripLeadingComments_done (by simp [leadingTurn, hnil, hline, hblock])

lemma stripLeadingComments_congr (h : trimSpace s = trimSpace t) :
    stripLeadingComments s = stripLeadingComments t := by
  rw [stripLeadingComments_eq s, stripLeadingComments_eq t, h]

lemma stripLeadingComments_spaces (hr : Spaces r) (s : Bytes) :
    stripLeadingComments (r ++ s) = stripLeadingComments s := by
  refine stripLeadingComments_congr ?_
  rw [trimSpace_eq, trimSpace_eq, spaces_code.trim_left hr]

lemma stripLeadingComments_trimRight (s : Bytes) :
    stripLeadingComments (trimRight spaceEncodings s) = stripLeadingComments s := by
  refine stripLeadingComments_congr ?_
  rw [trimSpace_eq, trimSpace_eq, spaces_code.trim_trimRight]

lemma stripLeadingComments_of_spaces (h : Spaces s) : stripLeadingComments s = [] := by
  rw [stripLeadingComments_eq, if_pos]
  rw [trimSpace_eq, spaces_code.trim_eq_nil_iff]
  exact h

lemma spaces_of_trimRight (h : trimRight spaceEncodings s = []) : Spaces s := by
  obtain ⟨r, hr, hs, -⟩ := spaces_code.exists_trimRight s
  rw [h, List.nil_append] at hs
  rwa [hs]

lemma isInk_dash : isInk dash = true := by decide

lemma isInk_slash : isInk slash = true := by decide

lemma trimSpace_append (hflush : Flush spaceEncodings (s ++ t)) (hlast : ∀ b ∈ s.getLast?, b < 0x80) :
    trimSpace (s ++ t) = if trimRight spaceEncodings t = [] then trimRight spaceEncodings s
      else s ++ trimRight spaceEncodings t := by
  rw [trimSpace_eq, trim_of_flush hflush, spaces_code.trimRight_append (.inl hlast)]

def OpenLine (s : Bytes) : Prop := ascii "--" <+: s ∧ newline ∉ s

def OpenBlock (s : Bytes) : Prop := ascii "/*" <+: s ∧ indexOf (ascii "*/") s = none

/-- A block comment up to its end; the two marks may share a byte. -/
def ClosedBlock (s : Bytes) : Prop :=
  ascii "/*" <+: s ∧ ∃ i, indexOf (ascii "*/") s = some i ∧ s.length = i + 2

lemma closedBlock_of_first {a z : Bytes} (hopen : ascii "/*" <+: a ++ star :: slash :: z)
    (ha : ¬ [star, slash] <:+: a) : ClosedBlock (a ++ [star, slash]) := by
  refine ⟨?_, a.length, indexOf_first (by decide) ha [], by simp⟩
  exact List.prefix_of_prefix_length_le hopen ⟨z, by simp⟩ (by simp [ascii_open])

/-- A text that is neither blank nor starts with a blank or a comment. -/
structure Body (s : Bytes) : Prop where
  ne_nil : s ≠ []
  flush : Flush spaceEncodings s
  line : ¬ ascii "--" <+: s
  block : ¬ ascii "/*" <+: s

lemma Body.append (h : Body s) (ht : ∀ b ∈ t.head?, b < 0x80 ∧ b ≠ dash ∧ b ≠ star) :
    Body (s ++ t) := by
  have hpair : ∀ x y : UInt8, ¬ [x, y] <+: s → t.head? ≠ some y → ¬ [x, y] <+: s ++ t := by
    intro x y hs hy hleft
    obtain ⟨c, s, rfl⟩ := List.exists_cons_of_ne_nil h.ne_nil
    cases s with
    | nil =>
      rw [List.singleton_append, ← List.isPrefixOf_iff_prefix, isPrefixOf_pair] at hleft
      exact hy hleft.2
    | cons d s =>
      rw [← List.isPrefixOf_iff_prefix, List.cons_append, isPrefixOf_pair] at hleft
      rw [← List.isPrefixOf_iff_prefix, isPrefixOf_pair] at hs
      exact hs hleft
  refine ⟨by simp [h.ne_nil], spaces_code.flush_append_ascii h.ne_nil h.flush fun b hb => (ht b hb).1,
    hpair _ _ h.line fun hb => (ht _ hb).2.1 rfl, hpair _ _ h.block fun hb => (ht _ hb).2.2 rfl⟩

lemma flush_of_open (h : ascii "/*" <+: s) : Flush spaceEncodings s := by
  obtain ⟨t, rfl⟩ := h
  exact flush_of_ink isInk_slash _

lemma stripLeadingComments_openLine (h : OpenLine s) : stripLeadingComments s = [] := by
  obtain ⟨⟨t, rfl⟩, hnl⟩ := h
  have hlast : ∀ b ∈ (ascii "--").getLast?, b < 0x80 := by simp [ascii_dashes, dash]
  have htrim : ∃ t', trimSpace (ascii "--" ++ t) = ascii "--" ++ t' ∧ t' <+: t := by
    rw [trimSpace_append (flush_of_ink isInk_dash _) hlast]
    split_ifs with hnil
    · exact ⟨[], trimRight_of_shut (shut_of_ink isInk_dash [dash]), List.nil_prefix⟩
    · exact ⟨_, rfl, spaces_code.trimRight_prefix t⟩
  obtain ⟨t', ht', hleft⟩ := htrim
  have hnl' : newline ∉ ascii "--" ++ t' := fun h =>
    hnl (((List.prefix_append_right_inj _).mpr hleft).subset h)
  have hidx : (ascii "--" ++ t').idxOf? newline = none := List.idxOf?_eq_none_iff.mpr hnl'
  rw [stripLeadingComments_eq, ht', if_neg (by simp [ascii_dashes]), if_pos (by simp), hidx]

lemma stripLeadingComments_line (ht : newline ∉ t) (y : Bytes) :
    stripLeadingComments (ascii "--" ++ t ++ newline :: y) = stripLeadingComments y := by
  have hsplit : ascii "--" ++ t ++ newline :: y = (ascii "--" ++ t ++ [newline]) ++ y := by simp
  by_cases hnil : trimRight spaceEncodings y = []
  · have hy := spaces_of_trimRight hnil
    have hnl : Spaces [newline] := spaces_of_blank (by simp [isBlank])
    rw [stripLeadingComments_of_spaces hy, hsplit, List.append_assoc,
      ← stripLeadingComments_trimRight, spaces_code.trimRight_run (hnl.append hy),
      stripLeadingComments_trimRight]
    exact stripLeadingComments_openLine ⟨List.prefix_append _ _, by simpa [ascii_dashes, newline, dash] using ht⟩
  · have hlast : ∀ b ∈ (ascii "--" ++ t ++ [newline]).getLast?, b < 0x80 := by simp [newline]
    have htrim : trimSpace (ascii "--" ++ t ++ newline :: y) =
        ascii "--" ++ t ++ newline :: trimRight spaceEncodings y := by
      rw [hsplit, trimSpace_append (flush_of_ink isInk_dash _) hlast, if_neg hnil]
      simp
    have hnl : newline ∉ ascii "--" ++ t := by simpa [ascii_dashes, newline, dash] using ht
    have hidx := idxOf?_first hnl (trimRight spaceEncodings y)
    rw [stripLeadingComments_eq, htrim, if_neg (by simp [ascii_dashes]), if_pos (by simp [ascii_dashes]), hidx]
    simp only [List.drop_length_add_append, List.drop_one, List.tail_cons]
    exact stripLeadingComments_trimRight y

lemma stripLeadingComments_openBlock (h : OpenBlock s) : stripLeadingComments s = [] := by
  obtain ⟨hopen, hclose⟩ := h
  rw [stripLeadingComments_eq, trimSpace_eq, trim_of_flush (flush_of_open hopen)]
  have hleft := spaces_code.trimRight_prefix s
  have hopen' : ascii "/*" <+: trimRight spaceEncodings s := by
    obtain ⟨t, rfl⟩ := hopen
    rw [spaces_code.trimRight_append (.inl (by simp [ascii_open, star]))]
    split_ifs
    · rw [trimRight_of_shut (s := ascii "/*") (shut_of_ink (b := star) (by decide) [slash])]
    · exact List.prefix_append _ _
  have hclose' : indexOf (ascii "*/") (trimRight spaceEncodings s) = none := by
    rw [ascii_close, indexOf_none_iff] at hclose ⊢
    exact fun h => hclose (h.trans hleft.isInfix)
  have hline : ¬ ascii "--" <+: trimRight spaceEncodings s := by
    obtain ⟨t, ht⟩ := hopen'
    rw [← ht]
    simp [ascii_open, ascii_dashes, slash, dash]
  rw [hclose']
  simp only [List.isPrefixOf_iff_prefix]
  rw [if_neg hline, if_pos hopen', ite_self]

lemma stripLeadingComments_block (hb : ClosedBlock b) (y : Bytes) :
    stripLeadingComments (b ++ y) = stripLeadingComments y := by
  obtain ⟨hopen, i, hi, hlen⟩ := hb
  have hend : ∃ a, b = a ++ [slash] := by
    rw [ascii_close] at hi
    obtain ⟨a, rest, rfl, rfl, -⟩ := indexOf_some hi
    obtain rfl : rest = [] := by simpa using hlen
    exact ⟨a ++ [star], by simp⟩
  obtain ⟨a, ha⟩ := hend
  have hlast : ∀ c ∈ b.getLast?, c < 0x80 := by simp [ha, slash]
  have hshut : trimRight spaceEncodings b = b := trimRight_of_shut (ha ▸ shut_of_ink isInk_slash a)
  have htrim : ∃ y', trimSpace (b ++ y) = b ++ y' ∧ stripLeadingComments y' = stripLeadingComments y := by
    rw [trimSpace_append (flush_of_open (hopen.trans (List.prefix_append b y))) hlast, hshut]
    split_ifs with hnil
    · exact ⟨[], (List.append_nil b).symm, by
        rw [stripLeadingComments_of_spaces (spaces_of_trimRight hnil)]; rfl⟩
    · exact ⟨_, rfl, stripLeadingComments_trimRight y⟩
  obtain ⟨y', hy', hstrip⟩ := htrim
  obtain ⟨t, rfl⟩ := hopen
  have hi' : indexOf (ascii "*/") (ascii "/*" ++ t ++ y') = some i := by
    rw [ascii_close] at hi ⊢
    exact indexOf_left hi y'
  rw [stripLeadingComments_eq, hy', hi', if_neg (by simp [ascii_open]),
    if_neg (by simp [ascii_open, ascii_dashes, slash, dash]), if_pos (by simp [ascii_open])]
  simp only [← hlen, List.drop_left]
  exact hstrip

lemma stripLeadingComments_body (h : Body s) : stripLeadingComments s = trimRight spaceEncodings s := by
  have hleft := spaces_code.trimRight_prefix s
  have hline : ¬ ascii "--" <+: trimRight spaceEncodings s := fun hp => h.line (hp.trans hleft)
  have hblock : ¬ ascii "/*" <+: trimRight spaceEncodings s := fun hp => h.block (hp.trans hleft)
  rw [stripLeadingComments_eq, trimSpace_eq, trim_of_flush h.flush]
  simp only [List.isPrefixOf_iff_prefix, if_neg hline, if_neg hblock]
  split_ifs with hnil
  · exact hnil.symm
  · rfl

/-- Blanks and closed comments. -/
inductive Lead : Bytes → Prop
  | nil : Lead []
  | spaces {r s : Bytes} (hr : Spaces r) (hs : Lead s) : Lead (r ++ s)
  | line {t s : Bytes} (ht : newline ∉ t) (hs : Lead s) : Lead (ascii "--" ++ t ++ newline :: s)
  | block {b s : Bytes} (hb : ClosedBlock b) (hs : Lead s) : Lead (b ++ s)

lemma Lead.strip (hl : Lead l) (y : Bytes) : stripLeadingComments (l ++ y) = stripLeadingComments y := by
  induction hl with
  | nil => rfl
  | spaces hr hs ih => rw [List.append_assoc, stripLeadingComments_spaces hr, ih]
  | line ht hs ih => rw [List.append_assoc, List.cons_append, stripLeadingComments_line ht, ih]
  | block hb hs ih => rw [List.append_assoc, stripLeadingComments_block hb, ih]

/-- Every text starts with blanks and closed comments, behind which it ends, goes on, or has a
comment that is not closed. -/
theorem exists_lead (s : Bytes) :
    ∃ l y, s = l ++ y ∧ Lead l ∧ (y = [] ∨ OpenLine y ∨ OpenBlock y ∨ Body y) := by
  induction hn : s.length using Nat.strong_induction_on generalizing s with
  | _ n ih =>
    obtain ⟨r, hr, hs, hflush⟩ := spaces_code.front.exists_run s
    generalize dropSeps spaceEncodings s = y at hs hflush
    have hshorter : ∀ l z : Bytes, y = l ++ z → l ≠ [] → (∀ {u}, Lead u → Lead (l ++ u)) →
        ∃ l' y', s = l' ++ y' ∧ Lead l' ∧ (y' = [] ∨ OpenLine y' ∨ OpenBlock y' ∨ Body y') := by
      rintro l z rfl hne hl
      have hpos : 0 < l.length := List.length_pos_of_ne_nil hne
      obtain ⟨l', y', rfl, hl', hy'⟩ := ih z.length (by
        rw [← hn, hs]; simp only [List.length_append]; omega) z rfl
      exact ⟨r ++ (l ++ l'), y', by simp [hs], .spaces hr (hl hl'), hy'⟩
    have hhere : (y = [] ∨ OpenLine y ∨ OpenBlock y ∨ Body y) →
        ∃ l' y', s = l' ++ y' ∧ Lead l' ∧ (y' = [] ∨ OpenLine y' ∨ OpenBlock y' ∨ Body y') := fun hy =>
      ⟨r, y, hs, by simpa using Lead.spaces hr .nil, hy⟩
    by_cases hnil : y = []
    · exact hhere (.inl hnil)
    by_cases hline : ascii "--" <+: y
    · obtain ⟨t, rfl⟩ := hline
      by_cases hnl : newline ∈ t
      · obtain ⟨t, z, rfl, ht⟩ := List.eq_append_cons_of_mem hnl
        refine hshorter (ascii "--" ++ t ++ [newline]) z (by simp) (by simp) fun hu => ?_
        simpa using Lead.line ht hu
      · exact hhere (.inr (.inl ⟨List.prefix_append _ _, by simpa [ascii_dashes, newline, dash] using hnl⟩))
    by_cases hblock : ascii "/*" <+: y
    · cases hi : indexOf (ascii "*/") y with
      | none => exact hhere (.inr (.inr (.inl ⟨hblock, hi⟩)))
      | some i =>
        rw [ascii_close] at hi
        obtain ⟨a, z, rfl, rfl, ha⟩ := indexOf_some hi
        have hclosed := closedBlock_of_first hblock ha
        exact hshorter (a ++ [star, slash]) z (by simp) (by simp) fun hu => .block hclosed hu
    · exact hhere (.inr (.inr (.inr ⟨hnil, hflush, hline, hblock⟩)))

lemma mem_of_mem_stripLeadingComments {b : UInt8} (hb : b ∈ stripLeadingComments s) : b ∈ s := by
  obtain ⟨l, y, rfl, hl, hy⟩ := exists_lead s
  rw [hl.strip] at hb
  rcases hy with rfl | hy | hy | hy
  · simp [stripLeadingComments_of_spaces Run.nil] at hb
  · simp [stripLeadingComments_openLine hy] at hb
  · simp [stripLeadingComments_openBlock hy] at hb
  · rw [stripLeadingComments_body hy] at hb
    exact List.mem_append_right _ ((spaces_code.trimRight_prefix y).subset hb)

end Leading

section Blocks
variable {a s t u v y : Bytes}

@[simp] lemma stripAllBlockComments_nil : stripAllBlockComments [] = [] := rfl

/-- One turn of `stripAllBlockComments`. -/
def blockTurn (s : Bytes) : Turn Bytes Bytes :=
  match indexOf (ascii "/*") s with
  | none => .done s
  | some start =>
    match indexOf (ascii "*/") (s.drop (start + 2)) with
    | none => .done s
    | some stop => .next (s.take start ++ space :: s.drop (start + 2 + stop + 2))

lemma blockTurn_unrolls : Unrolls blockTurn stripAllBlockCommentsLoop := by
  intro n s
  simp only [stripAllBlockCommentsLoop, blockTurn]
  cases indexOf (ascii "/*") s with
  | none => rfl
  | some start =>
    dsimp only
    cases indexOf (ascii "*/") (s.drop (start + 2)) <;> rfl

lemma blockTurn_plain (hs : ¬ ascii "/*" <:+: s) : blockTurn s = .done s := by
  rw [ascii_open] at hs
  rw [blockTurn, ascii_open, indexOf_none_iff.mpr hs]

lemma blockTurn_open (ha : ¬ ascii "/*" <:+: a) (ht : ¬ ascii "*/" <:+: t) :
    blockTurn (a ++ ascii "/*" ++ t) = .done (a ++ ascii "/*" ++ t) := by
  rw [ascii_open] at ha
  rw [ascii_close] at ht
  have hs : a ++ ascii "/*" ++ t = a ++ slash :: star :: t := by simp [ascii_open]
  rw [hs, blockTurn, ascii_open, ascii_close, indexOf_first (by decide) ha]
  dsimp only
  rw [show (a ++ slash :: star :: t).drop (a.length + 2) = t by simp, indexOf_none_iff.mpr ht]

lemma blockTurn_closed (ha : ¬ ascii "/*" <:+: a) (ht : ¬ ascii "*/" <:+: t) (y : Bytes) :
    blockTurn (a ++ ascii "/*" ++ t ++ ascii "*/" ++ y) = .next (a ++ space :: y) := by
  rw [ascii_open] at ha
  rw [ascii_close] at ht
  have hs : a ++ ascii "/*" ++ t ++ ascii "*/" ++ y = a ++ slash :: star :: (t ++ star :: slash :: y) := by
    simp [ascii_open, ascii_close]
  have hdrop : (a ++ slash :: star :: (t ++ star :: slash :: y)).drop (a.length + 2) =
      t ++ star :: slash :: y := by
    simp
  have hdrop' : (a ++ slash :: star :: (t ++ star :: slash :: y)).drop (a.length + 2 + t.length + 2) = y := by
    rw [Nat.add_assoc, ← List.drop_drop, hdrop]
    simp
  rw [hs, blockTurn, ascii_open, ascii_close, indexOf_first (by decide) ha]
  dsimp only
  rw [hdrop, indexOf_first (by decide) ht]
  dsimp only
  rw [hdrop', List.take_left]

lemma exists_first_block (s : Bytes) : ¬ ascii "/*" <:+: s ∨
    (∃ a t, s = a ++ ascii "/*" ++ t ∧ ¬ ascii "/*" <:+: a ∧ ¬ ascii "*/" <:+: t) ∨
    ∃ a t y, s = a ++ ascii "/*" ++ t ++ ascii "*/" ++ y ∧ ¬ ascii "/*" <:+: a ∧ ¬ ascii "*/" <:+: t := by
  rw [ascii_open, ascii_close]
  cases hstart : indexOf [slash, star] s with
  | none => exact .inl (indexOf_none_iff.mp hstart)
  | some i =>
    obtain ⟨a, y, rfl, rfl, ha⟩ := indexOf_some hstart
    cases hstop : indexOf [star, slash] y with
    | none => exact .inr (.inl ⟨a, y, by simp, ha, indexOf_none_iff.mp hstop⟩)
    | some j =>
      obtain ⟨t, z, rfl, rfl, ht⟩ := indexOf_some hstop
      exact .inr (.inr ⟨a, t, z, by simp, ha, ht⟩)

/-- The first block comment that is closed becomes a blank. -/
inductive Replaces : Bytes → Bytes → Prop
  | first {a t : Bytes} (ha : ¬ ascii "/*" <:+: a) (ht : ¬ ascii "*/" <:+: t) (y : Bytes) :
    Replaces (a ++ ascii "/*" ++ t ++ ascii "*/" ++ y) (a ++ space :: y)

lemma Replaces.length_lt (h : Replaces s t) : t.length < s.length := by
  obtain ⟨-, -, y⟩ := h
  simp only [List.length_append, List.length_cons, ascii_open, ascii_close]
  omega

lemma blockTurn_next (h : blockTurn s = .next t) : Replaces s t := by
  obtain hs | ⟨a, t, rfl, ha, ht⟩ | ⟨a, t, y, rfl, ha, ht⟩ := exists_first_block s
  · rw [blockTurn_plain hs] at h
    cases h
  · rw [blockTurn_open ha ht] at h
    cases h
  · rw [blockTurn_closed ha ht] at h
    cases h
    exact .first ha ht y

lemma blockTurn_falls : Falls blockTurn List.length := fun _ _ h => (blockTurn_next h).length_lt

/-- The first block comment that is closed is replaced. -/
lemma stripAllBlockComments_closed (ha : ¬ ascii "/*" <:+: a) (ht : ¬ ascii "*/" <:+: t) (y : Bytes) :
    stripAllBlockComments (a ++ ascii "/*" ++ t ++ ascii "*/" ++ y) =
      stripAllBlockComments (a ++ space :: y) :=
  loop_next blockTurn_unrolls blockTurn_falls (blockTurn_closed ha ht y)

lemma stripAllBlockComments_open (ha : ¬ ascii "/*" <:+: a) (ht : ¬ ascii "*/" <:+: t) :
    stripAllBlockComments (a ++ ascii "/*" ++ t) = a ++ ascii "/*" ++ t :=
  loop_done blockTurn_unrolls (blockTurn_open ha ht) _

lemma stripAllBlockComments_plain (hs : ¬ ascii "/*" <:+: s) : stripAllBlockComments s = s :=
  loop_done blockTurn_unrolls (blockTurn_plain hs) _

@[elab_as_elim]
theorem block_induction {P : Bytes → Prop} (plain : ∀ s, ¬ ascii "/*" <:+: s → P s)
    (opened : ∀ a t, ¬ ascii "/*" <:+: a → ¬ ascii "*/" <:+: t → P (a ++ ascii "/*" ++ t))
    (closed : ∀ a t y, ¬ ascii "/*" <:+: a → ¬ ascii "*/" <:+: t → P (a ++ space :: y) →
      P (a ++ ascii "/*" ++ t ++ ascii "*/" ++ y)) (s : Bytes) : P s := by
  induction hn : s.length using Nat.strong_induction_on generalizing s with
  | _ n ih =>
    obtain hs | ⟨a, t, rfl, ha, ht⟩ | ⟨a, t, y, rfl, ha, ht⟩ := exists_first_block s
    · exact plain s hs
    · exact opened a t ha ht
    · refine closed a t y ha ht (ih _ ?_ _ rfl)
      rw [← hn]
      exact (Replaces.first ha ht y).length_lt

lemma open_free_append {w : Bytes} (hu : ¬ ascii "/*" <:+: u) (ha : ¬ ascii "/*" <:+: a)
    (h : ¬ Straddles slash star u (a ++ w)) : ¬ ascii "/*" <:+: u ++ a := by
  rw [ascii_open] at hu ha ⊢
  rw [infix_pair_append, not_or, not_or]
  refine ⟨hu, ha, fun hs => h ⟨hs.1, ?_⟩⟩
  cases a with
  | nil => simp [Straddles] at hs
  | cons c a => exact hs.2

lemma stripAllBlockComments_plain_append (hu : ¬ ascii "/*" <:+: u) (huv : ¬ Straddles slash star u v) :
    stripAllBlockComments (u ++ v) = u ++ stripAllBlockComments v := by
  induction v using block_induction with
  | plain v hv =>
    rw [stripAllBlockComments_plain hv, stripAllBlockComments_plain]
    rw [ascii_open] at hu hv ⊢
    rw [infix_pair_append]
    tauto
  | opened a t ha ht =>
    have hua := open_free_append hu ha (w := ascii "/*" ++ t) (by simpa using huv)
    rw [stripAllBlockComments_open ha ht, ← List.append_assoc, ← List.append_assoc,
      stripAllBlockComments_open hua ht]
  | closed a t y ha ht ih =>
    have hua := open_free_append hu ha (w := ascii "/*" ++ t ++ ascii "*/" ++ y) (by simpa using huv)
    have hspace : ¬ Straddles slash star u (a ++ space :: y) := by
      rintro ⟨hlast, hhead⟩
      cases a with
      | nil => exact absurd hhead (by simp [space, star])
      | cons c a => exact huv ⟨hlast, hhead⟩
    have hassoc : u ++ (a ++ ascii "/*" ++ t ++ ascii "*/" ++ y) =
        u ++ a ++ ascii "/*" ++ t ++ ascii "*/" ++ y := by simp only [List.append_assoc]
    rw [hassoc, stripAllBlockComments_closed hua ht, stripAllBlockComments_closed ha ht,
      List.append_assoc, ih hspace]

lemma stripAllBlockComments_append (hu : ¬ ascii "/*" <:+: stripAllBlockComments u)
    (huv : ¬ Straddles slash star (stripAllBlockComments u) v) :
    stripAllBlockComments (u ++ v) = stripAllBlockComments u ++ stripAllBlockComments v := by
  induction u using block_induction with
  | plain u hplain =>
    rw [stripAllBlockComments_plain hplain] at huv ⊢
    exact stripAllBlockComments_plain_append hplain huv
  | opened a t ha ht =>
    rw [stripAllBlockComments_open ha ht] at hu
    exact absurd (List.infix_append a _ t) hu
  | closed a t y ha ht ih =>
    rw [stripAllBlockComments_closed ha ht] at hu huv ⊢
    rw [List.append_assoc _ y v, stripAllBlockComments_closed ha ht, ← List.cons_append, ← List.append_assoc]
    exact ih hu huv

lemma stripAllBlockComments_append_plain (hslash : slash ∉ v) (hstar : star ∉ v) (u : Bytes) :
    stripAllBlockComments (u ++ v) = stripAllBlockComments u ++ v := by
  have hhead : ∀ {c : UInt8}, c ∉ v → v.head? ≠ some c := fun hc h => hc (List.mem_of_mem_head? h)
  have hpair : ∀ {x y : UInt8}, x ∉ v → ¬ [x, y] <:+: v := fun hx h => hx (h.subset (by simp))
  induction u using block_induction with
  | plain u hu =>
    rw [stripAllBlockComments_plain hu, stripAllBlockComments_plain]
    rw [ascii_open] at hu ⊢
    rw [infix_pair_append, not_or, not_or]
    exact ⟨hu, hpair hslash, fun h => hhead hstar h.2⟩
  | opened a t ha ht =>
    have htv : ¬ ascii "*/" <:+: t ++ v := by
      rw [ascii_close] at ht ⊢
      rw [infix_pair_append, not_or, not_or]
      exact ⟨ht, hpair hstar, fun h => hhead hslash h.2⟩
    rw [stripAllBlockComments_open ha ht, List.append_assoc, stripAllBlockComments_open ha htv,
      List.append_assoc]
  | closed a t y ha ht ih =>
    rw [List.append_assoc _ y v, stripAllBlockComments_closed ha ht, stripAllBlockComments_closed ha ht,
      ← ih, List.append_assoc, List.cons_append]

lemma stripAllBlockComments_cons {b : UInt8} (h : ¬ ascii "/*" <+: b :: s) :
    stripAllBlockComments (b :: s) = b :: stripAllBlockComments s := by
  refine stripAllBlockComments_plain_append (u := [b]) (by simp [ascii_open, infix_pair_cons]) ?_
  rintro ⟨hb, hs⟩
  obtain rfl : b = slash := by simpa using hb
  cases s with
  | nil => simp at hs
  | cons c s =>
    obtain rfl : c = star := by simpa using hs
    exact h ⟨s, rfl⟩

lemma mem_of_mem_stripAllBlockComments {b : UInt8} (hb : b ∈ stripAllBlockComments s) :
    b ∈ s ∨ b = space := by
  induction s using block_induction with
  | plain s hs =>
    rw [stripAllBlockComments_plain hs] at hb
    exact .inl hb
  | opened a t ha ht =>
    rw [stripAllBlockComments_open ha ht] at hb
    exact .inl hb
  | closed a t y ha ht ih =>
    rw [stripAllBlockComments_closed ha ht] at hb
    rcases ih hb with h | h
    · simp only [List.mem_append, List.mem_cons] at h ⊢
      tauto
    · exact .inr h

end Blocks

section Extent
variable {s : Bytes}

/-- How much of a text that starts with a block comment `stripLeadingComments` takes for it. -/
def leadExtent (s : Bytes) : Option ℕ := (indexOf (ascii "*/") s).map (· + 2)

/-- How much of a text that starts with a block comment belongs to it: all up to the first `*/` that
starts at the third byte or behind it. -/
def blockExtent (s : Bytes) : Option ℕ := (indexOf (ascii "*/") (s.drop 2)).map (· + 4)

lemma stripLeadingComments_extent (h : ascii "/*" <+: s) :
    stripLeadingComments s = (leadExtent s).elim [] fun n => stripLeadingComments (s.drop n) := by
  rw [leadExtent]
  cases hi : indexOf (ascii "*/") s with
  | none => exact stripLeadingComments_openBlock ⟨h, hi⟩
  | some i =>
    rw [ascii_close] at hi
    obtain ⟨a, y, rfl, rfl, ha⟩ := indexOf_some hi
    have hsplit : a ++ star :: slash :: y = (a ++ [star, slash]) ++ y := by simp
    rw [hsplit, stripLeadingComments_block (closedBlock_of_first h ha)]
    simp

lemma stripAllBlockComments_extent (h : ascii "/*" <+: s) :
    stripAllBlockComments s =
      (blockExtent s).elim s fun n => stripAllBlockComments (space :: s.drop n) := by
  obtain ⟨t, rfl⟩ := h
  have hfree : ¬ ascii "/*" <:+: [] := by simp [ascii_open]
  rw [blockExtent, show (ascii "/*" ++ t).drop 2 = t from rfl]
  cases hi : indexOf (ascii "*/") t with
  | none => exact stripAllBlockComments_open hfree (indexOf_none_iff.mp hi)
  | some i =>
    rw [ascii_close] at hi
    obtain ⟨a, y, rfl, rfl, ha⟩ := indexOf_some hi
    have hclosed := stripAllBlockComments_closed hfree ha y
    simp only [List.nil_append] at hclosed
    have hsplit : ascii "/*" ++ (a ++ star :: slash :: y) = ascii "/*" ++ a ++ ascii "*/" ++ y := by
      simp [ascii_close]
    have hdrop : (ascii "/*" ++ a ++ ascii "*/" ++ y).drop (a.length + 4) = y := by
      refine List.drop_left' ?_
      simp [ascii_open, ascii_close]
    rw [Option.map_some, Option.elim_some, hsplit, hdrop, hclosed]

lemma extents_eq_iff (h : ascii "/*" <+: s) : leadExtent s = blockExtent s ↔ s[2]? ≠ some slash := by
  obtain ⟨u, rfl⟩ := h
  have hthird : (ascii "/*" ++ u)[2]? = u.head? := by
    rw [List.head?_eq_getElem?]
    rfl
  have hlead : indexOf (ascii "*/") (ascii "/*" ++ u) =
      (indexOf (ascii "*/") (star :: u)).map (· + 1) := by
    rw [ascii_open, ascii_close, List.cons_append, indexOf, if_neg]
    · rfl
    · simp [slash, star]
  rw [hthird, leadExtent, blockExtent, hlead, show (ascii "/*" ++ u).drop 2 = u from rfl, indexOf]
  by_cases hu : u.head? = some slash
  · have hpair : (ascii "*/").isPrefixOf (star :: u) = true := (isPrefixOf_pair _ _ _ _).mpr ⟨rfl, hu⟩
    rw [if_pos hpair]
    refine iff_of_false ?_ (not_not.mpr hu)
    cases indexOf (ascii "*/") u <;> simp
  · have hpair : ¬ (ascii "*/").isPrefixOf (star :: u) = true := fun hp =>
      hu ((isPrefixOf_pair _ _ _ _).mp hp).2
    rw [if_neg hpair]
    refine iff_of_true ?_ hu
    cases indexOf (ascii "*/") u <;> simp

/-- `stripLeadingComments` continues behind its extent of the comment, `stripAllBlockComments` behind
the extent of the comment, and the two are the same unless the third byte is a slash. -/
theorem block_extents_agree_iff (h : ascii "/*" <+: s) :
    stripLeadingComments s = (leadExtent s).elim [] (fun n => stripLeadingComments (s.drop n)) ∧
      stripAllBlockComments s =
        (blockExtent s).elim s (fun n => stripAllBlockComments (space :: s.drop n)) ∧
      (leadExtent s = blockExtent s ↔ s[2]? ≠ some slash) :=
  ⟨stripLeadingComments_extent h, stripAllBlockComments_extent h, extents_eq_iff h⟩

theorem block_extents_agree_hint :
    stripLeadingComments (ascii "/*+ a */ B") = stripLeadingComments (ascii " B") ∧
      stripAllBlockComments (ascii "/*+ a */ B") = stripAllBlockComments (ascii "  B") := by
  obtain ⟨hlead, hall, hsame⟩ := block_extents_agree_iff (s := ascii "/*+ a */ B") (by decide)
  have hblock : blockExtent (ascii "/*+ a */ B") = some 8 := by decide
  rw [hsame.mpr (by decide), hblock] at hlead
  rw [hblock] at hall
  exact ⟨hlead, hall⟩

/-- A comment that starts with a slash ends for `stripLeadingComments` where it starts. -/
theorem slash_ends_comment :
    stripLeadingComments (ascii "/*/ x */ SELECT 1") = ascii "x */ SELECT 1" ∧
      stripAllBlockComments (ascii "/*/ x */ SELECT 1") = ascii "  SELECT 1" ∧
      leadExtent (ascii "/*/ x */ SELECT 1") = some 3 ∧
      blockExtent (ascii "/*/ x */ SELECT 1") = some 8 := by
  decide +kernel

end Extent

end ShadowProxy.SqlStrip
