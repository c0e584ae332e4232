import ShadowProxy.SqlStrip

/-! The two loops that remove comments: that they end, and what they end with. -/
namespace ShadowProxy.SqlStripLoops
open WordBytes ShadowFilter SqlTrim SqlStrip ForLoop

section Blocks
variable {a s t r : Bytes}

def HasBlock (s : Bytes) : Prop := ∃ a t y, s = a ++ ascii "/*" ++ t ++ ascii "*/" ++ y

lemma HasBlock.open (h : HasBlock s) : ascii "/*" <:+: s := by
  obtain ⟨a, t, y, rfl⟩ := h
  exact ⟨a, t ++ ascii "*/" ++ y, by simp⟩

lemma prefix_of_first {b x y : Bytes} (ha : ¬ ascii "/*" <:+: a)
    (h : a ++ ascii "/*" ++ x = b ++ ascii "/*" ++ y) : a <+: b := by
  rw [List.append_assoc, List.append_assoc, List.append_eq_append_iff] at h
  obtain ⟨c, rfl, -⟩ | ⟨c, rfl, hc⟩ := h
  · exact List.prefix_append a c
  · cases c with
    | nil => simp
    | cons c₀ c =>
      cases c with
      | nil => simp [ascii_open, slash, SqlStrip.star] at hc
      | cons c₁ c =>
        obtain ⟨rfl, rfl, -⟩ : slash = c₀ ∧ SqlStrip.star = c₁ ∧ y = c ++ (ascii "/*" ++ x) := by
          simpa [ascii_open] using hc
        exact absurd ⟨b, c, by simp [ascii_open]⟩ ha

lemma not_hasBlock_open (ha : ¬ ascii "/*" <:+: a) (ht : ¬ ascii "*/" <:+: t) :
    ¬ HasBlock (a ++ ascii "/*" ++ t) := by
  rintro ⟨b, u, y, h⟩
  rw [List.append_assoc _ u, List.append_assoc _ (u ++ _)] at h
  obtain ⟨c, rfl⟩ := prefix_of_first ha h
  have hlen := congrArg List.length h
  simp only [List.length_append] at hlen
  have hend : u ++ ascii "*/" ++ y <:+ a ++ ascii "/*" ++ t := h ▸ List.suffix_append _ _
  have hright : u ++ ascii "*/" ++ y <:+ t := by
    refine List.suffix_of_suffix_length_le hend (List.suffix_append _ t) ?_
    simp only [List.length_append]
    omega
  exact ht (List.IsInfix.trans ⟨u, y, rfl⟩ hright.isInfix)

lemma blockTurn_done (h : blockTurn s = .done r) : r = s ∧ ¬ HasBlock s := by
  obtain hs | ⟨a, t, rfl, ha, ht⟩ | ⟨a, t, y, rfl, ha, ht⟩ := exists_first_block s
  · rw [blockTurn_plain hs] at h
    cases h
    exact ⟨rfl, fun hblock => hs hblock.open⟩
  · rw [blockTurn_open ha ht] at h
    cases h
    exact ⟨rfl, not_hasBlock_open ha ht⟩
  · rw [blockTurn_closed ha ht] at h
    cases h

/-- Along the loop comments are replaced from the left, until there is none. -/
theorem block_run (h : Returns blockTurn s r) :
    Relation.ReflTransGen Replaces s r ∧ ¬ HasBlock r := by
  induction h with
  | done h =>
    obtain ⟨rfl, hblock⟩ := blockTurn_done h
    exact ⟨.refl, hblock⟩
  | next h hr ih => exact ⟨.head (blockTurn_next h) ih.1, ih.2⟩

lemma block_returns (s r : Bytes) : Returns blockTurn s r ↔ r = stripAllBlockComments s :=
  returns_iff blockTurn_unrolls blockTurn_falls (Nat.lt_succ_self s.length)

lemma block_stripped (s : Bytes) :
    Relation.ReflTransGen Replaces s (stripAllBlockComments s) ∧ ¬ HasBlock (stripAllBlockComments s) :=
  block_run ((block_returns s _).mpr rfl)

lemma stripAllBlockComments_of_not_hasBlock (h : ¬ HasBlock s) : stripAllBlockComments s = s := by
  obtain hs | ⟨a, t, rfl, ha, ht⟩ | ⟨a, t, y, rfl, -, -⟩ := exists_first_block s
  · exact stripAllBlockComments_plain hs
  · exact stripAllBlockComments_open ha ht
  · exact absurd ⟨a, t, y, rfl⟩ h

end Blocks

section Leading
variable {s r : Bytes}

lemma trimSpace_drop (s : Bytes) (k : ℕ) : trimSpace ((trimSpace s).drop k) <:+ trimSpace s := by
  obtain ⟨-, -, -, -, -, -, hshut⟩ := spaces_code.exists_trim s
  obtain ⟨b, -, hb, -⟩ := spaces_code.front.exists_run ((trimSpace s).drop k)
  have hright : dropSeps spaceEncodings ((trimSpace s).drop k) <:+ trimSpace s :=
    List.IsSuffix.trans ⟨b, hb.symm⟩ (List.drop_suffix k _)
  rw [← trimSpace_eq] at hshut
  rw [trimSpace_eq ((trimSpace s).drop k), trim, trimRight_of_shut]
  · exact hright
  · exact fun e he hend => hshut e he (hend.trans hright)

lemma leadingTurn_done (h : leadingTurn s = .done r) : r = [] ∨ r = trimSpace s ∧ Body r := by
  simp only [leadingTurn] at h
  split_ifs at h with hnil hline hblock
  · exact .inl (Turn.done.inj h).symm
  · cases hidx : (trimSpace s).idxOf? newline with
    | none => exact .inl (by simpa [hidx] using h.symm)
    | some idx => simp [hidx] at h
  · cases hidx : indexOf (ascii "*/") (trimSpace s) with
    | none => exact .inl (by simpa [hidx] using h.symm)
    | some idx => simp [hidx] at h
  · obtain rfl := Turn.done.inj h
    obtain ⟨-, -, -, -, -, hflush, -⟩ := spaces_code.exists_trim s
    rw [← trimSpace_eq] at hflush
    rw [List.isPrefixOf_iff_prefix] at hline hblock
    exact .inr ⟨rfl, hnil, hflush, hline, hblock⟩

/-- Along the loop the text gets shorter from the left, until it starts with a statement. -/
theorem leading_run (h : Returns leadingTurn s r) :
    r <:+ trimSpace s ∧ (r = [] ∨ Body r ∧ trimSpace r = r) := by
  induction h with
  | done h =>
    obtain rfl | ⟨rfl, hbody⟩ := leadingTurn_done h
    · exact ⟨List.nil_suffix, .inl rfl⟩
    · refine ⟨List.suffix_rfl, .inr ⟨hbody, ?_⟩⟩
      rw [trimSpace_eq, trimSpace_eq, spaces_code.trim_idem]
  | next h hr ih =>
    obtain ⟨-, k, rfl⟩ := leadingTurn_next h
    exact ⟨ih.1.trans (trimSpace_drop _ _), ih.2⟩

lemma leading_returns (s r : Bytes) : Returns leadingTurn s r ↔ r = stripLeadingComments s :=
  returns_iff leadingTurn_unrolls leadingTurn_falls (Nat.lt_succ_self s.length)

lemma leading_stripped (s : Bytes) : stripLeadingComments s <:+ trimSpace s ∧
    (stripLeadingComments s = [] ∨
      Body (stripLeadingComments s) ∧ trimSpace (stripLeadingComments s) = stripLeadingComments s) :=
  leading_run ((leading_returns s _).mpr rfl)

lemma stripLeadingComments_idem (s : Bytes) :
    stripLeadingComments (stripLeadingComments s) = stripLeadingComments s := by
  obtain ⟨-, hnil | ⟨hbody, htrim⟩⟩ := leading_stripped s
  · rw [hnil]
    exact stripLeadingComments_of_spaces Run.nil
  · rw [trimSpace_eq, trim_of_flush hbody.flush] at htrim
    rw [stripLeadingComments_body hbody, htrim]

end Leading

/-- On every text the two loops return, and what they return is the text that has been stripped of all
it could be stripped of. -/
theorem comment_loops_return (s : Bytes) :
    (∀ r, Returns blockTurn s r ↔ r = stripAllBlockComments s) ∧
    (∀ r, Returns leadingTurn s r ↔ r = stripLeadingComments s) ∧
    stripAllBlockComments (stripAllBlockComments s) = stripAllBlockComments s ∧
    stripLeadingComments (stripLeadingComments s) = stripLeadingComments s ∧
    (¬ ∃ a t y, stripAllBlockComments s = a ++ ascii "/*" ++ t ++ ascii "*/" ++ y) ∧
    Relation.ReflTransGen Replaces s (stripAllBlockComments s) ∧
    (stripLeadingComments s = [] ∨
      (∀ e ∈ spaceEncodings, ¬ e <+: stripLeadingComments s) ∧
      ¬ ascii "--" <+: stripLeadingComments s ∧ ¬ ascii "/*" <+: stripLeadingComments s) ∧
    stripLeadingComments s <:+ trimSpace s := by
  obtain ⟨hsteps, hblock⟩ := block_stripped s
  obtain ⟨hright, hfront⟩ := leading_stripped s
  refine ⟨block_returns s, leading_returns s, stripAllBlockComments_of_not_hasBlock hblock,
    stripLeadingComments_idem s, hblock, hsteps, ?_, hright⟩
  exact hfront.imp_right fun ⟨hbody, _⟩ => ⟨hbody.flush, hbody.line, hbody.block⟩

end ShadowProxy.SqlStripLoops
