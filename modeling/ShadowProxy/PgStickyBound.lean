import ShadowProxy.PgMirror

/-! How large the set of filtered names can become, and what makes a name leave it. -/
namespace ShadowProxy.PgStickyBound
open WordBytes EventHistory PgProtocol ShadowFilter PgMirror

section Record
variable {s : StickyStmts} {m : Bytes}

@[simp] lemma record_unnamed (s : StickyStmts) : s.record [] = s := if_pos rfl

lemma record_full (hm : m ≠ []) (hs : pgStickyStmtMapCap ≤ s.filteredStmtNames.card) :
    (s.record m).filteredStmtNames = {m} := by
  rw [StickyStmts.record, if_neg hm, if_pos hs]

lemma record_room (hm : m ≠ []) (hs : s.filteredStmtNames.card < pgStickyStmtMapCap) :
    (s.record m).filteredStmtNames = insert m s.filteredStmtNames := by
  rw [StickyStmts.record, if_neg hm, if_neg (by omega)]

end Record

/-- The set stays within its capacity, and the unnamed statement is not in it. -/
structure Bounded (s : StickyStmts) : Prop where
  card_le : s.filteredStmtNames.card ≤ pgStickyStmtMapCap
  named : [] ∉ s.filteredStmtNames

section Invariant
variable {s : StickyStmts} (filter : Option QueryFilter)

lemma Bounded.empty : Bounded .empty := ⟨by simp [StickyStmts.empty], by simp [StickyStmts.empty]⟩

lemma Bounded.record (h : Bounded s) (m : Bytes) : Bounded (s.record m) := by
  by_cases hm : m = []
  · rwa [hm, record_unnamed]
  rcases Nat.lt_or_ge s.filteredStmtNames.card pgStickyStmtMapCap with hs | hs
  · constructor
    · rw [record_room hm hs]
      exact (Finset.card_insert_le _ _).trans hs
    · simp [record_room hm hs, Ne.symm hm, h.named]
  · constructor
    · simp [record_full hm hs, pgStickyStmtMapCap]
    · simp [record_full hm hs, Ne.symm hm]

lemma Bounded.forget (h : Bounded s) (m : Bytes) : Bounded (s.forget m) :=
  ⟨(Finset.card_erase_le).trans h.card_le, fun hmem => h.named (Finset.mem_of_mem_erase hmem)⟩

lemma Bounded.mirrorFrame (h : Bounded s) (msg : PgPacket) : Bounded (mirrorFrame filter s msg).2 := by
  obtain ⟨-, -, heq⟩ | ⟨-, m, -, heq⟩ | ⟨-, -, heq⟩ := mirrorFrame_cases filter s msg
  · exact heq ▸ h.record _
  · rw [heq]
    split_ifs
    · exact h
    · exact h.forget m
  · rwa [heq]

theorem bounded_stickyAfter (frames : List PgPacket) : Bounded (stickyAfter filter frames) := by
  induction frames using List.reverseRecOn with
  | nil => exact Bounded.empty
  | append_singleton frames msg ih =>
    rw [stickyAfter_concat]
    exact ih.mirrorFrame filter msg

end Invariant

section Forgetting
variable {filter : Option QueryFilter} {s : StickyStmts} {m n : Bytes} {msg : PgPacket}

lemma filteredParse_name_eq (hm : FilteredParse filter m msg) (hn : FilteredParse filter n msg) : m = n :=
  hm.2.1.symm.trans hn.2.1

lemma filteredParse_not_closes (hm : FilteredParse filter m msg) : ¬ ClosesStmt n msg :=
  not_closesStmt (by rw [hm.1]; decide) n

lemma mirrorFrame_filteredParse (hm : FilteredParse filter m msg) (s : StickyStmts) :
    (mirrorFrame filter s msg).2 = s.record m := by
  obtain ⟨-, -, heq⟩ | ⟨hno, -⟩ | ⟨hno, -⟩ := mirrorFrame_cases filter s msg
  · rw [heq, hm.2.1]
  · exact absurd hm (hno m)
  · exact absurd hm (hno m)

/-- A name leaves the set when its statement is closed or when the set is cleared. -/
lemma closes_or_clears (hn : n ∈ s.filteredStmtNames)
    (hlost : n ∉ (mirrorFrame filter s msg).2.filteredStmtNames) :
    ClosesStmt n msg ∨ ∃ m, m ≠ [] ∧ FilteredParse filter m msg ∧
      pgStickyStmtMapCap ≤ s.filteredStmtNames.card := by
  obtain ⟨hp, -, heq⟩ | ⟨-, m, hc, heq⟩ | ⟨-, -, heq⟩ := mirrorFrame_cases filter s msg
  · rw [heq] at hlost
    have hm : extractPgParseStmtName msg ≠ [] := by
      intro hnil
      rw [hnil, record_unnamed] at hlost
      exact hlost hn
    refine .inr ⟨_, hm, hp, ?_⟩
    by_contra hroom
    rw [record_room hm (not_le.mp hroom)] at hlost
    exact hlost (Finset.mem_insert_of_mem hn)
  · rw [heq] at hlost
    split_ifs at hlost
    · exact absurd hn hlost
    · obtain rfl : n = m := by
        by_contra hne
        exact hlost (Finset.mem_erase.mpr ⟨hne, hn⟩)
      exact .inl hc
  · rw [heq] at hlost
    exact absurd hn hlost

/-- What takes a name out of the set is a Close of it, or a filtered Parse of a name that is not in the
full set. -/
def ForgetsDuly (filter : Option QueryFilter) (before : List PgPacket) (msg : PgPacket) : Prop :=
  ∀ n ∈ (stickyAfter filter before).filteredStmtNames,
    n ∉ (stickyAfter filter (before ++ [msg])).filteredStmtNames →
      ClosesStmt n msg ∨ ∃ m, m ≠ [] ∧ FilteredParse filter m msg ∧
        m ∉ (stickyAfter filter before).filteredStmtNames ∧
        (stickyAfter filter before).filteredStmtNames.card = pgStickyStmtMapCap

/-- No name that is in the full set is filtered again. -/
def NoRepeatWhenFull (filter : Option QueryFilter) (before : List PgPacket) (msg : PgPacket) : Prop :=
  ∀ m ∈ (stickyAfter filter before).filteredStmtNames, FilteredParse filter m msg →
    (stickyAfter filter before).filteredStmtNames.card < pgStickyStmtMapCap

lemma forgetsDuly_iff (before : List PgPacket) (msg : PgPacket) :
    ForgetsDuly filter before msg ↔ NoRepeatWhenFull filter before msg := by
  have hinv := bounded_stickyAfter filter before
  unfold ForgetsDuly NoRepeatWhenFull
  rw [stickyAfter_concat]
  generalize stickyAfter filter before = s at hinv ⊢
  constructor
  · intro hduly m hm hp
    by_contra hfull
    have hnil : m ≠ [] := fun h => hinv.named (h ▸ hm)
    have hmany : 1 < s.filteredStmtNames.card :=
      lt_of_lt_of_le (by decide : 1 < pgStickyStmtMapCap) (not_lt.mp hfull)
    obtain ⟨n, hn, hne⟩ := Finset.exists_mem_ne hmany m
    have hlost : n ∉ (mirrorFrame filter s msg).2.filteredStmtNames := by
      rw [mirrorFrame_filteredParse hp, record_full hnil (not_lt.mp hfull)]
      simpa using hne
    obtain hc | ⟨m', -, hp', hnew, -⟩ := hduly n hn hlost
    · exact filteredParse_not_closes hp hc
    · exact hnew (filteredParse_name_eq hp hp' ▸ hm)
  · intro hno n hn hlost
    obtain hc | ⟨m, hnil, hp, hfull⟩ := closes_or_clears hn hlost
    · exact .inl hc
    · refine .inr ⟨m, hnil, hp, fun hm => ?_, le_antisymm hinv.card_le hfull⟩
      exact absurd (hno m hm hp) (not_lt.mpr hfull)

end Forgetting

/-- In every run the set stays within its capacity; and the names in it are forgotten only as they
should be in exactly the runs in which no name of the full set is filtered again. -/
theorem sticky_set_bounded_iff (filter : Option QueryFilter) (frames : List PgPacket) :
    (∀ before after, frames = before ++ after →
      (stickyAfter filter before).filteredStmtNames.card ≤ pgStickyStmtMapCap) ∧
    (EachStep (ForgetsDuly filter) frames ↔ EachStep (NoRepeatWhenFull filter) frames) := by
  refine ⟨fun before after _ => (bounded_stickyAfter filter before).card_le, ?_⟩
  constructor
  · intro h a x b heq
    exact (forgetsDuly_iff a x).mp (h a x b heq)
  · intro h a x b heq
    exact (forgetsDuly_iff a x).mpr (h a x b heq)

section Fill
variable {filter : Option QueryFilter} {text : CString} {names : List CString}

lemma filteredParse_parseMessage (htext : (shouldShadowMirror text.1 filter).1 = false) (name : CString) :
    FilteredParse filter name.1 (parseMessage name text []) :=
  ⟨rfl, by simp, by simpa using htext⟩

lemma stickyAfter_fill (htext : (shouldShadowMirror text.1 filter).1 = false)
    (hnamed : ∀ name ∈ names, name.1 ≠ []) (hroom : names.length ≤ pgStickyStmtMapCap) :
    (stickyAfter filter (names.map (parseMessage · text []))).filteredStmtNames =
      (names.map Subtype.val).toFinset := by
  induction names using List.reverseRecOn with
  | nil => rfl
  | append_singleton names name ih =>
    rw [List.length_append, List.length_singleton] at hroom
    have hnames := ih (fun n hn => hnamed n (by simp [hn])) (by omega)
    have hcard := List.toFinset_card_le (names.map Subtype.val)
    rw [List.length_map] at hcard
    rw [List.map_append, List.map_singleton, stickyAfter_concat,
      mirrorFrame_filteredParse (filteredParse_parseMessage htext name), record_room, hnames]
    · ext n
      simp
    · exact hnamed name (by simp)
    · rw [hnames]
      omega

end Fill

section Sample

lemma digit_toNat {k : ℕ} (hk : k < 64) : (UInt8.ofNat (48 + k)).toNat = 48 + k := by
  rw [UInt8.toNat_ofNat']
  omega

lemma digits_nullFree (i : Fin 4096) :
    (0 : UInt8) ∉ [UInt8.ofNat (48 + i.1 / 64), UInt8.ofNat (48 + i.1 % 64)] := by
  have hi := i.2
  have hhigh := digit_toNat (k := i.1 / 64) (by omega)
  have hlow := digit_toNat (k := i.1 % 64) (by omega)
  intro hmem
  obtain h | h : 0 = UInt8.ofNat (48 + i.1 / 64) ∨ 0 = UInt8.ofNat (48 + i.1 % 64) := by
    simpa using hmem
  · rw [← h] at hhigh
    simp at hhigh
    omega
  · rw [← h] at hlow
    simp at hlow
    omega

/-- As many names of two characters as the set can hold. -/
def digitName (i : Fin 4096) : CString :=
  ⟨[UInt8.ofNat (48 + i.1 / 64), UInt8.ofNat (48 + i.1 % 64)], digits_nullFree i⟩

lemma digitName_injective : Function.Injective digitName := by
  intro i j h
  have hi := i.2
  have hj := j.2
  obtain ⟨hhigh, hlow⟩ : UInt8.ofNat (48 + i.1 / 64) = UInt8.ofNat (48 + j.1 / 64) ∧
      UInt8.ofNat (48 + i.1 % 64) = UInt8.ofNat (48 + j.1 % 64) := by
    simpa [digitName] using h
  have hhigh' := congrArg UInt8.toNat hhigh
  have hlow' := congrArg UInt8.toNat hlow
  rw [digit_toNat (by omega), digit_toNat (by omega)] at hhigh' hlow'
  exact Fin.ext (by omega)

@[irreducible] def digitParses : List PgPacket := (List.ofFn digitName).map (parseMessage · secretText [])

def digitAgain : PgPacket := parseMessage (digitName 0) secretText []

lemma stickyAfter_digitParses : (stickyAfter (some sampleFilter) digitParses).filteredStmtNames =
    ((List.ofFn digitName).map Subtype.val).toFinset := by
  unfold digitParses
  refine stickyAfter_fill (by decide) ?_ ?_
  · intro name hname
    obtain ⟨i, rfl⟩ := List.mem_ofFn.mp hname
    simp [digitName]
  · rw [List.length_ofFn]
    exact le_rfl

lemma digitName_mem (i : Fin 4096) :
    (digitName i).1 ∈ (stickyAfter (some sampleFilter) digitParses).filteredStmtNames := by
  rw [stickyAfter_digitParses, List.mem_toFinset]
  exact List.mem_map_of_mem (List.mem_ofFn.mpr ⟨i, rfl⟩)

lemma digitParses_card :
    (stickyAfter (some sampleFilter) digitParses).filteredStmtNames.card = pgStickyStmtMapCap := by
  have hnodup : ((List.ofFn digitName).map Subtype.val).Nodup :=
    (List.nodup_ofFn.mpr digitName_injective).map Subtype.val_injective
  rw [stickyAfter_digitParses, List.toFinset_card_of_nodup hnodup, List.length_map, List.length_ofFn]
  rfl

end Sample

/-- A filtered Parse of a name that is in the full set clears it: the other names, none of them
closed, are forgotten. -/
theorem repeated_parse_clears :
    (stickyAfter (some sampleFilter) digitParses).filteredStmtNames.card = pgStickyStmtMapCap ∧
    (∀ i, (digitName i).1 ∈ (stickyAfter (some sampleFilter) digitParses).filteredStmtNames) ∧
    FilteredParse (some sampleFilter) (digitName 0).1 digitAgain ∧
    (stickyAfter (some sampleFilter) (digitParses ++ [digitAgain])).filteredStmtNames =
      {(digitName 0).1} ∧
    ¬ EachStep (ForgetsDuly (some sampleFilter)) (digitParses ++ [digitAgain]) := by
  have hparse : FilteredParse (some sampleFilter) (digitName 0).1 digitAgain :=
    filteredParse_parseMessage (by decide) _
  refine ⟨digitParses_card, digitName_mem, hparse, ?_, fun hduly => ?_⟩
  · rw [stickyAfter_concat, mirrorFrame_filteredParse hparse,
      record_full (by simp [digitName]) digitParses_card.ge]
  · rw [eachStep_concat, forgetsDuly_iff] at hduly
    have hroom := hduly.2 (digitName 0).1 (digitName_mem 0) hparse
    rw [digitParses_card] at hroom
    exact lt_irrefl _ hroom

end ShadowProxy.PgStickyBound
