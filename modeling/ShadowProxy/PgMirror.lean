import ShadowProxy.EventHistory
import ShadowProxy.PgProtocol
import ShadowProxy.ShadowFilter

/-! Which frontend messages of a PostgreSQL session are mirrored to the shadow. Only Query and
Parse carry SQL; messages that refer to a statement whose Parse was filtered are held back by
the statement's name. -/
namespace ShadowProxy.PgMirror
open WordBytes EventHistory PgProtocol ShadowFilter

def pgStickyStmtMapCap : ℕ := 4096

/-- The names of filtered statements, and how often the set was cleared because it was full. -/
structure StickyStmts where
  filteredStmtNames : Finset Bytes
  resets : ℕ
  deriving DecidableEq

namespace StickyStmts

def empty : StickyStmts := ⟨∅, 0⟩

def record (s : StickyStmts) (name : Bytes) : StickyStmts :=
  if name = [] then s
  else if pgStickyStmtMapCap ≤ s.filteredStmtNames.card then ⟨{name}, s.resets + 1⟩
  else { s with filteredStmtNames := insert name s.filteredStmtNames }

def forget (s : StickyStmts) (name : Bytes) : StickyStmts :=
  { s with filteredStmtNames := s.filteredStmtNames.erase name }

/-- What becomes of a message that refers to the statement `name`. -/
def verdict (s : StickyStmts) (name : Bytes) : Bool × FilterReason :=
  if name ≠ [] ∧ name ∈ s.filteredStmtNames then (false, .stickyStmt) else (true, .none)

end StickyStmts

section Frames
variable (filter : Option QueryFilter)

def shouldMirrorPgFrame (msg : PgPacket) (queryText : Bytes) (s : StickyStmts) :
    (Bool × FilterReason) × StickyStmts :=
  if msg.msgType = pgMsgQuery then (shouldShadowMirror queryText filter, s)
  else if msg.msgType = pgMsgParse then
    let allowed := shouldShadowMirror queryText filter
    (allowed, if allowed.1 then s else s.record (extractPgParseStmtName msg))
  else if msg.msgType = pgMsgBind then (s.verdict (extractPgBindStmtName msg), s)
  else if msg.msgType = pgMsgDescribe then
    let target := extractPgDescribeTarget msg
    (if target.1 = statementKind then s.verdict target.2 else (true, .none), s)
  else if msg.msgType = pgMsgClose then
    let target := extractPgCloseTarget msg
    if target.1 = statementKind ∧ target.2 ≠ [] ∧ target.2 ∈ s.filteredStmtNames then
      ((false, .stickyStmt), s.forget target.2)
    else ((true, .none), s)
  else ((true, .none), s)

/-- The part of `runQueryLoop` that concerns the shadow. A mirrored Close drops its name from
the set as well. -/
def mirrorFrame (s : StickyStmts) (msg : PgPacket) : (Bool × FilterReason) × StickyStmts :=
  let decision := shouldMirrorPgFrame filter msg (extractPgQueryText msg) s
  let target := extractPgCloseTarget msg
  if decision.1.1 ∧ msg.msgType = pgMsgClose ∧ target.1 = statementKind ∧ target.2 ≠ [] then
    (decision.1, decision.2.forget target.2)
  else decision

def stickyAfter (frames : List PgPacket) : StickyStmts :=
  frames.foldl (fun s msg => (mirrorFrame filter s msg).2) .empty

/-- `msg` prepares the statement `n` with a text that the filter holds back. -/
def FilteredParse (n : Bytes) (msg : PgPacket) : Prop :=
  msg.msgType = pgMsgParse ∧ extractPgParseStmtName msg = n ∧
    (shouldShadowMirror (extractPgQueryText msg) filter).1 = false

instance (n : Bytes) (msg : PgPacket) : Decidable (FilteredParse filter n msg) :=
  inferInstanceAs (Decidable (_ ∧ _ ∧ _))

end Frames

def ParsesStmt (n : Bytes) (msg : PgPacket) : Prop :=
  msg.msgType = pgMsgParse ∧ extractPgParseStmtName msg = n

def ClosesStmt (n : Bytes) (msg : PgPacket) : Prop := extractPgCloseTarget msg = (statementKind, n)

/-- A Bind, Describe or Close that refers to the statement `n`. -/
def RefersTo (n : Bytes) (msg : PgPacket) : Prop :=
  extractPgBindStmtName msg = n ∨ extractPgDescribeTarget msg = (statementKind, n) ∨
    ClosesStmt n msg

instance (n : Bytes) (msg : PgPacket) : Decidable (RefersTo n msg) :=
  inferInstanceAs (Decidable (_ ∨ _ ∨ _ = _))

lemma bindStmtName_msgType {n : Bytes} {msg : PgPacket} (hn : n ≠ [])
    (h : extractPgBindStmtName msg = n) : msg.msgType = pgMsgBind := by
  by_contra hne
  exact hn (by simpa [extractPgBindStmtName, hne] using h.symm)

lemma target_msgType {t : UInt8} {n : Bytes} {msg : PgPacket}
    (h : extractTarget t msg = (statementKind, n)) : msg.msgType = t := by
  by_contra hne
  simp [extractTarget, hne, statementKind] at h

variable {filter : Option QueryFilter}

section Decision
variable {msg : PgPacket} (text : Bytes) (s : StickyStmts)

lemma shouldMirrorPgFrame_parse (h : msg.msgType = pgMsgParse) :
    shouldMirrorPgFrame filter msg text s =
      (shouldShadowMirror text filter, if (shouldShadowMirror text filter).1 then s
        else s.record (extractPgParseStmtName msg)) := by
  simp only [shouldMirrorPgFrame, h]
  rfl

lemma shouldMirrorPgFrame_bind (h : msg.msgType = pgMsgBind) :
    shouldMirrorPgFrame filter msg text s = (s.verdict (extractPgBindStmtName msg), s) := by
  simp only [shouldMirrorPgFrame, h]
  rfl

lemma shouldMirrorPgFrame_describe (h : msg.msgType = pgMsgDescribe) :
    shouldMirrorPgFrame filter msg text s =
      (if (extractPgDescribeTarget msg).1 = statementKind then
        s.verdict (extractPgDescribeTarget msg).2 else (true, .none), s) := by
  simp only [shouldMirrorPgFrame, h]
  rfl

lemma shouldMirrorPgFrame_close (h : msg.msgType = pgMsgClose) :
    shouldMirrorPgFrame filter msg text s =
      if (extractPgCloseTarget msg).1 = statementKind ∧ (extractPgCloseTarget msg).2 ≠ [] ∧
        (extractPgCloseTarget msg).2 ∈ s.filteredStmtNames
      then ((false, .stickyStmt), s.forget (extractPgCloseTarget msg).2)
      else ((true, .none), s) := by
  simp only [shouldMirrorPgFrame, h]
  rfl

lemma shouldMirrorPgFrame_state (hp : msg.msgType ≠ pgMsgParse) (hc : msg.msgType ≠ pgMsgClose) :
    (shouldMirrorPgFrame filter msg text s).2 = s := by
  simp only [shouldMirrorPgFrame, hp, hc, if_false]
  split_ifs <;> rfl

end Decision

lemma mirrorFrame_of_ne_close {msg : PgPacket} (s : StickyStmts) (h : msg.msgType ≠ pgMsgClose) :
    mirrorFrame filter s msg = shouldMirrorPgFrame filter msg (extractPgQueryText msg) s := by
  simp [mirrorFrame, h]

lemma mirrorFrame_close {msg : PgPacket} (s : StickyStmts) (h : msg.msgType = pgMsgClose)
    (hk : (extractPgCloseTarget msg).1 = statementKind) :
    mirrorFrame filter s msg =
      (s.verdict (extractPgCloseTarget msg).2,
        if (extractPgCloseTarget msg).2 = [] then s else s.forget (extractPgCloseTarget msg).2) := by
  rw [mirrorFrame, shouldMirrorPgFrame_close _ _ h]
  by_cases hn : (extractPgCloseTarget msg).2 = []
  · simp [hn, StickyStmts.verdict]
  · by_cases hm : (extractPgCloseTarget msg).2 ∈ s.filteredStmtNames
    · simp [h, hk, hn, hm, StickyStmts.verdict]
    · simp [h, hk, hn, hm, StickyStmts.verdict]

lemma not_closesStmt {msg : PgPacket} (h : msg.msgType ≠ pgMsgClose) (n : Bytes) :
    ¬ ClosesStmt n msg :=
  fun hc => h (target_msgType hc)

/-- Everything a frame can do to the set: a filtered Parse records its name, a Close of a
statement forgets it, and no other frame touches it. -/
lemma mirrorFrame_cases (filter : Option QueryFilter) (s : StickyStmts) (msg : PgPacket) :
    (FilteredParse filter (extractPgParseStmtName msg) msg ∧ (∀ n, ¬ ClosesStmt n msg) ∧
      (mirrorFrame filter s msg).2 = s.record (extractPgParseStmtName msg)) ∨
    ((∀ n, ¬ FilteredParse filter n msg) ∧ ∃ m, ClosesStmt m msg ∧
      (mirrorFrame filter s msg).2 = if m = [] then s else s.forget m) ∨
    ((∀ n, ¬ FilteredParse filter n msg) ∧ (∀ n, ¬ ClosesStmt n msg) ∧
      (mirrorFrame filter s msg).2 = s) := by
  by_cases hc : msg.msgType = pgMsgClose
  · have hparse : ∀ n, ¬ FilteredParse filter n msg := by
      intro n hp
      rw [hp.1] at hc
      exact absurd hc (by decide)
    by_cases hk : (extractPgCloseTarget msg).1 = statementKind
    · exact .inr (.inl ⟨hparse, _, Prod.ext hk rfl, congrArg Prod.snd (mirrorFrame_close s hc hk)⟩)
    · refine .inr (.inr ⟨hparse, fun n hn => hk (congrArg Prod.fst hn), ?_⟩)
      simp [mirrorFrame, shouldMirrorPgFrame_close _ _ hc, hk]
  · rw [mirrorFrame_of_ne_close s hc]
    by_cases hp : msg.msgType = pgMsgParse
    · rw [shouldMirrorPgFrame_parse _ _ hp]
      cases ha : (shouldShadowMirror (extractPgQueryText msg) filter).1 with
      | false => exact .inl ⟨⟨hp, rfl, ha⟩, not_closesStmt hc, by simp⟩
      | true =>
        refine .inr (.inr ⟨fun n hn => ?_, not_closesStmt hc, by simp⟩)
        simp [hn.2.2] at ha
    · exact .inr (.inr ⟨fun n hn => hp hn.1, not_closesStmt hc, shouldMirrorPgFrame_state _ _ hp hc⟩)

lemma mem_record {s : StickyStmts} {m n : Bytes} (hn : n ≠ [])
    (hr : (s.record m).resets = s.resets) :
    n ∈ (s.record m).filteredStmtNames ↔ n = m ∨ n ∈ s.filteredStmtNames := by
  unfold StickyStmts.record at hr ⊢
  split_ifs at hr ⊢ with hm hcap
  · simp [hm, hn]
  · simp at hr
  · simp

lemma record_resets (s : StickyStmts) (m : Bytes) : s.resets ≤ (s.record m).resets := by
  unfold StickyStmts.record
  split_ifs <;> simp

lemma mirrorFrame_resets (s : StickyStmts) (msg : PgPacket) :
    s.resets ≤ (mirrorFrame filter s msg).2.resets := by
  obtain ⟨-, -, h⟩ | ⟨-, m, -, h⟩ | ⟨-, -, h⟩ := mirrorFrame_cases filter s msg
  · exact h ▸ record_resets s _
  · rw [h]
    split_ifs <;> rfl
  · rw [h]

lemma mirrorFrame_mem {s : StickyStmts} {msg : PgPacket} {n : Bytes} (hn : n ≠ [])
    (hr : (mirrorFrame filter s msg).2.resets = s.resets) :
    n ∈ (mirrorFrame filter s msg).2.filteredStmtNames ↔
      FilteredParse filter n msg ∨ (n ∈ s.filteredStmtNames ∧ ¬ ClosesStmt n msg) := by
  obtain ⟨hp, hc, h⟩ | ⟨hp, m, hc, h⟩ | ⟨hp, hc, h⟩ := mirrorFrame_cases filter s msg
  · have hname : FilteredParse filter n msg ↔ n = extractPgParseStmtName msg :=
      ⟨fun hf => hf.2.1.symm, fun he => he ▸ hp⟩
    rw [h] at hr ⊢
    simp [mem_record hn hr, hname, hc]
  · have hclose : ClosesStmt n msg ↔ m = n := by
      constructor
      · exact fun hcn => (Prod.mk.inj (hc.symm.trans hcn)).2
      · exact fun he => he ▸ hc
    rw [h, hclose]
    by_cases hm : m = []
    · simp [hm, hp, hn.symm]
    · simp [hm, hp, StickyStmts.forget, and_comm, ne_comm]
  · simp [h, hp, hc]

lemma mirrorFrame_refersTo {s : StickyStmts} {msg : PgPacket} {n : Bytes} (hn : n ≠ [])
    (h : RefersTo n msg) : (mirrorFrame filter s msg).1 = s.verdict n := by
  obtain hb | hd | hc := h
  · have ht := bindStmtName_msgType hn hb
    rw [mirrorFrame_of_ne_close s (by rw [ht]; decide), shouldMirrorPgFrame_bind _ _ ht, hb]
  · have ht := target_msgType hd
    rw [mirrorFrame_of_ne_close s (by rw [ht]; decide), shouldMirrorPgFrame_describe _ _ ht, hd]
    rfl
  · rw [mirrorFrame_close s (target_msgType hc) (congrArg Prod.fst hc),
      show (extractPgCloseTarget msg).2 = n from congrArg Prod.snd hc]

lemma stickyAfter_concat (frames : List PgPacket) (msg : PgPacket) :
    stickyAfter filter (frames ++ [msg]) = (mirrorFrame filter (stickyAfter filter frames) msg).2 := by
  simp [stickyAfter]

lemma stickyAfter_resets_le (filter : Option QueryFilter) (a b : List PgPacket) :
    (stickyAfter filter a).resets ≤ (stickyAfter filter (a ++ b)).resets := by
  induction b using List.reverseRecOn with
  | nil => simp
  | append_singleton b msg ih =>
    rw [← List.append_assoc, stickyAfter_concat]
    exact ih.trans (mirrorFrame_resets _ msg)

/-- The statement `n` has been filtered and not closed since. -/
def Blocked (filter : Option QueryFilter) (n : Bytes) (frames : List PgPacket) : Prop :=
  Since (fun _ => FilteredParse filter n) (ClosesStmt n) frames

/-- As long as the set was never cleared, it holds exactly the names that are blocked. -/
theorem stickyAfter_mem {frames : List PgPacket} {n : Bytes} (hn : n ≠ [])
    (hr : (stickyAfter filter frames).resets = 0) :
    n ∈ (stickyAfter filter frames).filteredStmtNames ↔ Blocked filter n frames := by
  refine foldl_iff_since (fun s : StickyStmts => n ∈ s.filteredStmtNames)
    (by simp [StickyStmts.empty]) ?_
  intro a msg b heq
  apply mirrorFrame_mem hn
  have h₁ := stickyAfter_resets_le filter a [msg]
  have h₂ := stickyAfter_resets_le filter (a ++ [msg]) b
  rw [stickyAfter_concat] at h₁ h₂
  rw [List.append_assoc, List.singleton_append, ← heq] at h₂
  unfold stickyAfter at *
  omega

/-- A Bind, Describe or Close that refers to a named statement is dropped as sticky if and only
if some Parse of that name has been filtered since the last Close of it; otherwise it is
mirrored. -/
theorem sticky_iff_filtered_since_close (frames : List PgPacket) (msg : PgPacket) {n : Bytes}
    (hn : n ≠ []) (hmsg : RefersTo n msg) (hr : (stickyAfter filter frames).resets = 0) :
    ((mirrorFrame filter (stickyAfter filter frames) msg).1 = (false, .stickyStmt) ↔
      Blocked filter n frames) ∧
    ((mirrorFrame filter (stickyAfter filter frames) msg).1 = (true, .none) ↔
      ¬ Blocked filter n frames) := by
  rw [mirrorFrame_refersTo hn hmsg, ← stickyAfter_mem hn hr, StickyStmts.verdict]
  by_cases h : n ∈ (stickyAfter filter frames).filteredStmtNames
  · simp [hn, h]
  · simp [h]

/-- Holds back every text that mentions `secret`. -/
def sampleFilter : QueryFilter :=
  ⟨.excludeMode, [], [fun text => (indexOf (ascii "secret") text).isSome], id⟩

def unnamed : CString := ⟨[], by decide⟩

def sampleName : CString := ⟨ascii "s1", by decide⟩

def publicText : CString := ⟨ascii "SELECT 1", by decide⟩

def secretText : CString := ⟨ascii "SELECT secret", by decide⟩

def sampleSecretParse : PgPacket := parseMessage sampleName secretText []

def samplePublicParse : PgPacket := parseMessage sampleName publicText []

def sampleBind : PgPacket := bindMessage sampleName unnamed []

theorem sticky_iff_filtered_since_close_sampleBind :
    (mirrorFrame sampleFilter (stickyAfter sampleFilter [sampleSecretParse]) sampleBind).1 =
      (false, .stickyStmt) :=
  (sticky_iff_filtered_since_close [sampleSecretParse] sampleBind (n := sampleName.1) (by decide)
    (by decide) (by decide)).1.mpr ⟨[], sampleSecretParse, [], rfl, by decide, by simp⟩

/-- The name stays blocked when the statement is prepared again with a text that is mirrored: the
Bind is dropped although the latest Parse was not. -/
theorem sticky_after_mirrored_parse :
    (mirrorFrame sampleFilter (stickyAfter sampleFilter [sampleSecretParse, samplePublicParse])
      sampleBind).1 = (false, .stickyStmt) ∧
    (stickyAfter sampleFilter [sampleSecretParse, samplePublicParse]).resets = 0 ∧
    RefersTo sampleName.1 sampleBind ∧
    ¬ Since (fun _ => FilteredParse sampleFilter sampleName.1)
      (fun msg => ParsesStmt sampleName.1 msg ∨ ClosesStmt sampleName.1 msg)
      [sampleSecretParse, samplePublicParse] := by
  refine ⟨by decide, by decide, by decide, ?_⟩
  have hpublic : ParsesStmt sampleName.1 samplePublicParse := ⟨rfl, by decide⟩
  have hmirrored : ¬ FilteredParse sampleFilter sampleName.1 samplePublicParse := by decide
  rw [show [sampleSecretParse, samplePublicParse] = [sampleSecretParse] ++ [samplePublicParse] from
    rfl, since_concat]
  simp [hpublic, hmirrored]

end ShadowProxy.PgMirror
