import ShadowProxy.CheckedSlice
import ShadowProxy.PgProtocol

/-! The fields of the extended query protocol, read off messages of any shape. The extractors here
make every index and slice through a bounds check; none of the checks fails, and what they return is
what the unchecked ones do. -/
namespace ShadowProxy.PgFields
open WordBytes CheckedSlice PgProtocol

/-- The position of the first null byte, negative if there is none. -/
def indexNull (b : Bytes) : ℤ :=
  match PgProtocol.indexNull b with
  | some i => i
  | none => -1

def trimNullTerminator (b : Bytes) : Checked Bytes :=
  let n : ℤ := b.length
  if 0 < n then do
    let last ← index b (n - 1)
    if last = 0 then slice b 0 (n - 1) else .ok b
  else .ok b

def extractPgQueryText (p : PgPacket) : Checked Bytes :=
  if p.payload.length ≤ 4 then .ok []
  else do
    let body ← slice p.payload 4 p.payload.length
    if p.msgType = pgMsgQuery then trimNullTerminator body
    else if p.msgType = pgMsgParse then
      let idx := indexNull body
      if idx < 0 then .ok []
      else do
        let rest ← slice body (idx + 1) body.length
        let stop := indexNull rest
        if stop < 0 then .ok rest else slice rest 0 stop
    else .ok []

def extractPgParseStmtName (p : PgPacket) : Checked Bytes :=
  if p.msgType ≠ pgMsgParse ∨ p.payload.length ≤ 4 then .ok []
  else do
    let body ← slice p.payload 4 p.payload.length
    let stop := indexNull body
    if stop < 0 then .ok [] else slice body 0 stop

def extractPgBindStmtName (p : PgPacket) : Checked Bytes :=
  if p.msgType ≠ pgMsgBind ∨ p.payload.length ≤ 4 then .ok []
  else do
    let body ← slice p.payload 4 p.payload.length
    let portalEnd := indexNull body
    if portalEnd < 0 ∨ body.length ≤ portalEnd + 1 then .ok []
    else do
      let rest ← slice body (portalEnd + 1) body.length
      let stop := indexNull rest
      if stop < 0 then .ok [] else slice rest 0 stop

def extractTarget (msgType : UInt8) (p : PgPacket) : Checked (UInt8 × Bytes) :=
  if p.msgType ≠ msgType ∨ p.payload.length ≤ 5 then .ok (0, [])
  else do
    let body ← slice p.payload 4 p.payload.length
    let kind ← index body 0
    let rest ← slice body 1 body.length
    let stop := indexNull rest
    if stop < 0 then .ok (kind, [])
    else do
      let name ← slice rest 0 stop
      .ok (kind, name)

def extractPgCloseTarget : PgPacket → Checked (UInt8 × Bytes) := extractTarget pgMsgClose

def extractPgDescribeTarget : PgPacket → Checked (UInt8 × Bytes) := extractTarget pgMsgDescribe

section Bounds
variable {b : Bytes} {n : ℕ} {p : PgPacket}

lemma indexNull_none (h : PgProtocol.indexNull b = none) : indexNull b = -1 := by
  simp only [indexNull, h]

lemma indexNull_some (h : PgProtocol.indexNull b = some n) : indexNull b = n := by
  simp only [indexNull, h]

lemma lt_of_indexNull (h : PgProtocol.indexNull b = some n) : n < b.length := by
  obtain ⟨hn, -⟩ := List.findIdx?_eq_some_iff_getElem.mp h
  exact hn

lemma not_mem_take_indexNull (h : PgProtocol.indexNull b = some n) : (0 : UInt8) ∉ b.take n := by
  obtain ⟨hn, -, hbefore⟩ := List.findIdx?_eq_some_iff_getElem.mp h
  intro hmem
  obtain ⟨i, hi, h0⟩ := List.mem_take_iff_getElem.mp hmem
  exact hbefore i (by omega) (by simpa using h0)

lemma slice_indexNull (d b : Bytes) :
    (if indexNull b < 0 then .ok d else slice b 0 (indexNull b)) =
      (.ok (match PgProtocol.indexNull b with | none => d | some stop => b.take stop) :
        Checked Bytes) := by
  cases h : PgProtocol.indexNull b with
  | none => rw [indexNull_none h, if_pos (by decide)]
  | some n =>
    have hn := lt_of_indexNull h
    rw [indexNull_some h, if_neg (by omega), slice_to (by omega) (by omega), Int.toNat_natCast]

lemma slice_behind_indexNull (h : PgProtocol.indexNull b = some n) :
    slice b (indexNull b + 1) b.length = .ok (b.drop (n + 1)) := by
  have hn := lt_of_indexNull h
  rw [indexNull_some h, slice_from (by omega) (by omega)]
  rfl

lemma slice_body (h : ¬ p.payload.length ≤ 4) :
    slice p.payload 4 p.payload.length = .ok (p.payload.drop 4) :=
  slice_from (by omega) (by omega)

lemma trimNullTerminator_eq (b : Bytes) :
    trimNullTerminator b = .ok (PgProtocol.trimNullTerminator b) := by
  rcases b.eq_nil_or_concat with rfl | ⟨b, c, rfl⟩
  · rfl
  · have hlen : ((b.concat c).length : ℤ) - 1 = b.length := by simp
    have hlast : (b.concat c)[b.length]? = some c := by simp
    have hto : slice (b.concat c) 0 b.length = .ok b := by
      rw [slice_to (by omega) (by simp)]
      simp
    simp only [trimNullTerminator, hlen, index_ok hlast, ok_bind, hto]
    rw [if_pos (by simp)]
    by_cases hc : c = 0
    · simp [PgProtocol.trimNullTerminator, hc]
    · simp [PgProtocol.trimNullTerminator, hc]

theorem extractPgQueryText_eq (p : PgPacket) :
    extractPgQueryText p = .ok (PgProtocol.extractPgQueryText p) := by
  unfold extractPgQueryText PgProtocol.extractPgQueryText
  by_cases hshort : p.payload.length ≤ 4
  · rw [if_pos hshort, if_pos hshort]
  · rw [if_neg hshort, if_neg hshort, slice_body hshort, ok_bind]
    by_cases hq : p.msgType = pgMsgQuery
    · rw [if_pos hq, if_pos hq]
      exact trimNullTerminator_eq _
    · rw [if_neg hq, if_neg hq]
      by_cases hp : p.msgType = pgMsgParse
      · rw [if_pos hp, if_pos hp]
        dsimp only
        cases hidx : PgProtocol.indexNull (p.payload.drop 4) with
        | none => rw [indexNull_none hidx, if_pos (by decide)]
        | some idx =>
          rw [slice_behind_indexNull hidx, indexNull_some hidx, if_neg (by omega), ok_bind]
          exact slice_indexNull _ _
      · rw [if_neg hp, if_neg hp]

theorem extractPgParseStmtName_eq (p : PgPacket) :
    extractPgParseStmtName p = .ok (PgProtocol.extractPgParseStmtName p) := by
  unfold extractPgParseStmtName PgProtocol.extractPgParseStmtName
  by_cases hno : p.msgType ≠ pgMsgParse ∨ p.payload.length ≤ 4
  · rw [if_pos hno, if_pos hno]
  · rw [if_neg hno, if_neg hno, slice_body (not_or.mp hno).2, ok_bind]
    exact slice_indexNull _ _

theorem extractPgBindStmtName_eq (p : PgPacket) :
    extractPgBindStmtName p = .ok (PgProtocol.extractPgBindStmtName p) := by
  unfold extractPgBindStmtName PgProtocol.extractPgBindStmtName
  by_cases hno : p.msgType ≠ pgMsgBind ∨ p.payload.length ≤ 4
  · rw [if_pos hno, if_pos hno]
  · rw [if_neg hno, if_neg hno, slice_body (not_or.mp hno).2, ok_bind]
    dsimp only
    cases hidx : PgProtocol.indexNull (p.payload.drop 4) with
    | none => rw [indexNull_none hidx, if_pos (.inl (by decide))]
    | some portalEnd =>
      rw [slice_behind_indexNull hidx, indexNull_some hidx, ok_bind]
      by_cases hshort : (p.payload.drop 4).length ≤ portalEnd + 1
      · rw [if_pos (.inr (by omega))]
        simp only [if_pos hshort]
      · rw [if_neg (by omega)]
        simp only [if_neg hshort]
        exact slice_indexNull _ _

theorem extractTarget_eq (msgType : UInt8) (p : PgPacket) :
    extractTarget msgType p = .ok (PgProtocol.extractTarget msgType p) := by
  unfold extractTarget PgProtocol.extractTarget
  by_cases hno : p.msgType ≠ msgType ∨ p.payload.length ≤ 5
  · rw [if_pos hno, if_pos hno]
  · obtain ⟨-, hlen⟩ := not_or.mp hno
    obtain ⟨kind, rest, hbody⟩ : ∃ kind rest, p.payload.drop 4 = kind :: rest := by
      refine List.exists_cons_of_ne_nil fun hnil => ?_
      have := congrArg List.length hnil
      simp only [List.length_drop, List.length_nil] at this
      omega
    have hkind : index (kind :: rest) 0 = .ok kind := rfl
    have hrest : slice (kind :: rest) 1 (kind :: rest).length = .ok rest :=
      slice_from (by decide) (by simp)
    rw [if_neg hno, if_neg hno, slice_body (by omega), ok_bind, hbody, hkind, ok_bind, hrest, ok_bind]
    have hname := slice_indexNull [] rest
    cases hstop : PgProtocol.indexNull rest with
    | none => simp [indexNull_none hstop, hstop]
    | some stop =>
      rw [indexNull_some hstop, if_neg (by omega), hstop] at hname
      simp [indexNull_some hstop, hstop, hname]

end Bounds

section Names

lemma upToNull_cstring (b : Bytes) :
    (0 : UInt8) ∉ (match PgProtocol.indexNull b with | none => [] | some stop => b.take stop) := by
  cases h : PgProtocol.indexNull b with
  | none => exact List.not_mem_nil
  | some stop => exact not_mem_take_indexNull h

lemma parseStmtName_cstring (p : PgPacket) : (0 : UInt8) ∉ PgProtocol.extractPgParseStmtName p := by
  unfold PgProtocol.extractPgParseStmtName
  split_ifs
  · exact List.not_mem_nil
  · exact upToNull_cstring _

lemma bindStmtName_cstring (p : PgPacket) : (0 : UInt8) ∉ PgProtocol.extractPgBindStmtName p := by
  unfold PgProtocol.extractPgBindStmtName
  split_ifs
  · exact List.not_mem_nil
  · dsimp only
    cases PgProtocol.indexNull (p.payload.drop 4) with
    | none => exact List.not_mem_nil
    | some portalEnd =>
      dsimp only
      split_ifs
      · exact List.not_mem_nil
      · exact upToNull_cstring _

lemma target_cstring (msgType : UInt8) (p : PgPacket) :
    (0 : UInt8) ∉ (PgProtocol.extractTarget msgType p).2 := by
  unfold PgProtocol.extractTarget
  split_ifs
  · exact List.not_mem_nil
  · have hname := upToNull_cstring ((p.payload.drop 4).drop 1)
    dsimp only
    cases hstop : PgProtocol.indexNull ((p.payload.drop 4).drop 1) with
    | none => exact List.not_mem_nil
    | some stop =>
      rw [hstop] at hname
      exact hname

lemma extractPgQueryText_query (sql : Bytes) :
    PgProtocol.extractPgQueryText (frame pgMsgQuery (sql ++ [0])) = sql := by
  have hlong : ¬ (frame pgMsgQuery (sql ++ [0])).payload.length ≤ 4 := by simp
  rw [PgProtocol.extractPgQueryText, if_neg hlong, frame_drop, frame_msgType, if_pos rfl]
  simp [PgProtocol.trimNullTerminator]

/-- From a well-formed message the extractors return the fields it was built from. On any message,
`p` here, they stay in bounds, and a name they return could stand in a message again. -/
theorem fields_inverse_in_bounds (name portal sql : CString) (tail : Bytes) (kind : UInt8)
    (p : PgPacket) :
    (extractPgParseStmtName (parseMessage name sql tail) = .ok name.1 ∧
      extractPgQueryText (parseMessage name sql tail) = .ok sql.1 ∧
      extractPgQueryText (frame pgMsgQuery (sql.1 ++ [0])) = .ok sql.1 ∧
      extractPgBindStmtName (bindMessage name portal tail) = .ok name.1 ∧
      extractPgCloseTarget (targetMessage name pgMsgClose kind) = .ok (kind, name.1) ∧
      extractPgDescribeTarget (targetMessage name pgMsgDescribe kind) = .ok (kind, name.1)) ∧
    (∃ text, extractPgQueryText p = .ok text) ∧
    (∃ n : CString, extractPgParseStmtName p = .ok n.1) ∧
    (∃ n : CString, extractPgBindStmtName p = .ok n.1) ∧
    (∃ k, ∃ n : CString, extractPgCloseTarget p = .ok (k, n.1)) ∧
    ∃ k, ∃ n : CString, extractPgDescribeTarget p = .ok (k, n.1) := by
  have htarget : ∀ t, ∃ k, ∃ n : CString, extractTarget t p = .ok (k, n.1) := by
    intro t
    refine ⟨(PgProtocol.extractTarget t p).1, ⟨(PgProtocol.extractTarget t p).2, target_cstring t p⟩, ?_⟩
    exact extractTarget_eq t p
  refine ⟨⟨?_, ?_, ?_, ?_, ?_, ?_⟩, ⟨_, extractPgQueryText_eq p⟩,
    ⟨⟨_, parseStmtName_cstring p⟩, extractPgParseStmtName_eq p⟩,
    ⟨⟨_, bindStmtName_cstring p⟩, extractPgBindStmtName_eq p⟩, htarget _, htarget _⟩
  · rw [extractPgParseStmtName_eq, extractPgParseStmtName_parseMessage]
  · rw [extractPgQueryText_eq, extractPgQueryText_parseMessage]
  · rw [extractPgQueryText_eq, extractPgQueryText_query]
  · rw [extractPgBindStmtName_eq, extractPgBindStmtName_bindMessage]
  · rw [extractPgCloseTarget, extractTarget_eq, extractTarget_targetMessage]
  · rw [extractPgDescribeTarget, extractTarget_eq, extractTarget_targetMessage]

end Names

end ShadowProxy.PgFields
