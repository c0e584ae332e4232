import ShadowProxy.NetConn

/-! Messages of the PostgreSQL wire protocol after the startup phase: the reader, and the
functions that look into a frontend message. -/
namespace ShadowProxy.PgProtocol
open WordBytes NetConn

/-- `payload` starts with the four length bytes, which do not count the type byte. -/
structure PgPacket where
  msgType : UInt8
  payload : Bytes
  deriving DecidableEq, Repr

/-- The message as it is on the wire. A type of zero marks a startup message. -/
def PgPacket.bytes (p : PgPacket) : Bytes :=
  if p.msgType = 0 then p.payload else p.msgType :: p.payload

def pgMaxMessageSize : ℕ := 1 <<< 28

def lowerHexDigit (n : ℕ) : Char := "0123456789abcdef".toList.getD n '?'

/-- The escapes `%q` writes with a letter. -/
def letterEscapes : List (UInt8 × Char) :=
  [(0x07, 'a'), (0x08, 'b'), (0x0C, 'f'), (0x0A, 'n'), (0x0D, 'r'), (0x09, 't'), (0x0B, 'v'),
    (0x27, Char.ofNat 0x27), (0x5C, Char.ofNat 0x5C)]

/-- What `%q` writes for a byte between the quotes. -/
def quoteByte (b : UInt8) : String :=
  let hex := String.ofList [lowerHexDigit (b.toNat / 16), lowerHexDigit (b.toNat % 16)]
  match letterEscapes.lookup b with
  | some c => String.ofList [Char.ofNat 0x5C, c]
  | none =>
    if b < 0x20 ∨ b = 0x7F then String.ofList [Char.ofNat 0x5C, 'x'] ++ hex
    else if (0x80 ≤ b ∧ b ≤ 0xA0) ∨ b = 0xAD then
      String.ofList [Char.ofNat 0x5C, 'u'] ++ "00" ++ hex
    else String.ofList [Char.ofNat b.toNat]

/-- `fmt.Errorf("invalid pgwire length: %d for type %q", length, msgType)`. -/
def invalidLength (length : ℕ) (msgType : UInt8) : Err :=
  .errorf ("invalid pgwire length: " ++ toString length ++ " for type " ++ "'" ++ quoteByte msgType
    ++ "'")

def readMessage (conn : Conn) : Except Err PgPacket × Conn :=
  match conn.readFull 5 with
  | (.error e, conn) => (.error e, conn)
  | (.ok header, conn) =>
    let msgType := header.headD 0
    let length := beNat (header.drop 1)
    if length < 4 ∨ pgMaxMessageSize < length then (.error (invalidLength length msgType), conn)
    else
      match conn.readFull (length - 4) with
      | (.error e, conn) => (.error e, conn)
      | (.ok body, conn) => (.ok ⟨msgType, header.drop 1 ++ body⟩, conn)

def PgPacket.raw (p : PgPacket) : Bytes := p.msgType :: p.payload

/-- A message whose length field is right and which the reader accepts. -/
structure PgPacket.Framed (p : PgPacket) : Prop where
  typed : p.msgType ≠ 0
  header : 4 ≤ p.payload.length
  bounded : p.payload.length ≤ pgMaxMessageSize
  length : beNat (p.payload.take 4) = p.payload.length

/-- A message whose length field is right, whatever its type. -/
structure PgPacket.Sized (p : PgPacket) : Prop where
  header : 4 ≤ p.payload.length
  bounded : p.payload.length ≤ pgMaxMessageSize
  length : beNat (p.payload.take 4) = p.payload.length

lemma PgPacket.Framed.sized {p : PgPacket} (h : p.Framed) : p.Sized :=
  ⟨h.header, h.bounded, h.length⟩

lemma PgPacket.Framed.bytes_eq {p : PgPacket} (h : p.Framed) : p.bytes = p.msgType :: p.payload :=
  if_neg h.typed

lemma readMessage_payload {c c' : Conn} {p : PgPacket} (h : readMessage c = (.ok p, c')) :
    4 ≤ p.payload.length ∧ p.payload.length ≤ pgMaxMessageSize ∧
      beNat (p.payload.take 4) = p.payload.length ∧
      c'.received = c.received ++ p.msgType :: p.payload ∧ Reads c c' := by
  unfold readMessage at h
  rcases hh : c.readFull 5 with ⟨e | header, c₁⟩
  · simp [hh] at h
  · obtain ⟨hl, hr, hs⟩ := readFull_ok hh
    obtain ⟨t, l, rfl⟩ := List.exists_cons_of_length_eq_add_one hl
    have hl4 : l.length = 4 := by simpa using hl
    simp only [hh, List.headD_cons, List.drop_one, List.tail_cons] at h
    split_ifs at h with hbad
    · simp at h
    · push Not at hbad
      rcases hb : c₁.readFull (beNat l - 4) with ⟨e | body, c₂⟩
      · simp [hb] at h
      · obtain ⟨hl', hr', hs'⟩ := readFull_ok hb
        simp only [hb, Prod.mk.injEq, Except.ok.injEq] at h
        obtain ⟨rfl, rfl⟩ := h
        have hlen : (l ++ body).length = beNat l := by
          rw [List.length_append, hl4, hl']
          omega
        have htake : (l ++ body).take 4 = l := by rw [← hl4, List.take_left]
        refine ⟨hlen ▸ hbad.1, hlen ▸ hbad.2, ?_, ?_, hs.trans hs'⟩
        · rw [htake, hlen]
        · rw [hr', hr]
          simp

/-- A message that is returned is whole, and nothing beyond it was taken. -/
theorem readMessage_ok {c c' : Conn} {p : PgPacket} (h : readMessage c = (.ok p, c')) :
    (p.msgType ≠ 0 → p.Framed) ∧ c'.received = c.received ++ p.msgType :: p.payload ∧
      Reads c c' := by
  obtain ⟨h4, hmax, hlen, hrec, hreads⟩ := readMessage_payload h
  exact ⟨fun ht => ⟨ht, h4, hmax, hlen⟩, hrec, hreads⟩

lemma readMessage_sized {c c' : Conn} {p : PgPacket} (h : readMessage c = (.ok p, c')) :
    p.Sized ∧ c'.received = c.received ++ p.raw ∧ Reads c c' := by
  obtain ⟨h4, hmax, hlen, hrec, hreads⟩ := readMessage_payload h
  exact ⟨⟨h4, hmax, hlen⟩, hrec, hreads⟩

lemma readMessage_error {c c' : Conn} {e : Err} (h : readMessage c = (.error e, c')) :
    ∃ new, c'.received = c.received ++ new ∧ Reads c c' := by
  unfold readMessage at h
  rcases hh : c.readFull 5 with ⟨e' | header, c₁⟩
  · simp only [hh, Prod.mk.injEq] at h
    obtain ⟨-, rfl⟩ := h
    exact readFull_error hh
  · obtain ⟨-, hr, hs⟩ := readFull_ok hh
    simp only [hh] at h
    split_ifs at h with hbad
    · obtain ⟨-, rfl⟩ := Prod.mk.inj h
      exact ⟨_, hr, hs⟩
    · rcases hb : c₁.readFull (beNat (header.drop 1) - 4) with ⟨e' | body, c₂⟩
      · simp only [hb, Prod.mk.injEq] at h
        obtain ⟨-, rfl⟩ := h
        obtain ⟨new, hr', hs'⟩ := readFull_error hb
        exact ⟨header ++ new, by rw [hr', hr, List.append_assoc], hs.trans hs'⟩
      · rw [hb] at h
        simp at h

lemma readMessage_takes {c c' : Conn} {m p : PgPacket} {rest : Bytes} (hm : m.Framed)
    (hc : c.pending.flatMap Segment.bytes = m.bytes ++ rest) (h : readMessage c = (.ok p, c')) :
    p = m ∧ c'.received = c.received ++ m.bytes ∧ c'.pending.flatMap Segment.bytes = rest ∧
      Reads c c' := by
  obtain ⟨h4, -, hlen, hrec, hreads⟩ := readMessage_payload h
  have hs := hreads.stream
  rw [Conn.stream, Conn.stream, hrec, hc, List.append_assoc, hm.bytes_eq] at hs
  have hs := List.append_cancel_left hs
  rw [List.cons_append, List.cons_append, List.cons.injEq] at hs
  obtain ⟨htype, hs⟩ := hs
  have htake : p.payload.take 4 = m.payload.take 4 := by
    rw [← List.take_append_of_le_length h4, hs, List.take_append_of_le_length hm.header]
  have hpayload := List.append_inj hs (by rw [← hlen, htake, hm.length])
  have hp : p = m := by
    cases p
    cases m
    simp_all
  exact ⟨hp, by rw [hrec, hp, hm.bytes_eq], hpayload.2, hreads⟩

/-- A message that is ready is returned and the bytes after it stay ready. -/
theorem readMessage_ready {c : Conn} {p : PgPacket} {rest : Bytes} (hp : p.Framed)
    (h : c.ready = p.bytes ++ rest) :
    ∃ c', readMessage c = (.ok p, c') ∧ c'.ready = rest := by
  obtain ⟨ht, hh, hb, hl⟩ := hp
  have hsplit : c.ready = (p.msgType :: p.payload.take 4) ++ (p.payload.drop 4 ++ rest) := by
    rw [h, PgPacket.bytes, if_neg ht]
    simp [← List.append_assoc]
  have hl4 : (p.msgType :: p.payload.take 4).length = 5 := by
    simp only [List.length_cons, List.length_take]
    omega
  obtain ⟨c₁, h₁, hr₁⟩ := readFull_ready hsplit
  obtain ⟨c₂, h₂, hr₂⟩ := readFull_ready hr₁
  rw [hl4] at h₁
  have hdrop : (p.payload.drop 4).length = beNat (p.payload.take 4) - 4 := by
    rw [hl, List.length_drop]
  rw [hdrop] at h₂
  have hgood : ¬ (beNat (p.payload.take 4) < 4 ∨ pgMaxMessageSize < beNat (p.payload.take 4)) := by
    rw [hl]
    omega
  refine ⟨c₂, ?_, hr₂⟩
  simp only [readMessage, h₁, List.headD_cons, List.drop_one, List.tail_cons, if_neg hgood, h₂,
    List.take_append_drop]

/-- The bytes of a returned message are the bytes it was read from exactly if the first of them is
not zero; then a peer that is sent them reads the same message and nothing more. -/
theorem readMessage_bytes_consumed_iff {c c' : Conn} {p : PgPacket}
    (h : readMessage c = (.ok p, c')) :
    ∃ consumed, c'.received = c.received ++ consumed ∧
      consumed.length = 1 + beNat ((consumed.drop 1).take 4) ∧
      (p.bytes = consumed ↔ (c.pending.flatMap Segment.bytes).head? ≠ some 0) ∧
      ((c.pending.flatMap Segment.bytes).head? ≠ some 0 →
        ∀ (peer : Conn) (rest : Bytes), peer.ready = p.bytes ++ rest →
          ∃ peer', readMessage peer = (.ok p, peer') ∧ peer'.ready = rest) := by
  obtain ⟨h4, hmax, hlen, hrec, hreads⟩ := readMessage_payload h
  have hcoming : c.pending.flatMap Segment.bytes =
      p.msgType :: p.payload ++ c'.pending.flatMap Segment.bytes := by
    have hs := hreads.stream
    rw [Conn.stream, Conn.stream, hrec, List.append_assoc] at hs
    exact (List.append_cancel_left hs).symm
  have hhead : (c.pending.flatMap Segment.bytes).head? ≠ some 0 ↔ p.msgType ≠ 0 := by
    simp [hcoming]
  rw [hhead]
  refine ⟨p.msgType :: p.payload, hrec, ?_, ⟨?_, ?_⟩,
    fun ht peer rest => readMessage_ready ⟨ht, h4, hmax, hlen⟩⟩
  · rw [List.drop_one, List.tail_cons, hlen, List.length_cons, Nat.add_comm]
  · intro hbytes hzero
    have hlen := congrArg List.length hbytes
    simp [PgPacket.bytes, hzero] at hlen
  · exact fun ht => if_neg ht

/-- The payload of a Query for `SELECT 1`. -/
def samplePayload : Bytes := [0, 0, 0, 13, 83, 69, 76, 69, 67, 84, 32, 49, 0]

/-- A Query in two pieces, the second of which begins the message behind it. -/
def sampleDelivery : Conn :=
  Conn.script [⟨0x51 :: samplePayload.take 6, none⟩, ⟨samplePayload.drop 6 ++ [0x53, 0, 0], none⟩]

theorem readMessage_bytes_consumed_sampleDelivery :
    readMessage sampleDelivery = (.ok ⟨0x51, samplePayload⟩, (readMessage sampleDelivery).2) ∧
      (readMessage sampleDelivery).2.received = 0x51 :: samplePayload ∧
      (⟨0x51, samplePayload⟩ : PgPacket).bytes = 0x51 :: samplePayload := by
  have hread : readMessage sampleDelivery = (.ok ⟨0x51, samplePayload⟩, (readMessage sampleDelivery).2) :=
    Prod.ext rfl rfl
  obtain ⟨consumed, hrec, -, hiff, -⟩ := readMessage_bytes_consumed_iff hread
  have hbytes := hiff.mpr (by decide)
  exact ⟨hread, hrec.trans hbytes.symm, by rfl⟩

/-- Six bytes are read as a message of type zero, which is written out as the last five. -/
theorem zero_type_byte_is_lost :
    ∃ p c', readMessage (Conn.script [⟨[0, 0, 0, 0, 5, 7], none⟩]) = (.ok p, c') ∧
      c'.received = [0, 0, 0, 0, 5, 7] ∧ p.bytes = [0, 0, 0, 5, 7] :=
  ⟨⟨0, [0, 0, 0, 5, 7]⟩, _, Prod.ext rfl rfl, rfl, by decide⟩

lemma readMessage_clean {c : Conn} (h : c.Clean) : (readMessage c).2.Clean := by
  have h₁ := readFull_clean h 5
  unfold readMessage
  rcases hh : c.readFull 5 with ⟨e | header, c₁⟩ <;> rw [hh] at h₁
  · exact h₁
  · dsimp only
    split_ifs
    · exact h₁
    · have h₂ := readFull_clean h₁ (beNat (header.drop 1) - 4)
      rcases hb : c₁.readFull (beNat (header.drop 1) - 4) with ⟨e | body, c₂⟩ <;>
      · rw [hb] at h₂
        exact h₂

lemma readMessage_next {c : Conn} {m : PgPacket} {rest : Bytes} (hclean : c.Clean) (hm : m.Framed)
    (h : c.ready = m.bytes ++ rest) :
    ∃ c', readMessage c = (.ok m, c') ∧ c'.Clean ∧ c'.ready = rest ∧ Reads c c' := by
  obtain ⟨c', hread, hrest⟩ := readMessage_ready hm h
  have hclean' := readMessage_clean hclean
  rw [hread] at hclean'
  exact ⟨c', hread, hclean', hrest, (readMessage_ok hread).2.2⟩

def pgMsgQuery : UInt8 := 0x51
def pgMsgParse : UInt8 := 0x50
def pgMsgBind : UInt8 := 0x42
def pgMsgExecute : UInt8 := 0x45
def pgMsgSync : UInt8 := 0x53
def pgMsgTerminate : UInt8 := 0x58
def pgMsgPasswordMsg : UInt8 := 0x70
def pgMsgClose : UInt8 := 0x43
def pgMsgDescribe : UInt8 := 0x44
def pgMsgFlush : UInt8 := 0x48
def pgMsgCopyData : UInt8 := 0x64
def pgMsgCopyDone : UInt8 := 0x63
def pgMsgCopyFail : UInt8 := 0x66
def pgMsgFunctionCall : UInt8 := 0x46

def frontendTypes : List UInt8 :=
  [pgMsgQuery, pgMsgParse, pgMsgBind, pgMsgExecute, pgMsgSync, pgMsgTerminate, pgMsgPasswordMsg,
    pgMsgClose, pgMsgDescribe, pgMsgFlush, pgMsgCopyData, pgMsgCopyDone, pgMsgCopyFail,
    pgMsgFunctionCall]

def frontendCommandNames : List (UInt8 × String) :=
  [(pgMsgQuery, "Query"), (pgMsgParse, "Parse"), (pgMsgBind, "Bind"), (pgMsgExecute, "Execute"),
    (pgMsgSync, "Sync"), (pgMsgTerminate, "Terminate"), (pgMsgPasswordMsg, "Password"),
    (pgMsgClose, "Close"), (pgMsgDescribe, "Describe"), (pgMsgFlush, "Flush"),
    (pgMsgCopyData, "CopyData"), (pgMsgCopyDone, "CopyDone"), (pgMsgCopyFail, "CopyFail"),
    (pgMsgFunctionCall, "FunctionCall")]

/-- `fmt.Sprintf("Unknown(0x%02X)", t)`. -/
def unknownFrontendName (t : UInt8) : String :=
  "Unknown(0x" ++
    (String.ofList [lowerHexDigit (t.toNat / 16), lowerHexDigit (t.toNat % 16)]).toUpper ++ ")"

def pgFrontendCommandName (t : UInt8) : String :=
  (frontendCommandNames.lookup t).getD (unknownFrontendName t)

def isPgCountableQuery (t : UInt8) : Bool := t = pgMsgQuery ∨ t = pgMsgParse ∨ t = pgMsgExecute

def pgBackendAuthRequest : UInt8 := 0x52
def pgBackendErrorResponse : UInt8 := 0x45
def pgBackendReadyForQuery : UInt8 := 0x5A
def pgBackendCopyInResponse : UInt8 := 0x47
def pgBackendCopyOutResponse : UInt8 := 0x48
def pgBackendCopyBothResponse : UInt8 := 0x57

/-- The `S` that marks a statement in Close and Describe. -/
def statementKind : UInt8 := 0x53

/-- The `P` that marks a portal. -/
def portalKind : UInt8 := 0x50

def indexNull (b : Bytes) : Option ℕ := b.findIdx? (· = 0)

def trimNullTerminator (b : Bytes) : Bytes := if b.getLast? = some 0 then b.dropLast else b

/-- The SQL text of a Query or Parse message; empty for every other message. -/
def extractPgQueryText (p : PgPacket) : Bytes :=
  if p.payload.length ≤ 4 then []
  else
    let body := p.payload.drop 4
    if p.msgType = pgMsgQuery then trimNullTerminator body
    else if p.msgType = pgMsgParse then
      match indexNull body with
      | none => []
      | some idx =>
        let rest := body.drop (idx + 1)
        match indexNull rest with
        | none => rest
        | some stop => rest.take stop
    else []

def extractPgParseStmtName (p : PgPacket) : Bytes :=
  if p.msgType ≠ pgMsgParse ∨ p.payload.length ≤ 4 then []
  else
    let body := p.payload.drop 4
    match indexNull body with
    | none => []
    | some stop => body.take stop

def extractPgBindStmtName (p : PgPacket) : Bytes :=
  if p.msgType ≠ pgMsgBind ∨ p.payload.length ≤ 4 then []
  else
    let body := p.payload.drop 4
    match indexNull body with
    | none => []
    | some portalEnd =>
      if body.length ≤ portalEnd + 1 then []
      else
        let rest := body.drop (portalEnd + 1)
        match indexNull rest with
        | none => []
        | some stop => rest.take stop

/-- Kind and name, as Close and Describe messages carry them. -/
def extractTarget (msgType : UInt8) (p : PgPacket) : UInt8 × Bytes :=
  if p.msgType ≠ msgType ∨ p.payload.length ≤ 5 then (0, [])
  else
    let body := p.payload.drop 4
    let rest := body.drop 1
    match indexNull rest with
    | none => (body.headD 0, [])
    | some stop => (body.headD 0, rest.take stop)

def extractPgCloseTarget : PgPacket → UInt8 × Bytes := extractTarget pgMsgClose

def extractPgDescribeTarget : PgPacket → UInt8 × Bytes := extractTarget pgMsgDescribe

/-- A byte string that can stand in front of a null byte. -/
abbrev CString := { b : Bytes // (0 : UInt8) ∉ b }

/-- The message of type `msgType` with the given body. -/
def frame (msgType : UInt8) (body : Bytes) : PgPacket :=
  ⟨msgType, (leBytes 4 (4 + body.length)).reverse ++ body⟩

@[simp] lemma frame_msgType (t : UInt8) (body : Bytes) : (frame t body).msgType = t := rfl

@[simp] lemma frame_drop (t : UInt8) (body : Bytes) : (frame t body).payload.drop 4 = body := by
  simp [frame, leBytes]

@[simp] lemma frame_length (t : UInt8) (body : Bytes) :
    (frame t body).payload.length = 4 + body.length := by
  simp [frame]

lemma frame_framed {t : UInt8} {body : Bytes} (ht : t ≠ 0)
    (hb : 4 + body.length ≤ pgMaxMessageSize) : (frame t body).Framed := by
  have htake : (frame t body).payload.take 4 = (leBytes 4 (4 + body.length)).reverse := by
    simp [frame]
  have hlt : 4 + body.length < 256 ^ 4 := lt_of_le_of_lt hb (by decide)
  refine ⟨ht, ?_, ?_, ?_⟩
  · rw [frame_length]
    omega
  · rwa [frame_length]
  · rw [htake, beNat, List.reverse_reverse, leNat_leBytes_of_lt hlt, frame_length]

lemma indexNull_cstring (s : CString) (rest : Bytes) :
    indexNull (s.1 ++ 0 :: rest) = some s.1.length := by
  obtain ⟨b, hb⟩ := s
  unfold indexNull
  rw [List.findIdx?_eq_some_iff_getElem]
  refine ⟨by simp, by simp, ?_⟩
  intro j hj
  rw [List.getElem_append_left hj]
  have hne : b[j] ≠ 0 := by
    intro h0
    exact hb (h0 ▸ List.getElem_mem hj)
  simpa using hne

section Messages
variable (name sql portal : CString) (tail : Bytes)

def parseMessage : PgPacket := frame pgMsgParse (name.1 ++ 0 :: (sql.1 ++ 0 :: tail))

def bindMessage : PgPacket := frame pgMsgBind (portal.1 ++ 0 :: (name.1 ++ 0 :: tail))

def targetMessage (msgType kind : UInt8) : PgPacket := frame msgType (kind :: (name.1 ++ [0]))

def executeMessage : PgPacket := frame pgMsgExecute (portal.1 ++ 0 :: tail)

def syncMessage : PgPacket := frame pgMsgSync []

@[simp] lemma extractPgParseStmtName_parseMessage :
    extractPgParseStmtName (parseMessage name sql tail) = name.1 := by
  simp [extractPgParseStmtName, parseMessage, indexNull_cstring]

@[simp] lemma extractPgQueryText_parseMessage :
    extractPgQueryText (parseMessage name sql tail) = sql.1 := by
  have hdrop : (name.1 ++ 0 :: (sql.1 ++ 0 :: tail)).drop (name.1.length + 1) =
      sql.1 ++ 0 :: tail := by
    rw [← List.drop_drop, List.drop_left]
    rfl
  simp only [extractPgQueryText, parseMessage, frame_msgType, frame_drop, frame_length,
    indexNull_cstring, hdrop, List.take_left]
  rw [if_neg (by simp), if_neg (by decide), if_pos trivial]

@[simp] lemma extractPgBindStmtName_bindMessage :
    extractPgBindStmtName (bindMessage name portal tail) = name.1 := by
  have hdrop : (portal.1 ++ 0 :: (name.1 ++ 0 :: tail)).drop (portal.1.length + 1) =
      name.1 ++ 0 :: tail := by
    rw [← List.drop_drop, List.drop_left]
    rfl
  simp only [extractPgBindStmtName, bindMessage, frame_msgType, frame_drop, frame_length,
    indexNull_cstring, hdrop, List.take_left]
  rw [if_neg (by simp), if_neg (by simp)]

@[simp] lemma extractTarget_targetMessage (t kind : UInt8) :
    extractTarget t (targetMessage name t kind) = (kind, name.1) := by
  simp only [extractTarget, targetMessage, frame_msgType, frame_drop, frame_length, List.drop_one,
    List.tail_cons, indexNull_cstring, List.headD_cons, List.take_left]
  exact if_neg (by simp; omega)

end Messages

end ShadowProxy.PgProtocol
