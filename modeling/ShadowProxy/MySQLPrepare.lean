import ShadowProxy.MySQLReply

/-! Replies to COM_STMT_PREPARE. The reply readers take a PREPARE_OK packet for an OK packet,
and so read the statement id and the two counts as if they were its fields. -/
namespace ShadowProxy.MySQLPrepare
open WordBytes NetConn MySQLPacket MySQLPacketReader MySQLResponse MySQLReplyStream MySQLReply

structure EOFPacket where
  seq : UInt8
  warnings : UInt8 × UInt8
  status : UInt8 × UInt8

def EOFPacket.packet (e : EOFPacket) : Packet :=
  ⟨e.seq, [0xFE, e.warnings.1, e.warnings.2, e.status.1, e.status.2], by simp⟩

def EOFPacket.more (e : EOFPacket) : Bool := moreResults e.status.1 e.status.2

/-- Parameter or column definitions and the EOF packet behind them. A definition starts
with its catalog name, which is always `def`. -/
structure Definitions where
  defs : List Packet
  isDefinition : ∀ p ∈ defs, p.payload.head? = some 0x03
  eof : EOFPacket

/-- Without definitions there is no EOF packet either. -/
def Definitions.packets (d : Definitions) : List Packet :=
  if d.defs = [] then [] else d.defs ++ [d.eof.packet]

structure PrepareOK where
  seq : UInt8
  statementId : UInt8 × UInt8 × UInt8 × UInt8
  numColumns : UInt16
  numParams : UInt16
  filler : UInt8
  warnings : UInt8 × UInt8

def PrepareOK.packet (h : PrepareOK) : Packet where
  seq := h.seq
  payload := 0x00 :: h.statementId.1 :: h.statementId.2.1 :: h.statementId.2.2.1 ::
    h.statementId.2.2.2 :: (leBytes 2 h.numColumns.toNat ++ leBytes 2 h.numParams.toNat ++
      [h.filler, h.warnings.1, h.warnings.2])
  payload_lt := by simp

/-- The valid replies to COM_STMT_PREPARE. -/
inductive PrepareReply
  | err (p : Packet) (h : IsERR p)
  | ok (head : PrepareOK) (params columns : Definitions)
      (hparams : params.defs.length = head.numParams.toNat)
      (hcolumns : columns.defs.length = head.numColumns.toNat)

def PrepareReply.packets : PrepareReply → List Packet
  | err p _ => [p]
  | ok head params columns _ _ => head.packet :: (params.packets ++ columns.packets)

/-- When the readers happen to stop at the end of the reply: always after an ERR packet;
after a PREPARE_OK packet whose bytes do not look like a set more-results flag, only if no
definitions follow; else only if the definitions look like result sets, the first of a
block being taken for a column count of three. -/
def PrepareReply.ReadToEnd : PrepareReply → Prop
  | err _ _ => True
  | ok head params columns _ _ =>
    if checkMoreResultsInOKPacket head.packet.bytes then
      (5 ≤ params.defs.length ∧ columns.defs = [] ∧ params.eof.more = false) ∨
        (params.defs = [] ∧ 5 ≤ columns.defs.length ∧ columns.eof.more = false) ∨
        (5 ≤ params.defs.length ∧ 5 ≤ columns.defs.length ∧ params.eof.more = true ∧
          columns.eof.more = false) ∨
        (1 ≤ params.defs.length ∧ params.defs.length ≤ 4 ∧ 1 ≤ columns.defs.length ∧
          4 ≤ params.defs.length + columns.defs.length ∧ columns.eof.more = false)
    else params.defs = [] ∧ columns.defs = []

lemma EOFPacket.isEOF (e : EOFPacket) : IsEOF e.more e.packet :=
  ⟨_, _, _, _, rfl, rfl⟩

section Definition
variable {p : Packet} (h : p.payload.head? = some 0x03)
include h

lemma definition_isColumnCount : IsColumnCount 3 p := by
  obtain ⟨t, ht⟩ := List.head?_eq_some_iff.mp h
  exact ⟨3, [], t, LenEnc.one 3 (by decide), ht, by decide, by decide, by decide, by decide⟩

lemma definition_not_okMarker : ¬ isOKMarker p.bytes = true := by
  rw [isOKMarker_bytes, h]
  decide

lemma definition_not_rowsEnd : ¬ isRowsEnd p.bytes = true := by
  rw [isRowsEnd_bytes, h]
  simp

end Definition

/-- The outer loop over the packets `ps` alone uses all of them and stops. -/
def Finishes (fuel : ℕ) (ps : List Packet) (total : ℕ) : Prop :=
  responseLoop listRelay fuel (ps.map Packet.bytes) total = ⟨total + (wire ps).length, none, []⟩

lemma not_finishes_nil (fuel total : ℕ) : ¬ Finishes fuel [] total := by
  cases fuel <;> simp [Finishes, responseLoop, listRelay]

/-- A packet that opens what the loop takes for a result set of three columns. -/
structure Opens (front : List Packet) : Prop where
  head : ∀ p ∈ front.head?, p.payload.head? = some 0x03
  marker : ∀ p ∈ front, ¬ isOKMarker p.bytes = true
  rows : ∀ p ∈ front.drop 5, ¬ isRowsEnd p.bytes = true

lemma Opens.split {front : List Packet} (h : Opens front) (hlen : 5 ≤ front.length) :
    ∃ count cols mid rows, front = count :: (cols ++ mid :: rows) ∧
      IsColumnCount cols.length count ∧ ¬ isOKMarker mid.bytes = true ∧
      ∀ row ∈ rows, ¬ isRowsEnd row.bytes = true := by
  match front, hlen with
  | count :: c₁ :: c₂ :: c₃ :: mid :: rows, _ =>
    exact ⟨count, [c₁, c₂, c₃], mid, rows, rfl, definition_isColumnCount (h.head count rfl),
      h.marker mid (by simp), h.rows⟩

lemma finishes_end {front rest : List Packet} (h : Opens front) (hlen : 5 ≤ front.length)
    (e : EOFPacket) (fuel total : ℕ) (hf : front.length ≤ fuel) :
    Finishes (fuel + 1) (front ++ e.packet :: rest) total ↔
      if e.more then Finishes fuel rest (total + (wire (front ++ [e.packet])).length)
      else rest = [] := by
  obtain ⟨count, cols, mid, rows, rfl, hcount, hmid, hrows⟩ := h.split hlen
  have hfeed := listRelay_feeds ((count :: (cols ++ mid :: rows) ++ [e.packet]).map Packet.bytes)
    (rest.map Packet.bytes)
  simp only [List.length_cons, List.length_append] at hf
  have hrun := responseLoop_resultSet hcount hmid hrows e.isEOF hfeed fuel total (by omega)
  rw [← List.map_append, List.append_assoc, List.singleton_append] at hrun
  unfold Finishes
  rw [hrun]
  cases e.more with
  | true => simp [wire_append, Nat.add_assoc]
  | false =>
    simp only [Bool.false_eq_true, if_false, Response.mk.injEq, true_and, List.map_eq_nil_iff]
    constructor
    · exact fun hr => hr.2
    · rintro rfl
      exact ⟨rfl, rfl⟩

lemma not_finishes {front : List Packet} (h : Opens front) (fuel total : ℕ)
    (hf : front.length ≤ fuel) : ¬ Finishes fuel front total := by
  by_cases hlen : 5 ≤ front.length
  · obtain ⟨count, cols, mid, rows, rfl, hcount, hmid, hrows⟩ := h.split hlen
    have hfeed := listRelay_feeds ((count :: (cols ++ mid :: rows)).map Packet.bytes) []
    simp only [List.length_cons, List.length_append] at hf
    obtain ⟨k, rfl⟩ : ∃ k, fuel = rows.length + (k + 1) + 1 := ⟨fuel - rows.length - 2, by omega⟩
    have hrun := responseLoop_rows hcount hmid hrows hfeed (k + 1) total
    rw [List.append_nil] at hrun
    unfold Finishes
    rw [hrun]
    simp [rowLoop, listRelay]
  · cases front with
    | nil => exact not_finishes_nil fuel total
    | cons count rest =>
      obtain ⟨k, rfl⟩ : ∃ k, fuel = k + 1 := ⟨fuel - 1, by simp only [List.length_cons] at hf; omega⟩
      have hc := definition_isColumnCount (h.head count rfl)
      simp only [List.length_cons] at hlen
      unfold Finishes
      rw [List.map_cons, responseLoop]
      simp only [listRelay, readUnit_count _ _ _ _ hc]
      rcases rest with _ | ⟨c₁, _ | ⟨c₂, _ | ⟨c₃, _ | ⟨mid, rest⟩⟩⟩⟩
      · simp [readResultSet, readColumns, listRelay]
      · simp [readResultSet, readColumns, listRelay]
      · simp [readResultSet, readColumns, listRelay]
      · simp [readResultSet, readColumns, listRelay]
      · simp at hlen

lemma Definitions.opens (d : Definitions) : Opens d.defs where
  head p hp := d.isDefinition p (List.mem_of_mem_head? hp)
  marker p hp := definition_not_okMarker (d.isDefinition p hp)
  rows p hp := definition_not_rowsEnd (d.isDefinition p (List.mem_of_mem_drop hp))

lemma Definitions.opens_append (d : Definitions) (hd : d.defs ≠ []) {rest : List Packet}
    (hm : ∀ p ∈ rest, ¬ isOKMarker p.bytes = true)
    (hr : ∀ p ∈ rest.drop (5 - d.defs.length), ¬ isRowsEnd p.bytes = true) :
    Opens (d.defs ++ rest) where
  head p hp := by
    rw [List.head?_append_of_ne_nil _ hd] at hp
    exact d.opens.head p hp
  marker p hp := by
    rcases List.mem_append.mp hp with h | h
    · exact d.opens.marker p h
    · exact hm p h
  rows p hp := by
    rw [List.drop_append] at hp
    rcases List.mem_append.mp hp with h | h
    · exact d.opens.rows p h
    · exact hr p h

section Blocks
variable (a b : Definitions) (fuel total : ℕ)

lemma finishes_block (ha : a.defs ≠ []) (hf : a.defs.length ≤ fuel) :
    Finishes (fuel + 1) (a.defs ++ [a.eof.packet]) total ↔
      5 ≤ a.defs.length ∧ a.eof.more = false := by
  by_cases hlen : 5 ≤ a.defs.length
  · rw [finishes_end a.opens hlen a.eof fuel total hf]
    cases a.eof.more <;> simp [hlen, not_finishes_nil]
  · have hopen : Opens (a.defs ++ [a.eof.packet]) := by
      apply a.opens_append ha
      · simpa using a.eof.isEOF.not_okMarker
      · rw [List.drop_of_length_le (by simp only [List.length_singleton]; omega)]
        simp
    have hno := not_finishes hopen (fuel + 1) total (by simpa using hf)
    exact iff_of_false hno fun h => hlen h.1

lemma finishes_blocks (ha : a.defs ≠ []) (hb : b.defs ≠ [])
    (hf : a.defs.length + b.defs.length + 1 ≤ fuel) :
    Finishes (fuel + 1) (a.defs ++ a.eof.packet :: (b.defs ++ [b.eof.packet])) total ↔
      (5 ≤ a.defs.length ∧ 5 ≤ b.defs.length ∧ a.eof.more = true ∧ b.eof.more = false) ∨
        (a.defs.length ≤ 4 ∧ 4 ≤ a.defs.length + b.defs.length ∧ b.eof.more = false) := by
  by_cases hlen : 5 ≤ a.defs.length
  · obtain ⟨k, rfl⟩ : ∃ k, fuel = k + 1 := ⟨fuel - 1, by omega⟩
    rw [finishes_end a.opens hlen a.eof (k + 1) total (by omega)]
    cases a.eof.more with
    | true =>
      rw [if_pos rfl, finishes_block b k _ hb (by omega)]
      constructor
      · exact fun h => Or.inl ⟨hlen, h.1, rfl, h.2⟩
      · rintro (h | h)
        · exact ⟨h.2.1, h.2.2.2⟩
        · omega
    | false =>
      rw [if_neg Bool.false_ne_true]
      refine iff_of_false (by simp) ?_
      rintro (h | h)
      · exact Bool.false_ne_true h.2.2.1
      · omega
  · have hmid : ∀ p ∈ a.eof.packet :: b.defs, ¬ isOKMarker p.bytes = true := by
      intro p hp
      rcases List.mem_cons.mp hp with rfl | hp
      · exact a.eof.isEOF.not_okMarker
      · exact b.opens.marker p hp
    obtain ⟨n, hn⟩ : ∃ n, 5 - a.defs.length = n + 1 := ⟨4 - a.defs.length, by omega⟩
    by_cases hboth : 4 ≤ a.defs.length + b.defs.length
    · have hopen : Opens (a.defs ++ a.eof.packet :: b.defs) := by
        apply a.opens_append ha hmid
        rw [hn, List.drop_succ_cons]
        exact fun p hp => definition_not_rowsEnd (b.isDefinition p (List.mem_of_mem_drop hp))
      have hend := @finishes_end _ [] hopen
        (by simp only [List.length_append, List.length_cons]; omega) b.eof fuel total
        (by simp only [List.length_append, List.length_cons]; omega)
      rw [List.append_assoc, List.cons_append] at hend
      rw [hend]
      cases b.eof.more <;> simp [not_finishes_nil, hlen, hboth]
      omega
    · have hopen : Opens (a.defs ++ a.eof.packet :: (b.defs ++ [b.eof.packet])) := by
        apply a.opens_append ha
        · intro p hp
          rw [← List.cons_append] at hp
          rcases List.mem_append.mp hp with hp | hp
          · exact hmid p hp
          · rw [List.mem_singleton.mp hp]
            exact b.eof.isEOF.not_okMarker
        · rw [List.drop_of_length_le (by
            simp only [List.length_cons, List.length_append, List.length_nil]; omega)]
          simp
      have hno := not_finishes hopen (fuel + 1) total (by
        simp only [List.length_append, List.length_cons, List.length_nil]; omega)
      refine iff_of_false hno ?_
      rintro (h | h) <;> omega

end Blocks

lemma Definitions.packets_nil {d : Definitions} (h : d.defs = []) : d.packets = [] :=
  if_pos h

lemma Definitions.packets_cons {d : Definitions} (h : d.defs ≠ []) :
    d.packets = d.defs ++ [d.eof.packet] :=
  if_neg h

lemma Definitions.packets_eq_nil {d : Definitions} : d.packets = [] ↔ d.defs = [] := by
  by_cases h : d.defs = []
  · simp [d.packets_nil h, h]
  · simp [d.packets_cons h, h]

lemma finishes_definitions (a b : Definitions) (fuel total : ℕ)
    (hf : (a.packets ++ b.packets).length ≤ fuel) :
    Finishes fuel (a.packets ++ b.packets) total ↔
      (5 ≤ a.defs.length ∧ b.defs = [] ∧ a.eof.more = false) ∨
        (a.defs = [] ∧ 5 ≤ b.defs.length ∧ b.eof.more = false) ∨
        (5 ≤ a.defs.length ∧ 5 ≤ b.defs.length ∧ a.eof.more = true ∧ b.eof.more = false) ∨
        (1 ≤ a.defs.length ∧ a.defs.length ≤ 4 ∧ 1 ≤ b.defs.length ∧
          4 ≤ a.defs.length + b.defs.length ∧ b.eof.more = false) := by
  by_cases ha : a.defs = []
  · by_cases hb : b.defs = []
    · simp [a.packets_nil ha, b.packets_nil hb, not_finishes_nil, ha, hb]
    · rw [a.packets_nil ha, b.packets_cons hb, List.nil_append] at hf ⊢
      rw [List.length_append, List.length_singleton] at hf
      obtain ⟨k, rfl⟩ : ∃ k, fuel = k + 1 := ⟨fuel - 1, by omega⟩
      simp [finishes_block b k total hb (by omega), ha]
  · have ha' := List.length_pos_of_ne_nil ha
    by_cases hb : b.defs = []
    · rw [b.packets_nil hb, a.packets_cons ha, List.append_nil] at hf ⊢
      rw [List.length_append, List.length_singleton] at hf
      obtain ⟨k, rfl⟩ : ∃ k, fuel = k + 1 := ⟨fuel - 1, by omega⟩
      simp [finishes_block a k total ha (by omega), ha, hb]
    · have hb' := List.length_pos_of_ne_nil hb
      rw [a.packets_cons ha, b.packets_cons hb, List.append_assoc, List.singleton_append] at hf ⊢
      simp only [List.length_append, List.length_cons, List.length_nil] at hf
      obtain ⟨k, rfl⟩ : ∃ k, fuel = k + 1 := ⟨fuel - 1, by omega⟩
      rw [finishes_blocks a b k total ha hb (by omega)]
      simp only [ha, hb, and_false, false_and, false_or]
      exact or_congr_right ⟨fun h => ⟨ha', h.1, hb', h.2⟩, fun h => ⟨h.2.1, h.2.2.2⟩⟩

theorem PrepareReply.consumesAll_iff (reply : PrepareReply) :
    ConsumesAll reply.packets ↔ reply.ReadToEnd := by
  cases reply with
  | err p h =>
    have hreply : Reply [p] := Reply.last (ReplyUnit.err h)
    exact iff_of_true hreply.consumesAll trivial
  | ok head params columns hparams hcolumns =>
    have hhead : head.packet.payload.head? = some 0x00 := rfl
    have hfeed := listRelay_feeds [head.packet.bytes]
      ((params.packets ++ columns.packets).map Packet.bytes)
    have hrun := responseLoop_single hfeed (params.packets ++ columns.packets).length 0
      fun t => readUnit_okMarker _ _ _ _ hhead
    rw [List.singleton_append, ← List.map_cons] at hrun
    simp only [ConsumesAll, PrepareReply.packets, PrepareReply.ReadToEnd]
    rw [List.length_cons, hrun]
    have hlen : 0 + (wire [head.packet]).length + (wire (params.packets ++ columns.packets)).length =
        (wire (head.packet :: (params.packets ++ columns.packets))).length := by simp
    cases checkMoreResultsInOKPacket head.packet.bytes with
    | true =>
      rw [if_pos rfl, if_pos rfl, ← hlen]
      exact finishes_definitions params columns _ _ le_rfl
    | false =>
      simp only [Bool.false_eq_true, if_false, Response.mk.injEq, true_and, List.map_eq_nil_iff,
        List.append_eq_nil_iff, Definitions.packets_eq_nil]
      constructor
      · exact fun h => h.2
      · intro h
        rw [params.packets_nil h.1, columns.packets_nil h.2]
        simp [h]

def noDefinitions : Definitions := ⟨[], by simp, ⟨0, (0, 0), (0, 0)⟩⟩

def sampleDefinitions : Definitions :=
  ⟨[sampleColumn], by simp [sampleColumn], ⟨3, (0, 0), (2, 0)⟩⟩

def samplePrepareOK (numParams : UInt16) : PrepareOK :=
  ⟨1, (1, 0, 0, 0), 0, numParams, 0, (0, 0)⟩

/-- The reply to a statement without parameters that returns no rows. -/
def sampleNoParams : PrepareReply :=
  .ok (samplePrepareOK 0) noDefinitions noDefinitions rfl rfl

/-- The reply to a statement with one parameter that returns no rows. -/
def sampleOneParam : PrepareReply :=
  .ok (samplePrepareOK 1) sampleDefinitions noDefinitions rfl rfl

lemma sampleNoParams_readToEnd : sampleNoParams.ReadToEnd := by
  simp only [sampleNoParams, PrepareReply.ReadToEnd, noDefinitions]
  decide

lemma sampleOneParam_not_readToEnd : ¬ sampleOneParam.ReadToEnd := by
  have hmore : checkMoreResultsInOKPacket (samplePrepareOK 1).packet.bytes = false := by decide
  simp [sampleOneParam, PrepareReply.ReadToEnd, hmore, sampleDefinitions]

section Readers
variable {r : Reader} {c : Conn} {rest : Bytes}

/-- The readers chosen for COM_STMT_PREPARE stop exactly at the end of the reply under the
condition above and under no other. -/
theorem prepare_reply_exact_iff (reply : PrepareReply) {dest : Conn} (hr : Inv r)
    (hd : dest.writable = none) (hf : unread r ++ c.ready = wire reply.packets ++ rest) :
    (forwardReply comStmtPrepare r c dest = readAndForwardResponse r c dest ∧
        (ForwardsExactly r c dest reply.packets rest ↔ reply.ReadToEnd)) ∧
      (readReply comStmtPrepare r c = readFullResponse r c ∧
        (ReadsExactly r c reply.packets rest ↔ reply.ReadToEnd)) := by
  refine ⟨⟨rfl, ?_⟩, rfl, ?_⟩
  · rw [forwardsExactly_iff hr hd hf, reply.consumesAll_iff]
  · rw [readsExactly_iff hr hf, reply.consumesAll_iff]

theorem prepare_reply_exact_sampleNoParams :
    sampleNoParams.ReadToEnd ∧ ForwardsExactly newMySQLPacketReader
      (Conn.script [⟨wire sampleNoParams.packets ++ [7], none⟩]) (Conn.script [])
      sampleNoParams.packets [7] :=
  ⟨sampleNoParams_readToEnd, (prepare_reply_exact_iff sampleNoParams new_inv rfl
    (fresh_reader_ready _)).1.2.mpr sampleNoParams_readToEnd⟩

/-- With one parameter both readers stop after the PREPARE_OK packet. -/
theorem sampleOneParam_not_exact :
    ¬ ForwardsExactly newMySQLPacketReader
        (Conn.script [⟨wire sampleOneParam.packets ++ [], none⟩]) (Conn.script [])
        sampleOneParam.packets [] ∧
      ¬ ReadsExactly newMySQLPacketReader
        (Conn.script [⟨wire sampleOneParam.packets ++ [], none⟩]) sampleOneParam.packets [] := by
  have hno : ¬ ConsumesAll sampleOneParam.packets := by
    rw [sampleOneParam.consumesAll_iff]
    exact sampleOneParam_not_readToEnd
  constructor
  · rwa [forwardsExactly_iff new_inv rfl (fresh_reader_ready _)]
  · rwa [readsExactly_iff new_inv (fresh_reader_ready _)]

end Readers
end ShadowProxy.MySQLPrepare
