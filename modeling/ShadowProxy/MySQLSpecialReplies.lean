import ShadowProxy.MySQLPrepare
import ShadowProxy.MySQLProxyLoop

/-! Replies the readers were not written for: rows that are too long for one packet, and the replies
to COM_STATISTICS, COM_FIELD_LIST and COM_STMT_FETCH. -/
namespace ShadowProxy.MySQLSpecialReplies
open WordBytes NetConn MySQLPacket MySQLPacketReader MySQLResponse MySQLReplyStream MySQLReply
  MySQLPrepare MySQLProxyLoop ShadowFilter

/-- The packets of one row: all but the last are full, and only the first starts with a marker. -/
structure RowPackets (ps : List Packet) : Prop where
  split : IsCommand (ps.map Packet.bytes)
  first : ∀ p ∈ ps.head?, IsRow p

/-- A result set whose rows take any number of packets each. -/
structure ResultSet where
  count : Packet
  cols : List Packet
  mid : EOFPacket
  rows : List (List Packet)
  last : EOFPacket
  isCount : IsColumnCount cols.length count
  hasColumns : 1 ≤ cols.length
  isRow : ∀ row ∈ rows, RowPackets row

namespace ResultSet

def packets (x : ResultSet) : List Packet :=
  x.count :: (x.cols ++ x.mid.packet :: (x.rows.flatten ++ [x.last.packet]))

/-- A packet that continues a row has one to eight bytes and starts with `0xFE`. -/
def LooksLikeEOF (p : Packet) : Prop := p.payload.head? = some 0xFE ∧ p.payload.length < 9

/-- The packets up to a part `front` of the row packets. -/
def upTo (x : ResultSet) (front : List Packet) : List Packet :=
  x.count :: (x.cols ++ x.mid.packet :: front)

lemma packets_eq (x : ResultSet) : x.packets = x.upTo x.rows.flatten ++ [x.last.packet] := by
  simp [packets, upTo]

end ResultSet

section Unit
variable {S : Type*} {f : String → S → Except Err Bytes × S} {s s' : S} (x : ResultSet)

/-- The rows end at the first packet that looks like an EOF packet, whatever it is. -/
lemma nextUnit_stops {front : List Packet} {p : Packet}
    (hfront : ∀ q ∈ front, ¬ isRowsEnd q.bytes = true) (hp : isRowsEnd p.bytes = true)
    (h : Feeds f s ((x.upTo front ++ [p]).map Packet.bytes) s') {fuel : ℕ}
    (hf : front.length + 1 ≤ fuel) (total : ℕ) :
    nextUnit f fuel s total = (checkMoreResultsInEOFPacket p.bytes,
      ⟨total + (wire (x.upTo front ++ [p])).length, none, s'⟩) := by
  rw [List.map_append] at h
  obtain ⟨s₁, h₁, s₂, hlast, rfl⟩ := feeds_append.mp h
  obtain ⟨k, rfl⟩ : ∃ k, fuel = front.length + (k + 1) := ⟨fuel - front.length - 1, by omega⟩
  rw [nextUnit_rows x.isCount x.mid.isEOF.not_okMarker hfront h₁, rowLoop, hlast]
  simp only [if_pos hp, wire_append, wire_cons, wire_nil, List.append_nil, List.length_append,
    Nat.add_assoc, ResultSet.upTo]

end Unit

/-- No packet that continues a row is mistaken for the end of the rows. -/
def ResultSet.NoFalseEnd (x : ResultSet) : Prop :=
  ∀ row ∈ x.rows, ∀ p ∈ row.tail, ¬ ResultSet.LooksLikeEOF p

lemma ResultSet.noFalseEnd_iff (x : ResultSet) :
    x.NoFalseEnd ↔ ∀ p ∈ x.rows.flatten, ¬ isRowsEnd p.bytes = true := by
  simp only [List.mem_flatten, forall_exists_index, and_imp, isRowsEnd_bytes]
  constructor
  · intro h p row hrow hp
    have hsplit := (x.isRow row hrow).split
    cases row with
    | nil => exact hsplit.elim
    | cons q row =>
      rcases List.mem_cons.mp hp with rfl | hp
      · exact ((x.isRow _ hrow).first p rfl).2
      · exact h _ hrow p hp
  · exact fun h row hrow p hp => h p row hrow (List.mem_of_mem_tail hp)

section Unit
variable {S : Type*} {f : String → S → Except Err Bytes × S} {s s' : S} {x : ResultSet} {fuel : ℕ}

lemma nextUnit_whole (h : x.NoFalseEnd) (hs : Feeds f s (x.packets.map Packet.bytes) s')
    (hf : x.rows.flatten.length + 1 ≤ fuel) :
    nextUnit f fuel s 0 = (x.last.more, ⟨(wire x.packets).length, none, s'⟩) := by
  rw [x.packets_eq] at hs ⊢
  rw [nextUnit_stops x (x.noFalseEnd_iff.mp h) x.last.isEOF.isRowsEnd hs hf, x.last.isEOF.check,
    Nat.zero_add]

lemma nextUnit_short (h : ¬ x.NoFalseEnd) (hs : Feeds f s (x.packets.map Packet.bytes) s')
    (hf : x.rows.flatten.length + 1 ≤ fuel) :
    (nextUnit f fuel s 0).2.total < (wire x.packets).length := by
  rw [x.noFalseEnd_iff] at h
  simp only [not_forall, not_not] at h
  obtain ⟨p, hp, hend⟩ := h
  obtain ⟨q, hq⟩ := Option.isSome_iff_exists.mp
    (List.find?_isSome (p := fun p => isRowsEnd p.bytes).mpr ⟨p, hp, hend⟩)
  obtain ⟨hqend, front, back, hsplit, hfront⟩ := List.find?_eq_some_iff_append.mp hq
  have hpackets : x.packets = (x.upTo front ++ [q]) ++ (back ++ [x.last.packet]) := by
    simp [x.packets_eq, hsplit, ResultSet.upTo]
  have hlen : front.length + 1 ≤ fuel := by
    have := congrArg List.length hsplit
    simp only [List.length_append, List.length_cons] at this
    omega
  rw [hpackets, List.map_append] at hs
  obtain ⟨s₁, hs₁, -⟩ := feeds_append.mp hs
  rw [nextUnit_stops x (fun p hp => by simpa using hfront p hp) hqend hs₁ hlen, hpackets,
    wire_append (x.upTo front ++ [q])]
  simp only [List.length_append, wire_append, wire_cons, bytes_length]
  omega

end Unit

section Readers
variable {r : Reader} {c dest : Conn} {x : ResultSet} {rest : Bytes}

/-- `ReadFullResponse` ends the result set in front of it right behind its last packet. -/
def ReadsResultSet (r : Reader) (c : Conn) (x : ResultSet) (rest : Bytes) : Prop :=
  ∃ r' c', nextUnit readRelay (available r c) (r, c) 0 =
    (x.last.more, ⟨(wire x.packets).length, none, (r', c')⟩) ∧ unread r' ++ c'.ready = rest

/-- `ReadAndForwardResponse` ends the result set in front of it right behind its last packet, and
has written all of it. -/
def ForwardsResultSet (r : Reader) (c dest : Conn) (x : ResultSet) (rest : Bytes) : Prop :=
  ∃ r' c' dest', nextUnit forwardRelay (available r c) ((r, c), dest) 0 =
    (x.last.more, ⟨(wire x.packets).length, none, ((r', c'), dest')⟩) ∧
    unread r' ++ c'.ready = rest ∧ dest'.sent = dest.sent ++ x.packets.map Packet.bytes

lemma rows_le_available (hr : Inv r) (hf : unread r ++ c.ready = wire x.packets ++ rest) :
    x.rows.flatten.length + 1 ≤ available r c := by
  have h₁ := ready_le_available c hr
  have h₂ := length_le_wire x.packets
  rw [hf, List.length_append] at h₁
  simp only [ResultSet.packets, List.length_cons, List.length_append, List.length_nil] at h₁ h₂
  omega

/-- Either reader ends the result set at the EOF packet behind its last row exactly if no row that is
split over several packets has a last packet of one to eight bytes that starts with `0xFE`. -/
theorem result_set_ends_at_eof_iff (hr : Inv r) (hd : dest.writable = none)
    (hf : unread r ++ c.ready = wire x.packets ++ rest) :
    (ReadsResultSet r c x rest ↔ x.NoFalseEnd) ∧
      (ForwardsResultSet r c dest x rest ↔ x.NoFalseEnd) := by
  have hfuel := rows_le_available hr hf
  have hready : ReadyAt rest (r, c) (x.packets.map Packet.bytes) := ⟨hr, _, rfl, hf⟩
  obtain ⟨⟨r₁, c₁⟩, hread, hend⟩ := readRelay_feeds hready
  obtain ⟨⟨⟨r₂, c₂⟩, dest₂⟩, hforward, hend₂, -, hout⟩ :=
    forwardRelay_feeds (s := ((r, c), dest)) ⟨hready, hd, rfl⟩
  refine ⟨⟨?_, fun h => ?_⟩, ?_, fun h => ?_⟩
  · rintro ⟨r', c', hunit, -⟩
    by_contra h
    have hshort := nextUnit_short h hread hfuel
    rw [hunit] at hshort
    exact lt_irrefl _ hshort
  · exact ⟨r₁, c₁, nextUnit_whole h hread hfuel, hend.unread_eq⟩
  · rintro ⟨r', c', dest', hunit, -⟩
    by_contra h
    have hshort := nextUnit_short h hforward hfuel
    rw [hunit] at hshort
    exact lt_irrefl _ hshort
  · exact ⟨r₂, c₂, dest₂, nextUnit_whole h hforward hfuel, hend₂.unread_eq, by simpa using hout⟩

end Readers

lemma fullPayload_length : (List.replicate 0xFFFFFF (0x61 : UInt8)).length < 2 ^ 24 := by
  rw [List.length_replicate]
  norm_num

def fullPacket : Packet := ⟨4, List.replicate 0xFFFFFF 0x61, fullPayload_length⟩

lemma fullPacket_length : fullPacket.payload.length = 0xFFFFFF := List.length_replicate

lemma fullPacket_isRow : IsRow fullPacket := by
  have h : fullPacket.payload.head? = some 0x61 := by
    rw [fullPacket, List.head?_replicate]
    simp
  exact ⟨by rw [h]; decide, by rw [h]; decide⟩

def tailPacket (tail : Bytes) (h : tail.length < 0xFFFFFF) : Packet := ⟨5, tail, by omega⟩

/-- A result set with one row, whose second and last packet has the payload `tail`. -/
def longRow (tail : Bytes) (h : tail.length < 0xFFFFFF) : ResultSet where
  count := sampleColumnCount
  cols := [sampleColumn]
  mid := ⟨3, (0, 0), (2, 0)⟩
  rows := [[fullPacket, tailPacket tail h]]
  last := ⟨6, (0, 0), (2, 0)⟩
  isCount := sampleColumnCount_isColumnCount
  hasColumns := le_rfl
  isRow := by
    intro row hrow
    rw [List.mem_singleton.mp hrow]
    refine ⟨⟨?_, ?_⟩, ?_⟩
    · rw [payloadLen_bytes, fullPacket_length]
    · change payloadLen (tailPacket tail h).bytes < 0xFFFFFF
      rw [payloadLen_bytes]
      exact h
    · intro p hp
      obtain rfl : fullPacket = p := Option.some.inj hp
      exact fullPacket_isRow

def longRowConn (x : ResultSet) : Conn := Conn.script [⟨wire x.packets ++ [], none⟩]

lemma longRowConn_ready (x : ResultSet) :
    unread newMySQLPacketReader ++ (longRowConn x).ready = wire x.packets ++ [] :=
  fresh_reader_ready _

theorem result_set_ends_at_eof_longRow :
    ReadsResultSet newMySQLPacketReader (longRowConn (longRow [0x61] (by decide)))
        (longRow [0x61] (by decide)) [] ∧
      ForwardsResultSet newMySQLPacketReader (longRowConn (longRow [0x61] (by decide)))
        (Conn.script []) (longRow [0x61] (by decide)) [] := by
  have h : (longRow [0x61] (by decide)).NoFalseEnd := by
    intro row hrow p hp
    rw [List.mem_singleton.mp hrow] at hp
    rw [List.mem_singleton.mp hp]
    simp [ResultSet.LooksLikeEOF, tailPacket]
  have hopen : (Conn.script []).writable = none := rfl
  obtain ⟨hread, hforward⟩ := result_set_ends_at_eof_iff new_inv hopen
    (longRowConn_ready (longRow [0x61] (by decide)))
  exact ⟨hread.mpr h, hforward.mpr h⟩

/-- The row ends in the five bytes `FE 00 00 02 00`. -/
def falseEnd : ResultSet := longRow [0xFE, 0, 0, 2, 0] (by decide)

/-- Both readers return without error after the row, and the EOF packet behind it stays unread. -/
theorem long_row_ends_early :
    ∃ s s', readFullResponse newMySQLPacketReader (longRowConn falseEnd) =
        ⟨(wire (falseEnd.upTo falseEnd.rows.flatten)).length, none, s⟩ ∧
      readAndForwardResponse newMySQLPacketReader (longRowConn falseEnd) (Conn.script []) =
        ⟨(wire (falseEnd.upTo falseEnd.rows.flatten)).length, none, s'⟩ ∧
      unread s.1 ++ s.2.ready = falseEnd.last.packet.bytes := by
  have hfuel : 2 ≤ available newMySQLPacketReader (longRowConn falseEnd) :=
    (Nat.le_succ 2).trans (rows_le_available new_inv (longRowConn_ready falseEnd))
  have hf : unread newMySQLPacketReader ++ (longRowConn falseEnd).ready =
      wire (falseEnd.upTo falseEnd.rows.flatten) ++ falseEnd.last.packet.bytes := by
    rw [longRowConn_ready, falseEnd.packets_eq]
    simp
  have hsplit : falseEnd.upTo falseEnd.rows.flatten =
      falseEnd.upTo [fullPacket] ++ [tailPacket [0xFE, 0, 0, 2, 0] (by decide)] := rfl
  have hready : ReadyAt falseEnd.last.packet.bytes (newMySQLPacketReader, longRowConn falseEnd)
      ((falseEnd.upTo falseEnd.rows.flatten).map Packet.bytes) := ⟨new_inv, _, rfl, hf⟩
  obtain ⟨s, hread, hend⟩ := readRelay_feeds hready
  obtain ⟨s', hforward, -⟩ := forwardRelay_feeds
    (s := ((newMySQLPacketReader, longRowConn falseEnd), Conn.script [])) ⟨hready, rfl, rfl⟩
  have hfront : ∀ q ∈ [fullPacket], ¬ isRowsEnd q.bytes = true := by
    simpa using fullPacket_isRow.not_rowsEnd
  have htail : isRowsEnd (tailPacket [0xFE, 0, 0, 2, 0] (by decide)).bytes = true := by decide
  have hmore : checkMoreResultsInEOFPacket (tailPacket [0xFE, 0, 0, 2, 0] (by decide)).bytes = false := by
    decide
  rw [hsplit] at hread hforward ⊢
  refine ⟨s, s', ?_, ?_, hend.unread_eq⟩
  · rw [readFullResponse_eq, responseLoop_nextUnit, nextUnit_stops falseEnd hfront htail hread hfuel, hmore,
      Nat.zero_add]
  · rw [readAndForwardResponse_eq, responseLoop_nextUnit,
      nextUnit_stops falseEnd hfront htail hforward hfuel, hmore, Nat.zero_add]

/-- How a reply of definitions or rows ends. -/
inductive Ending
  | eof (e : EOFPacket)
  | err (p : Packet) (h : IsERR p)

def Ending.packet : Ending → Packet
  | eof e => e.packet
  | err p _ => p

def Ending.Final : Ending → Prop
  | eof e => e.more = false
  | err _ _ => True

/-- The valid replies to COM_STATISTICS, a text; to COM_FIELD_LIST, column definitions; and to
COM_STMT_FETCH, binary rows. A text holds no NUL and no byte that UTF-8 has no use for, and a binary
row starts with a zero byte. -/
inductive CommandReply
  | statistics (p : Packet) (h : ∀ b ∈ p.payload, b ≠ 0 ∧ b < 0xF8)
  | fieldList (defs : List Packet) (h : ∀ p ∈ defs, p.payload.head? = some 0x03) (ending : Ending)
  | stmtFetch (rows : List Packet) (h : ∀ p ∈ rows, p.payload.head? = some 0x00) (ending : Ending)

namespace CommandReply

def command : CommandReply → UInt8
  | statistics _ _ => comStatistics
  | fieldList _ _ _ => comFieldList
  | stmtFetch _ _ _ => comStmtFetch

def packets : CommandReply → List Packet
  | statistics p _ => [p]
  | fieldList defs _ ending => defs ++ [ending.packet]
  | stmtFetch rows _ ending => rows ++ [ending.packet]

/-- When the result-set reader happens to stop at the end of the reply: never for a text; for
definitions, if there are none, or at least five, the first being taken for a column count of three;
for rows, if each of them, taken for an OK packet, seems to announce more. -/
def ReadToEnd : CommandReply → Prop
  | statistics _ _ => False
  | fieldList defs _ (.eof e) => (defs = [] ∨ 5 ≤ defs.length) ∧ e.more = false
  | fieldList defs _ (.err _ _) => defs = []
  | stmtFetch rows _ ending =>
    (∀ p ∈ rows, checkMoreResultsInOKPacket p.bytes = true) ∧ ending.Final

end CommandReply

lemma consumesAll_iff_finishes (ps : List Packet) : ConsumesAll ps ↔ Finishes ps.length ps 0 := by
  rw [ConsumesAll, Finishes, Nat.zero_add]

lemma finishes_single {p : Packet} {more : Bool}
    (hu : ∀ fuel s t, readUnit listRelay fuel p.bytes s t = (more, ⟨t, none, s⟩)) (ps : List Packet)
    (fuel total : ℕ) :
    Finishes (fuel + 1) (p :: ps) total ↔
      if more then Finishes fuel ps (total + (wire [p]).length) else ps = [] := by
  have hrun := responseLoop_single (listRelay_feeds [p.bytes] (ps.map Packet.bytes)) fuel total
    (hu fuel (ps.map Packet.bytes))
  rw [List.singleton_append, ← List.map_cons] at hrun
  rw [Finishes, hrun]
  cases more with
  | true => simp [Finishes, Nat.add_assoc]
  | false =>
    simp only [Bool.false_eq_true, if_false, Response.mk.injEq, true_and, List.map_eq_nil_iff]
    constructor
    · exact fun h => h.2
    · rintro rfl
      exact ⟨rfl, rfl⟩

lemma finishes_ending (ending : Ending) (fuel total : ℕ) :
    Finishes (fuel + 1) [ending.packet] total ↔ ending.Final := by
  cases ending with
  | eof e =>
    rw [Ending.packet, finishes_single fun fuel s t => readUnit_eof listRelay fuel s t e.isEOF]
    cases hm : e.more <;> simp [Ending.Final, hm, not_finishes_nil]
  | err p h =>
    rw [Ending.packet, finishes_single fun fuel s t => readUnit_final listRelay fuel s t h (.inl rfl)]
    simp [Ending.Final]

lemma finishes_rows {rows : List Packet} (h : ∀ p ∈ rows, p.payload.head? = some 0x00)
    (ending : Ending) (fuel total : ℕ) :
    Finishes (rows.length + fuel + 1) (rows ++ [ending.packet]) total ↔
      (∀ p ∈ rows, checkMoreResultsInOKPacket p.bytes = true) ∧ ending.Final := by
  induction rows generalizing total with
  | nil => simpa using finishes_ending ending fuel total
  | cons p rows ih =>
    obtain ⟨hp, hrows⟩ := List.forall_mem_cons.mp h
    rw [List.cons_append, List.length_cons, show rows.length + 1 + fuel = rows.length + fuel + 1 by omega,
      finishes_single fun fuel s t => readUnit_okMarker listRelay fuel s t hp, List.forall_mem_cons]
    cases checkMoreResultsInOKPacket p.bytes with
    | true => simp [ih hrows]
    | false => simp

lemma finishes_definitions_eof {defs : List Packet} (h : ∀ p ∈ defs, p.payload.head? = some 0x03)
    (e : EOFPacket) :
    Finishes (defs.length + 1) (defs ++ [e.packet]) 0 ↔
      (defs = [] ∨ 5 ≤ defs.length) ∧ e.more = false := by
  by_cases hd : defs = []
  · subst hd
    simpa [Ending.packet, Ending.Final] using finishes_ending (.eof e) 0 0
  · have hblock := finishes_block ⟨defs, h, e⟩ defs.length 0 hd le_rfl
    simpa [hd] using hblock

lemma finishes_definitions_err {defs : List Packet} (h : ∀ p ∈ defs, p.payload.head? = some 0x03)
    {p : Packet} (hp : IsERR p) : Finishes (defs.length + 1) (defs ++ [p]) 0 ↔ defs = [] := by
  by_cases hd : defs = []
  · subst hd
    simpa [Ending.packet, Ending.Final] using finishes_ending (.err p hp) 0 0
  · have hopen : Opens (defs ++ [p]) := by
      apply Definitions.opens_append ⟨defs, h, ⟨0, (0, 0), (0, 0)⟩⟩ hd
      · intro q hq
        rw [List.mem_singleton.mp hq, isOKMarker_bytes, show p.payload.head? = some 0xFF from hp]
        decide
      · intro q hq
        rw [List.mem_singleton.mp (List.mem_of_mem_drop hq)]
        exact hp.not_rowsEnd
    exact iff_of_false (not_finishes hopen _ 0 (by simp)) hd

/-- A text is taken for the column count of a result set that does not come. -/
lemma not_finishes_text {p : Packet} (h : ∀ b ∈ p.payload, b ≠ 0 ∧ b < 0xF8) :
    ¬ Finishes 1 [p] 0 := by
  rw [Finishes, List.map_singleton, responseLoop]
  obtain ⟨l₀, l₁, l₂, hb⟩ := bytes_eq_cons p
  rcases hp : p.payload with _ | ⟨b, text⟩
  · rw [hb, hp]
    simp [listRelay, readUnit]
  · obtain ⟨hzero, hlt⟩ := h b (by simp [hp])
    have hb' : b.toNat < 0xF8 := hlt
    have hne : ∀ v : UInt8, 0xF8 ≤ v.toNat → b ≠ v := by
      rintro v hv rfl
      omega
    have hcount : IsColumnCount b.toNat p :=
      ⟨b, [], text, LenEnc.one b (by omega), by rw [hp]; rfl, hzero, hne 0xFB (by decide),
        hne 0xFE (by decide), hne 0xFF (by decide)⟩
    obtain ⟨k, hk⟩ : ∃ k, b.toNat = k + 1 :=
      ⟨b.toNat - 1, by have : b.toNat ≠ 0 := fun hz => hzero (UInt8.toNat_inj.mp hz); omega⟩
    simp only [listRelay, readUnit_count _ _ _ _ hcount]
    simp [readResultSet, hk, readColumns, listRelay]

theorem CommandReply.consumesAll_iff (reply : CommandReply) :
    ConsumesAll reply.packets ↔ reply.ReadToEnd := by
  rw [consumesAll_iff_finishes]
  cases reply with
  | statistics p h => exact iff_of_false (not_finishes_text h) id
  | fieldList defs h ending =>
    cases ending with
    | eof e =>
      simpa [CommandReply.packets, CommandReply.ReadToEnd, Ending.packet] using
        finishes_definitions_eof h e
    | err p hp =>
      simpa [CommandReply.packets, CommandReply.ReadToEnd, Ending.packet] using
        finishes_definitions_err h hp
  | stmtFetch rows h ending =>
    simpa [CommandReply.packets, CommandReply.ReadToEnd] using finishes_rows h ending 0 0

/-- The loop is about to read the command `cmd`, which the primary will answer with `ps`; what the
client and the primary send after that is arbitrary. -/
structure Asks (s : LoopState) (cmd : List Packet) (primary : Conn) (ps : List Packet) (rest : Bytes) :
    Prop where
  clientInv : Inv s.clientReader
  primaryInv : Inv s.primaryReader
  writable : s.client.writable = none
  isCommand : IsCommand (cmd.map Packet.bytes)
  command : ∃ later, unread s.clientReader ++ s.client.ready = wire cmd ++ later
  write : s.primary.write (wire cmd) = (none, primary)
  reply : unread s.primaryReader ++ primary.ready = wire ps ++ rest

/-- The next iteration relays exactly the packets `ps` to the client, and the loop goes on. -/
def Relays (filter : Option QueryFilter) (sampledOut : ℕ → Bool) (s : LoopState) (ps : List Packet)
    (rest : Bytes) : Prop :=
  ∃ t, turn filter sampledOut s = (t, true) ∧ t.client.sent = s.client.sent ++ ps.map Packet.bytes ∧
    unread t.primaryReader ++ t.primary.ready = rest

section Turn
variable {filter : Option QueryFilter} {sampledOut : ℕ → Bool} {s : LoopState} {cmd ps : List Packet}
  {primary : Conn} {rest : Bytes}

lemma Asks.turn_eq (filter : Option QueryFilter) (sampledOut : ℕ → Bool)
    (h : Asks s cmd primary ps rest)
    (hno : isNoResponseCommand (getMySQLCommand (wire cmd)).1 = false)
    (hsimple : isSimpleResponseCommand (getMySQLCommand (wire cmd)).1 = false) :
    ∃ client r offered, client.writable = none ∧ client.sent = s.client.sent ∧
      turn filter sampledOut s =
        match readAndForwardResponse s.primaryReader primary client with
        | ⟨_, err, ((r', primary'), client')⟩ =>
          (⟨client', primary', r, r', offered⟩, err = none) := by
  obtain ⟨later, hready⟩ := h.command
  obtain ⟨r, client, hread⟩ := readMultiPacket_ready h.clientInv h.isCommand hready
  have hreads := readMultiPacketLoop_reads (available s.clientReader s.client + 1) s.clientReader
    s.client []
  rw [show readMultiPacketLoop _ _ s.client [] = _ from hread] at hreads
  obtain ⟨offered, hoffer⟩ := offer_eq filter sampledOut
    ⟨client, primary, r, s.primaryReader, s.offered⟩ (wire cmd)
  refine ⟨client, r, offered, hreads.writable.trans h.writable, hreads.sent, ?_⟩
  simp only [turn, hread, h.write, hoffer, hno, Bool.false_eq_true, if_false, forwardReply, hsimple]

lemma Asks.relays_iff (h : Asks s cmd primary ps rest)
    (hno : isNoResponseCommand (getMySQLCommand (wire cmd)).1 = false)
    (hsimple : isSimpleResponseCommand (getMySQLCommand (wire cmd)).1 = false) :
    Relays filter sampledOut s ps rest ↔ ConsumesAll ps := by
  obtain ⟨client, r, offered, hw, hsent, hturn⟩ := h.turn_eq filter sampledOut hno hsimple
  constructor
  · rintro ⟨t, ht, hout, -⟩
    rw [hturn] at ht
    rcases hresp : readAndForwardResponse s.primaryReader primary client with
      ⟨n, err, ⟨r', primary'⟩, client'⟩
    simp only [hresp, Prod.mk.injEq, decide_eq_true_eq] at ht
    obtain ⟨rfl, rfl⟩ := ht
    obtain ⟨pkts, hconsumed, hforward, -⟩ := readers_agree s.primaryReader primary client
    obtain ⟨dest', hfull, hdest⟩ := hforward (by simp [hw])
    rw [hresp] at hfull
    simp only [Response.mk.injEq, Prod.mk.injEq] at hfull
    obtain ⟨hn, -, -, rfl⟩ := hfull
    have hpkts : pkts = ps.map Packet.bytes := by
      rw [hdest, hsent] at hout
      exact List.append_cancel_left hout
    apply consumesAll_of_forward h.primaryInv h.reply
    rw [hresp, hn, hconsumed.total, hpkts, flatten_map_bytes]
  · intro hall
    obtain ⟨r', primary', client', hresp, -, hrest, hout⟩ :=
      (forwardsExactly_iff h.primaryInv hw h.reply).mpr hall
    refine ⟨_, by rw [hturn, hresp]; rfl, ?_, hrest⟩
    rw [hout, hsent]

end Turn

/-- The iteration for COM_STATISTICS, COM_FIELD_LIST or COM_STMT_FETCH relays exactly the reply and
goes back to the client if and only if the reply is one that the result-set reader happens to read to
its end. -/
theorem command_reply_exact_iff {filter : Option QueryFilter} {sampledOut : ℕ → Bool} {s : LoopState}
    {cmd : List Packet} {primary : Conn} {rest : Bytes} (reply : CommandReply)
    (hcmd : getMySQLCommand (wire cmd) = (reply.command, true))
    (h : Asks s cmd primary reply.packets rest) :
    Relays filter sampledOut s reply.packets rest ↔ reply.ReadToEnd := by
  rw [← reply.consumesAll_iff]
  apply h.relays_iff
  · rw [hcmd]
    cases reply <;> rfl
  · rw [hcmd]
    cases reply <;> rfl

/-- The client has sent a command of one byte, and the primary answers everything with `ps`. -/
def sampleAsk (cmd : UInt8) (ps : List Packet) : LoopState :=
  .start (Conn.script [⟨wire [⟨0, [cmd], by simp⟩] ++ [], none⟩])
    { Conn.script [] with respond := fun _ => [⟨wire ps ++ [], none⟩] }

lemma sampleAsk_asks (cmd : UInt8) (ps : List Packet) :
    Asks (sampleAsk cmd ps) [⟨0, [cmd], by simp⟩]
      ((sampleAsk cmd ps).primary.write (wire [⟨0, [cmd], by simp⟩])).2 ps [] where
  clientInv := new_inv
  primaryInv := new_inv
  writable := rfl
  isCommand := by simp [IsCommand]
  command := ⟨[], fresh_reader_ready _⟩
  write := rfl
  reply := fresh_reader_ready _

/-- Two rows with the values 0, 8, 0 and 1, 8, 0, and no more to fetch. -/
def lastRows : CommandReply :=
  .stmtFetch [⟨1, [0, 0, 0, 8, 0], by decide⟩, ⟨2, [0, 0, 1, 8, 0], by decide⟩] (by decide)
    (.eof ⟨3, (0, 0), (0x82, 0)⟩)

theorem command_reply_exact_lastRows :
    Relays none (fun _ => false) (sampleAsk comStmtFetch lastRows.packets) lastRows.packets [] := by
  have hmore : moreResults 0x82 0 = false := by decide
  have hread : lastRows.ReadToEnd := ⟨by decide, hmore⟩
  exact (command_reply_exact_iff lastRows (by decide)
    (sampleAsk_asks comStmtFetch lastRows.packets)).mpr hread

/-- The text `Uptime: 1`. -/
def uptime : CommandReply :=
  .statistics ⟨1, [0x55, 0x70, 0x74, 0x69, 0x6D, 0x65, 0x3A, 0x20, 0x31], by simp⟩ (by simp)

def oneColumn : CommandReply :=
  .fieldList [sampleColumn] (by decide) (.eof ⟨2, (0, 0), (2, 0)⟩)

def oneRow : CommandReply :=
  .stmtFetch [⟨1, [0, 0, 7], by decide⟩] (by decide) (.eof ⟨2, (0, 0), (0x42, 0)⟩)

/-- None of the three replies is relayed as such. -/
theorem replies_not_exact :
    ¬ Relays none (fun _ => false) (sampleAsk comStatistics uptime.packets) uptime.packets [] ∧
      ¬ Relays none (fun _ => false) (sampleAsk comFieldList oneColumn.packets) oneColumn.packets [] ∧
      ¬ Relays none (fun _ => false) (sampleAsk comStmtFetch oneRow.packets) oneRow.packets [] := by
  refine ⟨?_, ?_, ?_⟩
  · rw [(sampleAsk_asks _ _).relays_iff (by decide) (by decide), uptime.consumesAll_iff]
    exact id
  · rw [(sampleAsk_asks _ _).relays_iff (by decide) (by decide), oneColumn.consumesAll_iff]
    simp [oneColumn, CommandReply.ReadToEnd]
  · rw [(sampleAsk_asks _ _).relays_iff (by decide) (by decide), oneRow.consumesAll_iff]
    rintro ⟨hrows, -⟩
    exact absurd (hrows _ (List.mem_singleton_self _)) (by decide)

end ShadowProxy.MySQLSpecialReplies
