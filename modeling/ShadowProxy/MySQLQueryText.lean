import ShadowProxy.MySQLShadowWorker

/-! The SQL text of a query that takes more than one packet. The reader hands on the packets of a
command as they came, with their headers; the request built from them takes everything behind the
first header and the command byte for SQL. -/
namespace ShadowProxy.MySQLQueryText
open WordBytes NetConn MySQLPacket MySQLPacketReader MySQLReplyStream MySQLProxyLoop
  MySQLShadowWorker QueryLog ShadowFilter

/-- The hash of a `NewQueryRequest`; `md5Hex` is the MD5 sum in hexadecimal. -/
def queryHash (md5Hex : Bytes → String) (packet : Bytes) : String :=
  if (getMySQLCommand packet).1 = comQuery ∧ 5 < packet.length then md5Hex (packet.drop 5) else ""

/-- How a payload of any length is sent: packets with `0xFFFFFF` bytes of it each, and a last one
that is shorter and may be empty. -/
structure Splits (ps : List Packet) (payload : Bytes) : Prop where
  isCommand : IsCommand (ps.map Packet.bytes)
  payload_eq : ps.flatMap Packet.payload = payload

section Splits
variable {ps : List Packet} {payload : Bytes}

/-- Every payload can be sent. -/
theorem exists_splits (payload : Bytes) : ∃ ps, Splits ps payload := by
  induction hn : payload.length using Nat.strong_induction_on generalizing payload with
  | _ n ih =>
    by_cases hlt : payload.length < 0xFFFFFF
    · refine ⟨[⟨0, payload, by omega⟩], ?_, by simp⟩
      simpa [IsCommand] using hlt
    · have htake : (payload.take 0xFFFFFF).length = 0xFFFFFF := by
        rw [List.length_take]
        omega
      obtain ⟨ps, hcmd, hps⟩ := ih (payload.drop 0xFFFFFF).length (by rw [List.length_drop]; omega)
        (payload.drop 0xFFFFFF) rfl
      refine ⟨⟨0, payload.take 0xFFFFFF, by omega⟩ :: ps, ?_, ?_⟩
      · exact isCommand_cons (by rw [payloadLen_bytes, htake]) hcmd
      · rw [List.flatMap_cons, hps]
        exact List.take_append_drop _ _

lemma Splits.length (h : Splits ps payload) :
    (wire ps).length = payload.length + 4 * ps.length := by
  obtain ⟨-, rfl⟩ := h
  induction ps with
  | nil => rfl
  | cons p ps ih =>
    rw [wire_cons, List.length_append, ih, bytes_length, List.flatMap_cons, List.length_append,
      List.length_cons]
    omega

lemma Splits.single_iff (h : Splits ps payload) : ps.length = 1 ↔ payload.length < 0xFFFFFF := by
  obtain ⟨hcmd, rfl⟩ := h
  match ps with
  | [] => exact hcmd.elim
  | [p] => simpa [IsCommand] using hcmd
  | p :: q :: ps =>
    have hp : p.payload.length = 0xFFFFFF := by
      have := hcmd.1
      rwa [payloadLen_bytes] at this
    simp only [List.length_cons, List.flatMap_cons, List.length_append, hp]
    omega

lemma Splits.wire_eq {cmd : UInt8} {text : Bytes} (h : Splits ps (cmd :: text)) :
    ∃ header tail, header.length = 4 ∧ wire ps = header ++ cmd :: tail := by
  obtain ⟨hcmd, hpay⟩ := h
  match ps, hcmd, hpay with
  | [p], _, hpay =>
    have hp : p.payload = cmd :: text := by simpa using hpay
    exact ⟨leBytes 3 p.payload.length ++ [p.seq], text, by simp, by simp [Packet.bytes, hp]⟩
  | p :: q :: ps, hcmd, hpay =>
    have hlen : p.payload.length = 0xFFFFFF := by
      have := hcmd.1
      rwa [payloadLen_bytes] at this
    obtain ⟨b, tail, hp⟩ := List.exists_cons_of_length_pos (by omega : 0 < p.payload.length)
    obtain rfl : b = cmd := by
      rw [List.flatMap_cons, hp, List.cons_append] at hpay
      exact (List.cons.inj hpay).1
    refine ⟨leBytes 3 p.payload.length ++ [p.seq], tail ++ wire (q :: ps), by simp, ?_⟩
    rw [wire_cons, Packet.bytes, hp]
    simp

variable {text : Bytes}

lemma Splits.getMySQLCommand (h : Splits ps (comQuery :: text)) :
    getMySQLCommand (wire ps) = (comQuery, true) := by
  obtain ⟨header, tail, hheader, hwire⟩ := h.wire_eq
  have hlen : ¬ (wire ps).length < 5 := by
    rw [hwire, List.length_append, hheader, List.length_cons]
    omega
  have hat : (wire ps)[4]? = some comQuery := by
    rw [hwire, List.getElem?_append_right (by omega), hheader]
    rfl
  rw [MySQLPacket.getMySQLCommand, if_neg hlen, hat]
  rfl

lemma Splits.queryText (h : Splits ps (comQuery :: text)) : queryText (wire ps) = (wire ps).drop 5 := by
  rw [MySQLProxyLoop.queryText, h.getMySQLCommand]
  split_ifs with hlong
  · rfl
  · exact (List.drop_of_length_le (by simpa using hlong)).symm

lemma Splits.queryText_eq_iff (h : Splits ps (comQuery :: text)) :
    MySQLProxyLoop.queryText (wire ps) = text ↔ text.length + 1 < 0xFFFFFF := by
  have hone := h.single_iff
  have hlen := h.length
  rw [List.length_cons] at hone hlen
  rw [h.queryText, ← hone]
  constructor
  · intro heq
    have := congrArg List.length heq
    rw [List.length_drop, hlen] at this
    omega
  · intro hps
    obtain ⟨p, rfl⟩ := List.length_eq_one_iff.mp hps
    have hp : p.payload = comQuery :: text := by simpa using h.payload_eq
    simp [Packet.bytes, hp, leBytes]

lemma queryHash_eq (md5Hex : Bytes → String) (packet : Bytes) :
    queryHash md5Hex packet =
      if MySQLProxyLoop.queryText packet = [] then "" else md5Hex (MySQLProxyLoop.queryText packet) := by
  unfold queryHash MySQLProxyLoop.queryText
  split_ifs with h hnil
  · have := congrArg List.length hnil
    rw [List.length_drop, List.length_nil] at this
    omega
  · rfl
  · rfl
  · exact absurd rfl ‹_›

end Splits

/-- However a query of any length is cut into packets and into segments on the way, the reader returns
all of its packets. The request has the SQL text if and only if one packet was enough. -/
theorem large_query_text_iff {ps : List Packet} {text later : Bytes} {r : Reader} {c : Conn}
    (h : Splits ps (comQuery :: text)) (hi : Inv r) (hr : unread r ++ c.ready = wire ps ++ later)
    (id : ℕ) (md5Hex : Bytes → String) :
    ∃ r' c', readMultiPacket r c = (.ok (wire ps), r', c') ∧
      ((newQueryRequest id (wire ps)).queryText = text ↔ text.length + 1 < 0xFFFFFF) ∧
      (text.length + 1 < 0xFFFFFF →
        queryHash md5Hex (wire ps) = (if text = [] then "" else md5Hex text) ∧
        ∀ (f : QueryFilter) sampledOut,
          f.allow sampledOut (newQueryRequest id (wire ps)).queryText = f.allow sampledOut text) := by
  obtain ⟨r', c', hread⟩ := readMultiPacket_ready hi h.isCommand hr
  refine ⟨r', c', hread, h.queryText_eq_iff, fun hshort => ?_⟩
  have htext := h.queryText_eq_iff.mpr hshort
  rw [newQueryRequest_queryText, htext]
  refine ⟨?_, fun _ _ => rfl⟩
  rw [queryHash_eq, htext]

def sampleSelect : Packet := ⟨0, comQuery :: ascii "SELECT 1", by decide⟩

theorem large_query_text_select :
    ∃ r' c', readMultiPacket newMySQLPacketReader (.script [⟨wire [sampleSelect], none⟩]) =
        (.ok (wire [sampleSelect]), r', c') ∧
      ((newQueryRequest 0 (wire [sampleSelect])).queryText = ascii "SELECT 1" ↔
        (ascii "SELECT 1").length + 1 < 0xFFFFFF) ∧
      ((ascii "SELECT 1").length + 1 < 0xFFFFFF →
        queryHash (fun _ => "md5") (wire [sampleSelect]) =
          (if ascii "SELECT 1" = [] then "" else "md5") ∧
        ∀ (f : QueryFilter) sampledOut,
          f.allow sampledOut (newQueryRequest 0 (wire [sampleSelect])).queryText =
            f.allow sampledOut (ascii "SELECT 1")) := by
  have hsplit : Splits [sampleSelect] (comQuery :: ascii "SELECT 1") :=
    ⟨by simp [IsCommand, sampleSelect]; decide, by simp [sampleSelect]⟩
  have hready : unread newMySQLPacketReader ++
      (Conn.script [⟨wire [sampleSelect], none⟩]).ready = wire [sampleSelect] ++ [] := by
    simp [readyBytes]
  exact large_query_text_iff hsplit new_inv hready 0 fun _ => "md5"

section Full
variable {text : Bytes}

lemma payload_lt_of_full (h : text.length + 1 = 0xFFFFFF) : (comQuery :: text).length < 2 ^ 24 := by
  rw [List.length_cons]
  omega

/-- A query that fills a packet, and the empty packet that must follow it. -/
def fullPackets (text : Bytes) (h : text.length + 1 = 0xFFFFFF) : List Packet :=
  [⟨0, comQuery :: text, payload_lt_of_full h⟩, ⟨1, [], Nat.two_pow_pos 24⟩]

lemma fullPackets_splits (h : text.length + 1 = 0xFFFFFF) :
    Splits (fullPackets text h) (comQuery :: text) :=
  ⟨⟨by rw [payloadLen_bytes]; exact h, by simp [IsCommand]⟩, by simp [fullPackets]⟩

/-- The header of the empty packet is taken for SQL. -/
lemma queryText_full (h : text.length + 1 = 0xFFFFFF) :
    queryText (wire (fullPackets text h)) = text ++ [0, 0, 0, 1] := by
  rw [(fullPackets_splits h).queryText]
  simp [fullPackets, Packet.bytes, leBytes]

/-- Excludes what ends in an `a`. -/
def endFilter : QueryFilter := ⟨.excludeMode, [], [fun t => t.getLast? = some 0x61], id⟩

lemma endFilter_allow (hne : text ≠ []) :
    endFilter.allow false text = if text.getLast? = some 0x61 then (false, .pattern) else (true, .none) := by
  by_cases h : text.getLast? = some 0x61 <;>
    simp [endFilter, QueryFilter.allow, QueryFilter.passesFilter, QueryFilter.matchExclude,
      QueryFilter.matchAnyPattern, hne, h]

lemma endFilter_full (hlast : text.getLast? = some 0x61) (h : text.length + 1 = 0xFFFFFF) :
    Splits (fullPackets text h) (comQuery :: text) ∧
      (newQueryRequest 0 (wire (fullPackets text h))).queryText = text ++ [0, 0, 0, 1] ∧
      endFilter.allow false text = (false, .pattern) ∧
      endFilter.allow false (newQueryRequest 0 (wire (fullPackets text h))).queryText = (true, .none) := by
  have hne : text ≠ [] := by
    rintro rfl
    cases hlast
  have htext := (newQueryRequest_queryText 0 (wire (fullPackets text h))).trans (queryText_full h)
  refine ⟨fullPackets_splits h, htext, ?_, ?_⟩
  · rw [endFilter_allow hne, if_pos hlast]
  · rw [htext, endFilter_allow (by simp)]
    simp

lemma length_replicate_full : (List.replicate 0xFFFFFE (0x61 : UInt8)).length + 1 = 0xFFFFFF := by
  rw [List.length_replicate]

/-- The text is `a` as often as it takes to fill a packet together with the command byte. -/
theorem full_packet_query :
    let text : Bytes := List.replicate 0xFFFFFE 0x61
    let ps := fullPackets text length_replicate_full
    Splits ps (comQuery :: text) ∧ (newQueryRequest 0 (wire ps)).queryText = text ++ [0, 0, 0, 1] ∧
      endFilter.allow false text = (false, .pattern) ∧
      endFilter.allow false (newQueryRequest 0 (wire ps)).queryText = (true, .none) := by
  have hlast : (List.replicate 0xFFFFFE (0x61 : UInt8)).getLast? = some 0x61 := by
    rw [List.getLast?_replicate, if_neg (by decide)]
  exact endFilter_full hlast length_replicate_full

end Full

end ShadowProxy.MySQLQueryText
