import ShadowProxy.MySQLReplyStream

/-! The grammar of replies to COM_QUERY and cursor-less COM_STMT_EXECUTE, and what the
reply readers do with a reply of that grammar and with one the server breaks off. -/
namespace ShadowProxy.MySQLReply
open WordBytes NetConn MySQLPacket MySQLPacketReader MySQLResponse MySQLReplyStream

/-- `LenEnc n e`: the bytes `e` are a length-encoded integer of value `n`. -/
inductive LenEnc : ℕ → Bytes → Prop
  | one (b : UInt8) (h : b.toNat < 0xFB) : LenEnc b.toNat [b]
  | two (b₀ b₁ : UInt8) : LenEnc (leNat [b₀, b₁]) [0xFC, b₀, b₁]
  | three (b₀ b₁ b₂ : UInt8) : LenEnc (leNat [b₀, b₁, b₂]) [0xFD, b₀, b₁, b₂]
  | eight (bs : Bytes) (h : bs.length = 8) : LenEnc (leNat bs) (0xFE :: bs)

theorem LenEnc.size {n : ℕ} {e : Bytes} (h : LenEnc n e) (rest : Bytes) :
    lenencIntSize (e ++ rest) = e.length := by
  cases h with
  | one b hb =>
    have h1 : b ≠ 0xFC := by rintro rfl; simp at hb
    have h2 : b ≠ 0xFD := by rintro rfl; simp at hb
    have h3 : b ≠ 0xFE := by rintro rfl; simp at hb
    simp [lenencIntSize, h1, h2, h3]
  | two => simp [lenencIntSize]
  | three => simp [lenencIntSize]
  | eight bs hb => simp [lenencIntSize, hb]

theorem LenEnc.value {n : ℕ} {e : Bytes} (h : LenEnc n e) (rest : Bytes) :
    readLengthEncodedInt (e ++ rest) = n := by
  cases h with
  | one b hb =>
    have h1 : b ≠ 0xFC := by rintro rfl; simp at hb
    have h2 : b ≠ 0xFD := by rintro rfl; simp at hb
    have h3 : b ≠ 0xFE := by rintro rfl; simp at hb
    simp [readLengthEncodedInt, h1, h2, h3]
  | two => simp [readLengthEncodedInt]
  | three => simp [readLengthEncodedInt]
  | eight bs hb =>
    have ht : (bs ++ rest).take 8 = bs := by
      rw [← hb, List.take_left]
    simp [readLengthEncodedInt, ht, hb]

/-- An OK packet; `more` is its SERVER_MORE_RESULTS_EXISTS bit. -/
def IsOK (more : Bool) (p : Packet) : Prop :=
  ∃ affected insertId e₁ e₂ s₀ s₁ tail, LenEnc affected e₁ ∧ LenEnc insertId e₂ ∧
    p.payload = 0x00 :: (e₁ ++ (e₂ ++ s₀ :: s₁ :: tail)) ∧ moreResults s₀ s₁ = more

def IsEOF (more : Bool) (p : Packet) : Prop :=
  ∃ w₀ w₁ s₀ s₁, p.payload = [0xFE, w₀, w₁, s₀, s₁] ∧ moreResults s₀ s₁ = more

def IsERR (p : Packet) : Prop := p.payload.head? = some 0xFF

def IsLocalInfile (p : Packet) : Prop := p.payload.head? = some 0xFB

/-- The packet that opens a result set with `n` columns. -/
def IsColumnCount (n : ℕ) (p : Packet) : Prop :=
  ∃ b e tail, LenEnc n (b :: e) ∧ p.payload = b :: (e ++ tail) ∧
    b ≠ 0x00 ∧ b ≠ 0xFB ∧ b ≠ 0xFE ∧ b ≠ 0xFF

def IsRow (p : Packet) : Prop :=
  p.payload.head? ≠ some 0xFF ∧ ¬ (p.payload.head? = some 0xFE ∧ p.payload.length < 9)

/-- One unit of a reply; `more` says whether it announces another one. -/
inductive ReplyUnit : Bool → List Packet → Prop
  | ok {more : Bool} {p : Packet} (h : IsOK more p) : ReplyUnit more [p]
  | err {p : Packet} (h : IsERR p) : ReplyUnit false [p]
  | localInfile {p : Packet} (h : IsLocalInfile p) : ReplyUnit false [p]
  | resultSet {more flag : Bool} {count mid last : Packet} {cols rows : List Packet}
      (hcount : IsColumnCount cols.length count) (hcols : 1 ≤ cols.length)
      (hmid : IsEOF flag mid) (hrows : ∀ row ∈ rows, IsRow row) (hlast : IsEOF more last) :
      ReplyUnit more (count :: (cols ++ mid :: (rows ++ [last])))

inductive Reply : List Packet → Prop
  | last {ps : List Packet} (h : ReplyUnit false ps) : Reply ps
  | more {ps qs : List Packet} (h : ReplyUnit true ps) (hqs : Reply qs) : Reply (ps ++ qs)

/-- A reply whose last result set the server breaks off with an ERR packet. -/
inductive AbortedReply : List Packet → Prop
  | resultSet {flag : Bool} {count mid err : Packet} {cols rows : List Packet}
      (hcount : IsColumnCount cols.length count) (hcols : 1 ≤ cols.length)
      (hmid : IsEOF flag mid) (hrows : ∀ row ∈ rows, IsRow row) (herr : IsERR err) :
      AbortedReply (count :: (cols ++ mid :: (rows ++ [err])))
  | more {ps qs : List Packet} (h : ReplyUnit true ps) (hqs : AbortedReply qs) :
      AbortedReply (ps ++ qs)

theorem bytes_eq_cons (p : Packet) :
    ∃ l₀ l₁ l₂, p.bytes = l₀ :: l₁ :: l₂ :: p.seq :: p.payload :=
  ⟨_, _, _, rfl⟩

theorem isRowsEnd_bytes (p : Packet) :
    isRowsEnd p.bytes = true ↔ p.payload.head? = some 0xFE ∧ p.payload.length < 9 := by
  unfold isRowsEnd
  rw [payloadLen_bytes]
  obtain ⟨l₀, l₁, l₂, hp⟩ := bytes_eq_cons p
  rw [hp]
  cases p.payload with
  | nil => simp
  | cons b t => simp

theorem isOKMarker_bytes (p : Packet) :
    isOKMarker p.bytes = true ↔ p.payload.head? = some 0x00 := by
  obtain ⟨l₀, l₁, l₂, hp⟩ := bytes_eq_cons p
  rw [isOKMarker, hp]
  cases p.payload with
  | nil => simp
  | cons b t => simp

theorem IsEOF.check {more : Bool} {p : Packet} (h : IsEOF more p) :
    checkMoreResultsInEOFPacket p.bytes = more := by
  obtain ⟨w₀, w₁, s₀, s₁, hp, hm⟩ := h
  obtain ⟨l₀, l₁, l₂, hb⟩ := bytes_eq_cons p
  rw [hb, hp]
  simpa [checkMoreResultsInEOFPacket] using hm

theorem IsEOF.isRowsEnd {more : Bool} {p : Packet} (h : IsEOF more p) :
    MySQLResponse.isRowsEnd p.bytes = true := by
  obtain ⟨w₀, w₁, s₀, s₁, hp, -⟩ := h
  rw [isRowsEnd_bytes, hp]
  simp

theorem IsEOF.not_okMarker {more : Bool} {p : Packet} (h : IsEOF more p) :
    ¬ isOKMarker p.bytes = true := by
  obtain ⟨w₀, w₁, s₀, s₁, hp, -⟩ := h
  rw [isOKMarker_bytes, hp]
  simp

theorem IsRow.not_rowsEnd {p : Packet} (h : IsRow p) : ¬ isRowsEnd p.bytes = true := by
  rw [isRowsEnd_bytes]
  exact h.2

theorem IsERR.not_rowsEnd {p : Packet} (h : IsERR p) : ¬ isRowsEnd p.bytes = true := by
  rw [isRowsEnd_bytes, show p.payload.head? = some 0xFF from h]
  simp

theorem IsOK.check {more : Bool} {p : Packet} (h : IsOK more p) :
    checkMoreResultsInOKPacket p.bytes = more := by
  obtain ⟨a, i, e₁, e₂, s₀, s₁, tail, h₁, h₂, hp, hm⟩ := h
  obtain ⟨l₀, l₁, l₂, hb⟩ := bytes_eq_cons p
  rw [hp] at hb
  have hcheck := checkMoreResultsInOKPacket_of_sizes tail (show [l₀, l₁, l₂, p.seq, 0x00].length = 5 from rfl)
    (h₁.size (e₂ ++ s₀ :: s₁ :: tail)) (h₂.size (s₀ :: s₁ :: tail))
  rw [hb, ← hm]
  exact hcheck

section Unit
variable {S : Type*} (relay : String → S → Except Err Bytes × S) (fuel : ℕ) (s : S) (total : ℕ)

theorem readUnit_okMarker {p : Packet} (h : p.payload.head? = some 0x00) :
    readUnit relay fuel p.bytes s total =
      (checkMoreResultsInOKPacket p.bytes, ⟨total, none, s⟩) := by
  obtain ⟨l₀, l₁, l₂, hp⟩ := bytes_eq_cons p
  obtain ⟨t, ht⟩ := List.head?_eq_some_iff.mp h
  rw [hp, ht]
  simp [readUnit]

theorem readUnit_ok {more : Bool} {p : Packet} (h : IsOK more p) :
    readUnit relay fuel p.bytes s total = (more, ⟨total, none, s⟩) := by
  have hhead : p.payload.head? = some 0x00 := by
    obtain ⟨a, i, e₁, e₂, s₀, s₁, tail, -, -, hp, -⟩ := h
    rw [hp, List.head?_cons]
  rw [readUnit_okMarker _ _ _ _ hhead, h.check]

/-- ERR and LOCAL INFILE packets end the reply. -/
theorem readUnit_final {p : Packet} {b : UInt8} (h : p.payload.head? = some b)
    (hb : b = 0xFF ∨ b = 0xFB) :
    readUnit relay fuel p.bytes s total = (false, ⟨total, none, s⟩) := by
  obtain ⟨l₀, l₁, l₂, hp⟩ := bytes_eq_cons p
  obtain ⟨t, ht⟩ := List.head?_eq_some_iff.mp h
  rw [hp, ht]
  rcases hb with rfl | rfl <;> simp [readUnit]

theorem readUnit_eof {more : Bool} {p : Packet} (h : IsEOF more p) :
    readUnit relay fuel p.bytes s total = (more, ⟨total, none, s⟩) := by
  have hcheck := h.check
  obtain ⟨w₀, w₁, s₀, s₁, hp, -⟩ := h
  obtain ⟨l₀, l₁, l₂, hb⟩ := bytes_eq_cons p
  rw [hb, hp] at hcheck ⊢
  simp [readUnit, hcheck]

theorem readUnit_count {n : ℕ} {p : Packet} (h : IsColumnCount n p) :
    readUnit relay fuel p.bytes s total = readResultSet relay fuel n s total := by
  obtain ⟨b, e, tail, he, hp, h0, h1, h2, h3⟩ := h
  obtain ⟨l₀, l₁, l₂, hb⟩ := bytes_eq_cons p
  have hv := he.value tail
  rw [List.cons_append] at hv
  rw [hb, hp]
  simp [readUnit, h0, h1, h2, h3, hv]

end Unit

section Feeds
variable {S : Type*} {f : String → S → Except Err Bytes × S} {s s' : S}

theorem readColumns_feeds {cols : List Packet} (h : Feeds f s (cols.map Packet.bytes) s')
    (total : ℕ) :
    readColumns f cols.length s total = ⟨total + (wire cols).length, none, s'⟩ := by
  induction cols generalizing s total with
  | nil =>
    cases h
    simp [readColumns]
  | cons p ps ih =>
    obtain ⟨s₁, hf, hs⟩ := h
    simp only [List.length_cons, readColumns, hf, ih hs, wire_cons, List.length_append,
      Nat.add_assoc]

/-- Rows are passed over one by one. -/
theorem rowLoop_feeds {rows : List Packet} (hrows : ∀ row ∈ rows, ¬ isRowsEnd row.bytes = true)
    (h : Feeds f s (rows.map Packet.bytes) s') (fuel total : ℕ) :
    rowLoop f (rows.length + fuel) s total = rowLoop f fuel s' (total + (wire rows).length) := by
  induction rows generalizing s total with
  | nil =>
    cases h
    simp
  | cons p ps ih =>
    obtain ⟨s₁, hf, hs⟩ := h
    rw [List.length_cons, show ps.length + 1 + fuel = ps.length + fuel + 1 by omega]
    simp only [rowLoop, hf]
    rw [if_neg (hrows p (by simp)), ih (fun row hr => hrows row (by simp [hr])) hs, wire_cons,
      List.length_append, Nat.add_assoc]

/-- One round of the outer loop: the next unit of the reply, after `total` bytes. -/
def nextUnit (relay : String → S → Except Err Bytes × S) (fuel : ℕ) (s : S) (total : ℕ) :
    Bool × Response S :=
  match relay "failed to forward packet" s with
  | (.error e, s) => (false, ⟨total, some e, s⟩)
  | (.ok packet, s) => readUnit relay fuel packet s (total + packet.length)

theorem responseLoop_nextUnit (fuel : ℕ) (s : S) (total : ℕ) :
    responseLoop f (fuel + 1) s total =
      match nextUnit f fuel s total with
      | (true, ⟨total, none, s⟩) => responseLoop f fuel s total
      | (_, response) => response := by
  rw [responseLoop, nextUnit]
  rcases f "failed to forward packet" s with ⟨e | p, s₁⟩ <;> rfl

section ResultSet
variable {count mid : Packet} {cols rows : List Packet}
  (hcount : IsColumnCount cols.length count) (hmid : ¬ isOKMarker mid.bytes = true)
  (hrows : ∀ row ∈ rows, ¬ isRowsEnd row.bytes = true)
include hcount hmid hrows

/-- A result set up to any of its rows: the reader is then inside the row loop. -/
theorem nextUnit_rows
    (h : Feeds f s ((count :: (cols ++ mid :: rows)).map Packet.bytes) s') (fuel total : ℕ) :
    nextUnit f (rows.length + fuel) s total =
      rowLoop f fuel s' (total + (wire (count :: (cols ++ mid :: rows))).length) := by
  rw [List.map_cons, List.map_append, List.map_cons] at h
  obtain ⟨s₁, hf₁, h₁⟩ := h
  obtain ⟨s₂, hcols, s₃, hf₃, hrs⟩ := feeds_append.mp h₁
  rw [nextUnit, hf₁]
  dsimp only
  rw [readUnit_count _ _ _ _ hcount]
  simp only [readResultSet, readColumns_feeds hcols, hf₃]
  rw [if_neg hmid, rowLoop_feeds hrows hrs]
  simp only [wire_cons, wire_append, List.length_append, Nat.add_assoc]

theorem responseLoop_rows
    (h : Feeds f s ((count :: (cols ++ mid :: rows)).map Packet.bytes) s') (fuel total : ℕ) :
    responseLoop f (rows.length + fuel + 1) s total =
      match rowLoop f fuel s' (total + (wire (count :: (cols ++ mid :: rows))).length) with
      | (true, ⟨total, none, s⟩) => responseLoop f (rows.length + fuel) s total
      | (_, response) => response := by
  rw [responseLoop_nextUnit, nextUnit_rows hcount hmid hrows h]

theorem responseLoop_resultSet {more : Bool} {last : Packet} (hlast : IsEOF more last)
    (h : Feeds f s ((count :: (cols ++ mid :: rows) ++ [last]).map Packet.bytes) s')
    (fuel total : ℕ) (hf : rows.length + 1 ≤ fuel) :
    responseLoop f (fuel + 1) s total =
      if more then
        responseLoop f fuel s' (total + (wire (count :: (cols ++ mid :: rows) ++ [last])).length)
      else ⟨total + (wire (count :: (cols ++ mid :: rows) ++ [last])).length, none, s'⟩ := by
  rw [List.map_append] at h
  obtain ⟨s₁, h₁, s₂, hf₂, rfl⟩ := feeds_append.mp h
  obtain ⟨k, rfl⟩ : ∃ k, fuel = rows.length + (k + 1) := ⟨fuel - rows.length - 1, by omega⟩
  rw [responseLoop_rows hcount hmid hrows h₁, rowLoop, hf₂, wire_append]
  simp only [hlast.isRowsEnd, if_true, hlast.check, wire_cons, wire_nil, List.append_nil,
    List.length_append, ← Nat.add_assoc]
  cases more <;> rfl

end ResultSet

theorem responseLoop_single {p : Packet} {more : Bool} (h : Feeds f s [p.bytes] s')
    (fuel total : ℕ) (hu : ∀ t, readUnit f fuel p.bytes s' t = (more, ⟨t, none, s'⟩)) :
    responseLoop f (fuel + 1) s total =
      if more then responseLoop f fuel s' (total + (wire [p]).length)
      else ⟨total + (wire [p]).length, none, s'⟩ := by
  obtain ⟨s₁, hf, rfl⟩ := h
  rw [responseLoop, hf]
  simp only [hu, wire_cons, wire_nil, List.append_nil]
  cases more <;> rfl

theorem ReplyUnit.length_pos {more : Bool} {ps : List Packet} (h : ReplyUnit more ps) :
    1 ≤ ps.length := by
  cases h <;> simp

/-- The outer loop takes one unit and goes on exactly when the unit announces another. -/
theorem responseLoop_unit {more : Bool} {ps : List Packet} (hu : ReplyUnit more ps)
    (h : Feeds f s (ps.map Packet.bytes) s') (fuel total : ℕ) (hf : ps.length ≤ fuel + 1) :
    responseLoop f (fuel + 1) s total =
      if more then responseLoop f fuel s' (total + (wire ps).length)
      else ⟨total + (wire ps).length, none, s'⟩ := by
  cases hu with
  | ok hp => exact responseLoop_single h fuel total fun t => readUnit_ok _ _ _ _ hp
  | err hp => exact responseLoop_single h fuel total fun t => readUnit_final _ _ _ _ hp (Or.inl rfl)
  | localInfile hp =>
    exact responseLoop_single h fuel total fun t => readUnit_final _ _ _ _ hp (Or.inr rfl)
  | @resultSet _ flag count mid last cols rows hcount hcols hmid hrows hlast =>
    have hsplit : count :: (cols ++ mid :: (rows ++ [last])) =
        count :: (cols ++ mid :: rows) ++ [last] := by simp
    simp only [List.length_cons, List.length_append, List.length_nil] at hf
    rw [hsplit] at h ⊢
    exact responseLoop_resultSet hcount hmid.not_okMarker (fun row hr => (hrows row hr).not_rowsEnd)
      hlast h fuel total (by omega)

theorem responseLoop_reply {ps : List Packet} (hps : Reply ps)
    (h : Feeds f s (ps.map Packet.bytes) s') (fuel total : ℕ) (hf : ps.length ≤ fuel) :
    responseLoop f fuel s total = ⟨total + (wire ps).length, none, s'⟩ := by
  induction hps generalizing s fuel total with
  | last hu =>
    have := hu.length_pos
    obtain ⟨k, rfl⟩ : ∃ k, fuel = k + 1 := ⟨fuel - 1, by omega⟩
    simp [responseLoop_unit hu h k total hf]
  | @more ps qs hu hqs ih =>
    have := hu.length_pos
    rw [List.length_append] at hf
    rw [List.map_append] at h
    obtain ⟨s₁, h₁, h₂⟩ := feeds_append.mp h
    obtain ⟨k, rfl⟩ : ∃ k, fuel = k + 1 := ⟨fuel - 1, by omega⟩
    rw [responseLoop_unit hu h₁ k total (by omega), if_pos rfl, ih h₂ k _ (by omega), wire_append,
      List.length_append, Nat.add_assoc]

/-- After the ERR packet of a broken-off result set the reader is still in its row loop. -/
theorem responseLoop_aborted {ps : List Packet} (hps : AbortedReply ps)
    (h : Feeds f s (ps.map Packet.bytes) s') (fuel total : ℕ) (hf : ps.length ≤ fuel) :
    ∃ k j, responseLoop f fuel s total =
      match rowLoop f (k + 1) s' (total + (wire ps).length) with
      | (true, ⟨total, none, s⟩) => responseLoop f j s total
      | (_, response) => response := by
  induction hps generalizing s fuel total with
  | @resultSet flag count mid err cols rows hcount hcols hmid hrows herr =>
    simp only [List.length_cons, List.length_append, List.length_nil] at hf
    obtain ⟨k, rfl⟩ : ∃ k, fuel = (rows ++ [err]).length + (k + 1) + 1 :=
      ⟨fuel - rows.length - 3, by simp only [List.length_append, List.length_singleton]; omega⟩
    have hrows' : ∀ row ∈ rows ++ [err], ¬ isRowsEnd row.bytes = true := by
      intro row hrow
      rcases List.mem_append.mp hrow with hr | hr
      · exact (hrows row hr).not_rowsEnd
      · rw [List.mem_singleton.mp hr]
        exact herr.not_rowsEnd
    exact ⟨k, _, responseLoop_rows hcount hmid.not_okMarker hrows' h (k + 1) total⟩
  | @more ps qs hu hqs ih =>
    have := hu.length_pos
    rw [List.length_append] at hf
    rw [List.map_append] at h
    obtain ⟨s₁, h₁, h₂⟩ := feeds_append.mp h
    obtain ⟨k, rfl⟩ : ∃ k, fuel = k + 1 := ⟨fuel - 1, by omega⟩
    rw [responseLoop_unit hu h₁ k total (by omega), if_pos rfl, wire_append, List.length_append,
      ← Nat.add_assoc]
    exact ih h₂ k _ (by omega)

end Feeds

theorem Reply.consumesAll {ps : List Packet} (h : Reply ps) : ConsumesAll ps := by
  have hr := responseLoop_reply h (listRelay_feeds _ []) ps.length 0 le_rfl
  rwa [List.append_nil, Nat.zero_add] at hr

theorem AbortedReply.not_consumesAll {ps : List Packet} (h : AbortedReply ps) :
    ¬ ConsumesAll ps := by
  intro hc
  obtain ⟨k, j, hrun⟩ := responseLoop_aborted h (listRelay_feeds _ []) ps.length 0 le_rfl
  rw [List.append_nil, hc] at hrun
  simp [rowLoop, listRelay] at hrun

/-- If another packet follows the ERR packet, the row loop takes it as well. -/
theorem responseLoop_overrun {S : Type*} {f : String → S → Except Err Bytes × S} {s s' : S}
    {ps : List Packet} {q : Packet} (hps : AbortedReply ps)
    (h : Feeds f s ((ps ++ [q]).map Packet.bytes) s') (fuel : ℕ) (hf : ps.length ≤ fuel) :
    (wire (ps ++ [q])).length ≤ (responseLoop f fuel s 0).total := by
  rw [List.map_append] at h
  obtain ⟨s₁, h₁, s₂, hq, rfl⟩ := feeds_append.mp h
  obtain ⟨k, j, hrun⟩ := responseLoop_aborted hps h₁ fuel 0 hf
  have hrow : (wire (ps ++ [q])).length ≤
      (rowLoop f (k + 1) s₁ (0 + (wire ps).length)).2.total := by
    rw [rowLoop, hq]
    simp only [wire_append, wire_cons, wire_nil, List.append_nil, List.length_append, Nat.zero_add]
    split_ifs
    · exact le_rfl
    · exact rowLoop_total_le f k s₂ _
  rw [hrun]
  rcases hrows : rowLoop f (k + 1) s₁ (0 + (wire ps).length) with ⟨_ | _, t, _ | e, s₃⟩
  all_goals rw [hrows] at hrow
  · exact hrow
  · exact hrow
  · exact hrow.trans (responseLoop_total_le f j s₃ t)
  · exact hrow

def sampleColumnCount : Packet := ⟨1, [1], by decide⟩

def sampleColumn : Packet := ⟨2, [3, 100, 101, 102, 0], by decide⟩

def sampleEOF (seq status : UInt8) : Packet := ⟨seq, [0xFE, 0, 0, status, 0], by simp⟩

def sampleRow : Packet := ⟨4, [1, 55], by decide⟩

def sampleOK : Packet := ⟨6, [0, 1, 0, 2, 0, 0, 0], by decide⟩

def sampleERR : Packet := ⟨5, [0xFF, 37, 5], by decide⟩

/-- A result set of one row that announces a second result, and an OK packet. -/
def sampleReply : List Packet :=
  (sampleColumnCount :: ([sampleColumn] ++ sampleEOF 3 2 :: ([sampleRow] ++ [sampleEOF 5 10]))) ++
    [sampleOK]

def sampleAborted : List Packet :=
  sampleColumnCount :: ([sampleColumn] ++ sampleEOF 3 2 :: ([sampleRow] ++ [sampleERR]))

theorem sampleColumnCount_isColumnCount : IsColumnCount 1 sampleColumnCount :=
  ⟨1, [], [], LenEnc.one 1 (by decide), rfl, by decide, by decide, by decide, by decide⟩

theorem sampleEOF_isEOF (seq status : UInt8) :
    IsEOF (moreResults status 0) (sampleEOF seq status) :=
  ⟨0, 0, status, 0, rfl, rfl⟩

theorem sampleRow_isRow : ∀ row ∈ [sampleRow], IsRow row := by
  simp [IsRow, sampleRow]

lemma sampleOK_reply : Reply [sampleOK] :=
  Reply.last (ReplyUnit.ok ⟨1, 0, [1], [0], 2, 0, [0, 0], LenEnc.one 1 (by decide),
      LenEnc.one 0 (by decide), rfl, by decide⟩)

theorem sampleReply_reply : Reply sampleReply := by
  apply Reply.more
  · exact ReplyUnit.resultSet sampleColumnCount_isColumnCount le_rfl (sampleEOF_isEOF 3 2)
      sampleRow_isRow (sampleEOF_isEOF 5 10)
  · exact sampleOK_reply

theorem sampleAborted_aborted : AbortedReply sampleAborted :=
  AbortedReply.resultSet sampleColumnCount_isColumnCount le_rfl (sampleEOF_isEOF 3 2)
    sampleRow_isRow rfl

theorem fresh_reader_ready (bs : Bytes) :
    unread newMySQLPacketReader ++ (Conn.script [⟨bs, none⟩]).ready = bs := by
  simp [readyBytes]

section Readers
variable {ps : List Packet} {r : Reader} {c : Conn} {rest : Bytes}

theorem AbortedReply.forward_endless (hps : AbortedReply ps) (hr : Inv r)
    (hf : unread r ++ c.ready = wire ps ++ rest) (dest : Conn) (s : (Reader × Conn) × Conn) :
    readAndForwardResponse r c dest ≠ ⟨(wire ps).length, none, s⟩ :=
  fun h => hps.not_consumesAll (consumesAll_of_forward hr hf h)

theorem AbortedReply.read_endless (hps : AbortedReply ps) (hr : Inv r)
    (hf : unread r ++ c.ready = wire ps ++ rest) (s : Reader × Conn) :
    readFullResponse r c ≠ ⟨(wire ps).length, none, s⟩ := by
  have hR : ReadyAt rest (r, c) (ps.map Packet.bytes) := ⟨hr, ps, rfl, hf⟩
  intro h
  rw [readFullResponse_eq] at h
  exact hps.not_consumesAll (consumesAll_of_run hR (fun qs hd => ⟨_, hd⟩) h)

theorem AbortedReply.forward_takes_next {q : Packet} {dest : Conn} (hps : AbortedReply ps)
    (hr : Inv r) (hd : dest.writable = none)
    (hf : unread r ++ c.ready = wire ps ++ (q.bytes ++ rest)) :
    (wire (ps ++ [q])).length ≤ (readAndForwardResponse r c dest).total := by
  have hf' : unread r ++ c.ready = wire (ps ++ [q]) ++ rest := by simp [hf]
  have hfuel := available_enough hr hf
  rw [List.length_map] at hfuel
  obtain ⟨s', hs, -⟩ := forwardRelay_feeds (s := ((r, c), dest)) ⟨⟨hr, _, rfl, hf'⟩, hd, rfl⟩
  rw [readAndForwardResponse_eq]
  exact responseLoop_overrun hps hs _ hfuel

theorem AbortedReply.read_takes_next {q : Packet} (hps : AbortedReply ps) (hr : Inv r)
    (hf : unread r ++ c.ready = wire ps ++ (q.bytes ++ rest)) :
    (wire (ps ++ [q])).length ≤ (readFullResponse r c).total := by
  have hf' : unread r ++ c.ready = wire (ps ++ [q]) ++ rest := by simp [hf]
  have hfuel := available_enough hr hf
  rw [List.length_map] at hfuel
  obtain ⟨s', hs, -⟩ := readRelay_feeds (s := (r, c)) ⟨hr, _, rfl, hf'⟩
  rw [readFullResponse_eq]
  exact responseLoop_overrun hps hs _ hfuel

/-- Every well-formed reply in front of the reader is forwarded packet by packet, and the
reader stops at the first byte behind it, whatever that byte is. -/
theorem readAndForwardResponse_reply {dest : Conn} (hps : Reply ps) (hr : Inv r)
    (hd : dest.writable = none) (hf : unread r ++ c.ready = wire ps ++ rest) :
    ForwardsExactly r c dest ps rest :=
  (forwardsExactly_iff hr hd hf).mpr hps.consumesAll

theorem readAndForwardResponse_sampleReply :
    Reply sampleReply ∧ ForwardsExactly newMySQLPacketReader
      (Conn.script [⟨wire sampleReply ++ [7, 0, 0], none⟩]) (Conn.script []) sampleReply [7, 0, 0] :=
  ⟨sampleReply_reply, readAndForwardResponse_reply sampleReply_reply new_inv rfl
    (fresh_reader_ready _)⟩

/-- Neither reader stops at the ERR packet that breaks off a result set, and each takes the
packet behind it for one more row. -/
theorem aborted_reply_overrun (hps : AbortedReply ps) (hr : Inv r)
    (hf : unread r ++ c.ready = wire ps ++ rest) :
    (∀ dest s, readAndForwardResponse r c dest ≠ ⟨(wire ps).length, none, s⟩) ∧
      (∀ s, readFullResponse r c ≠ ⟨(wire ps).length, none, s⟩) ∧
      ∀ (q : Packet) (rest' : Bytes), rest = q.bytes ++ rest' →
        (∀ dest : Conn, dest.writable = none →
          (wire (ps ++ [q])).length ≤ (readAndForwardResponse r c dest).total) ∧
        (wire (ps ++ [q])).length ≤ (readFullResponse r c).total := by
  refine ⟨hps.forward_endless hr hf, hps.read_endless hr hf, ?_⟩
  rintro q rest' rfl
  exact ⟨fun dest hd => hps.forward_takes_next hr hd hf, hps.read_takes_next hr hf⟩

theorem aborted_reply_overrun_sampleAborted :
    AbortedReply sampleAborted ∧
      (wire (sampleAborted ++ [sampleOK])).length ≤
        (readAndForwardResponse newMySQLPacketReader
          (Conn.script [⟨wire sampleAborted ++ sampleOK.bytes, none⟩]) (Conn.script [])).total :=
  ⟨sampleAborted_aborted, ((aborted_reply_overrun sampleAborted_aborted new_inv
    (fresh_reader_ready _)).2.2 sampleOK [] (List.append_nil _).symm).1 _ rfl⟩

/-- The packet behind the ERR packet is read as part of the same reply. -/
theorem sampleAborted_overrun :
    AbortedReply sampleAborted ∧
      (∀ s, readAndForwardResponse newMySQLPacketReader
        (Conn.script [⟨wire sampleAborted ++ (sampleOK.bytes ++ []), none⟩]) (Conn.script []) ≠
          ⟨(wire sampleAborted).length, none, s⟩) ∧
      (wire sampleAborted).length < (readFullResponse newMySQLPacketReader
        (Conn.script [⟨wire sampleAborted ++ (sampleOK.bytes ++ []), none⟩])).total := by
  have hf := fresh_reader_ready (wire sampleAborted ++ (sampleOK.bytes ++ []))
  refine ⟨sampleAborted_aborted, sampleAborted_aborted.forward_endless new_inv hf _, ?_⟩
  have hnext := sampleAborted_aborted.read_takes_next new_inv hf
  have hlen : (wire sampleAborted).length < (wire (sampleAborted ++ [sampleOK])).length := by
    rw [wire_append, List.length_append]
    simp
  omega

end Readers

end ShadowProxy.MySQLReply
