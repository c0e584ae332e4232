import ShadowProxy.Dialogue
import ShadowProxy.MySQLPacketReader

/-! Reading one server reply off a packet source. `ReadFullResponse` discards the packets
and `ReadAndForwardResponse` writes each of them to the client as it is read. The source has
two copies of one nest of loops, and so has this module (`readFullLoop`, `forwardLoop`); each
copy is then shown to be `responseLoop` over the relay that delivers its packets. -/
namespace ShadowProxy.MySQLResponse
open WordBytes Dialogue NetConn MySQLPacket MySQLPacketReader

def serverMoreResultsExist : UInt16 := 0x0008

def moreResults (lo hi : UInt8) : Bool := uint16LE lo hi &&& serverMoreResultsExist ≠ 0

def checkMoreResultsInEOFPacket (pkt : Bytes) : Bool :=
  if h : pkt.length < 9 then false else moreResults pkt[7] pkt[8]

/-- Size of the length-encoded integer at the start of `buf`. -/
def lenencIntSize (buf : Bytes) : ℕ :=
  match buf with
  | [] => 0
  | b :: _ => if b = 0xFC then 3 else if b = 0xFD then 4 else if b = 0xFE then 9 else 1

def readLengthEncodedInt (buf : Bytes) : ℕ :=
  match buf with
  | [] => 0
  | b :: rest =>
    if b = 0xFC then if 3 ≤ buf.length then leNat (rest.take 2) else 0
    else if b = 0xFD then if 4 ≤ buf.length then leNat (rest.take 3) else 0
    else if b = 0xFE then if 9 ≤ buf.length then leNat (rest.take 8) else 0
    else b.toNat

/-- The status flags follow the marker and two length-encoded integers. -/
def checkMoreResultsInOKPacket (pkt : Bytes) : Bool :=
  if pkt.length < 7 then false
  else
    let pos := 5 + lenencIntSize (pkt.drop 5)
    if pkt.length ≤ pos then false
    else
      let pos := pos + lenencIntSize (pkt.drop pos)
      if h : pkt.length < pos + 2 then false else moreResults pkt[pos] pkt[pos + 1]

lemma checkMoreResultsInOKPacket_of_sizes {head a b : Bytes} {lo hi : UInt8} (tail : Bytes)
    (hhead : head.length = 5)
    (ha : lenencIntSize (a ++ (b ++ lo :: hi :: tail)) = a.length)
    (hb : lenencIntSize (b ++ lo :: hi :: tail) = b.length) :
    checkMoreResultsInOKPacket (head ++ (a ++ (b ++ lo :: hi :: tail))) = moreResults lo hi := by
  generalize hpkt : head ++ (a ++ (b ++ lo :: hi :: tail)) = pkt
  have hlen : pkt.length = 5 + a.length + b.length + 2 + tail.length := by
    simp only [← hpkt, List.length_append, List.length_cons, hhead]
    omega
  have hfirst : pkt.drop 5 = a ++ (b ++ lo :: hi :: tail) := by
    rw [← hpkt, List.drop_left' hhead]
  have hsecond : pkt.drop (5 + a.length) = b ++ lo :: hi :: tail := by
    rw [← List.drop_drop, hfirst, List.drop_left]
  have hflags : pkt.drop (5 + a.length + b.length) = lo :: hi :: tail := by
    rw [← List.drop_drop, hsecond, List.drop_left]
  have hlo : pkt[5 + a.length + b.length]? = some lo := by
    rw [← List.head?_drop, hflags, List.head?_cons]
  have hhi : pkt[5 + a.length + b.length + 1]? = some hi := by
    rw [← List.head?_drop, ← List.drop_drop, hflags]
    rfl
  simp only [checkMoreResultsInOKPacket, hfirst, ha, hsecond, hb]
  rw [if_neg (by omega), if_neg (by omega), dif_neg (by omega)]
  rw [(List.getElem?_eq_some_iff.mp hlo).2, (List.getElem?_eq_some_iff.mp hhi).2]

/-- The result of a reply reader: bytes read, error if any, and the state it leaves. -/
structure Response (S : Type*) where
  total : ℕ
  err : Option Err
  state : S

section Loops
variable {S : Type*} (relay : String → S → Except Err Bytes × S)

def readColumns : ℕ → S → ℕ → Response S
  | 0, s, total => ⟨total, none, s⟩
  | k + 1, s, total =>
    match relay "failed to forward column def" s with
    | (.error e, s) => ⟨total, some e, s⟩
    | (.ok pkt, s) => readColumns k s (total + pkt.length)

/-- `0xFE` with a short payload ends the rows. -/
def isRowsEnd (pkt : Bytes) : Bool :=
  if h : 5 ≤ pkt.length then pkt[4] = 0xFE ∧ payloadLen pkt < 9 else false

def rowLoop : ℕ → S → ℕ → Bool × Response S
  | 0, s, total => (false, ⟨total, some .stalled, s⟩)
  | fuel + 1, s, total =>
    match relay "failed to forward row" s with
    | (.error e, s) => (false, ⟨total, some e, s⟩)
    | (.ok pkt, s) =>
      if isRowsEnd pkt then
        (checkMoreResultsInEOFPacket pkt, ⟨total + pkt.length, none, s⟩)
      else rowLoop fuel s (total + pkt.length)

def isOKMarker (pkt : Bytes) : Bool :=
  if h : 5 ≤ pkt.length then pkt[4] = 0x00 else false

/-- The part of a result set after the column count: column definitions, their end
marker, rows. Also returns whether another result follows. -/
def readResultSet (fuel columnCount : ℕ) (s : S) (total : ℕ) : Bool × Response S :=
  match readColumns relay columnCount s total with
  | ⟨total, some e, s⟩ => (false, ⟨total, some e, s⟩)
  | ⟨total, none, s⟩ =>
    match relay "failed to forward column EOF" s with
    | (.error e, s) => (false, ⟨total, some e, s⟩)
    | (.ok pkt, s) =>
      if isOKMarker pkt then
        (checkMoreResultsInOKPacket pkt, ⟨total + pkt.length, none, s⟩)
      else rowLoop relay fuel s (total + pkt.length)

def readUnit (fuel : ℕ) (packet : Bytes) (s : S) (total : ℕ) : Bool × Response S :=
  if h : packet.length < 5 then
    (false, ⟨total, some (.errorf s!"packet too short: {packet.length} bytes"), s⟩)
  else if packet[4] = 0x00 then (checkMoreResultsInOKPacket packet, ⟨total, none, s⟩)
  else if packet[4] = 0xFF then (false, ⟨total, none, s⟩)
  else if packet[4] = 0xFB then (false, ⟨total, none, s⟩)
  else if packet[4] = 0xFE then (checkMoreResultsInEOFPacket packet, ⟨total, none, s⟩)
  else readResultSet relay fuel (readLengthEncodedInt (packet.drop 4)) s total

/-- The outer loop, once per unit of a multi-statement reply. -/
def responseLoop : ℕ → S → ℕ → Response S
  | 0, s, total => ⟨total, some .stalled, s⟩
  | fuel + 1, s, total =>
    match relay "failed to forward packet" s with
    | (.error e, s) => ⟨total, some e, s⟩
    | (.ok packet, s) =>
      match readUnit relay fuel packet s (total + packet.length) with
      | (true, ⟨total, none, s⟩) => responseLoop fuel s total
      | (_, response) => response

/-- What a unit of a reply comes to: whether it announces another one, and the error if any. -/
abbrev Verdict := Bool × Option Err

abbrev Reading := Inquiry String Bytes Verdict

def askColumns : ℕ → Reading
  | 0 => .stop (false, none)
  | k + 1 => .ask "failed to forward column def" fun _ => askColumns k

def askRows : ℕ → Reading
  | 0 => .stop (false, some .stalled)
  | fuel + 1 => .ask "failed to forward row" fun pkt =>
    if isRowsEnd pkt then .stop (checkMoreResultsInEOFPacket pkt, none) else askRows fuel

def askResultSet (fuel columnCount : ℕ) : Reading :=
  (askColumns columnCount).bind fun _ => .ask "failed to forward column EOF" fun pkt =>
    if isOKMarker pkt then .stop (checkMoreResultsInOKPacket pkt, none) else askRows fuel

def askUnit (fuel : ℕ) (packet : Bytes) : Reading :=
  if h : packet.length < 5 then
    .stop (false, some (.errorf s!"packet too short: {packet.length} bytes"))
  else if packet[4] = 0x00 then .stop (checkMoreResultsInOKPacket packet, none)
  else if packet[4] = 0xFF then .stop (false, none)
  else if packet[4] = 0xFB then .stop (false, none)
  else if packet[4] = 0xFE then .stop (checkMoreResultsInEOFPacket packet, none)
  else askResultSet fuel (readLengthEncodedInt (packet.drop 4))

/-- The whole reader as a program that asks for packets. -/
def askResponse : ℕ → Reading
  | 0 => .stop (false, some .stalled)
  | fuel + 1 => .ask "failed to forward packet" fun packet => (askUnit fuel packet).bind fun verdict =>
    match verdict with
    | (true, none) => askResponse fuel
    | _ => .stop verdict

/-- A run of such a program as the loops report it, after `total` bytes. -/
def report (total : ℕ) (t : Transcript Bytes Err Verdict S) : Bool × Response S :=
  match t.outcome with
  | .error e => (false, ⟨total + t.heard.flatten.length, some e, t.state⟩)
  | .ok verdict => (verdict.1, ⟨total + t.heard.flatten.length, verdict.2, t.state⟩)

lemma report_after (total : ℕ) (p : Bytes) (t : Transcript Bytes Err Verdict S) :
    report total (t.after p) = report (total + p.length) t := by
  simp only [report, Transcript.after, List.flatten_cons, List.length_append, Nat.add_assoc]

lemma report_bind_ok {d : Reading} {s s' : S} {heard : List Bytes} {verdict : Verdict}
    (h : run relay d s = ⟨heard, .ok verdict, s'⟩) (k : Verdict → Reading) (total : ℕ) :
    report total (run relay (d.bind k) s) =
      report (total + heard.flatten.length) (run relay (k verdict) s') := by
  rw [run_bind_ok h]
  simp only [report, List.flatten_append, List.length_append, Nat.add_assoc]

lemma run_askColumns (k : ℕ) (s : S) {heard : List Bytes} {verdict : Verdict} {s' : S}
    (h : run relay (askColumns k) s = ⟨heard, .ok verdict, s'⟩) : verdict = (false, none) := by
  induction k generalizing s heard with
  | zero =>
    simp only [askColumns, run, Transcript.mk.injEq, Except.ok.injEq] at h
    exact h.2.1.symm
  | succ k ih =>
    obtain ⟨m, s₁, rest, -, -, hnext⟩ := run_ask_eq h
    exact ih s₁ hnext

lemma readColumns_eq (k : ℕ) (s : S) (total : ℕ) :
    readColumns relay k s total = (report total (run relay (askColumns k) s)).2 := by
  induction k generalizing s total with
  | zero => simp [readColumns, askColumns, run, report]
  | succ k ih =>
    unfold readColumns askColumns
    rcases hp : relay "failed to forward column def" s with ⟨e | p, s₁⟩
    · rw [run_ask_error hp]
      simp [report]
    · rw [run_ask_ok hp, report_after]
      exact ih s₁ _

lemma rowLoop_eq (fuel : ℕ) (s : S) (total : ℕ) :
    rowLoop relay fuel s total = report total (run relay (askRows fuel) s) := by
  induction fuel generalizing s total with
  | zero => simp [rowLoop, askRows, run, report]
  | succ fuel ih =>
    unfold rowLoop askRows
    rcases hp : relay "failed to forward row" s with ⟨e | p, s₁⟩
    · rw [run_ask_error hp]
      simp [report]
    · rw [run_ask_ok hp, report_after]
      dsimp only
      split_ifs
      · simp [run, report]
      · exact ih s₁ _

lemma readResultSet_eq (fuel k : ℕ) (s : S) (total : ℕ) :
    readResultSet relay fuel k s total = report total (run relay (askResultSet fuel k) s) := by
  unfold readResultSet askResultSet
  rw [readColumns_eq]
  rcases hc : run relay (askColumns k) s with ⟨heard, e | verdict, s₁⟩
  · rw [run_bind_error hc]
    rfl
  · rw [report_bind_ok relay hc, run_askColumns relay k s hc]
    dsimp only [report]
    rcases hp : relay "failed to forward column EOF" s₁ with ⟨e | p, s₂⟩
    · rw [run_ask_error hp]
      simp
    · rw [run_ask_ok hp]
      change _ = report _ _
      rw [report_after]
      dsimp only
      split_ifs
      · simp [run, report]
      · exact rowLoop_eq relay fuel s₂ _

lemma readUnit_eq (fuel : ℕ) (packet : Bytes) (s : S) (total : ℕ) :
    readUnit relay fuel packet s total = report total (run relay (askUnit fuel packet) s) := by
  unfold readUnit askUnit
  split_ifs
  all_goals first
    | exact readResultSet_eq relay fuel _ s total
    | simp [run, report]

/-- The loops are the program, whatever the relay. -/
theorem responseLoop_eq (fuel : ℕ) (s : S) (total : ℕ) :
    responseLoop relay fuel s total = (report total (run relay (askResponse fuel) s)).2 := by
  induction fuel generalizing s total with
  | zero => simp [responseLoop, askResponse, run, report]
  | succ fuel ih =>
    unfold responseLoop askResponse
    rcases hp : relay "failed to forward packet" s with ⟨e | p, s₁⟩
    · rw [run_ask_error hp]
      simp [report]
    · rw [run_ask_ok hp, report_after]
      dsimp only
      rw [readUnit_eq]
      rcases hu : run relay (askUnit fuel p) s₁ with ⟨heard, e | ⟨_ | _, _ | e⟩, s₂⟩
      · rw [run_bind_error hu]
        rfl
      all_goals rw [report_bind_ok relay hu]
      all_goals dsimp only [report]
      · simp [run]
      · simp [run]
      · exact ih s₂ _
      · simp [run]

theorem rowLoop_total_le (fuel : ℕ) (s : S) (total : ℕ) :
    total ≤ (rowLoop relay fuel s total).2.total := by
  rw [rowLoop_eq, report]
  split <;> exact Nat.le_add_right _ _

theorem responseLoop_total_le (fuel : ℕ) (s : S) (total : ℕ) :
    total ≤ (responseLoop relay fuel s total).total := by
  rw [responseLoop_eq, report]
  split <;> exact Nat.le_add_right _ _

lemma responseLoop_ok {fuel : ℕ} {s s' : S} {total total' : ℕ}
    (h : responseLoop relay fuel s total = ⟨total', none, s'⟩) :
    ∃ heard more, run relay (askResponse fuel) s = ⟨heard, .ok (more, none), s'⟩ ∧
      total' = total + heard.flatten.length := by
  rw [responseLoop_eq] at h
  rcases ht : run relay (askResponse fuel) s with ⟨heard, e | ⟨more, err⟩, s₁⟩
  · simp [ht, report] at h
  · simp only [ht, report, Response.mk.injEq] at h
    obtain ⟨rfl, rfl, rfl⟩ := h
    exact ⟨heard, more, rfl, rfl⟩

lemma responseLoop_of_run {fuel : ℕ} {s s' : S} {heard : List Bytes} {more : Bool}
    (h : run relay (askResponse fuel) s = ⟨heard, .ok (more, none), s'⟩) (total : ℕ) :
    responseLoop relay fuel s total = ⟨total + heard.flatten.length, none, s'⟩ := by
  rw [responseLoop_eq, h]
  rfl

/-- `I` holds at the end of a reply that was read to its end, and `J` in any case. -/
def Keeps (I J : S → Prop) (response : Response S) : Prop :=
  J response.state ∧ (response.err = none → I response.state)

/-- Every packet the relay delivers preserves `I`, and a failure of it leads to `J`. -/
structure Guards (I J : S → Prop) : Prop where
  ok : ∀ {what s p s'}, I s → relay what s = (.ok p, s') → I s'
  err : ∀ {what s e s'}, I s → relay what s = (.error e, s') → J s'
  weaken : ∀ {s}, I s → J s

/-- What every packet and every failure of the relay preserve holds at the end of the reply. -/
theorem responseLoop_keeps {relay : String → S → Except Err Bytes × S} {I J : S → Prop}
    (g : Guards relay I J) (fuel : ℕ) {s : S} (total : ℕ) (h : I s) :
    Keeps I J (responseLoop relay fuel s total) := by
  obtain ⟨hJ, hI⟩ := run_keeps g.ok g.err g.weaken (askResponse fuel) h
  rw [responseLoop_eq]
  rcases ht : run relay (askResponse fuel) s with ⟨heard, e | verdict, s₁⟩ <;> rw [ht] at hJ hI
  · exact ⟨hJ, by simp [report]⟩
  · exact ⟨hJ, fun _ => hI verdict rfl⟩

end Loops

/-- The relay of `ReadFullResponse`. -/
def readRelay (_ : String) (s : Reader × Conn) : Except Err Bytes × (Reader × Conn) :=
  match readPacket s.1 s.2 with
  | (result, r, c) => (result, r, c)

/-- The relay of `ReadAndForwardResponse`: the packet is written to the destination
before anything else is done with it. -/
def forwardRelay (what : String) (s : (Reader × Conn) × Conn) :
    Except Err Bytes × ((Reader × Conn) × Conn) :=
  match readPacket s.1.1 s.1.2 with
  | (.error e, r, c) => (.error e, (r, c), s.2)
  | (.ok packet, r, c) =>
    match s.2.write packet with
    | (some e, dest) => (.error (.wrap what e), (r, c), dest)
    | (none, dest) => (.ok packet, (r, c), dest)

/-! `ReadFullResponse`: the column definitions, the rows, the loop over the units. -/

def readFullColumns : ℕ → Reader → Conn → ℕ → Response (Reader × Conn)
  | 0, r, c, totalBytes => ⟨totalBytes, none, (r, c)⟩
  | k + 1, r, c, totalBytes =>
    match readPacket r c with
    | (.error e, r, c) => ⟨totalBytes, some e, (r, c)⟩
    | (.ok pkt, r, c) => readFullColumns k r c (totalBytes + pkt.length)

def readFullRows : ℕ → Reader → Conn → ℕ → Bool × Response (Reader × Conn)
  | 0, r, c, totalBytes => (false, ⟨totalBytes, some .stalled, (r, c)⟩)
  | fuel + 1, r, c, totalBytes =>
    match readPacket r c with
    | (.error e, r, c) => (false, ⟨totalBytes, some e, (r, c)⟩)
    | (.ok pkt, r, c) =>
      if pkt[4]? = some 0xFE ∧ payloadLen pkt < 9 then
        (checkMoreResultsInEOFPacket pkt, ⟨totalBytes + pkt.length, none, (r, c)⟩)
      else readFullRows fuel r c (totalBytes + pkt.length)

def readFullLoop : ℕ → Reader → Conn → ℕ → Response (Reader × Conn)
  | 0, r, c, totalBytes => ⟨totalBytes, some .stalled, (r, c)⟩
  | fuel + 1, r, c, totalBytes =>
    match readPacket r c with
    | (.error e, r, c) => ⟨totalBytes, some e, (r, c)⟩
    | (.ok packet, r, c) =>
      let totalBytes := totalBytes + packet.length
      if h : packet.length < 5 then
        ⟨totalBytes, some (.errorf s!"packet too short: {packet.length} bytes"), (r, c)⟩
      else if packet[4] = 0x00 then
        if checkMoreResultsInOKPacket packet then readFullLoop fuel r c totalBytes
        else ⟨totalBytes, none, (r, c)⟩
      else if packet[4] = 0xFF then ⟨totalBytes, none, (r, c)⟩
      else if packet[4] = 0xFB then ⟨totalBytes, none, (r, c)⟩
      else if packet[4] = 0xFE then
        if checkMoreResultsInEOFPacket packet then readFullLoop fuel r c totalBytes
        else ⟨totalBytes, none, (r, c)⟩
      else
        match readFullColumns (readLengthEncodedInt (packet.drop 4)) r c totalBytes with
        | ⟨totalBytes, some e, s⟩ => ⟨totalBytes, some e, s⟩
        | ⟨totalBytes, none, (r, c)⟩ =>
          match readPacket r c with
          | (.error e, r, c) => ⟨totalBytes, some e, (r, c)⟩
          | (.ok pkt, r, c) =>
            if pkt[4]? = some 0x00 then
              if checkMoreResultsInOKPacket pkt then readFullLoop fuel r c (totalBytes + pkt.length)
              else ⟨totalBytes + pkt.length, none, (r, c)⟩
            else
              match readFullRows fuel r c (totalBytes + pkt.length) with
              | (_, ⟨totalBytes, some e, s⟩) => ⟨totalBytes, some e, s⟩
              | (more, ⟨totalBytes, none, (r, c)⟩) =>
                if more then readFullLoop fuel r c totalBytes else ⟨totalBytes, none, (r, c)⟩

def readFullResponse (r : Reader) (c : Conn) : Response (Reader × Conn) :=
  readFullLoop (available r c + 1) r c 0

/-! `ReadAndForwardResponse`: the same three loops with a write behind every read. -/

def forwardColumns : ℕ → Reader → Conn → Conn → ℕ → Response ((Reader × Conn) × Conn)
  | 0, r, c, dest, totalBytes => ⟨totalBytes, none, ((r, c), dest)⟩
  | k + 1, r, c, dest, totalBytes =>
    match readPacket r c with
    | (.error e, r, c) => ⟨totalBytes, some e, ((r, c), dest)⟩
    | (.ok pkt, r, c) =>
      match dest.write pkt with
      | (some e, dest) => ⟨totalBytes, some (.wrap "failed to forward column def" e), ((r, c), dest)⟩
      | (none, dest) => forwardColumns k r c dest (totalBytes + pkt.length)

def forwardRows : ℕ → Reader → Conn → Conn → ℕ → Bool × Response ((Reader × Conn) × Conn)
  | 0, r, c, dest, totalBytes => (false, ⟨totalBytes, some .stalled, ((r, c), dest)⟩)
  | fuel + 1, r, c, dest, totalBytes =>
    match readPacket r c with
    | (.error e, r, c) => (false, ⟨totalBytes, some e, ((r, c), dest)⟩)
    | (.ok pkt, r, c) =>
      match dest.write pkt with
      | (some e, dest) =>
        (false, ⟨totalBytes, some (.wrap "failed to forward row" e), ((r, c), dest)⟩)
      | (none, dest) =>
        if pkt[4]? = some 0xFE ∧ payloadLen pkt < 9 then
          (checkMoreResultsInEOFPacket pkt, ⟨totalBytes + pkt.length, none, ((r, c), dest)⟩)
        else forwardRows fuel r c dest (totalBytes + pkt.length)

def forwardLoop : ℕ → Reader → Conn → Conn → ℕ → Response ((Reader × Conn) × Conn)
  | 0, r, c, dest, totalBytes => ⟨totalBytes, some .stalled, ((r, c), dest)⟩
  | fuel + 1, r, c, dest, totalBytes =>
    match readPacket r c with
    | (.error e, r, c) => ⟨totalBytes, some e, ((r, c), dest)⟩
    | (.ok packet, r, c) =>
      match dest.write packet with
      | (some e, dest) => ⟨totalBytes, some (.wrap "failed to forward packet" e), ((r, c), dest)⟩
      | (none, dest) =>
        let totalBytes := totalBytes + packet.length
        if h : packet.length < 5 then
          ⟨totalBytes, some (.errorf s!"packet too short: {packet.length} bytes"), ((r, c), dest)⟩
        else if packet[4] = 0x00 then
          if checkMoreResultsInOKPacket packet then forwardLoop fuel r c dest totalBytes
          else ⟨totalBytes, none, ((r, c), dest)⟩
        else if packet[4] = 0xFF then ⟨totalBytes, none, ((r, c), dest)⟩
        else if packet[4] = 0xFB then ⟨totalBytes, none, ((r, c), dest)⟩
        else if packet[4] = 0xFE then
          if checkMoreResultsInEOFPacket packet then forwardLoop fuel r c dest totalBytes
          else ⟨totalBytes, none, ((r, c), dest)⟩
        else
          match forwardColumns (readLengthEncodedInt (packet.drop 4)) r c dest totalBytes with
          | ⟨totalBytes, some e, s⟩ => ⟨totalBytes, some e, s⟩
          | ⟨totalBytes, none, ((r, c), dest)⟩ =>
            match readPacket r c with
            | (.error e, r, c) => ⟨totalBytes, some e, ((r, c), dest)⟩
            | (.ok pkt, r, c) =>
              match dest.write pkt with
              | (some e, dest) =>
                ⟨totalBytes, some (.wrap "failed to forward column EOF" e), ((r, c), dest)⟩
              | (none, dest) =>
                if pkt[4]? = some 0x00 then
                  if checkMoreResultsInOKPacket pkt then
                    forwardLoop fuel r c dest (totalBytes + pkt.length)
                  else ⟨totalBytes + pkt.length, none, ((r, c), dest)⟩
                else
                  match forwardRows fuel r c dest (totalBytes + pkt.length) with
                  | (_, ⟨totalBytes, some e, s⟩) => ⟨totalBytes, some e, s⟩
                  | (more, ⟨totalBytes, none, ((r, c), dest)⟩) =>
                    if more then forwardLoop fuel r c dest totalBytes
                    else ⟨totalBytes, none, ((r, c), dest)⟩

def readAndForwardResponse (r : Reader) (c dest : Conn) : Response ((Reader × Conn) × Conn) :=
  forwardLoop (available r c + 1) r c dest 0

lemma isRowsEnd_iff (pkt : Bytes) :
    isRowsEnd pkt = true ↔ pkt[4]? = some 0xFE ∧ payloadLen pkt < 9 := by
  unfold isRowsEnd
  split_ifs with h
  · simp [List.getElem?_eq_getElem (show 4 < pkt.length by omega)]
  · simp [List.getElem?_eq_none (show pkt.length ≤ 4 by omega)]

lemma isOKMarker_iff (pkt : Bytes) : isOKMarker pkt = true ↔ pkt[4]? = some 0x00 := by
  unfold isOKMarker
  split_ifs with h
  · simp [List.getElem?_eq_getElem (show 4 < pkt.length by omega)]
  · simp [List.getElem?_eq_none (show pkt.length ≤ 4 by omega)]

lemma readFullColumns_eq (k : ℕ) (r : Reader) (c : Conn) (total : ℕ) :
    readFullColumns k r c total = readColumns readRelay k (r, c) total := by
  induction k generalizing r c total with
  | zero => rfl
  | succ k ih =>
    unfold readFullColumns readColumns readRelay
    rcases readPacket r c with ⟨e | pkt, r₁, c₁⟩
    · rfl
    · exact ih r₁ c₁ _

lemma readFullRows_eq (fuel : ℕ) (r : Reader) (c : Conn) (total : ℕ) :
    readFullRows fuel r c total = rowLoop readRelay fuel (r, c) total := by
  induction fuel generalizing r c total with
  | zero => rfl
  | succ fuel ih =>
    unfold readFullRows rowLoop readRelay
    rcases readPacket r c with ⟨e | pkt, r₁, c₁⟩
    · rfl
    · simp only [isRowsEnd_iff, ih]
      rfl

lemma forwardColumns_eq (k : ℕ) (r : Reader) (c dest : Conn) (total : ℕ) :
    forwardColumns k r c dest total = readColumns forwardRelay k ((r, c), dest) total := by
  induction k generalizing r c dest total with
  | zero => rfl
  | succ k ih =>
    unfold forwardColumns readColumns forwardRelay
    rcases readPacket r c with ⟨e | pkt, r₁, c₁⟩
    · rfl
    · dsimp only
      rcases dest.write pkt with ⟨_ | e, dest₁⟩
      · exact ih r₁ c₁ dest₁ _
      · rfl

lemma forwardRows_eq (fuel : ℕ) (r : Reader) (c dest : Conn) (total : ℕ) :
    forwardRows fuel r c dest total = rowLoop forwardRelay fuel ((r, c), dest) total := by
  induction fuel generalizing r c dest total with
  | zero => rfl
  | succ fuel ih =>
    unfold forwardRows rowLoop forwardRelay
    rcases readPacket r c with ⟨e | pkt, r₁, c₁⟩
    · rfl
    · dsimp only
      rcases dest.write pkt with ⟨_ | e, dest₁⟩
      · simp only [isRowsEnd_iff, ih]
        rfl
      · rfl

theorem readFullLoop_eq (fuel : ℕ) (r : Reader) (c : Conn) (total : ℕ) :
    readFullLoop fuel r c total = responseLoop readRelay fuel (r, c) total := by
  induction fuel generalizing r c total with
  | zero => rfl
  | succ fuel ih =>
    unfold readFullLoop responseLoop
    rcases hp : readPacket r c with ⟨e | packet, r₁, c₁⟩
    · simp [readRelay, hp]
    · have hrelay : readRelay "failed to forward packet" (r, c) = (.ok packet, r₁, c₁) := by
        simp [readRelay, hp]
      simp only [hrelay, readUnit, readFullColumns_eq, ih]
      split_ifs with hlen h0 hok hFF hFB hFE heof
      · rfl
      · simp [hok]
      · simp [hok]
      · rfl
      · rfl
      · simp [heof]
      · simp [heof]
      · unfold readResultSet
        rcases readColumns readRelay (readLengthEncodedInt (packet.drop 4)) (r₁, c₁)
          (total + packet.length) with ⟨total₂, _ | e, r₂, c₂⟩
        · rcases hq : readPacket r₂ c₂ with ⟨e | pkt, r₃, c₃⟩
          · simp [readRelay, hq]
          · simp only [readRelay, hq, isOKMarker_iff, readFullRows_eq]
            split_ifs with hmark hmore
            · simp [hmore]
            · simp [hmore]
            · rcases rowLoop readRelay fuel (r₃, c₃) (total₂ + pkt.length) with
                ⟨_ | _, _, _ | e, r₄, c₄⟩ <;> rfl
        · rfl

theorem forwardLoop_eq (fuel : ℕ) (r : Reader) (c dest : Conn) (total : ℕ) :
    forwardLoop fuel r c dest total = responseLoop forwardRelay fuel ((r, c), dest) total := by
  induction fuel generalizing r c dest total with
  | zero => rfl
  | succ fuel ih =>
    unfold forwardLoop responseLoop
    rcases hp : readPacket r c with ⟨e | packet, r₁, c₁⟩
    · simp [forwardRelay, hp]
    rcases hw : dest.write packet with ⟨_ | e, dest₁⟩
    · have hrelay : forwardRelay "failed to forward packet" ((r, c), dest) =
          (.ok packet, (r₁, c₁), dest₁) := by
        simp [forwardRelay, hp, hw]
      simp only [hw, hrelay, readUnit, forwardColumns_eq, ih]
      split_ifs with hlen h0 hok hFF hFB hFE heof
      · rfl
      · simp [hok]
      · simp [hok]
      · rfl
      · rfl
      · simp [heof]
      · simp [heof]
      · unfold readResultSet
        rcases readColumns forwardRelay (readLengthEncodedInt (packet.drop 4)) ((r₁, c₁), dest₁)
          (total + packet.length) with ⟨total₂, _ | e, ⟨r₂, c₂⟩, dest₂⟩
        · rcases hq : readPacket r₂ c₂ with ⟨e | pkt, r₃, c₃⟩
          · simp [forwardRelay, hq]
          rcases hw₂ : dest₂.write pkt with ⟨_ | e, dest₃⟩
          · simp only [forwardRelay, hq, hw₂, isOKMarker_iff, forwardRows_eq]
            split_ifs with hmark hmore
            · simp [hmore]
            · simp [hmore]
            · rcases rowLoop forwardRelay fuel ((r₃, c₃), dest₃) (total₂ + pkt.length) with
                ⟨_ | _, _, _ | e, ⟨r₄, c₄⟩, dest₄⟩ <;> rfl
          · simp [forwardRelay, hq, hw₂]
        · rfl
    · simp [forwardRelay, hp, hw]

theorem readFullResponse_eq (r : Reader) (c : Conn) :
    readFullResponse r c = responseLoop readRelay (available r c + 1) (r, c) 0 :=
  readFullLoop_eq _ r c 0

theorem readAndForwardResponse_eq (r : Reader) (c dest : Conn) :
    readAndForwardResponse r c dest =
      responseLoop forwardRelay (available r c + 1) ((r, c), dest) 0 :=
  forwardLoop_eq _ r c dest 0

def readSimpleResponse (r : Reader) (c : Conn) : Response (Reader × Conn) :=
  match readRelay "" (r, c) with
  | (.error e, s) => ⟨0, some e, s⟩
  | (.ok packet, s) => ⟨packet.length, none, s⟩

def readAndForwardSimpleResponse (r : Reader) (c dest : Conn) :
    Response ((Reader × Conn) × Conn) :=
  match forwardRelay "failed to forward simple response" ((r, c), dest) with
  | (.error e, s) => ⟨0, some e, s⟩
  | (.ok packet, s) => ⟨packet.length, none, s⟩

/-- How the mirrored loop reads the primary's reply to a command that has one. -/
def forwardReply (cmd : UInt8) (r : Reader) (c dest : Conn) : Response ((Reader × Conn) × Conn) :=
  if isSimpleResponseCommand cmd then readAndForwardSimpleResponse r c dest
  else readAndForwardResponse r c dest

/-- How the shadow worker reads the shadow's reply to a command that has one. -/
def readReply (cmd : UInt8) (r : Reader) (c : Conn) : Response (Reader × Conn) :=
  if isSimpleResponseCommand cmd then readSimpleResponse r c else readFullResponse r c

section Simulation
variable {S T : Type*} {f : String → S → Except Err Bytes × S}
  {g : String → T → Except Err Bytes × T}

/-- Every packet that `g` delivers is also delivered by `f`, from related states to
related states. -/
def Follows (f : String → S → Except Err Bytes × S) (g : String → T → Except Err Bytes × T)
    (R : S → T → Prop) : Prop :=
  ∀ what s t p t', R s t → g what t = (.ok p, t') → ∃ s', f what s = (.ok p, s') ∧ R s' t'

variable {R : S → T → Prop}

/-- A reply read without error over `g` is read the same way over `f`. -/
theorem responseLoop_follows (h : Follows f g R) (fuel : ℕ) (s : S) (t t' : T)
    (total total' : ℕ) (hR : R s t) (hg : responseLoop g fuel t total = ⟨total', none, t'⟩) :
    ∃ s', responseLoop f fuel s total = ⟨total', none, s'⟩ ∧ R s' t' := by
  obtain ⟨heard, more, hrun, rfl⟩ := responseLoop_ok g hg
  obtain ⟨s', hs', hR'⟩ := run_follows h (askResponse fuel) hR hrun
  exact ⟨s', responseLoop_of_run f hs' total, hR'⟩

/-- The relay over a list of packets that are known in advance. -/
def listRelay (_ : String) (qs : List Bytes) : Except Err Bytes × List Bytes :=
  match qs with
  | [] => (.error .stalled, [])
  | q :: qs => (.ok q, qs)

/-- Calling `f` again and again from `s` delivers `qs` and leads to `s'`. -/
def Delivers (f : String → S → Except Err Bytes × S) : S → List Bytes → S → Prop
  | s, [], s' => s = s'
  | s, q :: qs, s' => ∃ what s₁, f what s = (.ok q, s₁) ∧ Delivers f s₁ qs s'

/-- As `Delivers`, whatever the calls are made for. -/
def Feeds (f : String → S → Except Err Bytes × S) : S → List Bytes → S → Prop
  | s, [], s' => s = s'
  | s, q :: qs, s' => ∃ s₁, (∀ what, f what s = (.ok q, s₁)) ∧ Feeds f s₁ qs s'

theorem feeds_append {s s₂ : S} {qs qs' : List Bytes} :
    Feeds f s (qs ++ qs') s₂ ↔ ∃ s₁, Feeds f s qs s₁ ∧ Feeds f s₁ qs' s₂ := by
  induction qs generalizing s with
  | nil => simp [Feeds]
  | cons q qs ih =>
    simp only [List.cons_append, Feeds, ih]
    constructor
    · rintro ⟨s', hf, s₁, h, h'⟩
      exact ⟨s₁, ⟨s', hf, h⟩, h'⟩
    · rintro ⟨s₁, ⟨s', hf, h⟩, h'⟩
      exact ⟨s', hf, s₁, h, h'⟩

theorem listRelay_feeds (qs rest : List Bytes) : Feeds listRelay (qs ++ rest) qs rest := by
  induction qs with
  | nil => rfl
  | cons q qs ih => exact ⟨qs ++ rest, fun _ => rfl, ih⟩

/-- A run from `s` to `s'` read exactly the packets `qs`, and `run` holds of every list
that starts with them and what is behind them. -/
def Replays (f : String → S → Except Err Bytes × S) (s s' : S) (total total' : ℕ)
    (run : List Bytes → List Bytes → Prop) : Prop :=
  ∃ qs, Delivers f s qs s' ∧ total' = total + qs.flatten.length ∧ ∀ rest, run (qs ++ rest) rest

/-- A run that comes to a verdict heard the packets one after the other, and is a run over the list
of them. -/
theorem run_replays {d : Reading} {s s' : S} {heard : List Bytes} {verdict : Verdict}
    (h : run f d s = ⟨heard, .ok verdict, s'⟩) :
    Delivers f s heard s' ∧
      ∀ rest, run listRelay d (heard ++ rest) = ⟨heard, .ok verdict, rest⟩ := by
  induction d generalizing s heard with
  | stop r =>
    simp only [run, Transcript.mk.injEq, Except.ok.injEq] at h
    obtain ⟨rfl, rfl, rfl⟩ := h
    exact ⟨rfl, fun _ => rfl⟩
  | ask what next ih =>
    obtain ⟨p, s₁, qs, hp, rfl, hnext⟩ := run_ask_eq h
    obtain ⟨hd, hlist⟩ := ih p hnext
    refine ⟨⟨what, s₁, hp, hd⟩, fun rest => ?_⟩
    have hask : listRelay what (p :: qs ++ rest) = (.ok p, qs ++ rest) := rfl
    rw [run_ask_ok hask, hlist rest]
    rfl

/-- Every run that ends without error is a run over the list of packets it read. -/
theorem responseLoop_replays (fuel : ℕ) (s s' : S) (total total' : ℕ)
    (h : responseLoop f fuel s total = ⟨total', none, s'⟩) :
    Replays f s s' total total'
      fun qs rest => responseLoop listRelay fuel qs total = ⟨total', none, rest⟩ := by
  obtain ⟨heard, more, hrun, rfl⟩ := responseLoop_ok f h
  obtain ⟨hd, hlist⟩ := run_replays hrun
  exact ⟨heard, hd, rfl, fun rest => responseLoop_of_run listRelay (hlist rest) total⟩

end Simulation

/-- A reader that started in `s` was given the packets `pkts` and counted their bytes; it stopped
behind the last of them, or because the next one could not be read. -/
structure Consumed (s : Reader × Conn) (pkts : List Bytes) (response : Response (Reader × Conn)) :
    Prop where
  total : response.total = pkts.flatten.length
  taken : ∃ s₁, Delivers readRelay s pkts s₁ ∧ (response.state = s₁ ∨
    ∃ what e, readRelay what s₁ = (.error e, response.state) ∧ response.err = some e)

lemma delivers_run (d : Reading) (s : Reader × Conn) :
    ∃ s₁, Delivers readRelay s (run readRelay d s).heard s₁ ∧ ((run readRelay d s).state = s₁ ∨
      ∃ what e, readRelay what s₁ = (.error e, (run readRelay d s).state) ∧
        (run readRelay d s).outcome = .error e) := by
  induction d generalizing s with
  | stop verdict => exact ⟨s, rfl, Or.inl rfl⟩
  | ask what next ih =>
    rcases hp : readRelay what s with ⟨e | p, s'⟩
    · rw [run_ask_error hp]
      exact ⟨s, rfl, Or.inr ⟨what, e, hp, rfl⟩⟩
    · rw [run_ask_ok hp]
      obtain ⟨s₁, hd, hend⟩ := ih p s'
      exact ⟨s₁, ⟨what, s', hp, hd⟩, hend⟩

lemma readFullResponse_consumed (r : Reader) (c : Conn) :
    Consumed (r, c) (run readRelay (askResponse (available r c + 1)) (r, c)).heard
      (readFullResponse r c) := by
  obtain ⟨s₁, hd, hend⟩ := delivers_run (askResponse (available r c + 1)) (r, c)
  rw [readFullResponse_eq, responseLoop_eq]
  rcases ht : run readRelay (askResponse (available r c + 1)) (r, c) with ⟨heard, e | verdict, s⟩
  all_goals rw [ht] at hd hend
  · refine ⟨by simp [report], s₁, hd, ?_⟩
    rcases hend with hs | ⟨what, e', hp, he⟩
    · exact Or.inl hs
    · obtain rfl : e = e' := by simpa using he
      exact Or.inr ⟨what, e, hp, rfl⟩
  · refine ⟨by simp [report], s₁, hd, ?_⟩
    rcases hend with hs | ⟨what, e', hp, he⟩
    · exact Or.inl hs
    · simp at he

lemma forwardRelay_error {what : String} {s s' : Reader × Conn} {e : Err} (dest : Conn)
    (h : readRelay what s = (.error e, s')) :
    forwardRelay what (s, dest) = (.error e, s', dest) := by
  have hp : readPacket s.1 s.2 = (.error e, s') := h
  simp [forwardRelay, hp]

lemma forwardRelay_ok {what : String} {s s' : Reader × Conn} {p : Bytes} {dest dest' : Conn}
    (h : readRelay what s = (.ok p, s')) (hw : dest.write p = (none, dest')) :
    forwardRelay what (s, dest) = (.ok p, s', dest') := by
  have hp : readPacket s.1 s.2 = (.ok p, s') := h
  simp [forwardRelay, hp, hw]

lemma forwardRelay_refused {what : String} {s s' : Reader × Conn} {p : Bytes} {dest dest' : Conn}
    {e : Err} (h : readRelay what s = (.ok p, s')) (hw : dest.write p = (some e, dest')) :
    forwardRelay what (s, dest) = (.error (.wrap what e), s', dest') := by
  have hp : readPacket s.1 s.2 = (.ok p, s') := h
  simp [forwardRelay, hp, hw]

lemma forward_unfailing (d : Reading) (s : Reader × Conn) (dest : Conn)
    (hroom : ∀ n, dest.writable = some n → (run readRelay d s).heard.length ≤ n) :
    ∃ dest', run forwardRelay d (s, dest) = ⟨(run readRelay d s).heard,
        (run readRelay d s).outcome, ((run readRelay d s).state, dest')⟩ ∧
      dest'.sent = dest.sent ++ (run readRelay d s).heard := by
  induction d generalizing s dest with
  | stop verdict => exact ⟨dest, rfl, (List.append_nil _).symm⟩
  | ask what next ih =>
    rcases hp : readRelay what s with ⟨e | p, s'⟩
    · rw [run_ask_error hp, run_ask_error (forwardRelay_error dest hp)]
      exact ⟨dest, rfl, (List.append_nil _).symm⟩
    · rw [run_ask_ok hp] at hroom ⊢
      simp only [Transcript.after, List.length_cons] at hroom
      rcases hw : dest.write p with ⟨_ | e, dest₁⟩
      · have hbudget := write_budget hw
        have hroom₁ : ∀ n, dest₁.writable = some n →
            (run readRelay (next p) s').heard.length ≤ n := by
          intro n hn
          rw [hn] at hbudget
          have := hroom (n + 1) hbudget
          omega
        obtain ⟨dest', hrun, hsent⟩ := ih p s' dest₁ hroom₁
        refine ⟨dest', ?_, ?_⟩
        · rw [run_ask_ok (forwardRelay_ok hp hw), hrun]
          rfl
        · rw [hsent, (write_ok hw).1]
          simp [Transcript.after]
      · have := hroom 0 (write_refused hw)
        omega

lemma forward_failing (d : Reading) (s : Reader × Conn) {dest : Conn} {n : ℕ}
    (hw : dest.writable = some n) (hn : n < (run readRelay d s).heard.length) :
    ∃ what e s' dest', run forwardRelay d (s, dest) =
        ⟨(run readRelay d s).heard.take n, .error (.wrap what e), (s', dest')⟩ ∧
      dest'.sent = dest.sent ++ (run readRelay d s).heard.take n := by
  induction d generalizing s dest n with
  | stop verdict => simp [run] at hn
  | ask what next ih =>
    rcases hp : readRelay what s with ⟨e | p, s'⟩
    · simp [run_ask_error hp] at hn
    · rw [run_ask_ok hp] at hn ⊢
      cases n with
      | zero =>
        obtain ⟨e, he⟩ := write_closed hw p
        rw [run_ask_error (forwardRelay_refused hp he)]
        exact ⟨what, e, s', dest, by simp⟩
      | succ n =>
        have hok : dest.write p = (none, (dest.write p).2) := by simp [Conn.write, hw]
        have hw₁ : (dest.write p).2.writable = some n := by simp [Conn.write, hw]
        simp only [Transcript.after, List.length_cons] at hn
        obtain ⟨what', e, s₁, dest', hrun, hsent⟩ := ih p s' hw₁ (by omega)
        refine ⟨what', e, s₁, dest', ?_, ?_⟩
        · rw [run_ask_ok (forwardRelay_ok hp hok), hrun]
          rfl
        · rw [hsent, (write_ok hok).1]
          simp [Transcript.after]

/-- From one state both readers use the same packets, count the same bytes and end the same way,
and the forwarding one writes these packets; if its destination refuses one of them, it reports an
error and has counted the packets before. -/
theorem readers_agree (r : Reader) (c dest : Conn) :
    ∃ pkts, Consumed (r, c) pkts (readFullResponse r c) ∧
      ((∀ n, dest.writable = some n → pkts.length ≤ n) →
        ∃ dest', readAndForwardResponse r c dest = ⟨(readFullResponse r c).total,
            (readFullResponse r c).err, ((readFullResponse r c).state, dest')⟩ ∧
          dest'.sent = dest.sent ++ pkts) ∧
      ∀ n, dest.writable = some n → n < pkts.length →
        ∃ what e s dest', readAndForwardResponse r c dest =
            ⟨(pkts.take n).flatten.length, some (.wrap what e), (s, dest')⟩ ∧
          dest'.sent = dest.sent ++ pkts.take n := by
  refine ⟨_, readFullResponse_consumed r c, fun hroom => ?_, fun n hw hn => ?_⟩
  · obtain ⟨dest', hrun, hsent⟩ := forward_unfailing _ _ dest hroom
    refine ⟨dest', ?_, hsent⟩
    rw [readAndForwardResponse_eq, readFullResponse_eq, responseLoop_eq, responseLoop_eq, hrun]
    rcases run readRelay (askResponse (available r c + 1)) (r, c) with ⟨heard, e | verdict, s⟩
    · rfl
    · rfl
  · obtain ⟨what, e, s, dest', hrun, hsent⟩ := forward_failing _ _ hw hn
    refine ⟨what, e, s, dest', ?_, hsent⟩
    rw [readAndForwardResponse_eq, responseLoop_eq, hrun]
    simp [report]

end ShadowProxy.MySQLResponse
