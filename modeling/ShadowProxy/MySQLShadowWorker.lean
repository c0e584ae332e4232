import ShadowProxy.EventHistory
import ShadowProxy.MySQLPrepare
import ShadowProxy.MySQLProxyLoop
import ShadowProxy.MySQLSegmentation
import ShadowProxy.QueryLog
import ShadowProxy.WorkQueue

/-! The worker behind a MySQL session: it writes one request after the other to the shadow and
reads the reply to each before it takes the next. -/
namespace ShadowProxy.MySQLShadowWorker
open WordBytes EventHistory NetConn MySQLPacket MySQLPacketReader MySQLResponse MySQLReplyStream
  MySQLReply MySQLPrepare MySQLProxyLoop MySQLSegmentation QueryLog WorkQueue

def newQueryRequest (id : ℕ) (packet : Bytes) : QueryRequest where
  id := id
  packet := packet
  queryText := queryText packet
  command :=
    if (getMySQLCommand packet).2 then getMySQLCommandName (getMySQLCommand packet).1 else "UNKNOWN"

@[simp] lemma newQueryRequest_packet (id : ℕ) (packet : Bytes) :
    (newQueryRequest id packet).packet = packet := rfl

@[simp] lemma newQueryRequest_queryText (id : ℕ) (packet : Bytes) :
    (newQueryRequest id packet).queryText = queryText packet := rfl

/-- The counters with the label `shadow`, and those of failed writes and reads. -/
structure ShadowMetrics where
  mysqlPackets : ℕ
  queryTotal : ℕ
  queryErrors : ℕ
  writeErrors : ℕ
  readTimeouts : ℕ
  bytesSent : ℕ
  bytesReceived : ℕ
  deriving DecidableEq, Repr

/-- What the worker acts on. -/
structure Shadow where
  conn : Conn
  reader : Reader
  metrics : ShadowMetrics
  logger : QueryLogger

def Shadow.start (conn : Conn) (logger : QueryLogger) : Shadow :=
  ⟨conn, newMySQLPacketReader, ⟨0, 0, 0, 0, 0, 0, 0⟩, logger⟩

def logQueryExecution (logger : QueryLogger) (req : QueryRequest) (bytesSent bytesRecv : ℕ)
    (err : Option Err) : QueryLogger :=
  logger.log (executionEntry .shadow req bytesSent bytesRecv err)

def isQuery (packet : Bytes) : Bool :=
  (getMySQLCommand packet).2 && isCountableCommand (getMySQLCommand packet).1

/-- A request is logged once, with the error if there is one; the worker goes on in any case. -/
def processRequest (req : QueryRequest) (w : Shadow) : Shadow :=
  let cmd := (getMySQLCommand req.packet).1
  let m := { w.metrics with
    mysqlPackets := w.metrics.mysqlPackets + 1
    queryTotal := w.metrics.queryTotal + (isQuery req.packet).toNat }
  match w.conn.write req.packet with
  | (some e, conn) =>
    { w with
      conn := conn
      metrics := { m with
        writeErrors := m.writeErrors + 1
        queryErrors := m.queryErrors + (isQuery req.packet).toNat }
      logger := logQueryExecution w.logger req 0 0 (some e) }
  | (none, conn) =>
    let m := { m with bytesSent := m.bytesSent + req.packet.length }
    if isNoResponseCommand cmd then
      { w with
        conn := conn
        metrics := m
        logger := logQueryExecution w.logger req req.packet.length 0 none }
    else
      match readReply cmd w.reader conn with
      | ⟨bytesRead, some e, (reader, conn)⟩ =>
        { conn := conn
          reader := reader
          metrics := { m with
            readTimeouts := m.readTimeouts + (decide (pastDeadline e = .timeout)).toNat }
          logger := logQueryExecution w.logger req req.packet.length bytesRead
            (some (pastDeadline e)) }
      | ⟨bytesRead, none, (reader, conn)⟩ =>
        { conn := conn
          reader := reader
          metrics := { m with bytesReceived := m.bytesReceived + bytesRead }
          logger := logQueryExecution w.logger req req.packet.length bytesRead none }

/-- The worker after it has processed the given requests. -/
def Shadow.after (w : Shadow) (reqs : List QueryRequest) : Shadow :=
  reqs.foldl (fun w req => processRequest req w) w

lemma readRelay_guards (c₀ : Conn) :
    Guards readRelay (fun s => MySQLPacketReader.Inv s.1 ∧ Reads c₀ s.2)
      (fun s => MySQLPacketReader.Inv s.1 ∧ Reads c₀ s.2) where
  ok := by
    rintro what s q s' ⟨hi, hr⟩ hq
    unfold readRelay at hq
    rcases hp : readPacket s.1 s.2 with ⟨result, r, c⟩
    simp only [hp, Prod.mk.injEq] at hq
    obtain ⟨rfl, rfl⟩ := hq
    obtain ⟨-, hi', hr', -⟩ := readPacket_ok hi hp
    exact ⟨hi', hr.trans hr'⟩
  err := by
    rintro what s e s' ⟨hi, hr⟩ hq
    unfold readRelay at hq
    rcases hp : readPacket s.1 s.2 with ⟨result, r, c⟩
    simp only [hp, Prod.mk.injEq] at hq
    obtain ⟨rfl, rfl⟩ := hq
    have hb := readPacket_error hi hp
    exact ⟨hb.inv, hr.trans hb.reads⟩
  weaken := id

lemma readReply_reads (cmd : UInt8) {r : Reader} (hi : MySQLPacketReader.Inv r) (c : Conn) :
    MySQLPacketReader.Inv (readReply cmd r c).state.1 ∧ Reads c (readReply cmd r c).state.2 := by
  have g := readRelay_guards c
  have hstart : MySQLPacketReader.Inv r ∧ Reads c c := ⟨hi, Reads.refl c⟩
  unfold readReply
  split_ifs
  · unfold readSimpleResponse
    rcases hq : readRelay "" (r, c) with ⟨e | q, s⟩
    · exact g.err (s := (r, c)) hstart hq
    · exact g.ok (s := (r, c)) hstart hq
  · rw [readFullResponse_eq]
    exact (responseLoop_keeps g _ 0 (s := (r, c)) hstart).1

section Cases
variable {req : QueryRequest} {w : Shadow} {conn : Conn}

lemma processRequest_silent (hw : w.conn.write req.packet = (none, conn))
    (hno : isNoResponseCommand (getMySQLCommand req.packet).1 = true) :
    (processRequest req w).conn = conn ∧ (processRequest req w).reader = w.reader ∧
      (processRequest req w).logger =
        logQueryExecution w.logger req req.packet.length 0 none := by
  simp [processRequest, hw, hno]

lemma processRequest_read (hw : w.conn.write req.packet = (none, conn))
    (hresp : isNoResponseCommand (getMySQLCommand req.packet).1 = false) {n : ℕ} {err : Option Err}
    {r : Reader} {c : Conn}
    (hread : readReply (getMySQLCommand req.packet).1 w.reader conn = ⟨n, err, (r, c)⟩) :
    (processRequest req w).conn = c ∧ (processRequest req w).reader = r ∧
      (processRequest req w).logger =
        logQueryExecution w.logger req req.packet.length n (err.map pastDeadline) := by
  cases err <;> simp [processRequest, hw, hresp, hread]

lemma processRequest_unwritten {e : Err} (hw : w.conn.write req.packet = (some e, conn)) :
    (processRequest req w).logger = logQueryExecution w.logger req 0 0 (some e) := by
  simp [processRequest, hw]

end Cases

lemma processRequest_conn (req : QueryRequest) {w : Shadow} (hi : MySQLPacketReader.Inv w.reader) :
    MySQLPacketReader.Inv (processRequest req w).reader ∧
      ((∃ conn, w.conn.write req.packet = (none, conn) ∧ Reads conn (processRequest req w).conn) ∨
        ∃ e, w.conn.write req.packet = (some e, w.conn) ∧ (processRequest req w).conn = w.conn ∧
          (processRequest req w).reader = w.reader) := by
  unfold processRequest
  rcases hw : w.conn.write req.packet with ⟨_ | e, conn⟩
  · dsimp only
    split_ifs
    · exact ⟨hi, .inl ⟨conn, rfl, Reads.refl conn⟩⟩
    · obtain ⟨hi', hr⟩ := readReply_reads (getMySQLCommand req.packet).1 hi conn
      rcases hread : readReply (getMySQLCommand req.packet).1 w.reader conn with ⟨n, _ | e, r, c⟩ <;>
        rw [hread] at hi' hr
      · exact ⟨hi', .inl ⟨conn, rfl, hr⟩⟩
      · exact ⟨hi', .inl ⟨conn, rfl, hr⟩⟩
  · obtain rfl := write_error hw
    exact ⟨hi, .inr ⟨e, rfl, rfl, rfl⟩⟩

section Framing
variable {qs : List Bytes} {ps : List Packet}

lemma wellFramed_front {q x y : Bytes} {p : Packet} (hq : WellFramed q)
    (h : q ++ x = p.bytes ++ y) : q = p.bytes := by
  have hlen : payloadLen q = p.payload.length := by
    rw [← payloadLen_bytes_append p y, ← h]
    have h3 : 3 ≤ q.length := by have := hq.1; omega
    simp only [payloadLen]
    rw [List.take_append_of_le_length h3]
  refine (List.append_inj h ?_).1
  rw [bytes_length, hq.2, hlen]

lemma framing_unique (hqs : ∀ q ∈ qs, WellFramed q) {rest : Bytes}
    (h : qs.flatten ++ rest = wire ps) :
    ∃ ps' : List Packet, ps.map Packet.bytes = qs ++ ps'.map Packet.bytes ∧ rest = wire ps' := by
  induction qs generalizing ps with
  | nil => exact ⟨ps, by simp, by simpa using h⟩
  | cons q qs ih =>
    obtain ⟨hq, hrest⟩ := List.forall_mem_cons.mp hqs
    rw [List.flatten_cons, List.append_assoc] at h
    cases ps with
    | nil =>
      have hlen := congrArg List.length h
      simp only [List.length_append, wire_nil, List.length_nil] at hlen
      have := hq.1
      omega
    | cons p ps =>
      rw [wire_cons] at h
      obtain rfl := wellFramed_front hq h
      obtain ⟨ps', hps, heq⟩ := ih hrest (List.append_cancel_left h)
      exact ⟨ps', by simp [hps], heq⟩

lemma Delivers.consumes {s s' : Reader × Conn} {start : Bytes} (hd : Delivers readRelay s qs s')
    (hp : Positioned start s.1 s.2) :
    (∀ q ∈ qs, WellFramed q) ∧ Positioned (start ++ qs.flatten) s'.1 s'.2 ∧ Reads s.2 s'.2 ∧
      unconsumed s.1 s.2 = qs.flatten ++ unconsumed s'.1 s'.2 ∧ (s.2.Clean → s'.2.Clean) := by
  induction qs generalizing s start with
  | nil =>
    cases hd
    exact ⟨by simp, by simpa using hp, Reads.refl _, by simp, id⟩
  | cons q qs ih =>
    obtain ⟨what, ⟨r, c⟩, hf, hd⟩ := hd
    have hq : readPacket s.1 s.2 = (.ok q, r, c) := by
      unfold readRelay at hf
      rcases hr : readPacket s.1 s.2 with ⟨result, r', c'⟩
      simp only [hr, Prod.mk.injEq] at hf
      obtain ⟨rfl, rfl, rfl⟩ := hf
      rfl
    obtain ⟨hw, hpos, hreads⟩ := hp.readPacket_ok hq
    obtain ⟨hall, hpos', hreads', hrest, hclean⟩ := ih hd hpos
    refine ⟨List.forall_mem_cons.mpr ⟨hw, hall⟩, by simpa using hpos', hreads.trans hreads', ?_,
      fun hc => hclean ?_⟩
    · rw [(readPacket_consumes hp.inv hq).2.2, hrest, List.flatten_cons, List.append_assoc]
    · have hc' := readPacket_clean hc s.1
      rwa [hq] at hc'

end Framing

/-- A reply that the worker's reader takes to its end and no further: none at all, one packet, or
the packets of a reply to a query or to a COM_STMT_PREPARE that end where the reader expects it. -/
def Delimited (req : Bytes) (ps : List Packet) : Prop :=
  let cmd := (getMySQLCommand req).1
  if isNoResponseCommand cmd then ps = []
  else if isSimpleResponseCommand cmd then ∃ p, ps = [p]
  else Reply ps ∨ (∃ p, IsEOF false p ∧ ps = [p]) ∨
    ∃ reply : PrepareReply, cmd = comStmtPrepare ∧ reply.ReadToEnd ∧ ps = reply.packets

section Reply
variable {req start : Bytes} {ps : List Packet} {r r' : Reader} {c c' : Conn} {n : ℕ}

lemma IsEOF.consumesAll {p : Packet} (h : IsEOF false p) : ConsumesAll [p] := by
  have hrun := responseLoop_single (listRelay_feeds [p.bytes] []) 0 0
    fun t => readUnit_eof listRelay 0 [] t h
  simpa [ConsumesAll] using hrun

lemma Delimited.consumesAll (h : Delimited req ps)
    (hresp : isNoResponseCommand (getMySQLCommand req).1 = false)
    (hsimple : isSimpleResponseCommand (getMySQLCommand req).1 = false) : ConsumesAll ps := by
  simp only [Delimited, hresp, hsimple, Bool.false_eq_true, if_false] at h
  rcases h with h | ⟨p, hp, rfl⟩ | ⟨reply, -, hread, rfl⟩
  · exact h.consumesAll
  · exact IsEOF.consumesAll hp
  · exact reply.consumesAll_iff.mpr hread

lemma readFullResponse_takes (hps : ConsumesAll ps) (hp : Positioned start r c)
    (hu : unconsumed r c = wire ps) (h : readFullResponse r c = ⟨n, none, (r', c')⟩) :
    n = (wire ps).length ∧ Delivers readRelay (r, c) (ps.map Packet.bytes) (r', c') := by
  rw [readFullResponse_eq] at h
  obtain ⟨qs, hd, hn, hrun⟩ := responseLoop_replays _ _ _ _ _ h
  obtain ⟨hall, -, -, hrest, -⟩ := Delivers.consumes hd hp
  rw [hu] at hrest
  obtain ⟨ps', hsplit, -⟩ := framing_unique hall hrest.symm
  have hlong := hrun (ps'.map Packet.bytes)
  rw [← hsplit] at hlong
  have hlong := responseLoop_fuel hlong (show _ ≤ ps.length by simp)
  rw [hps] at hlong
  simp only [Response.mk.injEq, true_and] at hlong
  obtain ⟨hlen, hnil⟩ := hlong
  rw [hsplit, ← hnil, List.append_nil]
  exact ⟨hlen.symm, hd⟩

lemma readReply_takes (hd : Delimited req ps)
    (hresp : isNoResponseCommand (getMySQLCommand req).1 = false) (hp : Positioned start r c)
    (hu : unconsumed r c = wire ps)
    (h : readReply (getMySQLCommand req).1 r c = ⟨n, none, (r', c')⟩) :
    n = (wire ps).length ∧ Delivers readRelay (r, c) (ps.map Packet.bytes) (r', c') := by
  unfold readReply at h
  split_ifs at h with hsimple
  · simp only [Delimited, hresp, hsimple, Bool.false_eq_true, if_true, if_false] at hd
    obtain ⟨p, rfl⟩ := hd
    unfold readSimpleResponse at h
    rcases hq : readRelay "" (r, c) with ⟨e | q, s⟩
    · simp [hq] at h
    · simp only [hq, Response.mk.injEq, true_and] at h
      obtain ⟨rfl, rfl⟩ := h
      have hone : Delivers readRelay (r, c) [q] (r', c') := ⟨"", _, hq, rfl⟩
      obtain ⟨hall, -, -, hrest, -⟩ := Delivers.consumes hone hp
      rw [hu] at hrest
      obtain ⟨ps', hsplit, -⟩ := framing_unique hall hrest.symm
      simp only [List.map_cons, List.map_nil, List.singleton_append, List.cons.injEq] at hsplit
      simp [hsplit.1, hone]
  · exact readFullResponse_takes (hd.consumesAll hresp (by simpa using hsimple)) hp hu h

lemma readReply_returns (hd : Delimited req ps)
    (hresp : isNoResponseCommand (getMySQLCommand req).1 = false) (hi : Inv r) (hc : c.Clean)
    (hu : unconsumed r c = wire ps) :
    ∃ n r' c', readReply (getMySQLCommand req).1 r c = ⟨n, none, (r', c')⟩ := by
  have hready : unread r ++ c.ready = wire ps ++ [] := by
    rw [Conn.ready, readyBytes_of_clean hc, List.append_nil]
    exact hu
  unfold readReply
  split_ifs with hsimple
  · simp only [Delimited, hresp, hsimple, Bool.false_eq_true, if_true, if_false] at hd
    obtain ⟨p, rfl⟩ := hd
    rw [wire_cons, wire_nil, List.append_nil] at hready
    obtain ⟨r', c', hq, -⟩ := readPacket_ready hi hready
    exact ⟨p.bytes.length, r', c', by simp only [readSimpleResponse, readRelay, hq]⟩
  · have hall := hd.consumesAll hresp (by simpa using hsimple)
    obtain ⟨r', c', hfull, -⟩ := (readsExactly_iff hi hready).mpr hall
    exact ⟨_, r', c', hfull⟩

end Reply

/-- `srv before req` is the reply of a server to `req` after the requests `before`. -/
abbrev Server := List Bytes → Bytes → List Packet

/-- Everything the server has to say to the given requests. -/
def Server.answered (srv : Server) : List Bytes → Bytes :=
  accum (fun before out req => out ++ wire (srv before req)) []

@[simp] lemma answered_nil (srv : Server) : srv.answered [] = [] := rfl

@[simp] lemma answered_concat (srv : Server) (h : List Bytes) (req : Bytes) :
    srv.answered (h ++ [req]) = srv.answered h ++ wire (srv h req) := by
  simp [Server.answered]

/-- A connection with nothing on its way, at whose other end `srv` answers every request. The reply
may come in any pieces and with any interruptions. -/
structure Answers (srv : Server) (c : Conn) : Prop where
  idle : c.pending = []
  answers : ∀ h req,
    (c.respond (c.sent ++ (h ++ [req]))).flatMap Segment.bytes = wire (srv h req)

/-- After the requests `h` the worker stands right behind their replies, and none of these has been
interrupted. -/
structure Aligned (srv : Server) (c₀ : Conn) (h : List Bytes) (w : Shadow) : Prop where
  sent : w.conn.sent = c₀.sent ++ h
  respond : w.conn.respond = c₀.respond
  position : Positioned (c₀.received ++ srv.answered h) w.reader w.conn
  clean : w.conn.Clean
  consumed : unconsumed w.reader w.conn = []

/-- The reply to `req` after the requests `h` comes without an interruption. -/
def InTime (c₀ : Conn) (h : List Bytes) (req : Bytes) : Prop :=
  ∀ s ∈ c₀.respond (c₀.sent ++ (h ++ [req])), s.err = none

section Attribution
variable {srv : Server} {c₀ : Conn} {h : List Bytes} {w : Shadow} {req : QueryRequest}

lemma aligned_start (hsrv : Answers srv c₀) (logger : QueryLogger) :
    Aligned srv c₀ [] (.start c₀ logger) :=
  ⟨by simp [Shadow.start], rfl, by simpa [Shadow.start] using positioned_new c₀,
    by simp [Shadow.start, Conn.Clean, hsrv.idle], by simp [Shadow.start, unconsumed, hsrv.idle]⟩

lemma Aligned.write (hsrv : Answers srv c₀) (ha : Aligned srv c₀ h w) {conn : Conn}
    (hw : w.conn.write req.packet = (none, conn)) :
    conn.sent = c₀.sent ++ (h ++ [req.packet]) ∧ conn.respond = c₀.respond ∧
      Positioned (c₀.received ++ srv.answered h) w.reader conn ∧
      unconsumed w.reader conn = wire (srv h req.packet) ∧
      (InTime c₀ h req.packet → conn.Clean) := by
  obtain ⟨hsent, hrec⟩ := write_ok hw
  obtain ⟨hpending, hrespond⟩ := write_pending hw
  have hhist : w.conn.sent ++ [req.packet] = c₀.sent ++ (h ++ [req.packet]) := by
    rw [ha.sent, List.append_assoc]
  rw [hhist, ha.respond] at hpending
  refine ⟨hsent.trans hhist, hrespond.trans ha.respond, Positioned.write ha.position hw, ?_, ?_⟩
  · have hnone := ha.consumed
    rw [unconsumed] at hnone
    rw [unconsumed, hpending, List.flatMap_append, ← List.append_assoc, hnone, List.nil_append,
      hsrv.answers]
  · intro htime s hs
    rw [hpending] at hs
    rcases List.mem_append.mp hs with hs | hs
    · exact ha.clean s hs
    · exact htime s hs

lemma Aligned.reply (hsrv : Answers srv c₀) (ha : Aligned srv c₀ h w)
    (hfit : Delimited req.packet (srv h req.packet)) {conn : Conn}
    (hw : w.conn.write req.packet = (none, conn))
    (hresp : isNoResponseCommand (getMySQLCommand req.packet).1 = false) {n : ℕ} {r : Reader}
    {c : Conn}
    (hread : readReply (getMySQLCommand req.packet).1 w.reader conn = ⟨n, none, (r, c)⟩) :
    n = (wire (srv h req.packet)).length ∧
      Positioned (c₀.received ++ srv.answered (h ++ [req.packet])) r c ∧
      c.sent = c₀.sent ++ (h ++ [req.packet]) ∧ c.respond = c₀.respond ∧ unconsumed r c = [] ∧
      (InTime c₀ h req.packet → c.Clean) := by
  obtain ⟨hsent, hrespond, hpos, hu, hclean⟩ := ha.write hsrv hw
  obtain ⟨hn, hd⟩ := readReply_takes hfit hresp hpos hu hread
  obtain ⟨-, hpos', hreads, hrest, hclean'⟩ := Delivers.consumes hd hpos
  rw [flatten_map_bytes] at hpos' hrest
  refine ⟨hn, ?_, hreads.sent.trans hsent, hreads.respond.trans hrespond, ?_,
    fun htime => hclean' (hclean htime)⟩
  · rw [answered_concat, ← List.append_assoc]
    exact hpos'
  · exact List.append_right_eq_self.mp (hrest.symm.trans hu)

lemma Aligned.step (hsrv : Answers srv c₀) (ha : Aligned srv c₀ h w) {h' : List Bytes}
    (hh : (processRequest req w).conn.sent = c₀.sent ++ h')
    (hfit : EachStep (fun before r => Delimited r (srv before r)) h')
    (htime : EachStep (InTime c₀) h') : Aligned srv c₀ h' (processRequest req w) := by
  rcases (processRequest_conn req ha.position.inv).2 with ⟨conn, hw, hreads⟩ | ⟨e, hw, hc, hr⟩
  · obtain ⟨hsent, hrespond, hpos, hu, hclean⟩ := ha.write hsrv hw
    obtain rfl : h' = h ++ [req.packet] := by
      rw [hreads.sent, hsent] at hh
      exact (List.append_cancel_left hh).symm
    obtain ⟨-, hnow⟩ := (eachStep_concat _ _).mp hfit
    obtain ⟨-, hsoon⟩ := (eachStep_concat _ _).mp htime
    cases hresp : isNoResponseCommand (getMySQLCommand req.packet).1 with
    | true =>
      obtain ⟨hc, hr, -⟩ := processRequest_silent hw hresp
      simp only [Delimited, hresp, if_true] at hnow
      rw [hnow, wire_nil] at hu
      refine ⟨hh, hc ▸ hrespond, ?_, hc ▸ hclean hsoon, hc ▸ hr ▸ hu⟩
      rw [hc, hr, answered_concat, hnow, wire_nil, List.append_nil]
      exact hpos
    | false =>
      obtain ⟨n, r, c, hread⟩ := readReply_returns hnow hresp hpos.inv (hclean hsoon) hu
      obtain ⟨hc, hr, -⟩ := processRequest_read hw hresp hread
      obtain ⟨-, hpos', -, hrespond', hrest, hclean'⟩ := ha.reply hsrv hnow hw hresp hread
      exact ⟨hh, hc ▸ hrespond', hc ▸ hr ▸ hpos', hc ▸ hclean' hsoon, hc ▸ hr ▸ hrest⟩
  · obtain rfl : h' = h := by
      rw [hc, ha.sent] at hh
      exact (List.append_cancel_left hh).symm
    exact ⟨hh, hc ▸ ha.respond, hc ▸ hr ▸ ha.position, hc ▸ ha.clean, hc ▸ hr ▸ ha.consumed⟩

@[simp] lemma after_nil (w : Shadow) : w.after [] = w := rfl

@[simp] lemma after_cons (w : Shadow) (req : QueryRequest) (reqs : List QueryRequest) :
    w.after (req :: reqs) = (processRequest req w).after reqs := rfl

@[simp] lemma after_concat (w : Shadow) (reqs : List QueryRequest) (req : QueryRequest) :
    w.after (reqs ++ [req]) = processRequest req (w.after reqs) := by
  simp [Shadow.after]

lemma after_inv {w : Shadow} (hi : MySQLPacketReader.Inv w.reader) (reqs : List QueryRequest) :
    MySQLPacketReader.Inv (w.after reqs).reader := by
  induction reqs using List.reverseRecOn with
  | nil => exact hi
  | append_singleton reqs req ih =>
    rw [after_concat]
    exact (processRequest_conn req ih).1

lemma processRequest_sent (req : QueryRequest) {w : Shadow} (hi : MySQLPacketReader.Inv w.reader) :
    w.conn.sent <+: (processRequest req w).conn.sent := by
  rcases (processRequest_conn req hi).2 with ⟨conn, hw, hreads⟩ | ⟨e, hw, hc, -⟩
  · rw [hreads.sent, (write_ok hw).1]
    exact List.prefix_append _ _
  · rw [hc]

lemma processRequest_written (req : QueryRequest) {w : Shadow}
    (hi : MySQLPacketReader.Inv w.reader) (hw : w.conn.writable = none) :
    (processRequest req w).conn.sent = w.conn.sent ++ [req.packet] ∧
      (processRequest req w).conn.writable = none := by
  obtain ⟨conn', hwrite', hunlimited⟩ := write_unlimited hw req.packet
  rcases (processRequest_conn req hi).2 with ⟨conn, hwrite, hreads⟩ | ⟨e, hwrite, -, -⟩ <;>
    rw [hwrite'] at hwrite
  · obtain rfl : conn' = conn := (Prod.mk.inj hwrite).2
    rw [hreads.sent, hreads.writable, (write_ok hwrite').1]
    exact ⟨rfl, hunlimited⟩
  · simp at hwrite

lemma after_written {w : Shadow} (hi : MySQLPacketReader.Inv w.reader)
    (hw : w.conn.writable = none) (reqs : List QueryRequest) :
    (w.after reqs).conn.sent = w.conn.sent ++ reqs.map QueryRequest.packet ∧
      (w.after reqs).conn.writable = none := by
  induction reqs using List.reverseRecOn with
  | nil => exact ⟨by simp [Shadow.after], hw⟩
  | append_singleton reqs req ih =>
    obtain ⟨hsent, hwrite⟩ := processRequest_written req (after_inv hi reqs) ih.2
    rw [after_concat]
    exact ⟨by simp [hsent, ih.1], hwrite⟩

lemma after_mirrored {w : Shadow} (hi : MySQLPacketReader.Inv w.reader) (reqs : List QueryRequest) :
    ∃ mirrored rest, (w.after reqs).conn.sent = w.conn.sent ++ mirrored ∧
      reqs.map QueryRequest.packet = mirrored ++ rest ∧
      (rest = [] ∨ (w.after reqs).conn.writable = some 0) := by
  induction reqs using List.reverseRecOn with
  | nil => exact ⟨[], [], by simp, by simp, .inl rfl⟩
  | append_singleton reqs req ih =>
    obtain ⟨mirrored, rest, hsent, hreqs, hend⟩ := ih
    rw [after_concat, List.map_append, hreqs]
    rcases (processRequest_conn req (after_inv hi reqs)).2 with
      ⟨conn, hw, hreads⟩ | ⟨e, hw, hc, -⟩
    · have hopen : (w.after reqs).conn.writable ≠ some 0 := by
        intro hzero
        simp [Conn.write, hzero] at hw
      obtain rfl := hend.resolve_right hopen
      refine ⟨mirrored ++ [req.packet], [], ?_, by simp, .inl rfl⟩
      rw [hreads.sent, (write_ok hw).1, hsent, List.append_assoc]
    · refine ⟨mirrored, rest ++ [req.packet], by rw [hc, hsent], by simp, .inr ?_⟩
      rw [hc]
      exact write_refused hw

lemma after_sent {w : Shadow} (hi : MySQLPacketReader.Inv w.reader) (reqs : List QueryRequest) :
    w.conn.sent <+: (w.after reqs).conn.sent := by
  induction reqs using List.reverseRecOn with
  | nil => exact List.prefix_rfl
  | append_singleton reqs req ih =>
    rw [after_concat]
    exact ih.trans (processRequest_sent req (after_inv hi reqs))

lemma aligned_after (hsrv : Answers srv c₀) (logger : QueryLogger) {reqs : List QueryRequest}
    (hh : ((Shadow.start c₀ logger).after reqs).conn.sent = c₀.sent ++ h)
    (hfit : EachStep (fun before r => Delimited r (srv before r)) h)
    (htime : EachStep (InTime c₀) h) :
    Aligned srv c₀ h ((Shadow.start c₀ logger).after reqs) := by
  induction reqs using List.reverseRecOn generalizing h with
  | nil =>
    obtain rfl : h = [] := by simpa [Shadow.after, Shadow.start] using hh
    exact aligned_start hsrv logger
  | append_singleton reqs req ih =>
    have hi := after_inv (w := .start c₀ logger) new_inv reqs
    obtain ⟨h₁, hh₁⟩ := after_sent (w := .start c₀ logger) new_inv reqs
    have hstep := processRequest_sent req hi
    rw [after_concat] at hh ⊢
    rw [hh, ← hh₁] at hstep
    obtain ⟨h₂, rfl⟩ := (List.prefix_append_right_inj _).mp hstep
    have ha := ih hh₁.symm hfit.of_append htime.of_append
    exact ha.step hsrv hh hfit htime

/-- An aligned worker that logs a success has read the reply to that request. -/
lemma Aligned.logged (hsrv : Answers srv c₀) (ha : Aligned srv c₀ h w)
    (hfit : Delimited req.packet (srv h req.packet)) {entries : List QueryLogEntry}
    {entry : QueryLogEntry} (hlog : (processRequest req w).logger = some (entries ++ [entry]))
    (hok : entry.error = none) :
    entry = executionEntry .shadow req req.packet.length (wire (srv h req.packet)).length none ∧
      Positioned (c₀.received ++ srv.answered (h ++ [req.packet])) (processRequest req w).reader
        (processRequest req w).conn := by
  rcases hw : w.conn.write req.packet with ⟨_ | e, conn⟩
  · cases hresp : isNoResponseCommand (getMySQLCommand req.packet).1 with
    | true =>
      obtain ⟨hc, hr, hl⟩ := processRequest_silent hw hresp
      obtain ⟨-, -, hpos, -⟩ := ha.write hsrv hw
      simp only [Delimited, hresp, if_true] at hfit
      rw [hl, logQueryExecution] at hlog
      rw [log_last hlog, hc, hr, answered_concat, hfit, wire_nil, List.append_nil]
      exact ⟨rfl, hpos⟩
    | false =>
      rcases hread : readReply (getMySQLCommand req.packet).1 w.reader conn with ⟨n, err, r, c⟩
      obtain ⟨hc, hr, hl⟩ := processRequest_read hw hresp hread
      rw [hl, logQueryExecution] at hlog
      obtain rfl := log_last hlog
      obtain rfl : err = none := Option.map_eq_none_iff.mp hok
      obtain ⟨hn, hpos, -⟩ := ha.reply hsrv hfit hw hresp hread
      rw [hc, hr, hn]
      exact ⟨rfl, hpos⟩
  · rw [processRequest_unwritten hw, logQueryExecution] at hlog
    rw [log_last hlog] at hok
    simp [executionEntry] at hok

lemma Aligned.succeeds (req : QueryRequest) (hsrv : Answers srv c₀) (ha : Aligned srv c₀ h w)
    (hfit : Delimited req.packet (srv h req.packet)) (htime : InTime c₀ h req.packet)
    (hw : w.conn.writable = none) :
    (processRequest req w).logger =
      logQueryExecution w.logger req req.packet.length (wire (srv h req.packet)).length none := by
  obtain ⟨conn, hwrite, -⟩ := write_unlimited hw req.packet
  cases hresp : isNoResponseCommand (getMySQLCommand req.packet).1 with
  | true =>
    simp only [Delimited, hresp, if_true] at hfit
    rw [(processRequest_silent hwrite hresp).2.2, hfit, wire_nil, List.length_nil]
  | false =>
    obtain ⟨-, -, hpos, hu, hclean⟩ := ha.write hsrv hwrite
    obtain ⟨n, r, c, hread⟩ := readReply_returns hfit hresp hpos.inv (hclean htime) hu
    obtain ⟨hn, -⟩ := ha.reply hsrv hfit hwrite hresp hread
    rw [(processRequest_read hwrite hresp hread).2.2, hn]
    rfl

/-- In every run, a request that is logged as successful has been answered by its own reply, if the
replies to the requests before it came in time. -/
theorem success_reads_own_reply (hsrv : Answers srv c₀) (capacity : ℕ)
    (acts : List (Act QueryRequest)) {pre post : List QueryRequest} {entries : List QueryLogEntry}
    {entry : QueryLogEntry}
    (hrun : (Service.exec capacity processRequest acts
      (.start (.start c₀ (some [])))).worker.finished = pre ++ req :: post)
    (hlog : (processRequest req ((Shadow.start c₀ (some [])).after pre)).logger =
      some (entries ++ [entry]))
    (hok : entry.error = none)
    (hh : ((Shadow.start c₀ (some [])).after pre).conn.sent = c₀.sent ++ h)
    (hfit : EachStep (fun before r => Delimited r (srv before r)) (h ++ [req.packet]))
    (htime : EachStep (InTime c₀) h) :
    let before := (Shadow.start c₀ (some [])).after pre
    let now := processRequest req before
    (Service.exec capacity processRequest acts (.start (.start c₀ (some [])))).worker.state =
        now.after post ∧
      entry.bytesRecv = (wire (srv h req.packet)).length ∧
      Positioned (c₀.received ++ srv.answered h) before.reader before.conn ∧
      Positioned (c₀.received ++ srv.answered h ++ wire (srv h req.packet)) now.reader
        now.conn := by
  obtain ⟨hearlier, hnow⟩ := (eachStep_concat _ _).mp hfit
  have ha := aligned_after hsrv (some []) hh hearlier htime
  obtain ⟨hentry, hpos⟩ := ha.logged hsrv hnow hlog hok
  refine ⟨?_, by rw [hentry]; rfl, ha.position, ?_⟩
  · rw [(exec_inv capacity processRequest _ acts).worked, hrun]
    simp [Shadow.after]
  · rw [answered_concat, ← List.append_assoc] at hpos
    exact hpos

end Attribution

def sampleQuery (c : UInt8) : Bytes := [2, 0, 0, 0, 3, c]

def sampleRequest (id : ℕ) : QueryRequest := newQueryRequest id (sampleQuery id.toUInt8)

/-- Two requests that the worker processes one after the other. -/
def sampleActs : List (Act QueryRequest) :=
  [.send (sampleRequest 1), .send (sampleRequest 2), .step .queue, .step .idle, .step .idle,
    .step .queue, .step .idle, .step .idle]

def sampleServer : Server := fun before _ => if before = [] then [sampleOK] else sampleReply

/-- The reply to the first request comes after `delay`. -/
def sampleShadow (delay : Option Err) : Conn where
  pending := []
  received := []
  sent := []
  respond := fun sent =>
    if sent.length = 1 then [⟨[], delay⟩, ⟨sampleOK.bytes, none⟩] else [⟨wire sampleReply, none⟩]
  writable := none

lemma sampleShadow_answers (delay : Option Err) : Answers sampleServer (sampleShadow delay) where
  idle := rfl
  answers := by
    intro h req
    cases h <;> simp [sampleShadow, sampleServer, wire]

lemma sampleServer_delimited (before : List Bytes) (c : UInt8) :
    Delimited (sampleQuery c) (sampleServer before (sampleQuery c)) := by
  refine .inl ?_
  unfold sampleServer
  split_ifs
  · exact sampleOK_reply
  · exact sampleReply_reply

def sampleBefore (delay : Option Err) : Shadow :=
  (Shadow.start (sampleShadow delay) (some [])).after [sampleRequest 1]

lemma sampleActs_finished (delay : Option Err) :
    (Service.exec 2 processRequest sampleActs
      (.start (.start (sampleShadow delay) (some [])))).worker.finished =
        [sampleRequest 1] ++ sampleRequest 2 :: [] := rfl

theorem success_reads_own_reply_second :
    ∃ entry, (processRequest (sampleRequest 2) (sampleBefore none)).logger =
        some ([executionEntry .shadow (sampleRequest 1) 6 11 none] ++ [entry]) ∧
      entry.error = none ∧ entry.bytesRecv = (wire sampleReply).length ∧
      Positioned (wire [sampleOK]) (sampleBefore none).reader (sampleBefore none).conn ∧
      Positioned (wire [sampleOK] ++ wire sampleReply)
        (processRequest (sampleRequest 2) (sampleBefore none)).reader
        (processRequest (sampleRequest 2) (sampleBefore none)).conn := by
  have hsrv := sampleShadow_answers none
  have hintime : ∀ h req, InTime (sampleShadow none) h req := by
    intro h req s hs
    simp only [sampleShadow] at hs
    split_ifs at hs <;> simp at hs
    · rcases hs with rfl | rfl <;> rfl
    · rw [hs]
  have hone := (aligned_start hsrv (some [])).succeeds (sampleRequest 1) hsrv
    (sampleServer_delimited _ _) (hintime _ _) rfl
  have hsent := after_written (w := .start (sampleShadow none) (some [])) new_inv rfl
    [sampleRequest 1]
  have hfit : EachStep (fun before r => Delimited r (sampleServer before r))
      ([] ++ [(sampleRequest 1).packet]) :=
    (eachStep_concat _ _).mpr ⟨eachStep_nil, sampleServer_delimited _ _⟩
  have htime : EachStep (InTime (sampleShadow none)) [(sampleRequest 1).packet] :=
    fun a x _ _ => hintime a x
  have htwo := (aligned_after hsrv (some []) hsent.1 hfit htime).succeeds
    (sampleRequest 2) hsrv (sampleServer_delimited _ _) (hintime _ _) hsent.2
  have hlog : (processRequest (sampleRequest 2) (sampleBefore none)).logger =
      some ([executionEntry .shadow (sampleRequest 1) 6 11 none] ++
        [executionEntry .shadow (sampleRequest 2) 6 (wire sampleReply).length none]) := by
    rw [sampleBefore, htwo, after_cons, after_nil, hone]
    rfl
  obtain ⟨-, hrecv, hbefore, hnow⟩ := success_reads_own_reply hsrv 2 sampleActs
    (sampleActs_finished none) hlog rfl hsent.1
    ((eachStep_concat _ _).mpr ⟨hfit, sampleServer_delimited _ _⟩) htime
  have hstart : (sampleShadow none).received ++ sampleServer.answered [(sampleRequest 1).packet] =
      wire [sampleOK] := rfl
  refine ⟨_, hlog, rfl, ?_, ?_, ?_⟩
  · exact hrecv
  · rw [← hstart]
    exact hbefore
  · rw [← hstart]
    exact hnow

lemma readPacket_interrupted {r : Reader} {c : Conn} {e : Err} {rest : List Segment}
    (hi : MySQLPacketReader.Inv r) (hu : unread r = []) (hc : c.pending = ⟨[], some e⟩ :: rest) :
    ∃ r', readPacket r c = (.error e, r', { c with pending := rest }) ∧
      MySQLPacketReader.Inv r' ∧ unread r' = [] := by
  have hlen := unread_length hi
  rw [hu, List.length_nil] at hlen
  obtain ⟨ci, cu, co, cs⟩ := compact_spec hi
  obtain ⟨gi, gu, -, gs, -⟩ := grow_spec 4 ci co (by omega)
  have hstop : (grow (compact r) 4).stop < 4 := by omega
  obtain ⟨si, su⟩ := store_uncounted [] gi
  have hens : ensureBytes r c 4 = (some e, { grow (compact r) 4 with
      buf := copyAt (grow (compact r) 4).buf (grow (compact r) 4).stop [] },
      { c with pending := rest }) := by
    rw [ensureBytes, if_neg (by omega), fill, if_pos hstop]
    simp [Conn.read, hc]
  exact ⟨_, by simp [readPacket, hens], si, by rw [su, gu, cu, hu]⟩

lemma readReply_interrupted (cmd : UInt8) {r : Reader} {c : Conn} {e : Err} {rest : List Segment}
    (hi : MySQLPacketReader.Inv r) (hu : unread r = []) (hc : c.pending = ⟨[], some e⟩ :: rest) :
    ∃ r', readReply cmd r c = ⟨0, some e, (r', { c with pending := rest })⟩ ∧
      MySQLPacketReader.Inv r' ∧ unread r' = [] := by
  obtain ⟨r', hr, hi', hu'⟩ := readPacket_interrupted hi hu hc
  refine ⟨r', ?_, hi', hu'⟩
  unfold readReply
  split_ifs
  · simp [readSimpleResponse, readRelay, hr]
  · simp [readFullResponse_eq, responseLoop, readRelay, hr]

lemma sampleActs_state (delay : Option Err) :
    (Service.exec 2 processRequest sampleActs
      (.start (.start (sampleShadow delay) (some [])))).worker.state =
        processRequest (sampleRequest 2)
          (processRequest (sampleRequest 1) (.start (sampleShadow delay) (some []))) := by
  have hworked := (exec_inv 2 processRequest (.start (sampleShadow delay) (some [])) sampleActs).worked
  rw [sampleActs_finished, List.singleton_append, List.foldl_cons, List.foldl_cons,
    List.foldl_nil] at hworked
  exact hworked

/-- The first reply comes too late for the first request and is taken for the reply to the second:
its eleven bytes are logged for that request, with success. -/
theorem late_reply_logged_for_next_request :
    Answers sampleServer (sampleShadow (some .timeout)) ∧
      (∀ before c, Delimited (sampleQuery c) (sampleServer before (sampleQuery c))) ∧
      (Service.exec 2 processRequest sampleActs
        (.start (.start (sampleShadow (some .timeout)) (some [])))).worker.state.logger =
          some [executionEntry .shadow (sampleRequest 1) 6 0 (some .timeout),
            executionEntry .shadow (sampleRequest 2) 6 11 none] ∧
      (wire (sampleServer [] (sampleQuery 1))).length = 11 ∧
      (wire (sampleServer [sampleQuery 1] (sampleQuery 2))).length = 49 := by
  refine ⟨sampleShadow_answers _, sampleServer_delimited, ?_, by decide, by decide⟩
  rw [sampleActs_state]
  set w := Shadow.start (sampleShadow (some .timeout)) (some []) with hw
  obtain ⟨r₁, hread₁, hi₁, hu₁⟩ := readReply_interrupted (getMySQLCommand (sampleRequest 1).packet).1
    new_inv unread_new (c := (w.conn.write (sampleRequest 1).packet).2) rfl
  have hwrite₁ : w.conn.write (sampleRequest 1).packet =
      (none, (w.conn.write (sampleRequest 1).packet).2) := rfl
  obtain ⟨hc₁, hr₁, hl₁⟩ := processRequest_read hwrite₁ rfl hread₁
  obtain ⟨conn, hwrite, -⟩ := write_unlimited
    (c := (processRequest (sampleRequest 1) w).conn) (by rw [hc₁]; rfl) (sampleRequest 2).packet
  have hready : unread r₁ ++ conn.ready = wire [sampleOK] ++ wire sampleReply := by
    rw [hu₁, Conn.ready, (write_pending hwrite).1, hc₁]
    rfl
  obtain ⟨r₂, c₂, hread₂, -⟩ := (readsExactly_iff hi₁ hready).mpr sampleOK_reply.consumesAll
  rw [← hr₁] at hread₂
  have hfull : readReply (getMySQLCommand (sampleRequest 2).packet).1
      (processRequest (sampleRequest 1) w).reader conn = ⟨11, none, (r₂, c₂)⟩ := by
    rw [readReply, if_neg (by decide), hread₂]
    rfl
  obtain ⟨-, -, hl₂⟩ := processRequest_read hwrite rfl hfull
  rw [hl₂, hl₁]
  rfl

end ShadowProxy.MySQLShadowWorker
