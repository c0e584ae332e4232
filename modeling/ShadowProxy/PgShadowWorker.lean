import ShadowProxy.EventHistory
import ShadowProxy.PgQueryLoop
import ShadowProxy.QueryLog
import ShadowProxy.WorkQueue

/-! The worker behind a PostgreSQL session. The first error on its connection is final: from then on
the worker is dead, and every frame is dropped and counted. -/
namespace ShadowProxy.PgShadowWorker
open WordBytes EventHistory NetConn PgProtocol PgQueryLoop QueryLog WorkQueue

/-- A frame in the queue, with the request it is logged under. `expectsResponse` marks Query and
Sync. -/
structure QueuedFrame extends PgShadowFrame where
  req : QueryRequest
  deriving DecidableEq

def newPgRequest (id : ℕ) (msg : PgPacket) : QueryRequest :=
  ⟨id, [], extractPgQueryText msg, pgFrontendCommandName msg.msgType⟩

def shadowFrame (req : QueryRequest) (msg : PgPacket) : QueuedFrame :=
  ⟨⟨msg.bytes, expectsResponse msg⟩, req⟩

/-- The counters with the label `shadow`, and those of failed writes and reads. `dropped` is the
worker's part of `shadow_dropped_total` with the reason `conn_dead`. -/
structure PgShadowMetrics where
  pgPackets : ℕ
  queryTotal : ℕ
  queryErrors : ℕ
  writeErrors : ℕ
  readTimeouts : ℕ
  bytesSent : ℕ
  bytesReceived : ℕ
  dropped : ℕ
  deriving DecidableEq, Repr

structure PgShadow where
  conn : Conn
  dead : Bool
  metrics : PgShadowMetrics
  logger : QueryLogger

namespace PgShadow

def start (conn : Conn) (logger : QueryLogger) : PgShadow :=
  ⟨conn, false, ⟨0, 0, 0, 0, 0, 0, 0, 0⟩, logger⟩

def markDead (w : PgShadow) : PgShadow :=
  if w.dead then w else { w with dead := true, conn := w.conn.close }

def logExecution (w : PgShadow) (req : QueryRequest) (bytesSent bytesRecv : ℕ) (err : Option Err) :
    PgShadow :=
  { w with logger := w.logger.log (executionEntry .shadow req bytesSent bytesRecv err) }

end PgShadow

def readUntilReadyLoop : ℕ → ℕ → Conn → ℕ × Option Err × Conn
  | 0, bytesRead, conn => (bytesRead, some .stalled, conn)
  | fuel + 1, bytesRead, conn =>
    match readMessage conn with
    | (.error e, conn) => (bytesRead, some e, conn)
    | (.ok msg, conn) =>
      let bytesRead := bytesRead + msg.bytes.length
      if msg.msgType = pgBackendReadyForQuery then (bytesRead, none, conn)
      else readUntilReadyLoop fuel bytesRead conn

/-- The loop of `processFrame` that reads a response. Every message takes at least one byte, so the
bytes on their way bound the iterations. -/
def readUntilReady (conn : Conn) : ℕ × Option Err × Conn :=
  readUntilReadyLoop ((conn.pending.flatMap Segment.bytes).length + 1) 0 conn

def processFrame (frame : QueuedFrame) (w : PgShadow) : PgShadow :=
  if w.dead then { w with metrics := { w.metrics with dropped := w.metrics.dropped + 1 } }
  else
    let m := { w.metrics with pgPackets := w.metrics.pgPackets + 1 }
    match w.conn.write frame.payload with
    | (some e, conn) =>
      let m := { m with writeErrors := m.writeErrors + 1, queryErrors := m.queryErrors + 1 }
      { w with conn := conn, metrics := m }.markDead.logExecution frame.req 0 0 (some e)
    | (none, conn) =>
      let m := { m with bytesSent := m.bytesSent + frame.payload.length }
      if frame.expectsResponse then
        let m := { m with queryTotal := m.queryTotal + 1 }
        match readUntilReady conn with
        | (bytesRead, some e, conn) =>
          let m := { m with
            readTimeouts := m.readTimeouts + (decide (pastDeadline e = .timeout)).toNat
            queryErrors := m.queryErrors + 1 }
          { w with conn := conn, metrics := m }.markDead.logExecution frame.req frame.payload.length
            bytesRead (some (pastDeadline e))
        | (bytesRead, none, conn) =>
          let m := { m with bytesReceived := m.bytesReceived + bytesRead }
          { w with conn := conn, metrics := m }.logExecution frame.req frame.payload.length bytesRead
            none
      else
        { w with conn := conn, metrics := m }.logExecution frame.req frame.payload.length 0 none

def PgShadow.after (w : PgShadow) (frames : List QueuedFrame) : PgShadow :=
  frames.foldl (fun w frame => processFrame frame w) w

/-- The write or read that fails when the frame is processed on a live connection. -/
def ioError (frame : QueuedFrame) (w : PgShadow) : Option Err :=
  match w.conn.write frame.payload with
  | (some e, _) => some e
  | (none, conn) => if frame.expectsResponse then (readUntilReady conn).2.1 else none

@[simp] lemma after_nil (w : PgShadow) : w.after [] = w := rfl

@[simp] lemma after_concat (w : PgShadow) (frames : List QueuedFrame) (frame : QueuedFrame) :
    w.after (frames ++ [frame]) = processFrame frame (w.after frames) := by
  simp [PgShadow.after]

lemma after_append (w : PgShadow) (frames frames' : List QueuedFrame) :
    w.after (frames ++ frames') = (w.after frames).after frames' := by
  simp [PgShadow.after]

section Cases
variable {frame : QueuedFrame} {w : PgShadow} {conn : Conn}

lemma processFrame_dead (hd : w.dead = true) :
    processFrame frame w = { w with metrics := { w.metrics with dropped := w.metrics.dropped + 1 } } :=
  if_pos hd

lemma processFrame_unwritten (hd : w.dead = false) {e : Err}
    (hw : w.conn.write frame.payload = (some e, conn)) :
    (processFrame frame w).dead = true ∧
      (processFrame frame w).logger = w.logger.log (executionEntry .shadow frame.req 0 0 (some e)) ∧
      (processFrame frame w).metrics.dropped = w.metrics.dropped := by
  simp [processFrame, hd, hw, PgShadow.markDead, PgShadow.logExecution]

lemma processFrame_silent (hd : w.dead = false) (hw : w.conn.write frame.payload = (none, conn))
    (hno : frame.expectsResponse = false) :
    (processFrame frame w).dead = false ∧
      (processFrame frame w).logger =
        w.logger.log (executionEntry .shadow frame.req frame.payload.length 0 none) ∧
      (processFrame frame w).metrics.dropped = w.metrics.dropped ∧
      (processFrame frame w).conn = conn := by
  simp [processFrame, hd, hw, hno, PgShadow.logExecution]

lemma processFrame_read (hd : w.dead = false) (hw : w.conn.write frame.payload = (none, conn))
    (hresp : frame.expectsResponse = true) {n : ℕ} {err : Option Err} {c : Conn}
    (hread : readUntilReady conn = (n, err, c)) :
    (processFrame frame w).dead = err.isSome ∧
      (processFrame frame w).logger = w.logger.log
        (executionEntry .shadow frame.req frame.payload.length n (err.map pastDeadline)) ∧
      (processFrame frame w).metrics.dropped = w.metrics.dropped ∧
      (err = none → (processFrame frame w).conn = c) := by
  cases err <;>
    simp [processFrame, hd, hw, hresp, hread, PgShadow.markDead, PgShadow.logExecution]

/-- A live worker logs the frame, and is dead afterwards exactly if a write or a read has failed. -/
lemma processFrame_live (frame : QueuedFrame) (hd : w.dead = false) :
    (processFrame frame w).dead = (ioError frame w).isSome ∧
      (processFrame frame w).metrics.dropped = w.metrics.dropped ∧
      ∃ bytesSent bytesRecv err, err.isSome = (ioError frame w).isSome ∧
        (processFrame frame w).logger =
          w.logger.log (executionEntry .shadow frame.req bytesSent bytesRecv err) := by
  unfold ioError
  rcases hw : w.conn.write frame.payload with ⟨_ | e, conn⟩
  · cases hresp : frame.expectsResponse with
    | false =>
      obtain ⟨hdead, hlog, hdrop, -⟩ := processFrame_silent hd hw hresp
      exact ⟨hdead, hdrop, _, _, _, by simp, hlog⟩
    | true =>
      rcases hread : readUntilReady conn with ⟨n, err, c⟩
      obtain ⟨hdead, hlog, hdrop, -⟩ := processFrame_read hd hw hresp hread
      exact ⟨by simpa [hread] using hdead, hdrop, _, _, _, by simp [hread], hlog⟩
  · obtain ⟨hdead, hlog, hdrop⟩ := processFrame_unwritten hd hw
    exact ⟨hdead, hdrop, _, _, _, rfl, hlog⟩

end Cases

lemma after_dead {w : PgShadow} (hd : w.dead = true) (frames : List QueuedFrame) :
    w.after frames =
      { w with metrics := { w.metrics with dropped := w.metrics.dropped + frames.length } } := by
  induction frames using List.reverseRecOn with
  | nil => rfl
  | append_singleton frames frame ih =>
    rw [after_concat, ih, List.length_append]
    exact processFrame_dead hd

def buried : PgShadow → List QueuedFrame → List QueuedFrame
  | _, [] => []
  | w, frame :: frames => (if w.dead then [frame] else []) ++ buried (processFrame frame w) frames

lemma buried_append (w : PgShadow) (frames frames' : List QueuedFrame) :
    buried w (frames ++ frames') = buried w frames ++ buried (w.after frames) frames' := by
  induction frames generalizing w with
  | nil => rfl
  | cons frame frames ih => simp [buried, ih, PgShadow.after]

lemma buried_concat (w : PgShadow) (frames : List QueuedFrame) (frame : QueuedFrame) :
    buried w (frames ++ [frame]) = buried w frames ++ if (w.after frames).dead then [frame] else [] := by
  simp [buried_append, buried]

lemma buried_dead {w : PgShadow} (hd : w.dead = true) (frames : List QueuedFrame) :
    buried w frames = frames := by
  induction frames generalizing w with
  | nil => rfl
  | cons frame frames ih => rw [buried, if_pos hd, ih (by rw [processFrame_dead hd]; exact hd)]; rfl

lemma buried_live (w : PgShadow) (frames : List QueuedFrame) (h : (w.after frames).dead = false) :
    buried w frames = [] := by
  induction frames using List.reverseRecOn with
  | nil => rfl
  | append_singleton frames frame ih =>
    have hlive : (w.after frames).dead = false := by
      by_contra hd
      rw [after_concat, processFrame_dead (by simpa using hd)] at h
      exact hd h
    simp [buried_concat, ih hlive, hlive]

lemma after_dropped (w : PgShadow) (frames : List QueuedFrame) :
    (w.after frames).metrics.dropped = w.metrics.dropped + (buried w frames).length := by
  induction frames using List.reverseRecOn with
  | nil => rfl
  | append_singleton frames frame ih =>
    rw [after_concat, buried_concat, List.length_append, ← Nat.add_assoc, ← ih]
    cases hd : (w.after frames).dead with
    | true => simp [processFrame_dead hd]
    | false => simpa using (processFrame_live frame hd).2.1

lemma after_failure {w : PgShadow} {pre : List QueuedFrame} {frame : QueuedFrame}
    (hlive : (w.after pre).dead = false) (hfail : (ioError frame (w.after pre)).isSome)
    (post : List QueuedFrame) :
    (w.after (pre ++ frame :: post)).dead = true ∧
      (w.after (pre ++ frame :: post)).conn = (w.after (pre ++ [frame])).conn ∧
      (w.after (pre ++ frame :: post)).logger = (w.after (pre ++ [frame])).logger ∧
      buried w (pre ++ frame :: post) = post := by
  have hdead : (w.after (pre ++ [frame])).dead = true := by
    rw [after_concat, (processFrame_live frame hlive).1]
    exact hfail
  have hsplit : pre ++ frame :: post = (pre ++ [frame]) ++ post := by simp
  rw [hsplit, after_append, after_dead hdead, buried_append, buried_dead hdead, buried_concat,
    buried_live _ _ hlive, hlive]
  exact ⟨hdead, rfl, rfl, rfl⟩

/-- `srv before payload` are the messages of a backend that gets `payload` after the frames
`before`. -/
abbrev Backend := List Bytes → Bytes → List PgPacket

/-- Everything the backend has sent after the given frames. -/
def Backend.transcript (srv : Backend) : List Bytes → List PgPacket :=
  accum (fun before out payload => out ++ srv before payload) []

@[simp] lemma transcript_nil (srv : Backend) : srv.transcript [] = [] := rfl

@[simp] lemma transcript_concat (srv : Backend) (h : List Bytes) (payload : Bytes) :
    srv.transcript (h ++ [payload]) = srv.transcript h ++ srv h payload := by
  simp [Backend.transcript]

def isReady (m : PgPacket) : Bool := m.msgType = pgBackendReadyForQuery

def throughReady (msgs : List PgPacket) : List PgPacket := msgs.rdropWhile fun m => !isReady m

def sinceReady (msgs : List PgPacket) : List PgPacket := msgs.rtakeWhile fun m => !isReady m

lemma throughReady_append_sinceReady (msgs : List PgPacket) :
    throughReady msgs ++ sinceReady msgs = msgs := List.rdropWhile_append_rtakeWhile

lemma throughReady_concat {z : PgPacket} (hz : isReady z = true) (msgs : List PgPacket) :
    throughReady (msgs ++ [z]) = msgs ++ [z] ∧ sinceReady (msgs ++ [z]) = [] :=
  ⟨List.rdropWhile_concat_neg _ _ _ (by simp [hz]), List.rtakeWhile_concat_neg _ _ _ (by simp [hz])⟩

lemma throughReady_append {new : List PgPacket} (h : ∀ m ∈ new, isReady m = false)
    (msgs : List PgPacket) :
    throughReady (msgs ++ new) = throughReady msgs ∧ sinceReady (msgs ++ new) = sinceReady msgs ++ new := by
  induction new using List.reverseRecOn with
  | nil => simp
  | append_singleton new m ih =>
    obtain ⟨hthrough, hsince⟩ := ih fun x hx => h x (by simp [hx])
    have hm : (!isReady m) = true := by simp [h m (by simp)]
    rw [← List.append_assoc, ← List.append_assoc, ← hthrough, ← hsince]
    exact ⟨List.rdropWhile_concat_pos _ _ _ hm, List.rtakeWhile_concat_pos _ _ _ hm⟩

/-- A connection with nothing on its way, at whose other end is `srv`. What `srv` sends may come in
any pieces and with any interruptions. -/
structure Answers (srv : Backend) (c : Conn) : Prop where
  idle : c.pending = []
  answers : ∀ h payload,
    (c.respond (c.sent ++ (h ++ [payload]))).flatMap Segment.bytes = wire (srv h payload)

/-- The answer to a frame: it ends in its one ReadyForQuery if the frame is a Query or Sync, and has
none otherwise. -/
def Fits (frame : PgShadowFrame) (answer : List PgPacket) : Prop :=
  (∀ m ∈ answer, m.Framed) ∧
    if frame.expectsResponse then
      ∃ msgs z, answer = msgs ++ [z] ∧ (∀ m ∈ msgs, isReady m = false) ∧ isReady z = true
    else ∀ m ∈ answer, isReady m = false

lemma readUntilReadyLoop_ok {msgs rest : List PgPacket} {z : PgPacket}
    (hmsgs : ∀ m ∈ msgs, m.Framed ∧ isReady m = false) (hz : z.Framed ∧ isReady z = true)
    {fuel n n' : ℕ} {c c' : Conn}
    (hc : c.pending.flatMap Segment.bytes = wire (msgs ++ z :: rest))
    (h : readUntilReadyLoop fuel n c = (n', none, c')) :
    n' = n + (wire (msgs ++ [z])).length ∧ c'.received = c.received ++ wire (msgs ++ [z]) ∧
      c'.pending.flatMap Segment.bytes = wire rest ∧ Reads c c' := by
  induction msgs generalizing fuel n c with
  | nil =>
    cases fuel with
    | zero => simp [readUntilReadyLoop] at h
    | succ fuel =>
      rcases hread : readMessage c with ⟨e | m, c₁⟩
      · simp [readUntilReadyLoop, hread] at h
      · obtain ⟨rfl, hrec, hrest, hreads⟩ := readMessage_takes hz.1 (by simpa using hc) hread
        have hready : m.msgType = pgBackendReadyForQuery := by simpa [isReady] using hz.2
        simp only [readUntilReadyLoop, hread, hready, if_true, Prod.mk.injEq, true_and] at h
        obtain ⟨rfl, rfl⟩ := h
        exact ⟨by simp [wire], by simpa [wire] using hrec, hrest, hreads⟩
  | cons a msgs ih =>
    obtain ⟨ha, htail⟩ := List.forall_mem_cons.mp hmsgs
    cases fuel with
    | zero => simp [readUntilReadyLoop] at h
    | succ fuel =>
      rcases hread : readMessage c with ⟨e | m, c₁⟩
      · simp [readUntilReadyLoop, hread] at h
      · obtain ⟨rfl, hrec, hrest, hreads⟩ := readMessage_takes ha.1 (by simpa using hc) hread
        have hnot : m.msgType ≠ pgBackendReadyForQuery := by simpa [isReady] using ha.2
        simp only [readUntilReadyLoop, hread, if_neg hnot] at h
        obtain ⟨hn, hrec', hrest', hreads'⟩ := ih htail (by simpa using hrest) h
        refine ⟨?_, ?_, hrest', hreads.trans hreads'⟩
        · rw [hn]
          simp
          omega
        · rw [hrec', hrec]
          simp

/-- After the frames `h`, none of which has failed, the worker has read everything up to the last
ReadyForQuery, and what came after it is on its way. -/
structure Synced (srv : Backend) (c₀ : Conn) (h : List Bytes) (w : PgShadow) : Prop where
  sent : w.conn.sent = c₀.sent ++ h
  respond : w.conn.respond = c₀.respond
  received : w.conn.received = c₀.received ++ wire (throughReady (srv.transcript h))
  waiting : w.conn.pending.flatMap Segment.bytes = wire (sinceReady (srv.transcript h))
  framed : ∀ m ∈ srv.transcript h, m.Framed

section Attribution
variable {srv : Backend} {c₀ : Conn} {h : List Bytes} {w : PgShadow} {frame : QueuedFrame}

lemma synced_start (hsrv : Answers srv c₀) (logger : QueryLogger) :
    Synced srv c₀ [] (.start c₀ logger) :=
  ⟨by simp [PgShadow.start], rfl, by simp [PgShadow.start, throughReady, wire],
    by simp [PgShadow.start, hsrv.idle, sinceReady, wire], by simp⟩

lemma Synced.write (hsrv : Answers srv c₀) (hs : Synced srv c₀ h w) {conn : Conn}
    (hw : w.conn.write frame.payload = (none, conn)) :
    conn.sent = c₀.sent ++ (h ++ [frame.payload]) ∧ conn.respond = c₀.respond ∧
      conn.received = w.conn.received ∧
      conn.pending.flatMap Segment.bytes =
        wire (sinceReady (srv.transcript h) ++ srv h frame.payload) := by
  obtain ⟨hsent, hrec⟩ := write_ok hw
  obtain ⟨hpending, hrespond⟩ := write_pending hw
  have hhist : w.conn.sent ++ [frame.payload] = c₀.sent ++ (h ++ [frame.payload]) := by
    rw [hs.sent, List.append_assoc]
  rw [hhist, hs.respond] at hpending
  refine ⟨hsent.trans hhist, hrespond.trans hs.respond, hrec, ?_⟩
  rw [hpending, List.flatMap_append, hs.waiting, hsrv.answers, wire_append]

lemma Synced.read (hsrv : Answers srv c₀) (hs : Synced srv c₀ h w)
    (hfit : Fits frame.toPgShadowFrame (srv h frame.payload))
    (hresp : frame.expectsResponse = true) {conn c : Conn} {n : ℕ}
    (hw : w.conn.write frame.payload = (none, conn)) (hread : readUntilReady conn = (n, none, c)) :
    let answer := sinceReady (srv.transcript h) ++ srv h frame.payload
    n = (wire answer).length ∧ c.received = w.conn.received ++ wire answer ∧
      c.pending.flatMap Segment.bytes = [] ∧ Reads conn c := by
  obtain ⟨-, -, hrec, hpending⟩ := hs.write hsrv hw
  obtain ⟨hframed, hends⟩ := hfit
  rw [if_pos hresp] at hends
  obtain ⟨msgs, z, heq, hmsgs, hz⟩ := hends
  rw [heq] at hframed hpending ⊢
  have hbefore : ∀ m ∈ sinceReady (srv.transcript h) ++ msgs, m.Framed ∧ isReady m = false := by
    intro m hm
    rcases List.mem_append.mp hm with hm | hm
    · refine ⟨hs.framed m (List.rtakeWhile_suffix _ _ |>.subset hm), ?_⟩
      simpa using List.mem_rtakeWhile_imp hm
    · exact ⟨hframed m (by simp [hm]), hmsgs m hm⟩
  rw [← List.append_assoc] at hpending ⊢
  obtain ⟨hn, hrec', hrest, hreads⟩ := readUntilReadyLoop_ok hbefore
    ⟨hframed z (by simp), hz⟩ hpending hread
  exact ⟨by simpa using hn, by rw [hrec', hrec], hrest, hreads⟩

lemma Synced.step (hsrv : Answers srv c₀) (hs : Synced srv c₀ h w) (hlive : w.dead = false)
    (hfit : Fits frame.toPgShadowFrame (srv h frame.payload))
    (hlive' : (processFrame frame w).dead = false) :
    Synced srv c₀ (h ++ [frame.payload]) (processFrame frame w) := by
  have hframed : ∀ m ∈ srv.transcript (h ++ [frame.payload]), m.Framed := by
    intro m hm
    rw [transcript_concat] at hm
    exact (List.mem_append.mp hm).elim (hs.framed m) (hfit.1 m)
  rcases hw : w.conn.write frame.payload with ⟨_ | e, conn⟩
  · obtain ⟨hsent, hrespond, hrec, hpending⟩ := hs.write hsrv hw
    cases hresp : frame.expectsResponse with
    | false =>
      obtain ⟨-, -, -, hconn⟩ := processFrame_silent hlive hw hresp
      have hquiet := hfit.2
      rw [hresp, if_neg (by simp)] at hquiet
      obtain ⟨hthrough, hsince⟩ := throughReady_append hquiet (srv.transcript h)
      refine ⟨hconn ▸ hsent, hconn ▸ hrespond, ?_, ?_, hframed⟩
      · rw [hconn, transcript_concat, hthrough, hrec, hs.received]
      · rw [hconn, transcript_concat, hsince, hpending]
    | true =>
      rcases hread : readUntilReady conn with ⟨n, err, c⟩
      obtain ⟨hdead, -, -, hconn⟩ := processFrame_read hlive hw hresp hread
      obtain rfl : err = none := by simpa [hlive'] using hdead.symm
      obtain ⟨-, hrec', hrest, hreads⟩ := hs.read hsrv hfit hresp hw hread
      have hends := hfit.2
      rw [if_pos hresp] at hends
      obtain ⟨msgs, z, heq, -, hz⟩ := hends
      have hz' := throughReady_concat hz (srv.transcript h ++ msgs)
      rw [List.append_assoc, ← heq, ← transcript_concat] at hz'
      rw [← hconn rfl] at hrec' hrest hreads
      refine ⟨hreads.sent.trans hsent, hreads.respond.trans hrespond, ?_, ?_, hframed⟩
      · rw [hz'.1, hrec', hs.received, transcript_concat, List.append_assoc, ← wire_append,
          ← List.append_assoc, throughReady_append_sinceReady]
      · rw [hz'.2, hrest]
        rfl
  · rw [(processFrame_unwritten hlive hw).1] at hlive'
    simp at hlive'

def Fitting (srv : Backend) (frames : List QueuedFrame) : Prop :=
  EachStep (fun before frame => Fits frame.toPgShadowFrame
    (srv (before.map fun f => f.payload) frame.payload)) frames

lemma synced_after (hsrv : Answers srv c₀) (logger : QueryLogger) {frames : List QueuedFrame}
    (hfit : Fitting srv frames) (hlive : ((PgShadow.start c₀ logger).after frames).dead = false) :
    Synced srv c₀ (frames.map fun f => f.payload) ((PgShadow.start c₀ logger).after frames) := by
  induction frames using List.reverseRecOn with
  | nil => exact synced_start hsrv logger
  | append_singleton frames frame ih =>
    obtain ⟨hbefore, hnow⟩ := (eachStep_concat _ _).mp hfit
    have hlive₁ : ((PgShadow.start c₀ logger).after frames).dead = false := by
      by_contra hd
      rw [after_concat, processFrame_dead (by simpa using hd)] at hlive
      exact hd hlive
    rw [after_concat] at hlive ⊢
    rw [List.map_append]
    exact (ih hbefore hlive₁).step hsrv hlive₁ hnow hlive

/-- A synced worker that logs a Query or Sync as successful has read the answer to it. -/
lemma Synced.logged (hsrv : Answers srv c₀) (hs : Synced srv c₀ h w) (hlive : w.dead = false)
    (hfit : Fits frame.toPgShadowFrame (srv h frame.payload))
    (hresp : frame.expectsResponse = true) (hok : ioError frame w = none) :
    let answer := sinceReady (srv.transcript h) ++ srv h frame.payload
    (processFrame frame w).logger = w.logger.log
        (executionEntry .shadow frame.req frame.payload.length (wire answer).length none) ∧
      (processFrame frame w).conn.received = w.conn.received ++ wire answer := by
  unfold ioError at hok
  rcases hw : w.conn.write frame.payload with ⟨_ | e, conn⟩
  · rcases hread : readUntilReady conn with ⟨n, err, c⟩
    obtain rfl : err = none := by simpa [hw, hresp, hread] using hok
    obtain ⟨-, hlog, -, hconn⟩ := processFrame_read hlive hw hresp hread
    obtain ⟨hn, hrec, -, -⟩ := hs.read hsrv hfit hresp hw hread
    rw [hlog, hconn rfl, hrec, hn]
    exact ⟨rfl, rfl⟩
  · simp [hw] at hok

end Attribution

/-- What a call of `Send` comes to: the worker is dead, or the frame is offered to the queue. -/
inductive Offer
  | refused
  | offered (sent : Sent)
  deriving DecidableEq

/-- The worker and the goroutine that owns it. `sending` is the frame of a `Send` that has seen the
worker alive and not yet come to the queue. `dropped` is the part of `Send` in
`shadow_dropped_total` with the reason `conn_dead`; `ledger` is the history of the calls. -/
structure Mirror where
  service : Service QueuedFrame PgShadow
  sending : Option QueuedFrame
  dropped : ℕ
  queueDrops : ℕ
  ledger : List (QueuedFrame × Offer)

namespace Mirror

def start (conn : Conn) (logger : QueryLogger) : Mirror :=
  ⟨.start (.start conn logger), none, 0, 0, []⟩

def dead (s : Mirror) : Bool := s.service.worker.state.dead

/-- `shadow_dropped_total` with the reason `conn_dead`. -/
def shadowDropped (s : Mirror) : ℕ := s.dropped + s.service.worker.state.metrics.dropped

/-- The first half of `Send`. -/
def offer (frame : QueuedFrame) (s : Mirror) : Mirror :=
  if s.sending.isSome then s
  else if s.dead then { s with dropped := s.dropped + 1, ledger := s.ledger ++ [(frame, .refused)] }
  else { s with sending := some frame }

/-- The second half of `Send`. -/
def enqueue (capacity : ℕ) (s : Mirror) : Mirror :=
  match s.sending with
  | none => s
  | some frame =>
    match s.service.send capacity frame with
    | (sent, service) =>
      { s with
        service := service
        sending := none
        queueDrops := s.queueDrops + (decide (sent = .full)).toNat
        ledger := s.ledger ++ [(frame, .offered sent)] }

def leave (s : Mirror) : Mirror :=
  if s.sending.isSome then s else { s with service := s.service.leave }

def close (s : Mirror) : Mirror := { s with service := s.service.close }

def timeout (s : Mirror) : Mirror := { s with service := s.service.timeout }

def step (pick : Pick) (s : Mirror) : Mirror :=
  { s with service := s.service.step processFrame pick }

end Mirror

section Mirror
variable {s : Mirror}

@[simp] lemma Mirror.leave_ledger (s : Mirror) : s.leave.ledger = s.ledger := by
  unfold Mirror.leave
  split_ifs <;> rfl

@[simp] lemma Mirror.leave_sending (s : Mirror) : s.leave.sending = s.sending := by
  unfold Mirror.leave
  split_ifs <;> rfl

lemma Mirror.leave_phase (h : s.sending = none) : s.leave.service.phase ≠ .serving := by
  simp [Mirror.leave, h]

lemma Mirror.offer_calls (frame : QueuedFrame) (h : s.sending = none) :
    (s.offer frame).ledger.map Prod.fst ++ (s.offer frame).sending.toList =
        s.ledger.map Prod.fst ++ [frame] ∧
      (s.offer frame).service = s.service := by
  unfold Mirror.offer
  rw [if_neg (by simp [h])]
  split_ifs <;> simp [h]

lemma Mirror.enqueue_calls (capacity : ℕ) (s : Mirror) :
    (s.enqueue capacity).ledger.map Prod.fst = s.ledger.map Prod.fst ++ s.sending.toList ∧
      (s.enqueue capacity).sending = none ∧
      (s.enqueue capacity).service.phase = s.service.phase := by
  unfold Mirror.enqueue
  cases hs : s.sending <;> simp [hs]

@[simp] lemma Mirror.leave_finished (s : Mirror) :
    s.leave.service.worker.finished = s.service.worker.finished := by
  unfold Mirror.leave
  split_ifs <;> simp

@[simp] lemma Mirror.offer_finished (frame : QueuedFrame) (s : Mirror) :
    (s.offer frame).service.worker.finished = s.service.worker.finished := by
  unfold Mirror.offer
  split_ifs <;> rfl

@[simp] lemma Mirror.enqueue_finished (capacity : ℕ) (s : Mirror) :
    (s.enqueue capacity).service.worker.finished = s.service.worker.finished := by
  unfold Mirror.enqueue
  cases s.sending <;> simp

lemma Mirror.mem_offer {frame : QueuedFrame} {x : QueuedFrame × Offer}
    (hx : x ∈ (s.offer frame).ledger) :
    x ∈ s.ledger ∨ (s.sending = none ∧ s.dead = true ∧ x = (frame, .refused)) := by
  unfold Mirror.offer at hx
  split_ifs at hx with hs hd
  · exact .inl hx
  · rcases List.mem_append.mp hx with hx | hx
    · exact .inl hx
    · exact .inr ⟨by simpa using hs, hd, List.mem_singleton.mp hx⟩
  · exact .inl hx

lemma Mirror.mem_enqueue {capacity : ℕ} {x : QueuedFrame × Offer}
    (hx : x ∈ (s.enqueue capacity).ledger) :
    x ∈ s.ledger ∨
      (s.sending = some x.1 ∧ x.2 = .offered (s.service.send capacity x.1).1) := by
  unfold Mirror.enqueue at hx
  cases hs : s.sending with
  | none =>
    rw [hs] at hx
    exact .inl hx
  | some frame =>
    rw [hs] at hx
    rcases List.mem_append.mp hx with hx | hx
    · exact .inl hx
    · obtain rfl := List.mem_singleton.mp hx
      exact .inr ⟨rfl, rfl⟩

end Mirror

inductive MirrorAct
  | offer (frame : QueuedFrame)
  | enqueue
  | leave
  | close
  | timeout
  | step (pick : Pick)

def Mirror.act (capacity : ℕ) (s : Mirror) : MirrorAct → Mirror
  | .offer frame => s.offer frame
  | .enqueue => s.enqueue capacity
  | .leave => s.leave
  | .close => s.close
  | .timeout => s.timeout
  | .step pick => s.step pick

def Mirror.exec (capacity : ℕ) (acts : List MirrorAct) (s : Mirror) : Mirror :=
  acts.foldl (Mirror.act capacity) s

/-- The frames for which `Send` returned true. -/
def queued (ledger : List (QueuedFrame × Offer)) : List QueuedFrame :=
  (ledger.filter fun x => x.2 = .offered .queued).map Prod.fst

/-- The frames that `Send` refused because the worker was dead. -/
def refused (ledger : List (QueuedFrame × Offer)) : List QueuedFrame :=
  (ledger.filter fun x => x.2 = .refused).map Prod.fst

@[simp] lemma queued_concat (ledger : List (QueuedFrame × Offer)) (x : QueuedFrame × Offer) :
    queued (ledger ++ [x]) = queued ledger ++ if x.2 = .offered .queued then [x.1] else [] := by
  by_cases h : x.2 = .offered .queued <;> simp [queued, h]

@[simp] lemma refused_concat (ledger : List (QueuedFrame × Offer)) (x : QueuedFrame × Offer) :
    refused (ledger ++ [x]) = refused ledger ++ if x.2 = .refused then [x.1] else [] := by
  by_cases h : x.2 = .refused <;> simp [refused, h]

/-- The ledger accounts for the queue and the counters. -/
structure Mirror.Booked (w₀ : PgShadow) (s : Mirror) : Prop where
  queue : WorkQueue.Inv processFrame w₀ s.service
  accepted : s.service.worker.accepted = queued s.ledger
  refusals : s.dropped = (refused s.ledger).length
  drops : s.queueDrops = s.ledger.countP fun x => x.2 = .offered .full

section Booked
variable {w₀ : PgShadow} {s : Mirror}

lemma Mirror.booked_start (conn : Conn) (logger : QueryLogger) :
    Mirror.Booked (.start conn logger) (.start conn logger) :=
  ⟨inv_start _ _, rfl, rfl, rfl⟩

lemma Mirror.Booked.offer (h : s.Booked w₀) (frame : QueuedFrame) : (s.offer frame).Booked w₀ := by
  unfold Mirror.offer
  split_ifs
  · exact h
  · exact ⟨h.queue, by simp [h.accepted], by simp [h.refusals], by simp [h.drops]⟩
  · exact ⟨h.queue, h.accepted, h.refusals, h.drops⟩

lemma Mirror.Booked.enqueue (h : s.Booked w₀) (capacity : ℕ) : (s.enqueue capacity).Booked w₀ := by
  unfold Mirror.enqueue
  cases s.sending with
  | none => exact h
  | some frame =>
    refine ⟨h.queue.send capacity frame, ?_, ?_, ?_⟩
    · simp only [Service.send_accepted, h.accepted, queued_concat, Offer.offered.injEq]
    · simp [h.refusals]
    · by_cases hfull : (s.service.send capacity frame).1 = .full <;> simp [h.drops, hfull]

lemma Mirror.Booked.leave (h : s.Booked w₀) : s.leave.Booked w₀ := by
  unfold Mirror.leave
  split_ifs
  · exact h
  · exact ⟨h.queue.leave, by simp [h.accepted], h.refusals, h.drops⟩

lemma Mirror.Booked.close (h : s.Booked w₀) : s.close.Booked w₀ :=
  ⟨h.queue.close, by simp [Mirror.close, h.accepted], h.refusals, h.drops⟩

lemma Mirror.Booked.timeout (h : s.Booked w₀) : s.timeout.Booked w₀ :=
  ⟨h.queue.timeout, by simp [Mirror.timeout, h.accepted], h.refusals, h.drops⟩

lemma Mirror.Booked.step (h : s.Booked w₀) (pick : Pick) : (s.step pick).Booked w₀ :=
  ⟨h.queue.step pick, by simp [Mirror.step, h.accepted], h.refusals, h.drops⟩

theorem Mirror.exec_booked (capacity : ℕ) (conn : Conn) (logger : QueryLogger)
    (acts : List MirrorAct) :
    ((Mirror.start conn logger).exec capacity acts).Booked (.start conn logger) := by
  induction acts using List.reverseRecOn with
  | nil => exact Mirror.booked_start conn logger
  | append_singleton acts act ih =>
    simp only [Mirror.exec, List.foldl_append, List.foldl_cons, List.foldl_nil]
    cases act with
    | offer frame => exact ih.offer frame
    | enqueue => exact ih.enqueue capacity
    | leave => exact ih.leave
    | close => exact ih.close
    | timeout => exact ih.timeout
    | step pick => exact ih.step pick

lemma Mirror.Booked.state (h : s.Booked w₀) :
    s.service.worker.state = w₀.after s.service.worker.finished := h.queue.worked

lemma Mirror.Booked.shadowDropped (h : s.Booked w₀) (hzero : w₀.metrics.dropped = 0) :
    s.shadowDropped = (refused s.ledger).length + (buried w₀ s.service.worker.finished).length := by
  rw [Mirror.shadowDropped, h.refusals, h.state, after_dropped, hzero, Nat.zero_add]

end Booked

section Latch
variable {srv : Backend} {c₀ : Conn}

lemma ioError_of_success {w : PgShadow} {frame : QueuedFrame} {entries : List QueryLogEntry}
    {entry : QueryLogEntry} (hbefore : w.logger = some entries)
    (hlog : (processFrame frame w).logger = some (entries ++ [entry])) (hok : entry.error = none) :
    w.dead = false ∧ ioError frame w = none := by
  cases hd : w.dead with
  | true =>
    rw [processFrame_dead hd, hbefore] at hlog
    simp at hlog
  | false =>
    obtain ⟨-, -, bytesSent, bytesRecv, err, herr, hlog'⟩ := processFrame_live frame hd
    rw [hlog'] at hlog
    have hnone : err = none := by
      rw [log_last hlog] at hok
      exact hok
    rw [hnone] at herr
    exact ⟨rfl, by simpa using herr.symm⟩

/-- In every run, a Query or Sync that is logged as successful has read what the shadow sent after
the last ReadyForQuery up to the one that answers the frame. Once a write or a read has failed,
nothing more is written to the shadow or logged; the frames taken from the queue after that and those
offered to `Send` are dropped, and each is counted once. -/
theorem attribution_and_dead_latch (hsrv : Answers srv c₀) (capacity : ℕ) (acts : List MirrorAct) :
    let w₀ := PgShadow.start c₀ (some [])
    let s := (Mirror.start c₀ (some [])).exec capacity acts
    (∀ pre frame post entries entry, s.service.worker.finished = pre ++ frame :: post →
      frame.expectsResponse = true → Fitting srv (pre ++ [frame]) →
      (w₀.after pre).logger = some entries →
      (w₀.after (pre ++ [frame])).logger = some (entries ++ [entry]) → entry.error = none →
        let h := pre.map fun f => f.payload
        let answer := sinceReady (srv.transcript h) ++ srv h frame.payload
        entry.queryID = frame.req.id ∧ entry.bytesRecv = (wire answer).length ∧
          (w₀.after pre).conn.received = c₀.received ++ wire (throughReady (srv.transcript h)) ∧
          (w₀.after (pre ++ [frame])).conn.received = (w₀.after pre).conn.received ++ wire answer) ∧
    (∀ pre frame post, s.service.worker.finished = pre ++ frame :: post →
      (w₀.after pre).dead = false → (ioError frame (w₀.after pre)).isSome →
        s.dead = true ∧
          s.service.worker.state.conn.sent = (w₀.after (pre ++ [frame])).conn.sent ∧
          s.service.worker.state.logger = (w₀.after (pre ++ [frame])).logger ∧
          buried w₀ s.service.worker.finished = post) ∧
    (∀ pre frame post, acts = pre ++ .offer frame :: post →
      let t := (Mirror.start c₀ (some [])).exec capacity pre
      t.sending = none → t.dead = true →
        (t.offer frame).ledger = t.ledger ++ [(frame, .refused)] ∧
          (t.offer frame).service = t.service ∧
          (t.offer frame).shadowDropped = t.shadowDropped + 1) ∧
    queued s.ledger = s.service.worker.finished ++ s.service.worker.abandoned ++
      s.service.worker.stage.inHand ++ s.service.worker.queue ∧
    (s.service.worker.abandoned ≠ [] → s.service.worker.force = true) ∧
    s.shadowDropped =
      (refused s.ledger).length + (buried w₀ s.service.worker.finished).length := by
  intro w₀ s
  have hb : s.Booked w₀ := Mirror.exec_booked capacity c₀ (some []) acts
  refine ⟨?_, ?_, ?_, ?_, fun hne => (hb.queue.forced hne).1, hb.shadowDropped rfl⟩
  · intro pre frame post entries entry _ hresp hfit hbefore hlog hok
    obtain ⟨hearlier, hnow⟩ := (eachStep_concat _ _).mp hfit
    rw [after_concat] at hlog ⊢
    obtain ⟨hlive, hnone⟩ := ioError_of_success hbefore hlog hok
    have hs := synced_after hsrv (some []) hearlier hlive
    obtain ⟨hentry, hrec⟩ := hs.logged hsrv hlive hnow hresp hnone
    rw [hentry] at hlog
    obtain rfl := log_last hlog
    exact ⟨rfl, rfl, hs.received, hrec⟩
  · intro pre frame post hrun hlive hfail
    obtain ⟨hdead, hconn, hlog, hburied⟩ := after_failure hlive hfail post
    rw [← hrun, ← hb.state] at hdead hconn hlog
    exact ⟨hdead, by rw [hconn], hlog, hrun ▸ hburied⟩
  · intro pre frame post _ t hidle hdead
    simp only [Mirror.offer, hidle, Option.isSome_none, Bool.false_eq_true, if_false, hdead, if_true,
      Mirror.shadowDropped, true_and]
    omega
  · rw [← hb.accepted]
    exact hb.queue.conserved

end Latch

def readyForQuery : PgPacket := frame pgBackendReadyForQuery [0x49]

def parseComplete : PgPacket := frame 0x31 []

def sampleFrame (id : ℕ) (msg : PgPacket) : QueuedFrame := shadowFrame (newPgRequest id msg) msg

def sampleBackend : Backend := fun _ payload =>
  if payload = syncMessage.bytes then [readyForQuery] else [parseComplete]

/-- The answer to the third frame comes too late. -/
def sampleShadow : Conn where
  pending := []
  received := []
  sent := []
  respond := fun sent =>
    [⟨[], if sent.length = 3 then some .timeout else none⟩,
      ⟨wire (sampleBackend sent.dropLast (sent.getLast?.getD [])), none⟩]
  writable := none

/-- A Flush and three Syncs, of which the last is taken from the queue when the worker is dead; and
a Sync for which `Send` finds it dead. -/
def sampleActs : List MirrorAct :=
  [.offer (sampleFrame 1 (frame pgMsgFlush [])), .enqueue, .offer (sampleFrame 2 syncMessage), .enqueue,
    .offer (sampleFrame 3 syncMessage), .enqueue, .offer (sampleFrame 4 syncMessage), .enqueue,
    .step .queue, .step .idle, .step .idle, .step .queue, .step .idle, .step .idle,
    .step .queue, .step .idle, .step .idle, .step .queue, .step .idle, .step .idle,
    .offer (sampleFrame 5 syncMessage)]

def sampleMirror : Mirror := (Mirror.start sampleShadow (some [])).exec 8 sampleActs

lemma sampleShadow_answers : Answers sampleBackend sampleShadow where
  idle := rfl
  answers := by
    intro h payload
    simp [sampleShadow]

lemma sampleBackend_fits (id : ℕ) (msg : PgPacket) (before : List Bytes)
    (h : expectsResponse msg = decide (msg.bytes = syncMessage.bytes)) :
    Fits (sampleFrame id msg).toPgShadowFrame (sampleBackend before (sampleFrame id msg).payload) := by
  have hready : readyForQuery.Framed := frame_framed (by decide) (by decide)
  have hparse : parseComplete.Framed := frame_framed (by decide) (by decide)
  unfold Fits sampleBackend
  by_cases hs : msg.bytes = syncMessage.bytes
  · simp only [sampleFrame, shadowFrame, h, hs, decide_true, if_true]
    exact ⟨by simpa using hready, [], readyForQuery, rfl, by simp, by decide⟩
  · simp only [sampleFrame, shadowFrame, h, hs, decide_false, Bool.false_eq_true, if_false]
    exact ⟨by simpa using hparse, by simp; decide⟩

theorem attribution_and_dead_latch_sampleMirror :
    sampleMirror.service.worker.finished = [sampleFrame 1 (frame pgMsgFlush [])] ++
        sampleFrame 2 syncMessage :: [sampleFrame 3 syncMessage, sampleFrame 4 syncMessage] ∧
      ((PgShadow.start sampleShadow (some [])).after
        [sampleFrame 1 (frame pgMsgFlush []), sampleFrame 2 syncMessage]).conn.received =
          wire [parseComplete, readyForQuery] ∧
      sampleMirror.dead = true ∧ sampleMirror.service.worker.state.conn.sent.length = 3 ∧
      buried (PgShadow.start sampleShadow (some [])) sampleMirror.service.worker.finished =
        [sampleFrame 4 syncMessage] ∧
      refused sampleMirror.ledger = [sampleFrame 5 syncMessage] ∧ sampleMirror.shadowDropped = 2 := by
  obtain ⟨hread, hlatch, -, -, -, hcount⟩ := attribution_and_dead_latch sampleShadow_answers 8 sampleActs
  have hfit : Fitting sampleBackend
      ([sampleFrame 1 (frame pgMsgFlush [])] ++ [sampleFrame 2 syncMessage]) :=
    (eachStep_concat _ _).mpr ⟨(eachStep_concat [] _).mpr ⟨eachStep_nil,
      sampleBackend_fits _ _ _ (by decide)⟩, sampleBackend_fits _ _ _ (by decide)⟩
  obtain ⟨-, -, -, hrec⟩ := hread [sampleFrame 1 (frame pgMsgFlush [])] (sampleFrame 2 syncMessage)
    [sampleFrame 3 syncMessage, sampleFrame 4 syncMessage]
    [executionEntry .shadow (sampleFrame 1 (frame pgMsgFlush [])).req 5 0 none]
    (executionEntry .shadow (sampleFrame 2 syncMessage).req 5 11 none) rfl rfl hfit rfl rfl rfl
  obtain ⟨hdead, hsent, -, hburied⟩ := hlatch
    [sampleFrame 1 (frame pgMsgFlush []), sampleFrame 2 syncMessage] (sampleFrame 3 syncMessage)
    [sampleFrame 4 syncMessage] rfl rfl rfl
  rw [hburied] at hcount
  exact ⟨rfl, hrec, hdead, by rw [sampleMirror, hsent]; rfl, hburied, rfl, hcount⟩

end ShadowProxy.PgShadowWorker
