import ShadowProxy.MySQLMirrorServe

/-! What the shadow of a mirrored session is given: which of the commands, in which order, and what
its prepared statements mean. -/
namespace ShadowProxy.MySQLMirrorDelivery
open WordBytes EventHistory NetConn MySQLPacket MySQLPacketReader MySQLProxyLoop ShadowFilter QueryLog
  WorkQueue MySQLShadowWorker MySQLMirrorSession MySQLMirrorServe

/-- In every run against a shadow that accepts all writes, the shadow has been written some of the
packets written to the primary, in that order, each once and none of them COM_QUIT: those of the
first requests that `Send` took, and of all of these once `Close` has returned without a timeout. -/
theorem shadow_queue_delivery (cfg : Config) (client primary shadow : Conn) (logger : QueryLogger)
    (hw : shadow.writable = none) (acts : List Action) :
    let s := (Session.start client primary shadow logger).exec cfg acts
    ∃ written mirrored : List Bytes,
      s.front.primary.sent = primary.sent ++ written ∧
      s.back.service.worker.state.conn.sent = shadow.sent ++ mirrored ∧
      mirrored.Sublist written ∧
      (∀ packet ∈ mirrored, (getMySQLCommand packet).1 ≠ comQuit) ∧
      s.processed.Nodup ∧ mirrored = s.processed.map QueryRequest.packet ∧
      s.processed <+: queued s.back.ledger ∧
      (s.back.service.phase = .closed → s.back.service.worker.force = false →
        s.processed = queued s.back.ledger) := by
  intro s
  have h : Booked primary (.start shadow logger) s :=
    exec_booked cfg client primary shadow logger acts
  refine ⟨_, s.processed.map QueryRequest.packet, h.written, ?_, ?_, ?_, h.processed_nodup, rfl,
    h.processed_prefix, h.processed_all⟩
  · rw [h.state]
    exact (after_written (w := .start shadow logger) new_inv hw _).1
  · exact (h.processed_prefix.sublist.trans ((queued_sublist_forwarded _).trans
      (List.sublist_append_left _ _))).map _
  · intro packet hpacket
    obtain ⟨req, hreq, rfl⟩ := List.mem_map.mp hpacket
    obtain ⟨x, hx, rfl⟩ := List.mem_map.mp (h.processed_prefix.subset hreq)
    obtain ⟨hx, hfate⟩ := List.mem_filter.mp hx
    have hfits := h.fits x hx
    rw [of_decide_eq_true hfate] at hfits
    exact hfits.1

def commandPacket (cmd : UInt8) (arg : Bytes) (h : arg.length < 100) : Packet :=
  ⟨0, cmd :: arg, by simp only [List.length_cons]; omega⟩

def query (text : UInt8) : Packet := commandPacket comQuery [text] (by simp)

def sampleScript : Script := [(query 65, [.queue, .idle, .idle]), (query 66, [])]

/-- `Close`, with a worker that finds one request in its queue. -/
def sampleClose : List Action :=
  [.conn, .worker .drain, .worker .queue, .worker .idle, .worker .idle, .worker .idle, .conn, .conn]

def sampleRun : Session :=
  (sampleScript.session (scriptServer okReply) none).exec ⟨none, fun _ => false, 10⟩
    (sampleScript.whole sampleClose)

theorem shadow_queue_delivery_sampleRun :
    sampleRun.back.service.phase = .closed ∧ sampleRun.back.service.worker.force = false ∧
      sampleRun.processed.map QueryRequest.id = [0, 1] ∧
      ∃ written mirrored : List Bytes,
        sampleRun.front.primary.sent = (scriptServer okReply).sent ++ written ∧
        sampleRun.back.service.worker.state.conn.sent = (scriptServer okReply).sent ++ mirrored ∧
        mirrored.Sublist written ∧
        (∀ packet ∈ mirrored, (getMySQLCommand packet).1 ≠ comQuit) ∧ sampleRun.processed.Nodup ∧
        mirrored = sampleRun.processed.map QueryRequest.packet ∧
        sampleRun.processed <+: queued sampleRun.back.ledger ∧
        (sampleRun.back.service.phase = .closed → sampleRun.back.service.worker.force = false →
          sampleRun.processed = queued sampleRun.back.ledger) := by
  have hback : sampleRun.back = _ :=
    (Script.exec_whole _ (script_servable sampleScript (by decide)) _ _ sampleClose).2
  refine ⟨by rw [hback]; rfl, by rw [hback]; rfl, by rw [Session.processed, hback]; rfl, ?_⟩
  unfold sampleRun Script.session
  exact shadow_queue_delivery _ _ _ _ _ rfl _

def isPrepare (packet : Bytes) : Bool := (getMySQLCommand packet).1 = comStmtPrepare

/-- The texts of the statements that a server has prepared, in the order of their numbers. -/
def statements (history : List Bytes) : List Bytes :=
  (history.filter isPrepare).map fun packet => packet.drop 5

/-- The statement with the number `k` on a server that numbers statements from 1 in the order in
which it receives them. -/
def denotes (history : List Bytes) (k : ℕ) : Option Bytes :=
  if k = 0 then none else (statements history)[k - 1]?

/-- The number of the statement that a command is about. -/
def statementId (packet : Bytes) : Option ℕ :=
  let cmd := (getMySQLCommand packet).1
  if cmd = comStmtExecute ∨ cmd = comStmtSendLongData ∨ cmd = comStmtClose then
    some (leNat ((packet.drop 5).take 4))
  else none

section Statements

lemma queued_split {ledger : List (QueryRequest × Fate)} {pre post : List QueryRequest}
    {req : QueryRequest} (h : queued ledger = pre ++ req :: post) :
    ∃ l₁ l₂, ledger = l₁ ++ (req, .offered .queued) :: l₂ ∧ queued l₁ = pre := by
  obtain ⟨xs, ys, hxs, rfl, hys⟩ := List.map_eq_append_iff.mp h
  obtain ⟨y, zs, rfl, rfl, -⟩ := List.map_eq_cons_iff.mp hys
  obtain ⟨l₁, l₂, rfl, rfl, hl₂⟩ := List.filter_eq_append_iff.mp hxs
  obtain ⟨l₃, l₄, rfl, hskip, hy, -⟩ := List.filter_eq_cons_iff.mp hl₂
  have hnone : l₃.filter (fun x => decide (x.2 = .offered .queued)) = [] := by
    simpa [List.filter_eq_nil_iff] using hskip
  obtain ⟨req, fate⟩ := y
  obtain rfl : fate = .offered .queued := of_decide_eq_true hy
  exact ⟨l₁ ++ l₃, l₄, by simp, by simp [queued, hnone]⟩

lemma filter_queued {P : Bytes → Bool} {ledger : List (QueryRequest × Fate)}
    (h : ∀ x ∈ ledger, P x.1.packet = true → x.2 = .offered .queued) :
    ((queued ledger).map QueryRequest.packet).filter P =
      (ledger.map fun x => x.1.packet).filter P := by
  induction ledger with
  | nil => rfl
  | cons x ledger ih =>
    obtain ⟨hx, hrest⟩ := List.forall_mem_cons.mp h
    specialize ih hrest
    simp only [queued, List.map_cons, List.filter_cons, List.map_map] at ih ⊢
    by_cases hP : P x.1.packet = true
    · simp [hx hP, hP, ih]
    · by_cases hq : x.2 = .offered .queued
      · simp [hq, hP, ih]
      · simp [hq, hP, ih]

variable {cfg : Config} {client primary shadow : Conn} {logger : QueryLogger} {acts : List Action}

lemma queryText_of_prepare {packet : Bytes} (h : isPrepare packet = true) : queryText packet = [] := by
  have hcmd : (getMySQLCommand packet).1 = comStmtPrepare := by simpa [isPrepare] using h
  simp [queryText, hcmd, comStmtPrepare, comQuery]

lemma prepare_queued
    (h : RoomFor cfg (fun _ req => isPrepare req.packet = true) (.start client primary shadow logger) acts)
    {x : QueryRequest × Fate}
    (hx : x ∈ ((Session.start client primary shadow logger).exec cfg acts).back.ledger)
    (hprep : isPrepare x.1.packet = true) : x.2 = .offered .queued ∨ x.2 = .unsent := by
  have hb := exec_booked cfg client primary shadow logger acts
  have hfull := h.not_dropped (fun _ _ hprep _ => hprep) x hx hprep
  have hfits := hb.fits x hx
  have htext := (hb.queryText hx).trans (queryText_of_prepare hprep)
  have hcmd : (getMySQLCommand x.1.packet).1 = comStmtPrepare := by simpa [isPrepare] using hprep
  obtain ⟨req, fate⟩ := x
  cases fate with
  | unsent => exact .inr rfl
  | quit => simp [Fate.Fits, hcmd, comStmtPrepare, comQuit] at hfits
  | filtered reason => exact absurd htext hfits.2
  | offered sent =>
    cases sent with
    | queued => exact .inl rfl
    | full => exact absurd rfl hfull
    | closed => exact absurd rfl hfits.2

/-- The place of a request in the ledger is its id, and everything before it was written to the
primary. -/
lemma booked_place {shadow : Shadow} {s : Session} (hb : Booked primary shadow s)
    {l₁ l₂ : List (QueryRequest × Fate)} {req : QueryRequest} {fate : Fate} (hfate : fate ≠ .unsent)
    (hl : s.back.ledger = l₁ ++ (req, fate) :: l₂) :
    req.id = l₁.length ∧ (∀ x ∈ l₁, x.2 ≠ .unsent) ∧
      ∃ later, s.front.primary.sent =
        primary.sent ++ ((l₁.map fun x => x.1.packet) ++ req.packet :: later) := by
  have hsent : ∀ x ∈ l₁, x.2 ≠ .unsent := by
    intro x hx
    refine hb.unsentLast x ?_
    rw [hl, List.dropLast_append_of_ne_nil (by simp)]
    exact List.mem_append_left _ hx
  refine ⟨?_, hsent, ?_⟩
  · have hid := congrArg (fun ids => ids[l₁.length]?) hb.numbered
    simp only [Session.requests, hl, List.map_append, List.map_cons, List.append_assoc,
      List.cons_append] at hid
    rw [List.getElem?_append_right (by simp)] at hid
    simp only [List.length_map, Nat.sub_self, List.getElem?_cons_zero] at hid
    obtain ⟨hlt, heq⟩ := List.getElem?_eq_some_iff.mp hid.symm
    simpa using heq.symm
  · refine ⟨(forwarded l₂ ++ s.front.point.underway).map QueryRequest.packet, ?_⟩
    rw [hb.written, hl, forwarded_append, forwarded_cons hfate, forwarded_all hsent]
    simp

lemma mirrored_place {s : Session} (hb : Booked primary (.start shadow logger) s)
    {before after : List Bytes} {packet : Bytes}
    (hsent : s.back.service.worker.state.conn.sent = shadow.sent ++ (before ++ packet :: after)) :
    ∃ req l₁ l₂, s.back.ledger = l₁ ++ (req, .offered .queued) :: l₂ ∧
      before = (queued l₁).map QueryRequest.packet ∧
      s.processed[before.length]? = some req ∧ req.packet = packet := by
  obtain ⟨mirrored, rest, hm, hreqs, -⟩ := after_mirrored (w := .start shadow logger) new_inv s.processed
  rw [hb.state, hm] at hsent
  obtain rfl := List.append_cancel_left hsent
  rw [List.append_assoc] at hreqs
  obtain ⟨pre, tail, hprocessed, rfl, htail⟩ := List.map_eq_append_iff.mp hreqs
  obtain ⟨req, post, rfl, rfl, -⟩ := List.map_eq_cons_iff.mp htail
  obtain ⟨more, hmore⟩ := hb.processed_prefix
  rw [hprocessed, List.append_assoc, List.cons_append] at hmore
  obtain ⟨l₁, l₂, hl, rfl⟩ := queued_split hmore.symm
  exact ⟨req, l₁, l₂, hl, rfl, by simp [hprocessed], rfl⟩

/-- In every run in which the queue has room for every COM_STMT_PREPARE, a statement number that
is sent to the shadow stands for the same text there as it did on the primary. -/
theorem statement_identity
    (hroom : RoomFor cfg (fun _ req => isPrepare req.packet = true)
      (.start client primary shadow logger) acts)
    {before after : List Bytes} {packet : Bytes} {k : ℕ} :
    let s := (Session.start client primary shadow logger).exec cfg acts
    s.back.service.worker.state.conn.sent = shadow.sent ++ (before ++ packet :: after) →
    statementId packet = some k →
    ∃ req earlier later, s.processed[before.length]? = some req ∧ req.packet = packet ∧
      s.front.primary.sent = primary.sent ++ (earlier ++ packet :: later) ∧
      earlier.length = req.id ∧ denotes before k = denotes earlier k := by
  intro s hsent hk
  have hb : Booked primary (.start shadow logger) s :=
    exec_booked cfg client primary shadow logger acts
  obtain ⟨req, l₁, l₂, hl, rfl, hprocessed, rfl⟩ := mirrored_place hb hsent
  obtain ⟨hid, hsent₁, later, hprimary⟩ := booked_place hb (by simp) hl
  refine ⟨req, _, later, hprocessed, rfl, hprimary, by simp [hid], ?_⟩
  have hprep : ∀ x ∈ l₁, isPrepare x.1.packet = true → x.2 = .offered .queued := by
    intro x hx hprep
    have hmem : x ∈ s.back.ledger := by rw [hl]; exact List.mem_append_left _ hx
    exact (prepare_queued hroom hmem hprep).resolve_right (hsent₁ x hx)
  rw [denotes, denotes, statements, statements, filter_queued hprep]

end Statements

lemma script_sent (cfg : Config) {script : Script} (hs : ∀ x ∈ script, Servable okReply x.1)
    (acts : List Action) :
    let s := (script.session (scriptServer okReply) none).exec cfg (script.whole acts)
    s.back.service.worker.state.conn.sent = s.processed.map QueryRequest.packet ∧
      s.front.primary.sent = (forwarded s.back.ledger).map QueryRequest.packet ∧
      s.back = script.outcome cfg (scriptServer okReply) none acts := by
  intro s
  obtain ⟨hdone, hback⟩ := Script.exec_whole cfg hs (scriptServer okReply) none acts
  have hb : Booked (scriptServer okReply) (.start (scriptServer okReply) none) s :=
    exec_booked _ _ _ _ _ _
  refine ⟨?_, ?_, hback⟩
  · rw [hb.state, (after_written (w := .start (scriptServer okReply) none) new_inv rfl _).1]
    exact List.nil_append _
  · rw [hb.written, show s.front.point = .done from hdone]
    simp [Point.underway, scriptServer]

def prepare (text : UInt8) : Packet := commandPacket comStmtPrepare [text] (by simp)

def execute : Packet := commandPacket comStmtExecute [2, 0, 0, 0, 0, 1, 0, 0, 0] (by decide)

/-- Three statements, of which the second is executed. The worker lags behind by one command. -/
def statementScript : Script :=
  [(prepare 65, []), (prepare 66, [.queue, .idle, .idle]), (prepare 67, [.queue, .idle, .idle]),
    (execute, [.queue, .idle, .idle])]

/-- The session that plays the script with the given queue, and in the end lets the worker process
one more request. -/
def statementRun (queueSize : ℕ) : Session :=
  (statementScript.session (scriptServer okReply) none).exec ⟨none, fun _ => false, queueSize⟩
    (statementScript.whole [.worker .queue, .worker .idle, .worker .idle])

lemma statementRun_sent (queueSize : ℕ) :
    (statementRun queueSize).back.service.worker.state.conn.sent =
        (statementRun queueSize).processed.map QueryRequest.packet ∧
      (statementRun queueSize).front.primary.sent =
        (forwarded (statementRun queueSize).back.ledger).map QueryRequest.packet ∧
      (statementRun queueSize).back =
        statementScript.outcome ⟨none, fun _ => false, queueSize⟩ (scriptServer okReply) none
          [.worker .queue, .worker .idle, .worker .idle] := by
  unfold statementRun
  exact script_sent _ (script_servable statementScript (by decide)) _

theorem statement_identity_statementRun :
    ∃ req earlier later, (statementRun 100).processed[3]? = some req ∧ req.packet = execute.bytes ∧
      (statementRun 100).front.primary.sent =
        (scriptServer okReply).sent ++ (earlier ++ execute.bytes :: later) ∧
      earlier.length = req.id ∧
      denotes [(prepare 65).bytes, (prepare 66).bytes, (prepare 67).bytes] 2 = denotes earlier 2 := by
  obtain ⟨hshadow, -, hback⟩ := statementRun_sent 100
  have hsent : (statementRun 100).back.service.worker.state.conn.sent = (scriptServer okReply).sent ++
      ([(prepare 65).bytes, (prepare 66).bytes, (prepare 67).bytes] ++ execute.bytes :: []) := by
    rw [hshadow, Session.processed, hback]
    rfl
  have hroom : RoomFor ⟨none, fun _ => false, 100⟩ (fun _ req => isPrepare req.packet = true)
      (.start (scriptClient (statementScript.map Prod.fst ++ [quitPacket])) (scriptServer okReply)
        (scriptServer okReply) none)
      (statementScript.whole [.worker .queue, .worker .idle, .worker .idle]) :=
    roomFor_of_capacity (by decide)
  unfold statementRun Script.session at hsent ⊢
  obtain ⟨req, earlier, later, hreq, hpacket, hprimary, hid, hsame⟩ :=
    statement_identity hroom hsent (k := 2) (by decide)
  exact ⟨req, earlier, later, hreq, hpacket, hprimary, hid, hsame⟩

/-- The second COM_STMT_PREPARE finds the queue full. The number 2 then stands for the second text on
the primary and for the third on the shadow. -/
theorem dropped_prepare_renumbers :
    (statementRun 1).back.service.worker.state.conn.sent =
        [(prepare 65).bytes, (prepare 67).bytes, execute.bytes] ∧
      (statementRun 1).front.primary.sent =
        [(prepare 65).bytes, (prepare 66).bytes, (prepare 67).bytes, execute.bytes,
          quitPacket.bytes] ∧
      statementId execute.bytes = some 2 ∧
      denotes [(prepare 65).bytes, (prepare 67).bytes] 2 = some [67] ∧
      denotes [(prepare 65).bytes, (prepare 66).bytes, (prepare 67).bytes] 2 = some [66] := by
  obtain ⟨hshadow, hprimary, hback⟩ := statementRun_sent 1
  refine ⟨hshadow.trans ?_, hprimary.trans ?_, by decide, by decide, by decide⟩
  · rw [Session.processed, hback]
    rfl
  · rw [hback]
    rfl

end ShadowProxy.MySQLMirrorDelivery
