import ShadowProxy.MySQLMirrorDelivery

/-! What the counters and the query log of a mirrored session say about its commands. -/
namespace ShadowProxy.MySQLMirrorAccounts
open WordBytes EventHistory NetConn MySQLPacket MySQLPacketReader MySQLProxyLoop MySQLResponse
  ShadowFilter QueryLog WorkQueue MySQLShadowWorker MySQLMirrorSession MySQLMirrorServe
  MySQLMirrorDelivery

def isFiltered : Fate → Bool
  | .filtered _ => true
  | .unsent | .quit | .offered _ => false

/-- The counters of the connection are those of the ledger. -/
structure Metered (s : Session) : Prop where
  queries : s.back.metrics.queryTotal = s.requests.countP fun req => isQuery req.packet
  filtered : s.back.metrics.filteredSum = s.back.ledger.countP fun x => isFiltered x.2
  drops : s.back.metrics.shadowQueueDrops = s.back.ledger.countP fun x => x.2 = .offered .full

section Metered
variable {cfg : Config} {s s' : Session}

lemma filterOut_filteredSum (b : Back) (req : QueryRequest) (filterReason : FilterReason) :
    (b.filterOut req filterReason).metrics.filteredSum = b.metrics.filteredSum + 1 := by
  cases filterReason <;> simp [Back.filterOut, Metrics.filteredSum] <;> omega

lemma Metered.enter (h : Metered s) {req : QueryRequest} (fate : Fate)
    (hledger : s'.back.ledger = s.back.ledger ++ [(req, fate)])
    (hreq : s.front.point.unsettled = [req]) (hunsettled : s'.front.point.unsettled = [])
    (hq : s'.back.metrics.queryTotal = s.back.metrics.queryTotal)
    (hf : s'.back.metrics.filteredSum = s.back.metrics.filteredSum + (isFiltered fate).toNat)
    (hd : s'.back.metrics.shadowQueueDrops =
      s.back.metrics.shadowQueueDrops + (decide (fate = .offered .full)).toNat) : Metered s' where
  queries := by
    rw [hq, h.queries]
    simp [Session.requests, hledger, hreq, hunsettled]
  filtered := by
    rw [hf, h.filtered, hledger]
    cases hfate : isFiltered fate <;> simp [hfate]
  drops := by
    rw [hd, h.drops, hledger]
    by_cases hfate : fate = .offered .full <;> simp [hfate]

lemma Metered.mirrored (h : Metered s) {f : Front} {req : QueryRequest}
    (hp : s.front.point = .mirroring req) (hp' : f.point = .replying req) (roll : ℕ) :
    Metered ⟨f, s.back.mirror cfg roll req⟩ := by
  have hreq : s.front.point.unsettled = [req] := by rw [hp]; rfl
  have hunsettled : f.point.unsettled = [] := by rw [hp']; rfl
  rcases mirror_cases cfg s.back roll req with ⟨-, hm⟩ | ⟨-, -, -, filterReason, hm⟩ | ⟨-, -, hm⟩ <;>
    rw [hm]
  · exact h.enter _ rfl hreq hunsettled rfl rfl (by simp)
  · exact h.enter _ rfl hreq hunsettled rfl (filterOut_filteredSum _ _ _) (by simp [Back.filterOut])
  · exact h.enter (.offered (s.back.service.send cfg.shadowQueueSize req).1) rfl hreq
      hunsettled rfl rfl (by simp [Back.send])

lemma Metered.settled (h : Metered s) (hledger : s'.back.ledger = s.back.ledger)
    (hunsettled : s'.front.point.unsettled = s.front.point.unsettled)
    (hq : s'.back.metrics.queryTotal = s.back.metrics.queryTotal)
    (hf : s'.back.metrics.filteredSum = s.back.metrics.filteredSum)
    (hd : s'.back.metrics.shadowQueueDrops = s.back.metrics.shadowQueueDrops) : Metered s' where
  queries := by rw [hq, h.queries, Session.requests, Session.requests, hledger, hunsettled]
  filtered := by rw [hf, h.filtered, hledger]
  drops := by rw [hd, h.drops, hledger]

lemma Metered.moves (h : Metered s) (hm : Moves cfg s s') : Metered s' := by
  cases hm with
  | gone hp hp' => exact h.settled rfl (by rw [hp, hp']; rfl) rfl rfl rfl
  | @received f packet hp hp' =>
    refine ⟨?_, h.filtered, h.drops⟩
    have hq := h.queries
    simp only [Session.requests, hp, Point.unsettled, List.append_nil] at hq
    simp only [Back.count, Session.requests, hp', Point.unsettled, List.countP_append, hq]
    cases hquery : isQuery packet <;> simp [hquery]
  | unwritten hp hw hp' =>
    exact h.enter _ rfl (by rw [hp]; rfl) (by rw [hp']; rfl) rfl rfl rfl
  | written hp hp' => exact h.settled rfl (by rw [hp, hp']; rfl) rfl rfl rfl
  | mirrored hp hp' => exact h.mirrored hp hp' _
  | answered hp hp' => exact h.settled rfl (by rw [hp, hp']; rfl) rfl rfl rfl
  | quit hp hp' => exact h.settled rfl (by rw [hp, hp']; rfl) rfl rfl rfl
  | broken hp hp' => exact h.settled rfl (by rw [hp, hp']; rfl) rfl rfl rfl
  | closing => exact h.settled rfl rfl rfl rfl rfl

theorem exec_metered (cfg : Config) (client primary shadow : Conn) (logger : QueryLogger)
    (acts : List Action) :
    Metered ((Session.start client primary shadow logger).exec cfg acts) := by
  induction acts using List.reverseRecOn with
  | nil => exact ⟨rfl, rfl, rfl⟩
  | append_singleton acts act ih =>
    rw [exec_concat]
    cases act with
    | conn => exact ih.moves (conn_moves cfg (exec_booked cfg client primary shadow logger acts).tracked).1
    | timeout => exact ih.settled rfl rfl rfl rfl rfl
    | worker pick => exact ih.settled rfl rfl rfl rfl rfl

end Metered

section Parity
variable {cfg : Config} {client primary shadow : Conn} {logger : QueryLogger} {acts : List Action}

lemma processRequest_queryTotal (req : QueryRequest) (w : Shadow) :
    (processRequest req w).metrics.queryTotal =
      w.metrics.queryTotal + (isQuery req.packet).toNat := by
  unfold processRequest
  rcases w.conn.write req.packet with ⟨_ | e, conn⟩
  · dsimp only
    split_ifs
    · rfl
    · rcases readReply (getMySQLCommand req.packet).1 w.reader conn with ⟨n, _ | e, r, c⟩ <;> rfl
  · rfl

lemma after_queryTotal (conn : Conn) (logger : QueryLogger) (reqs : List QueryRequest) :
    ((Shadow.start conn logger).after reqs).metrics.queryTotal =
      reqs.countP fun req => isQuery req.packet := by
  induction reqs using List.reverseRecOn with
  | nil => rfl
  | append_singleton reqs req ih =>
    rw [after_concat, processRequest_queryTotal, ih, List.countP_append]
    cases hq : isQuery req.packet <;> simp [hq]

/-- A dropped command that the primary does not count as a query. -/
def uncounted (x : QueryRequest × Fate) : Bool :=
  decide (x.2 = .offered .full) && !isQuery x.1.packet

lemma isQuery_of_text {packet : Bytes} (h : queryText packet ≠ []) : isQuery packet = true := by
  unfold queryText at h
  split_ifs at h with hq
  · have hlen : ¬ packet.length < 5 := by omega
    have hsome : (getMySQLCommand packet).2 = true := by simp [getMySQLCommand, hlen]
    simp [isQuery, hsome, hq.1, isCountableCommand]
  · exact absurd rfl h

lemma fate_parity {x : QueryRequest × Fate} (hfits : x.2.Fits x.1) (hsent : x.2 ≠ .unsent)
    (htext : x.1.queryText = queryText x.1.packet) :
    (isQuery x.1.packet).toNat + (uncounted x).toNat =
      (decide (x.2 = .offered .queued) && isQuery x.1.packet).toNat + (isFiltered x.2).toNat +
        (decide (x.2 = .offered .full)).toNat := by
  obtain ⟨req, fate⟩ := x
  cases fate with
  | unsent => exact absurd rfl hsent
  | quit =>
    have hnot : isQuery req.packet = false := by
      simp [isQuery, show (getMySQLCommand req.packet).1 = comQuit from hfits, isCountableCommand,
        comQuit, comQuery, comStmtPrepare, comStmtExecute]
    simp [uncounted, isFiltered, hnot]
  | filtered filterReason =>
    have hquery : isQuery req.packet = true := isQuery_of_text (htext ▸ hfits.2)
    simp [uncounted, isFiltered, hquery]
  | offered sent =>
    cases sent with
    | queued => simp [uncounted, isFiltered]
    | full => cases hq : isQuery req.packet <;> simp [uncounted, isFiltered, hq]
    | closed => exact absurd rfl hfits.2

lemma ledger_parity {ledger : List (QueryRequest × Fate)}
    (h : ∀ x ∈ ledger, x.2.Fits x.1 ∧ x.2 ≠ .unsent ∧ x.1.queryText = queryText x.1.packet) :
    ledger.countP (fun x => isQuery x.1.packet) + ledger.countP uncounted =
      (queued ledger).countP (fun req => isQuery req.packet) +
        ledger.countP (fun x => isFiltered x.2) + ledger.countP (fun x => x.2 = .offered .full) := by
  induction ledger with
  | nil => rfl
  | cons x ledger ih =>
    obtain ⟨⟨hfits, hsent, htext⟩, hrest⟩ := List.forall_mem_cons.mp h
    have hx := fate_parity hfits hsent htext
    specialize ih hrest
    have htoNat : ∀ p : QueryRequest × Fate → Bool, (x :: ledger).countP p =
        ledger.countP p + (p x).toNat := by
      intro p
      cases hp : p x <;> simp [hp]
    have hqueued : (queued (x :: ledger)).countP (fun req => isQuery req.packet) =
        (queued ledger).countP (fun req => isQuery req.packet) +
          (decide (x.2 = .offered .queued) && isQuery x.1.packet).toNat := by
      by_cases hq : x.2 = .offered .queued
      · cases hquery : isQuery x.1.packet <;> simp [queued, hq, hquery]
      · simp [queued, hq]
    rw [htoNat, htoNat, htoNat, htoNat, hqueued]
    omega

/-- At the end of a session whose primary accepts every write, the counters agree unless a command
was dropped that the primary does not count. -/
theorem parity_iff (haccept : Accepts cfg (.start client primary shadow logger) acts) :
    let s := (Session.start client primary shadow logger).exec cfg acts
    s.back.service.phase = .closed → s.back.service.worker.force = false →
      (s.back.metrics.queryTotal = s.back.service.worker.state.metrics.queryTotal +
          s.back.metrics.filteredSum + s.back.metrics.shadowQueueDrops ↔
        ∀ x ∈ s.back.ledger, x.2 = .offered .full → isQuery x.1.packet = true) := by
  intro s hclosed hforce
  have hb : Booked primary (.start shadow logger) s :=
    exec_booked cfg client primary shadow logger acts
  have hm : Metered s := exec_metered cfg client primary shadow logger acts
  have hdone := hb.done_of_closed hclosed
  have hparity := ledger_parity fun x hx =>
    ⟨hb.fits x hx, haccept.not_unsent x hx, hb.queryText hx⟩
  have hqueries : s.back.metrics.queryTotal = s.back.ledger.countP fun x => isQuery x.1.packet := by
    rw [hm.queries, Session.requests, hdone]
    simp [Point.unsettled, List.countP_map, Function.comp_def]
  rw [hqueries, hb.state, after_queryTotal, hb.processed_all hclosed hforce, hm.filtered, hm.drops,
    ← hparity, left_eq_add, List.countP_eq_zero]
  simp [uncounted]

/-- At the end of a run in which the primary accepts every write and `Close` drains the queue, the
counters agree exactly if the queue had room for every command that is not counted. -/
theorem metric_parity (haccept : Accepts cfg (.start client primary shadow logger) acts) :
    let s := (Session.start client primary shadow logger).exec cfg acts
    s.back.service.phase = .closed → s.back.service.worker.force = false →
      (s.back.metrics.queryTotal = s.back.service.worker.state.metrics.queryTotal +
          s.back.metrics.filteredSum + s.back.metrics.shadowQueueDrops ↔
        RoomFor cfg (fun _ req => isQuery req.packet = false ∧ (getMySQLCommand req.packet).1 ≠ comQuit)
          (.start client primary shadow logger) acts) := by
  intro s hclosed hforce
  have hno_text : ∀ req : QueryRequest, isQuery req.packet = false → queryText req.packet = [] := by
    intro req hq
    by_contra htext
    simp [isQuery_of_text htext] at hq
  rw [parity_iff haccept hclosed hforce, roomFor_iff_not_dropped hno_text]
  refine forall₂_congr fun x _ => ?_
  cases isQuery x.1.packet <;> simp

end Parity

def ping : Packet := commandPacket comPing [] (by decide)

/-- A query and a COM_PING that comes before the worker has taken the query. -/
def pingScript : Script := [(query 65, []), (ping, [.queue, .idle, .idle])]

def pingRun (queueSize : ℕ) (logger : QueryLogger) : Session :=
  (pingScript.session (scriptServer okReply) logger).exec ⟨none, fun _ => false, queueSize⟩
    (pingScript.whole sampleClose)

lemma pingRun_back (queueSize : ℕ) (logger : QueryLogger) :
    (pingRun queueSize logger).back =
      pingScript.outcome ⟨none, fun _ => false, queueSize⟩ (scriptServer okReply) logger sampleClose :=
  (Script.exec_whole _ (script_servable pingScript (by decide)) _ _ _).2

theorem metric_parity_pingRun :
    (pingRun 100 none).back.service.phase = .closed ∧
      (pingRun 100 none).back.service.worker.force = false ∧
      (pingRun 100 none).back.metrics.queryTotal =
        (pingRun 100 none).back.service.worker.state.metrics.queryTotal +
          (pingRun 100 none).back.metrics.filteredSum +
          (pingRun 100 none).back.metrics.shadowQueueDrops := by
  have hclosed : (pingRun 100 none).back.service.phase = .closed := by rw [pingRun_back]; rfl
  have hforce : (pingRun 100 none).back.service.worker.force = false := by rw [pingRun_back]; rfl
  obtain ⟨s, hs⟩ : ∃ s, s = pingRun 100 none := ⟨_, rfl⟩
  rw [← hs] at hclosed hforce ⊢
  unfold pingRun Script.session at hs
  refine ⟨hclosed, hforce, ?_⟩
  rw [hs] at hclosed hforce
  have hparity := (metric_parity (accepts_of_unlimited rfl) hclosed hforce).mpr
    (roomFor_of_capacity (by decide))
  rwa [← hs] at hparity

/-- The COM_PING is dropped: it counts as a drop, but the primary has not counted it as a query. -/
theorem dropped_ping_breaks_parity :
    (scriptServer okReply).writable = none ∧
      (pingRun 1 none).back.service.phase = .closed ∧
      (pingRun 1 none).back.service.worker.force = false ∧
      (pingRun 1 none).back.metrics.queryTotal = 1 ∧
      (pingRun 1 none).back.service.worker.state.metrics.queryTotal = 1 ∧
      (pingRun 1 none).back.metrics.filteredSum = 0 ∧
      (pingRun 1 none).back.metrics.shadowQueueDrops = 1 := by
  have hb : Booked (scriptServer okReply) (.start (scriptServer okReply) none) (pingRun 1 none) :=
    exec_booked _ _ _ _ _ _
  refine ⟨rfl, by rw [pingRun_back]; rfl, by rw [pingRun_back]; rfl, by rw [pingRun_back]; rfl, ?_,
    by rw [pingRun_back]; rfl, by rw [pingRun_back]; rfl⟩
  rw [hb.state, after_queryTotal, Session.processed, pingRun_back]
  rfl

def heldBack (x : QueryRequest × Fate) : Option QueryLogEntry :=
  match x.2 with
  | .filtered filterReason => some (filteredEntry x.1 filterReason)
  | .unsent | .quit | .offered _ => none

/-- What the connection has still to log for the last command. -/
def unlogged : Point → List (Target × ℕ)
  | .replying req => [(.primary, req.id)]
  | .reading | .writing _ | .mirroring _ | .done => []

/-- The log of the connection is that of the ledger. -/
abbrev Logged (s : Session) : Prop :=
  Accounts (fun x : QueryRequest × Fate => x.1.id) heldBack s.back.ledger (unlogged s.front.point)
    s.back.logger

section Logged
variable {cfg : Config} {s s' : Session}

lemma mirrored_logged (h : Logged s) {f : Front} {req : QueryRequest}
    (hp : s.front.point = .mirroring req) (hp' : f.point = .replying req) (roll : ℕ) :
    Logged ⟨f, s.back.mirror cfg roll req⟩ := by
  simp only [Logged, hp, hp', unlogged] at h ⊢
  rcases mirror_cases cfg s.back roll req with ⟨-, hm⟩ | ⟨-, -, -, filterReason, hm⟩ | ⟨-, -, hm⟩ <;>
    rw [hm]
  · exact h.enter rfl
  · exact h.enter_filtered rfl rfl
  · exact h.enter (x := (req, .offered _)) rfl

lemma moves_logged (h : Logged s) (hm : Moves cfg s s') : Logged s' := by
  cases hm with
  | mirrored hp hp' => exact mirrored_logged h hp hp' _
  | unwritten hp hw hp' =>
    simp only [Logged, hp, hp', unlogged] at h ⊢
    exact (h.enter (x := (_, .unsent)) rfl).pay
  | answered hp hp' =>
    simp only [Logged, hp, hp', unlogged] at h ⊢
    exact h.pay
  | quit hp hp' =>
    simp only [Logged, hp, hp', unlogged] at h ⊢
    exact h.pay
  | broken hp hp' =>
    simp only [Logged, hp, hp', unlogged] at h ⊢
    exact h.pay
  | closing => exact h
  | gone hp hp' | received hp hp' | written hp hp' =>
    simp only [Logged, hp, hp', unlogged] at h ⊢
    exact h

theorem exec_logged (cfg : Config) (client primary shadow : Conn) (acts : List Action) :
    Logged ((Session.start client primary shadow (some [])).exec cfg acts) := by
  induction acts using List.reverseRecOn with
  | nil => exact ⟨rfl, rfl, by simp [Session.start, Back.start]⟩
  | append_singleton acts act ih =>
    rw [exec_concat]
    cases act with
    | conn =>
      have hb := exec_booked cfg client primary shadow (some []) acts
      exact moves_logged ih (conn_moves cfg hb.tracked).1
    | timeout => exact ih
    | worker pick => exact ih

lemma processRequest_logged (req : QueryRequest) (w : Shadow) :
    ∃ bytesSent bytesRecv err, (processRequest req w).logger =
      logQueryExecution w.logger req bytesSent bytesRecv err := by
  rcases hw : w.conn.write req.packet with ⟨_ | e, conn⟩
  · cases hresp : isNoResponseCommand (getMySQLCommand req.packet).1 with
    | true => exact ⟨_, _, _, (processRequest_silent hw hresp).2.2⟩
    | false =>
      rcases hread : readReply (getMySQLCommand req.packet).1 w.reader conn with ⟨n, err, r, c⟩
      exact ⟨_, _, _, (processRequest_read hw hresp hread).2.2⟩
  · exact ⟨_, _, _, processRequest_unwritten hw⟩

lemma after_logged (conn : Conn) (reqs : List QueryRequest) :
    ((Shadow.start conn (some [])).after reqs).logger.isSome ∧
      ((Shadow.start conn (some [])).after reqs).logger.entries.map QueryLogEntry.key =
        reqs.map fun req => (.shadow, req.id) := by
  induction reqs using List.reverseRecOn with
  | nil => exact ⟨rfl, rfl⟩
  | append_singleton reqs req ih =>
    obtain ⟨bytesSent, bytesRecv, err, hlog⟩ :=
      processRequest_logged req ((Shadow.start conn (some [])).after reqs)
    obtain ⟨hsome, hentries⟩ := log_isSome ih.1 (executionEntry .shadow req bytesSent bytesRecv err)
    rw [after_concat, hlog, logQueryExecution]
    refine ⟨hsome, ?_⟩
    rw [hentries, List.map_append, ih.2]
    simp [QueryLogEntry.key, executionEntry]

def queryLog (s : Session) : List QueryLogEntry :=
  s.back.logger.entries ++ s.back.service.worker.state.logger.entries

variable {client primary shadow : Conn} {acts : List Action}

/-- At the end of a session, a command has one entry for the primary, and one for the shadow if it was
filtered or went to the queue. -/
theorem entriesFor_ledger :
    let s := (Session.start client primary shadow (some [])).exec cfg acts
    s.back.service.phase = .closed → s.back.service.worker.force = false →
      ∀ x ∈ s.back.ledger, entriesFor .primary x.1.id (queryLog s) = 1 ∧
        entriesFor .shadow x.1.id (queryLog s) =
          (heldBack x).isSome.toNat + (decide (x.2 = .offered .queued)).toNat := by
  intro s hclosed hforce x hx
  have hb : Booked primary (.start shadow (some [])) s :=
    exec_booked cfg client primary shadow (some []) acts
  have hl : Logged s := exec_logged cfg client primary shadow acts
  rw [Logged, hb.done_of_closed hclosed, unlogged] at hl
  have hnodup : (s.back.ledger.map fun x => x.1.id).Nodup := by
    have hnum := hb.numbered
    rw [Session.requests, hb.done_of_closed hclosed] at hnum
    simp only [Point.unsettled, List.append_nil, List.map_map] at hnum
    exact (show s.back.ledger.map (fun x => x.1.id) = _ from hnum) ▸ List.nodup_range
  refine hl.entriesFor hnodup (fun x => decide (x.2 = .offered .queued)) ?_ hx
  rw [hb.state, (after_logged shadow s.processed).2, hb.processed_all hclosed hforce, queued,
    List.map_map]
  rfl

/-- Every command but a COM_QUIT has one entry for the primary and one for the shadow; that of a
command that was filtered out says so. -/
def LoggedOnce (s : Session) : Prop :=
  (∀ req ∈ s.requests, (getMySQLCommand req.packet).1 ≠ comQuit →
    entriesFor .primary req.id (queryLog s) = 1 ∧ entriesFor .shadow req.id (queryLog s) = 1) ∧
  ∀ x ∈ s.back.ledger, ∀ filterReason, x.2 = .filtered filterReason →
    filteredEntry x.1 filterReason ∈ queryLog s

/-- In every run in which the primary accepts every write and the queue has room for every command
that the filter allows, the commands are logged one to one. -/
theorem commands_logged_once (haccept : Accepts cfg (.start client primary shadow (some [])) acts)
    (hroom : RoomFor cfg
      (fun roll req => (getMySQLCommand req.packet).1 ≠ comQuit ∧ cfg.Allows roll req)
      (.start client primary shadow (some [])) acts) :
    let s := (Session.start client primary shadow (some [])).exec cfg acts
    s.back.service.phase = .closed → s.back.service.worker.force = false →
      s.front.primary.sent = primary.sent ++ s.requests.map QueryRequest.packet ∧ LoggedOnce s := by
  intro s hclosed hforce
  have hb : Booked primary (.start shadow (some [])) s :=
    exec_booked cfg client primary shadow (some []) acts
  have hl : Logged s := exec_logged cfg client primary shadow acts
  have hdone := hb.done_of_closed hclosed
  have hwritten : s.front.primary.sent = primary.sent ++ s.requests.map QueryRequest.packet := by
    have hall : forwarded s.back.ledger = s.back.ledger.map Prod.fst := by
      rw [forwarded, List.filter_eq_self.mpr fun x hx => by simpa using haccept.not_unsent x hx]
    rw [hb.written, hall, Session.requests, hdone]
    rfl
  refine ⟨hwritten, ?_, fun x hx filterReason hf =>
    List.mem_append_left _ (hl.holds x hx _ (by simp [heldBack, hf]))⟩
  intro req hreq hquit
  rw [Session.requests, hdone, Point.unsettled, List.append_nil] at hreq
  obtain ⟨x, hx, rfl⟩ := List.mem_map.mp hreq
  obtain ⟨hone, hshadow⟩ := entriesFor_ledger hclosed hforce x hx
  refine ⟨hone, hshadow.trans ?_⟩
  have hfull := hroom.not_dropped (Q := fun _ => True) (fun _ _ _ hallowed => hallowed) x hx trivial
  have hsent := haccept.not_unsent x hx
  have hfits := hb.fits x hx
  obtain ⟨req, fate⟩ := x
  cases fate with
  | unsent => exact absurd rfl hsent
  | quit => exact absurd hfits hquit
  | filtered filterReason => rfl
  | offered sent =>
    cases sent with
    | queued => rfl
    | full => exact absurd rfl hfull
    | closed => exact absurd rfl hfits.2

end Logged

end ShadowProxy.MySQLMirrorAccounts
