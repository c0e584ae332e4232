import ShadowProxy.FilterConfig
import ShadowProxy.SqlSplit
import ShadowProxy.MySQLMirrorDelivery
import ShadowProxy.PgMirrorSession

/-! What reaches the shadow when the environment asks for a filter: on the wire, in every run, and by
the text of a query as a whole. -/
namespace ShadowProxy.FilteredTraffic
open WordBytes EventHistory NetConn ShadowFilter FilterConfig

section MySQL
open MySQLPacket MySQLPacketReader MySQLProxyLoop QueryLog WorkQueue MySQLShadowWorker
  MySQLMirrorSession MySQLMirrorServe MySQLMirrorDelivery

variable {rt : Runtime} {env : Env} {f : QueryFilter} {rate : Rate} {cfg : Config}

/-- A command that the environment wants on the shadow: one without SQL, or a query of the right kind. -/
def WantsCommand (rt : Runtime) (env : Env) (f : QueryFilter) (packet : Bytes) : Prop :=
  queryText packet = [] ∨ (loadConfig rt env).Wants rt
    (extractPrimarySQLOperation f (queryText packet)) (queryText packet) f.mode

lemma wantsCommand_iff (h : newQueryFilter rt (loadConfig rt env) = .ok (some (f, rate))) (packet : Bytes) :
    WantsCommand rt env f packet ↔ (f.allow false (queryText packet)).1 = true := by
  have hpass := passesFilter_iff (getEnvList_items env _) (getEnvList_items env _) h (queryText packet)
  unfold WantsCommand QueryFilter.allow
  rw [← hpass]
  split_ifs <;> simp_all

lemma allow_of_sampled {sampledOut : Bool} {text : Bytes} (h : (f.allow sampledOut text).1 = true) :
    (f.allow false text).1 = true := by
  unfold QueryFilter.allow at h ⊢
  split_ifs at h ⊢ <;> simp_all

/-- Only queries with the operation `A` are asked for. -/
def sampleSettings : Settings := ⟨[], [ascii "a"], [], .num 1⟩

def sampleRuntime : Runtime := ⟨fun _ => none, fun _ => .error .eof, id, id, fun _ => "", fun _ => ""⟩

def sampleFilter : QueryFilter := ⟨.includeMode, [ascii "A"], [], id⟩

lemma sampleSettings_filter :
    newQueryFilter sampleRuntime (loadConfig sampleRuntime (environment sampleSettings [])) =
      .ok (some (sampleFilter, .num 1)) := by
  have hitem : Item (ascii "a") := ⟨by decide, by decide +kernel, by decide⟩
  have hops : ((sampleSettings.sqlOperations.map trimSpace).filter (· ≠ [])).map sampleRuntime.toUpper =
      [ascii "A"] := by decide +kernel
  have hrate : Rate.lt (.num 1) (.num 1) = false ∧ Rate.lt (.num 1) (.num 0) = false := by decide +kernel
  have hload : loadConfig sampleRuntime (environment sampleSettings []) = sampleSettings :=
    loadConfig_environment (by simpa [sampleSettings] using hitem) (by simp [sampleSettings]) rfl
  rw [hload]
  simp only [newQueryFilter, hops]
  simp [sampleSettings, hrate, filterMode, Runtime.toLower, compilePatterns, sampleFilter, sampleRuntime]

/-- In every run of a mirrored session, whatever the shadow does and the sampling decides: each packet
that the shadow was sent is a command without SQL or a query that the environment asks for. -/
theorem mysql_shadow_only_wanted (h : newQueryFilter rt (loadConfig rt env) = .ok (some (f, rate)))
    (hcfg : cfg.queryFilter = some f) (client primary shadow : Conn) (logger : QueryLogger)
    (acts : List Action) :
    let s := (Session.start client primary shadow logger).exec cfg acts
    ∃ mirrored, s.back.service.worker.state.conn.sent = shadow.sent ++ mirrored ∧
      ∀ packet ∈ mirrored, WantsCommand rt env f packet := by
  intro s
  have hb : Booked primary (.start shadow logger) s := exec_booked cfg client primary shadow logger acts
  obtain ⟨mirrored, rest, hsent, hall, -⟩ :=
    after_mirrored (w := .start shadow logger) new_inv s.processed
  refine ⟨mirrored, by rw [hb.state]; exact hsent, ?_⟩
  intro packet hpacket
  obtain ⟨req, hreq, rfl⟩ := List.mem_map.mp (hall ▸ List.mem_append_left rest hpacket)
  obtain ⟨⟨req, fate⟩, hx, rfl⟩ := List.mem_map.mp (hb.processed_prefix.subset hreq)
  obtain ⟨hx, hfate⟩ := List.mem_filter.mp hx
  obtain ⟨before, after, -, hsettles⟩ := exec_settled hx
  obtain rfl : fate = .offered .queued := of_decide_eq_true hfate
  have hallows : ∃ roll, cfg.Allows roll req := by
    generalize hf : Fate.offered .queued = fate at hsettles
    cases hsettles with
    | offered hp hquit ha => exact ⟨_, ha⟩
    | _ => simp at hf
  obtain ⟨roll, ha⟩ := hallows
  have hallow := ha f (by simp [hcfg])
  rw [hb.queryText hx] at hallow
  exact (wantsCommand_iff h req.packet).mpr (allow_of_sampled hallow)

def sampleConfig : Config := ⟨some sampleFilter, fun _ => sampledOut (.num 1) 0, 100⟩

/-- Queries with the operations `A` and `B`. -/
def filteredRun : Session :=
  (sampleScript.session (scriptServer okReply) none).exec sampleConfig (sampleScript.whole sampleClose)

lemma filteredRun_back :
    filteredRun.back = sampleScript.outcome sampleConfig (scriptServer okReply) none sampleClose :=
  (Script.exec_whole _ (script_servable sampleScript (by decide)) _ _ _).2

lemma filteredRun_closed :
    filteredRun.back.service.phase = .closed ∧ filteredRun.back.service.worker.force = false := by
  rw [filteredRun_back]
  decide +kernel

lemma filteredRun_sent :
    filteredRun.back.service.worker.state.conn.sent = [(query 65).bytes] := by
  have hqueued : (queued filteredRun.back.ledger).map QueryRequest.packet = [(query 65).bytes] := by
    rw [filteredRun_back]
    decide +kernel
  have hb : Booked (scriptServer okReply) (.start (scriptServer okReply) none) filteredRun := by
    unfold filteredRun Script.session
    exact exec_booked _ _ _ _ _ _
  obtain ⟨hclosed, hforce⟩ := filteredRun_closed
  rw [hb.state, (after_written (w := .start (scriptServer okReply) none) new_inv rfl _).1,
    hb.processed_all hclosed hforce, hqueued]
  rfl

theorem mysql_shadow_only_wanted_filteredRun :
    filteredRun.back.service.worker.state.conn.sent = [(query 65).bytes] ∧
      ∃ mirrored, filteredRun.back.service.worker.state.conn.sent = (scriptServer okReply).sent ++ mirrored ∧
        ∀ packet ∈ mirrored,
          WantsCommand sampleRuntime (environment sampleSettings []) sampleFilter packet := by
  refine ⟨filteredRun_sent, ?_⟩
  unfold filteredRun Script.session
  exact mysql_shadow_only_wanted sampleSettings_filter rfl _ _ _ _ _

section Complete
variable {client primary shadow : Conn} {logger : QueryLogger} {acts : List Action}

lemma queued_iff_wanted (h : newQueryFilter rt (loadConfig rt env) = .ok (some (f, rate)))
    (hcfg : cfg.queryFilter = some f) (hsampling : ∀ roll, cfg.sampledOut roll = false)
    (haccept : Accepts cfg (.start client primary shadow logger) acts)
    (hroom : RoomFor cfg (fun roll req => (getMySQLCommand req.packet).1 ≠ comQuit ∧ cfg.Allows roll req)
      (.start client primary shadow logger) acts) {x : QueryRequest × Fate}
    (hx : x ∈ ((Session.start client primary shadow logger).exec cfg acts).back.ledger) :
    x.2 = .offered .queued ↔
      (getMySQLCommand x.1.packet).1 ≠ comQuit ∧ WantsCommand rt env f x.1.packet := by
  have hb := exec_booked cfg client primary shadow logger acts
  have hallows (roll : ℕ) : cfg.Allows roll x.1 ↔ WantsCommand rt env f x.1.packet := by
    rw [wantsCommand_iff h, ← hb.queryText hx, Config.Allows, hcfg]
    simp [hsampling]
  obtain ⟨req, fate⟩ := x
  have hfits := hb.fits _ hx
  obtain ⟨before, after, -, hsettles⟩ := exec_settled hx
  cases hsettles with
  | unsent => exact absurd rfl (haccept.not_unsent _ hx)
  | quit => simp [show (getMySQLCommand req.packet).1 = comQuit from hfits]
  | filtered hp ha reason => simpa using fun _ => mt (hallows _).mpr ha
  | offered hp hquit ha =>
    have hfull := hroom.not_dropped (Q := fun _ => True) (fun _ _ _ hr => hr) _ hx trivial
    have hwants := (hallows _).mp ha
    generalize (Service.send _ _ _).1 = sent at *
    cases sent <;> simp_all [Fate.Fits]

open Classical in
/-- When nothing is sampled away or dropped and the worker comes to the end of its queue, the shadow
has been sent exactly those commands of the primary that the environment asks for, in their order,
apart from COM_QUIT. -/
theorem mysql_shadow_all_wanted (h : newQueryFilter rt (loadConfig rt env) = .ok (some (f, rate)))
    (hcfg : cfg.queryFilter = some f) (rolls : ℕ → ℚ)
    (hrolls : cfg.sampledOut = fun n => sampledOut rate (rolls n)) (hrate : rate.lt (.num 1) = false)
    (haccept : Accepts cfg (.start client primary shadow logger) acts)
    (hroom : RoomFor cfg (fun roll req => (getMySQLCommand req.packet).1 ≠ comQuit ∧ cfg.Allows roll req)
      (.start client primary shadow logger) acts) (hshadow : shadow.writable = none)
    (hclosed : ((Session.start client primary shadow logger).exec cfg acts).back.service.phase = .closed)
    (hforce : ((Session.start client primary shadow logger).exec cfg acts).back.service.worker.force = false) :
    let s := (Session.start client primary shadow logger).exec cfg acts
    ∃ commands, s.front.primary.sent = primary.sent ++ commands ∧
      s.back.service.worker.state.conn.sent = shadow.sent ++
        commands.filter fun packet => (getMySQLCommand packet).1 ≠ comQuit ∧ WantsCommand rt env f packet := by
  intro s
  have hsampling (roll : ℕ) : cfg.sampledOut roll = false := by simp [hrolls, sampledOut, hrate]
  have hb : Booked primary (.start shadow logger) s := exec_booked cfg client primary shadow logger acts
  have hdone : s.front.point = .done := hb.done_of_closed hclosed
  refine ⟨s.back.ledger.map fun x => x.1.packet, ?_, ?_⟩
  · rw [hb.written, hdone, forwarded_all fun x hx => haccept.not_unsent x hx]
    simp only [Point.underway, List.append_nil, List.map_map]
    rfl
  · rw [hb.state, (after_written (w := .start shadow logger) new_inv hshadow _).1, hb.processed_all hclosed hforce,
      queued, List.filter_map, List.map_map]
    refine congrArg (shadow.sent ++ ·) (congrArg (List.map _) (List.filter_congr fun x hx => ?_))
    exact decide_eq_decide.mpr (queued_iff_wanted h hcfg hsampling haccept hroom hx)

end Complete

open Classical in
theorem mysql_shadow_all_wanted_filteredRun :
    filteredRun.back.ledger.map Prod.snd = [.offered .queued, .filtered .sqlOperation, .quit] ∧
      ∃ commands, filteredRun.front.primary.sent = (scriptServer okReply).sent ++ commands ∧
        filteredRun.back.service.worker.state.conn.sent = (scriptServer okReply).sent ++
          commands.filter fun packet => (getMySQLCommand packet).1 ≠ comQuit ∧
            WantsCommand sampleRuntime (environment sampleSettings []) sampleFilter packet := by
  have hledger : filteredRun.back.ledger.map Prod.snd =
      [.offered .queued, .filtered .sqlOperation, .quit] := by
    rw [filteredRun_back]
    decide +kernel
  obtain ⟨hclosed, hforce⟩ := filteredRun_closed
  refine ⟨hledger, ?_⟩
  unfold filteredRun Script.session at hclosed hforce ⊢
  exact mysql_shadow_all_wanted sampleSettings_filter rfl (fun _ => 0) rfl (by decide +kernel)
    (accepts_of_unlimited rfl) (roomFor_of_capacity (by decide)) rfl hclosed hforce

end MySQL

section Pg
open PgProtocol PgMirror PgQueryLoop QueryLog WorkQueue PgShadowWorker PgMirrorSession

variable {rt : Runtime} {env : Env} {f : QueryFilter} {rate : Rate} {cfg : Config}

lemma readUntilReadyLoop_sent (fuel n : ℕ) (c : Conn) : (readUntilReadyLoop fuel n c).2.2.sent = c.sent := by
  induction fuel generalizing n c with
  | zero => rfl
  | succ fuel ih =>
    rcases hread : readMessage c with ⟨e | msg, c'⟩
    · obtain ⟨new, -, hreads⟩ := readMessage_error hread
      simpa only [readUntilReadyLoop, hread] using hreads.sent
    · obtain ⟨-, -, hreads⟩ := readMessage_ok hread
      simp only [readUntilReadyLoop, hread]
      split_ifs
      · exact hreads.sent
      · rw [ih, hreads.sent]

lemma processFrame_sent (frame : QueuedFrame) (w : PgShadow) :
    (processFrame frame w).conn.sent = w.conn.sent ∨
      (processFrame frame w).conn.sent = w.conn.sent ++ [frame.payload] := by
  cases hd : w.dead with
  | true => exact .inl (by rw [processFrame_dead hd])
  | false =>
    rcases hw : w.conn.write frame.payload with ⟨_ | e, c⟩
    · right
      rw [← (write_ok hw).1]
      cases hresp : frame.expectsResponse with
      | false => rw [(processFrame_silent hd hw hresp).2.2.2]
      | true =>
        have hsent : (readUntilReady c).2.2.sent = c.sent := readUntilReadyLoop_sent _ 0 c
        rcases hread : readUntilReady c with ⟨n, _ | e, c'⟩ <;> rw [hread] at hsent <;>
          simpa [processFrame, hd, hw, hresp, hread, PgShadow.logExecution, PgShadow.markDead, Conn.close] using hsent
    · left
      rw [write_error hw] at hw
      simp [processFrame, hd, hw, PgShadow.logExecution, PgShadow.markDead, Conn.close]

lemma after_sent (w : PgShadow) (frames : List QueuedFrame) :
    ∃ written : List QueuedFrame, written.Sublist frames ∧
      (w.after frames).conn.sent = w.conn.sent ++ written.map fun frame => frame.payload := by
  induction frames using List.reverseRecOn with
  | nil => exact ⟨[], List.Sublist.refl _, by simp⟩
  | append_singleton frames frame ih =>
    obtain ⟨written, hsub, hsent⟩ := ih
    rw [after_concat]
    obtain h | h := processFrame_sent frame (w.after frames)
    · exact ⟨written, hsub.trans (List.sublist_append_left _ _), by rw [h, hsent]⟩
    · exact ⟨written ++ [frame], hsub.append (List.Sublist.refl _), by rw [h, hsent]; simp⟩

lemma extractPgQueryText_type {msg : PgPacket} (h : extractPgQueryText msg ≠ []) :
    msg.msgType = pgMsgQuery ∨ msg.msgType = pgMsgParse := by
  by_contra hno
  obtain ⟨hquery, hparse⟩ := not_or.mp hno
  exact h (by simp [extractPgQueryText, hquery, hparse])

/-- Only Query and Parse carry SQL, and for them the filter is asked. -/
lemma shouldShadowMirror_of_mirrorFrame {filter : Option QueryFilter} {sticky : StickyStmts} {msg : PgPacket}
    (h : (mirrorFrame filter sticky msg).1.1 = true) :
    (shouldShadowMirror (extractPgQueryText msg) filter).1 = true := by
  by_cases htext : extractPgQueryText msg = []
  · rw [htext]
    cases filter <;> rfl
  · obtain htype | htype := extractPgQueryText_type htext
    · rw [mirrorFrame_of_ne_close sticky (by rw [htype]; decide)] at h
      simpa [shouldMirrorPgFrame, htype] using h
    · rw [mirrorFrame_of_ne_close sticky (by rw [htype]; decide), shouldMirrorPgFrame_parse _ _ htype] at h
      exact h

/-- What was given to `Send` has passed the filter. -/
def Passed (cfg : Config) (s : Session) : Prop :=
  ∀ x ∈ s.back.ledger, x.route = .sent →
    (shouldShadowMirror (extractPgQueryText x.msg) cfg.queryFilter).1 = true

lemma Passed.moves {s s' : Session} (h : Passed cfg s) (hm : Moves cfg s s') : Passed cfg s' := by
  cases hm with
  | unwritten =>
    intro x hx hsent
    rcases List.mem_append.mp hx with hx | hx
    · exact h x hx hsent
    · rw [List.mem_singleton.mp hx] at hsent
      simp at hsent
  | @mirrored f req msg =>
    intro x hx hsent
    obtain ⟨-, hb⟩ | ⟨-, -, reason, sticky, hb⟩ | ⟨hmirrors, sticky, hb⟩ :=
      mirrorMessage_cases cfg s.back req msg <;> rw [hb] at hx <;>
      rcases List.mem_append.mp hx with hx | hx
    · exact h x hx hsent
    · rw [List.mem_singleton.mp hx] at hsent
      simp at hsent
    · exact h x hx hsent
    · rw [List.mem_singleton.mp hx] at hsent
      simp at hsent
    · exact h x hx hsent
    · rw [List.mem_singleton.mp hx]
      exact shouldShadowMirror_of_mirrorFrame hmirrors.2.2
  | _ => exact h

lemma exec_passed (cfg : Config) (client primary shadow : Conn) (logger : QueryLogger) (acts : List Action) :
    Passed cfg ((Session.start client primary shadow logger).exec cfg acts) := by
  induction acts using List.reverseRecOn with
  | nil => simp [Passed, Session.start]
  | append_singleton acts act ih =>
    rw [exec_concat]
    cases act with
    | conn => exact ih.moves (conn_moves cfg _)
    | _ => exact ih

/-- A message that the environment wants on the shadow: one without SQL, or a Query or Parse of the
right kind. -/
def WantsMessage (rt : Runtime) (env : Env) (f : QueryFilter) (msg : PgPacket) : Prop :=
  extractPgQueryText msg = [] ∨ (loadConfig rt env).Wants rt
    (extractPrimarySQLOperation f (extractPgQueryText msg)) (extractPgQueryText msg) f.mode

lemma wantsMessage_iff (h : newQueryFilter rt (loadConfig rt env) = .ok (some (f, rate))) (msg : PgPacket) :
    WantsMessage rt env f msg ↔ (f.allowDeterministic (extractPgQueryText msg)).1 = true := by
  have hpass := passesFilter_iff (getEnvList_items env _) (getEnvList_items env _) h (extractPgQueryText msg)
  unfold WantsMessage QueryFilter.allowDeterministic
  rw [← hpass]
  split_ifs <;> simp_all

lemma sent_entries {w₀ : PgShadow} {s : Session} (hb : Booked cfg w₀ s) :
    ∃ mirrored : List Entry, mirrored.Sublist (s.back.ledger.filter fun x => x.route = .sent) ∧
      s.back.mirror.service.worker.state.conn.sent =
        w₀.conn.sent ++ mirrored.map fun x => x.msg.bytes := by
  obtain ⟨written, hwritten, hsent⟩ := after_sent w₀ s.back.mirror.service.worker.finished
  have hfinished : s.back.mirror.service.worker.finished.Sublist (queued s.back.mirror.ledger) := by
    rw [← hb.mirror.accepted]
    exact hb.mirror.queue.finished_prefix.sublist
  have hqueued : (queued s.back.mirror.ledger).Sublist (sentFrames s.back.ledger) := by
    rw [hb.calls]
    exact (List.filter_sublist.map Prod.fst).trans (List.sublist_append_left _ _)
  obtain ⟨mirrored, hmirrored, rfl⟩ :=
    List.sublist_map_iff.mp (hwritten.trans (hfinished.trans hqueued))
  refine ⟨mirrored, hmirrored, ?_⟩
  rw [hb.mirror.state, hsent, List.map_map]
  rfl

/-- The same for a PostgreSQL session: what the shadow was sent are messages of the client that were given
to `Send`, in their order, and no Query or Parse is given to `Send` that the environment does not ask
for. -/
theorem pg_shadow_only_wanted (h : newQueryFilter rt (loadConfig rt env) = .ok (some (f, rate)))
    (hcfg : cfg.queryFilter = some f) (client primary shadow : Conn) (logger : QueryLogger)
    (acts : List Action) :
    let s := (Session.start client primary shadow logger).exec cfg acts
    ∃ mirrored : List Entry, mirrored.Sublist (s.back.ledger.filter fun x => x.route = .sent) ∧
      s.back.mirror.service.worker.state.conn.sent = shadow.sent ++ mirrored.map (fun x => x.msg.bytes) ∧
      ∀ x ∈ s.back.ledger, x.route = .sent → WantsMessage rt env f x.msg := by
  intro s
  have hb : Booked cfg (.start shadow logger) s := exec_booked cfg client primary shadow logger acts
  obtain ⟨mirrored, hmirrored, hsent⟩ := sent_entries hb
  refine ⟨mirrored, hmirrored, hsent, fun x hx hroute => ?_⟩
  have hpassed := exec_passed cfg client primary shadow logger acts x hx hroute
  rw [hcfg] at hpassed
  exact (wantsMessage_iff h x.msg).mpr hpassed

/-- Two queries with the operations `A` and `B`, of which the worker has processed what there is. -/
def filteredSession : Session :=
  (Session.start (.script [⟨wire [frame pgMsgQuery [65, 0], frame pgMsgQuery [66, 0]], none⟩])
      (.script [⟨wire [readyForQuery, readyForQuery], none⟩]) (.script [⟨readyForQuery.bytes, none⟩]) none).exec
    ⟨some sampleFilter, true, 8⟩
    (List.replicate 10 .conn ++ [.worker .queue, .worker .idle, .worker .idle])

theorem pg_shadow_only_wanted_filteredSession :
    filteredSession.back.ledger.map Entry.route = [.sent, .filtered .sqlOperation] ∧
      filteredSession.back.mirror.service.worker.state.conn.sent = [(frame pgMsgQuery [65, 0]).bytes] ∧
      ∃ mirrored : List Entry,
        mirrored.Sublist (filteredSession.back.ledger.filter fun x => x.route = .sent) ∧
        filteredSession.back.mirror.service.worker.state.conn.sent =
          [] ++ mirrored.map (fun x => x.msg.bytes) ∧
        ∀ x ∈ filteredSession.back.ledger, x.route = .sent →
          WantsMessage sampleRuntime (environment sampleSettings []) sampleFilter x.msg :=
  ⟨by decide +kernel, by decide +kernel, pg_shadow_only_wanted sampleSettings_filter rfl _ _ _ _ _⟩

end Pg

section Trailing
open SqlSplit

variable {f : QueryFilter} {a b : Bytes}

lemma pieces_semicolon (ha : Mode.outside.run a = .outside) (b : Bytes) :
    pieces (a ++ semicolon :: b) = pieces a ++ pieces b := by
  obtain ⟨ps, x, hlast⟩ := exists_pieces_last a
  have hcut : pieces (semicolon :: b) = [] :: pieces b := by
    rw [pieces, piecesFrom, if_pos (by decide)]
    rfl
  rw [pieces_append hlast ha hcut, hlast]
  simp

lemma primaryOf_append {ys : List Bytes} (h : ∃ op ∈ ys, IsMain op) (xs : List Bytes) :
    primaryOf (xs ++ ys) = primaryOf ys := by
  obtain ⟨op, hfind⟩ : ∃ op, ys.reverse.find? (fun op => IsMain op) = some op := by
    rw [← Option.isSome_iff_exists, List.find?_isSome]
    simpa using h
  rw [primaryOf_eq, primaryOf_eq, List.reverse_append, List.find?_append, hfind]
  rfl

lemma operation_of_trailing (ha : Mode.outside.run a = .outside)
    (hb : ∃ stmt ∈ splitStatements b, IsMain (extractStatementOperation f stmt)) :
    extractPrimarySQLOperation f (a ++ semicolon :: b) = extractPrimarySQLOperation f b := by
  have hstatements : splitStatements (a ++ semicolon :: b) = splitStatements a ++ splitStatements b := by
    simp only [splitStatements_eq, pieces_semicolon ha, List.map_append, List.filter_append]
  rw [extractPrimarySQLOperation_statements, extractPrimarySQLOperation_statements, hstatements,
    List.map_append]
  exact primaryOf_append (by simpa using hb) _

/-- A filter by operations looks at what comes last. Whatever statements stand before, the whole text
goes to the shadow, or stays away from it, as the last of them would alone: with `SELECT` included, or
`DELETE` excluded, `DELETE FROM t; SELECT 1` is mirrored. -/
theorem trailing_statement_decides (hpatterns : f.patterns = []) (ha : Mode.outside.run a = .outside)
    (hb : ∃ stmt ∈ splitStatements b, IsMain (extractStatementOperation f stmt)) :
    (∀ sampledOut, f.allow sampledOut (a ++ semicolon :: b) = f.allow sampledOut b) ∧
      f.allowDeterministic (a ++ semicolon :: b) = f.allowDeterministic b := by
  have hne : b ≠ [] := by
    rintro rfl
    obtain ⟨stmt, hstmt, -⟩ := hb
    rw [show splitStatements [] = [] by decide] at hstmt
    exact List.not_mem_nil hstmt
  have hop := operation_of_trailing ha hb
  have hpass : f.passesFilter (a ++ semicolon :: b) = f.passesFilter b := by
    simp only [QueryFilter.passesFilter, QueryFilter.matchInclude, QueryFilter.matchExclude, hop, hpatterns]
    simp
  refine ⟨fun sampledOut => ?_, ?_⟩
  · simp [QueryFilter.allow, hpass, hne]
  · simp [QueryFilter.allowDeterministic, hpass, hne]

end Trailing

theorem trailing_statement_decides_delete :
    let f : QueryFilter := ⟨.includeMode, [ascii "SELECT"], [], id⟩
    f.allow false (ascii "DELETE FROM t") = (false, .sqlOperation) ∧
      f.allow false (ascii "DELETE FROM t" ++ semicolon :: ascii " SELECT 1") = (true, .none) ∧
      (∀ sampledOut, f.allow sampledOut (ascii "DELETE FROM t" ++ semicolon :: ascii " SELECT 1") =
        f.allow sampledOut (ascii " SELECT 1")) ∧
      f.allowDeterministic (ascii "DELETE FROM t" ++ semicolon :: ascii " SELECT 1") =
        f.allowDeterministic (ascii " SELECT 1") :=
  ⟨by decide +kernel, by decide +kernel,
    trailing_statement_decides rfl (by decide) ⟨ascii "SELECT 1", by decide +kernel, by decide +kernel⟩⟩

end ShadowProxy.FilteredTraffic
