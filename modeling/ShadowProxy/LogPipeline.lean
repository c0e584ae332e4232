import Mathlib.Data.Nat.Pairing
import ShadowProxy.SharedSink
import ShadowProxy.LogStore
import ShadowProxy.MySQLServer
import ShadowProxy.PgServer
import ShadowProxy.PgMirrorAccounts

/-! The query log of a whole process: all connections and all shadow workers log to one logger, whose
goroutine writes batches to the bucket. -/
namespace ShadowProxy.LogPipeline
open WordBytes NetConn ShadowFilter QueryLog SharedSink LogFormat LogFlush LogStore

/-- What happens to the logger apart from the calls of `Log`. -/
inductive Own
  | count (i : ℕ)
  | tick
  | close
  | loop (pick : Pick)

def Own.action : Own → Action Stamped
  | .count i => .count i
  | .tick => .tick
  | .close => .close
  | .loop pick => .loop pick

def label (i : ℕ) (e : QueryLogEntry) : QueryLogEntry := { e with queryID := Nat.pair i e.queryID }

abbrev LoggerInput := Input QueryLogEntry (Own × Draw) (Stamp × Draw)

def toStep : LoggerInput → Action Stamped × Draw
  | .entry i t e => (.log (label i e, t.1), t.2)
  | .other b => (b.1.action, b.2)

/-- The logger after everything that has happened to it. -/
def logger (cfg : Config) (texts : Texts) (pre : Bytes) (inputs : List LoggerInput) : LogStore.System :=
  LogStore.System.exec cfg texts pre (inputs.map toStep)

def Complete (cfg : Config) (texts : Texts) (pre : Bytes) (inputs : List LoggerInput) : Prop :=
  Settled cfg (inputs.map toStep) (logger cfg texts pre inputs)

def rowsOf (cfg : Config) (texts : Texts) (pre : Bytes) (inputs : List LoggerInput) (target : Target)
    (i id : ℕ) : ℕ :=
  let store := (logger cfg texts pre inputs).store
  rowsFor texts target (Nat.pair i id) (bucketRows store ++ outputRows store)

section Rows
variable {ξ σ α : Type*} {S : Source ξ σ α QueryLogEntry} {Inv : σ → Prop}

lemma logged_other (b : Own × Draw) (steps : List (Action Stamped × Draw)) :
    logged ((toStep (.other b) :: steps).map Prod.fst) = logged (steps.map Prod.fst) := by
  obtain ⟨own, draw⟩ := b
  cases own <;> rfl

lemma entriesFor_logged (inputs : List LoggerInput) (target : Target) (i id : ℕ) :
    entriesFor target (Nat.pair i id) ((logged ((inputs.map toStep).map Prod.fst)).map Prod.fst) =
      entriesFor target id (inputs.filterMap (Input.of i)) := by
  induction inputs with
  | nil => rfl
  | cons input inputs ih =>
    cases input with
    | entry j t e =>
      have hlogged : logged (((Input.entry j t e :: inputs).map toStep).map Prod.fst) =
          (label j e, t.1) :: logged ((inputs.map toStep).map Prod.fst) := rfl
      rw [hlogged, List.map_cons, entriesFor, List.countP_cons, ← entriesFor, ih]
      by_cases hj : j = i
      · simp [hj, entriesFor, label, List.countP_cons, Nat.pair_eq_pair]
      · simp [hj, label, Nat.pair_eq_pair]
    | other b =>
      rw [List.map_cons, logged_other, ih, List.filterMap_cons_none (of_other i b)]

/-- A request of a connection has as many rows as the connection and its worker have logged entries. -/
theorem rowsOf_member (hS : S.Appends Inv) {cfg : Config} {texts : Texts} {pre : Bytes}
    (events : List (Event ξ α (Own × Draw) (Stamp × Draw))) {i : ℕ} {s : σ}
    (hs : (System.run S events).members[i]? = some s)
    (hcomplete : Complete cfg texts pre (System.run S events).inputs) (target : Target) (id : ℕ) :
    rowsOf cfg texts pre (System.run S events).inputs target i id = entriesFor target id (S.written s) := by
  have hfeeds := run_feeds hS events
  rw [rowsOf, hcomplete.rowsFor texts (exec_composed cfg texts pre _), entriesFor_logged]
  exact (hfeeds.fed i s hs).countP_eq _

end Rows

lemma entries_prefix_log (logger : QueryLogger) (e : QueryLogEntry) :
    logger.entries <+: (logger.log e).entries := by
  cases logger with
  | none => exact List.prefix_rfl
  | some entries => exact List.prefix_append _ _

section Sample

lemma exec_draws (cfg : LogFlush.Config) (texts : Texts) (pre : Bytes) (steps : List (Action Stamped × Draw)) :
    ∀ c ∈ (LogStore.System.exec cfg texts pre steps).calls, c.draw ∈ steps.map Prod.snd := by
  induction steps using List.reverseRecOn with
  | nil => simp [LogStore.System.exec, LogStore.System.start]
  | append_singleton steps step ih =>
    rw [LogStore.System.exec, List.foldl_concat, ← LogStore.System.exec]
    intro c hc
    obtain hc | hc := List.mem_append.mp hc
    · simpa using .inl (by simpa using ih c hc)
    · obtain ⟨f, -, rfl⟩ := List.mem_map.mp hc
      simp

def sampleTime : Stamp × Draw := (⟨[], .ofNat 0, []⟩, sampleDraw (ascii "00000000") .done)

/-- `Close` finds five entries in the channel, which are drained, read and flushed. -/
def sampleStop (d : Draw) : List (Own × Draw) :=
  (Own.close :: List.replicate 19 (Own.loop .done) ++ [Own.close]).map fun own => (own, d)

lemma exec_sampleStop (a b c d e : Stamped) :
    let s := (Logger.start ⟨8, 8⟩).exec ⟨8, 8⟩ ([a, b, c, d, e].map .log ++
      .close :: List.replicate 19 (.loop .done) ++ [.close])
    s.flushes = [⟨[a, b, c, d, e], true⟩] ∧ s.closing = .returned ∧ s.dropped = [] ∧ s.channel = [] := by
  simp [Logger.start, Logger.exec, Logger.act, Logger.log, Logger.accept, Logger.close, Logger.step,
    Logger.select, List.replicate, SliceBuffer.Slice.get?_eq]

def sampleInputs (t : Stamp × Draw) (es : List QueryLogEntry) : List LoggerInput :=
  es.map (.entry 0 t) ++ (sampleStop t.2).map .other

lemma sampleInputs_complete {texts : Texts} {pre : Bytes} {es : List QueryLogEntry} {t : Stamp × Draw}
    (hes : es.length = 5) (ht : t.2.upload = .done) : Complete ⟨8, 8⟩ texts pre (sampleInputs t es) := by
  obtain ⟨a, b, c, d, e, rfl⟩ : ∃ a b c d e, es = [a, b, c, d, e] := by
    match es, hes with
    | [a, b, c, d, e], _ => exact ⟨a, b, c, d, e, rfl⟩
  have hacts : ((sampleInputs t [a, b, c, d, e]).map toStep).map Prod.fst =
      [(label 0 a, t.1), (label 0 b, t.1), (label 0 c, t.1), (label 0 d, t.1), (label 0 e, t.1)].map .log ++
        .close :: List.replicate 19 (.loop .done) ++ [.close] := rfl
  have hs := exec_composed ⟨8, 8⟩ texts pre ((sampleInputs t [a, b, c, d, e]).map toStep)
  obtain ⟨hflushes, hreturned, hdropped, hchannel⟩ := exec_sampleStop (label 0 a, t.1) (label 0 b, t.1)
    (label 0 c, t.1) (label 0 d, t.1) (label 0 e, t.1)
  rw [← hacts] at hchannel
  rw [← hacts, ← hs.logger] at hflushes hreturned hdropped
  obtain ⟨call, hcall⟩ : ∃ call, (logger ⟨8, 8⟩ texts pre (sampleInputs t [a, b, c, d, e])).calls = [call] := by
    have hbatches := congrArg List.length hs.calls
    rw [List.length_map, hflushes] at hbatches
    exact List.length_eq_one_iff.mp hbatches
  refine ⟨hreturned, (punctual_iff _).mpr fun _ => hchannel, hdropped, ?_, ?_⟩
  · rw [hcall, List.filter_singleton]
    cases call.stored <;> simp
  · intro x hx
    have hdraw := exec_draws _ _ _ _ x hx
    have hsame : ∀ x ∈ ((sampleInputs t [a, b, c, d, e]).map toStep).map Prod.snd, x = t.2 := by
      simp [sampleInputs, toStep, sampleStop]
    rw [hsame _ hdraw, ht]
    simp

end Sample

/-- What a session starts with. -/
structure Opening (κ : Type*) where
  cfg : κ
  client : Conn
  primary : Conn
  shadow : Conn

section Sessions
variable {κ ψ α : Type*} (start : Opening κ → ψ) (act : κ → ψ → α → ψ) (front back : ψ → List QueryLogEntry)

/-- Sessions of one kind, each with its loop and its worker as the two that log. -/
def sessions : Source (Opening κ) (κ × ψ) α QueryLogEntry where
  start x := (x.cfg, start x)
  step s a := (s.1, act s.1 s.2 a)
  front s := front s.2
  back s := back s.2

/-- A session that was started and has taken some steps. -/
def Runs (s : κ × ψ) : Prop :=
  ∃ (x : Opening κ) (acts : List α), s = (x.cfg, acts.foldl (act x.cfg) (start x))

lemma foldl_sessions (x : Opening κ) (acts : List α) :
    acts.foldl (sessions start act front back).step ((sessions start act front back).start x) =
      (x.cfg, acts.foldl (act x.cfg) (start x)) := by
  induction acts using List.reverseRecOn with
  | nil => rfl
  | append_singleton acts a ih =>
    rw [List.foldl_concat, List.foldl_concat, ih]
    rfl

variable {start act front back}

lemma sessions_appends (hstart : ∀ x, front (start x) = [] ∧ back (start x) = [])
    (hstep : ∀ (x : Opening κ) (acts : List α) (a : α), let s := acts.foldl (act x.cfg) (start x)
      front s <+: front (act x.cfg s a) ∧ back s <+: back (act x.cfg s a)) :
    (sessions start act front back).Appends (Runs start act) where
  start x := ⟨⟨x, [], rfl⟩, hstart x⟩
  step := by
    rintro _ a ⟨x, acts, rfl⟩
    exact ⟨⟨x, acts ++ [a], Prod.ext rfl (List.foldl_concat ..).symm⟩, hstep x acts a⟩

end Sessions

section MySQL
open MySQLShadowWorker MySQLMirrorSession MySQLMirrorAccounts

def mysqlStart (x : Opening MySQLMirrorSession.Config) : Session :=
  .start x.client x.primary x.shadow (some [])

def mysqlSource : Source (Opening MySQLMirrorSession.Config) (MySQLMirrorSession.Config × Session)
    MySQLMirrorSession.Action QueryLogEntry :=
  sessions mysqlStart Session.act (fun s => s.back.logger.entries)
    (fun s => s.back.service.worker.state.logger.entries)

variable {cfg : MySQLMirrorSession.Config} {s s' : Session}

lemma mysql_moves_extends (h : Moves cfg s s') : s.back.logger.entries <+: s'.back.logger.entries := by
  cases h with
  | @mirrored f req =>
    obtain ⟨-, hb⟩ | ⟨-, -, -, reason, hb⟩ | ⟨-, -, hb⟩ := mirror_cases cfg s.back
      s.front.primary.sent.length req
    · rw [hb]
    · rw [hb]
      exact entries_prefix_log _ _
    · rw [hb]
      exact List.prefix_rfl
  | unwritten | answered | quit | broken => exact entries_prefix_log _ _
  | _ => exact List.prefix_rfl

lemma mysqlSource_appends : mysqlSource.Appends (Runs mysqlStart Session.act) := by
  refine sessions_appends (fun _ => ⟨rfl, rfl⟩) fun x acts act => ?_
  have hb := exec_booked x.cfg x.client x.primary x.shadow (some []) acts
  have hmoves := (conn_moves x.cfg hb.tracked).1
  rw [← mysqlStart, Session.exec] at hmoves
  generalize acts.foldl (Session.act x.cfg) (mysqlStart x) = s at hmoves ⊢
  cases act with
  | conn =>
    refine ⟨mysql_moves_extends hmoves, ?_⟩
    rw [Session.act, (MySQLServer.moves_tended hmoves).state]
  | timeout =>
    refine ⟨List.prefix_rfl, ?_⟩
    dsimp only [Session.act, WorkQueue.Service.timeout]
    split_ifs <;> exact List.prefix_rfl
  | worker pick =>
    refine ⟨List.prefix_rfl, ?_⟩
    dsimp only [Session.act, WorkQueue.Service.step]
    obtain hsame | ⟨req, hstate⟩ := (s.back.service.worker.step_steps processRequest pick).state
    · rw [hsame]
    · obtain ⟨bytesSent, bytesRecv, err, hlog⟩ := processRequest_logged req s.back.service.worker.state
      rw [hstate, hlog]
      exact entries_prefix_log _ _

/-- However many connections there are and in whatever order they and the logger take their steps: when
the logger has stopped, a command of a connection that has ended has one row for the primary, and one for
the shadow if it was filtered out or queued for the shadow. -/
theorem mysql_rows_for_commands (logCfg : LogFlush.Config) (texts : Texts) (pre : Bytes)
    (events : List (Event (Opening MySQLMirrorSession.Config) MySQLMirrorSession.Action (Own × Draw)
      (Stamp × Draw))) :
    let p := System.run mysqlSource events
    Complete logCfg texts pre p.inputs → ∀ i cfg s, p.members[i]? = some (cfg, s) →
      s.back.service.phase = .closed → s.back.service.worker.force = false → ∀ x ∈ s.back.ledger,
        rowsOf logCfg texts pre p.inputs .primary i x.1.id = 1 ∧
          rowsOf logCfg texts pre p.inputs .shadow i x.1.id =
            (heldBack x).isSome.toNat + (decide (x.2 = .offered .queued)).toNat := by
  intro p hcomplete i cfg s hs hclosed hforce x hx
  have hrows := rowsOf_member mysqlSource_appends events hs hcomplete
  obtain ⟨y, acts, heq⟩ := (run_feeds mysqlSource_appends events).inv _ (List.mem_of_getElem? hs)
  obtain ⟨rfl, rfl⟩ := Prod.mk.inj heq
  rw [hrows, hrows]
  exact entriesFor_ledger hclosed hforce x hx

section Sample
open MySQLMirrorServe MySQLMirrorDelivery

def mysqlSample : Opening MySQLMirrorSession.Config where
  cfg := ⟨none, fun _ => false, 10⟩
  client := scriptClient (sampleScript.map Prod.fst ++ [quitPacket])
  primary := scriptServer okReply
  shadow := scriptServer okReply

def mysqlSampleEnd : Session := (mysqlStart mysqlSample).exec mysqlSample.cfg (sampleScript.whole sampleClose)

lemma mysqlSampleEnd_back :
    mysqlSampleEnd.back = sampleScript.outcome mysqlSample.cfg mysqlSample.shadow (some []) sampleClose :=
  (Script.exec_whole _ (script_servable sampleScript (by decide)) _ _ sampleClose).2

lemma mysqlSampleEnd_written : (mysqlSource.written (mysqlSample.cfg, mysqlSampleEnd)).length = 5 := by
  have hb : Booked mysqlSample.primary (.start mysqlSample.shadow (some [])) mysqlSampleEnd :=
    exec_booked _ _ _ _ _ _
  have hworker := congrArg List.length (after_logged mysqlSample.shadow mysqlSampleEnd.processed).2
  rw [← hb.state, List.length_map, List.length_map, Session.processed, mysqlSampleEnd_back] at hworker
  have hfront : mysqlSampleEnd.back.logger.entries.length = 3 := by
    rw [mysqlSampleEnd_back]
    rfl
  rw [Source.written, List.length_append]
  dsimp only [mysqlSource, sessions]
  rw [hfront, mysqlSampleEnd_back, hworker]
  rfl

/-- The session of `sampleScript`, and then the end of the logger. -/
def mysqlSampleEvents : List (Event (Opening MySQLMirrorSession.Config) MySQLMirrorSession.Action (Own × Draw)
    (Stamp × Draw)) :=
  .join mysqlSample :: (sampleScript.whole sampleClose).map (Event.step 0 · sampleTime) ++
    (sampleStop sampleTime.2).map .other

/-- The first of the two queries has come to the shadow. -/
theorem mysql_rows_for_commands_sampleScript :
    let inputs := (System.run mysqlSource mysqlSampleEvents).inputs
    rowsOf ⟨8, 8⟩ sampleTexts [] inputs .primary 0 0 = 1 ∧
      rowsOf ⟨8, 8⟩ sampleTexts [] inputs .shadow 0 0 = 1 := by
  obtain ⟨es, hperm, hrun⟩ := run_alone mysqlSource_appends mysqlSample (sampleScript.whole sampleClose)
    sampleTime (sampleStop sampleTime.2)
  rw [mysqlSource, foldl_sessions, ← mysqlSource] at hperm hrun
  have hcomplete : Complete ⟨8, 8⟩ sampleTexts [] (System.run mysqlSource mysqlSampleEvents).inputs := by
    rw [mysqlSampleEvents, hrun]
    exact sampleInputs_complete (hperm.length_eq.trans mysqlSampleEnd_written) rfl
  have hmem : (System.run mysqlSource mysqlSampleEvents).members[0]? =
      some (mysqlSample.cfg, mysqlSampleEnd) := by
    rw [mysqlSampleEvents, hrun]
    rfl
  have hx : (newQueryRequest 0 (query 65).bytes, .offered .queued) ∈ mysqlSampleEnd.back.ledger := by
    rw [mysqlSampleEnd_back]
    decide +kernel
  have hclosed : mysqlSampleEnd.back.service.phase = .closed := by rw [mysqlSampleEnd_back]; rfl
  have hforce : mysqlSampleEnd.back.service.worker.force = false := by rw [mysqlSampleEnd_back]; rfl
  have hrows := mysql_rows_for_commands ⟨8, 8⟩ sampleTexts [] mysqlSampleEvents
  generalize System.run mysqlSource mysqlSampleEvents = p at hrows hcomplete hmem ⊢
  exact hrows hcomplete 0 mysqlSample.cfg mysqlSampleEnd hmem hclosed hforce _ hx

end Sample

end MySQL

section Pg
open PgProtocol PgShadowWorker PgMirrorSession PgMirrorAccounts

def pgStart (x : Opening PgMirrorSession.Config) : Session := .start x.client x.primary x.shadow (some [])

def pgSource : Source (Opening PgMirrorSession.Config) (PgMirrorSession.Config × Session)
    PgMirrorSession.Action QueryLogEntry :=
  sessions pgStart Session.act (fun s => s.back.logger.entries)
    (fun s => s.back.mirror.service.worker.state.logger.entries)

variable {cfg : PgMirrorSession.Config} {s s' : Session}

lemma pg_moves_extends (h : Moves cfg s s') : s.back.logger.entries <+: s'.back.logger.entries := by
  cases h with
  | @mirrored f req msg =>
    obtain ⟨-, hb⟩ | ⟨-, -, reason, sticky, hb⟩ | ⟨-, sticky, hb⟩ := mirrorMessage_cases cfg s.back req msg
    · rw [hb]
      exact List.prefix_rfl
    · rw [hb]
      exact entries_prefix_log _ _
    · rw [hb]
      exact List.prefix_rfl
  | unwritten | answered | terminated | broken => exact entries_prefix_log _ _
  | _ => exact List.prefix_rfl

lemma processFrame_prefix (frame : QueuedFrame) (w : PgShadow) :
    w.logger.entries <+: (processFrame frame w).logger.entries := by
  cases hd : w.dead with
  | true =>
    rw [processFrame_dead hd]
  | false =>
    obtain ⟨-, -, bytesSent, bytesRecv, err, -, hlog⟩ := processFrame_live frame hd
    rw [hlog]
    exact entries_prefix_log _ _

lemma pgSource_appends : pgSource.Appends (Runs pgStart Session.act) := by
  refine sessions_appends (fun _ => ⟨rfl, rfl⟩) fun x acts act => ?_
  generalize acts.foldl (Session.act x.cfg) (pgStart x) = s
  cases act with
  | conn =>
    have hmoves := conn_moves x.cfg s
    refine ⟨pg_moves_extends hmoves, ?_⟩
    rw [Session.act, (PgServer.moves_tended hmoves).state]
  | copy dir n => exact ⟨List.prefix_rfl, List.prefix_rfl⟩
  | timeout =>
    refine ⟨List.prefix_rfl, ?_⟩
    dsimp only [Session.act, Mirror.timeout, WorkQueue.Service.timeout]
    split_ifs <;> exact List.prefix_rfl
  | worker pick =>
    refine ⟨List.prefix_rfl, ?_⟩
    dsimp only [Session.act, Mirror.step, WorkQueue.Service.step]
    obtain hsame | ⟨frame, hstate⟩ := (s.back.mirror.service.worker.step_steps processFrame pick).state
    · rw [hsame]
    · rw [hstate]
      exact processFrame_prefix frame _

/-- The message was given to `Send` and has come to the queue. -/
def wasQueued (s : Session) (x : PgMirrorSession.Entry) : Bool :=
  x.route = .sent ∧ (shadowFrame x.req x.msg, Offer.offered .queued) ∈ s.back.mirror.ledger

lemma queued_eq_filter {calls : List (QueuedFrame × Offer)} (h : (calls.map Prod.fst).Nodup) :
    queued calls = (calls.map Prod.fst).filter fun frame => (frame, Offer.offered .queued) ∈ calls := by
  rw [List.filter_map, queued]
  refine congrArg _ (List.filter_congr fun x hx => ?_)
  have hmem : (x.1, Offer.offered .queued) ∈ calls ↔ x.2 = .offered .queued := by
    constructor
    · intro hy
      exact (Prod.mk.inj (List.inj_on_of_nodup_map h hx hy rfl)).2
    · intro hq
      rwa [← hq]
  simp [hmem]

section Ended
variable {w₀ : PgShadow} (hb : Booked cfg w₀ s) (hdone : s.front.point = .done)
include hb hdone

lemma ledger_nodup : (s.back.ledger.map fun x => x.req.id).Nodup := by
  have hnum := hb.numbered
  rw [Session.requests, hdone] at hnum
  simp only [Point.unsettled, List.append_nil, List.map_map] at hnum
  exact (show s.back.ledger.map (fun x => x.req.id) = _ from hnum) ▸ List.nodup_range

lemma queued_ledger :
    queued s.back.mirror.ledger =
      (s.back.ledger.filter (wasQueued s)).map fun x => shadowFrame x.req x.msg := by
  have hcalls : s.back.mirror.ledger.map Prod.fst = sentFrames s.back.ledger := by
    rw [hb.calls, hb.not_sending (by simp [hdone]), Option.toList_none, List.append_nil]
  have hnodup : (sentFrames s.back.ledger).Nodup := by
    refine List.Nodup.of_map (fun frame => frame.req.id) ?_
    rw [sentFrames, List.map_map]
    exact (ledger_nodup hb hdone).sublist ((List.filter_sublist).map _)
  rw [queued_eq_filter (hcalls ▸ hnodup), hcalls, sentFrames, List.filter_map, List.filter_filter]
  refine congrArg _ (List.filter_congr fun x _ => ?_)
  simp [wasQueued, Bool.and_comm]

end Ended

/-- The same for PostgreSQL, as long as the worker has not lost the shadow. -/
theorem pg_rows_for_messages (logCfg : LogFlush.Config) (texts : Texts) (pre : Bytes)
    (events : List (Event (Opening PgMirrorSession.Config) PgMirrorSession.Action (Own × Draw)
      (Stamp × Draw))) :
    let p := System.run pgSource events
    Complete logCfg texts pre p.inputs → ∀ i cfg s, p.members[i]? = some (cfg, s) →
      s.back.mirror.service.phase = .closed → s.back.mirror.service.worker.force = false →
      s.back.mirror.dead = false → ∀ x ∈ s.back.ledger,
        rowsOf logCfg texts pre p.inputs .primary i x.req.id = 1 ∧
          rowsOf logCfg texts pre p.inputs .shadow i x.req.id =
            (heldBack x).isSome.toNat + (wasQueued s x).toNat := by
  intro p hcomplete i cfg s hs hclosed hforce hlive x hx
  have hrows := rowsOf_member pgSource_appends events hs hcomplete
  obtain ⟨y, acts, heq⟩ := (run_feeds pgSource_appends events).inv _ (List.mem_of_getElem? hs)
  obtain ⟨rfl, rfl⟩ := Prod.mk.inj heq
  have hb := exec_booked y.cfg y.client y.primary y.shadow (some []) acts
  have hl := exec_logged y.cfg y.client y.primary y.shadow acts
  rw [hrows, hrows]
  rw [← pgStart, Session.exec] at hb hl
  generalize acts.foldl (Session.act y.cfg) (pgStart y) = s at hb hl hclosed hforce hlive hx ⊢
  have hdone : s.front.point = .done := by
    by_contra hp
    simpa [hclosed] using hb.serving.mpr hp
  have hworker : s.back.mirror.service.worker.state.logger.entries.map QueryLogEntry.key =
      (s.back.ledger.filter (wasQueued s)).map fun x => (.shadow, x.req.id) := by
    have hfinished : s.back.mirror.service.worker.finished = queued s.back.mirror.ledger := by
      rw [hb.mirror.queue.all_finished hclosed hforce, hb.mirror.accepted]
    rw [Mirror.dead, hb.mirror.state] at hlive
    have hburied := buried_live _ _ hlive
    rw [hb.mirror.state, (after_logged y.shadow _ hburied).2, hfinished, queued_ledger hb hdone, List.map_map]
    rfl
  rw [Logged, hdone, unlogged] at hl
  exact hl.entriesFor (ledger_nodup hb hdone) (wasQueued s) hworker hx

def terminateMessage : PgPacket := frame pgMsgTerminate []

def pgSample : Opening PgMirrorSession.Config where
  cfg := ⟨none, true, 8⟩
  client := sampleClient [syncMessage, syncMessage, terminateMessage]
  primary := sampleServer
  shadow := sampleServer

/-- The loop, the worker with the two Syncs, and `Close`. -/
def pgSampleActs : List PgMirrorSession.Action :=
  List.replicate 15 .conn ++ [.worker .queue, .worker .idle, .worker .idle, .worker .queue, .worker .idle,
    .worker .idle, .conn, .worker .drain, .worker .idle, .conn, .conn]

def pgSampleEnd : Session := (pgStart pgSample).exec pgSample.cfg pgSampleActs

def pgSampleEvents : List (Event (Opening PgMirrorSession.Config) PgMirrorSession.Action (Own × Draw)
    (Stamp × Draw)) :=
  .join pgSample :: pgSampleActs.map (Event.step 0 · sampleTime) ++ (sampleStop sampleTime.2).map .other

/-- The first Sync has come to the shadow, the Terminate has not. -/
theorem pg_rows_for_messages_sampleSyncs :
    let inputs := (System.run pgSource pgSampleEvents).inputs
    (rowsOf ⟨8, 8⟩ sampleTexts [] inputs .primary 0 0 = 1 ∧
      rowsOf ⟨8, 8⟩ sampleTexts [] inputs .shadow 0 0 = 1) ∧
    rowsOf ⟨8, 8⟩ sampleTexts [] inputs .primary 0 2 = 1 ∧
      rowsOf ⟨8, 8⟩ sampleTexts [] inputs .shadow 0 2 = 0 := by
  obtain ⟨es, hperm, hrun⟩ := run_alone pgSource_appends pgSample pgSampleActs sampleTime
    (sampleStop sampleTime.2)
  rw [pgSource, foldl_sessions, ← pgSource] at hperm hrun
  have hwritten : (pgSource.written (pgSample.cfg, pgSampleEnd)).length = 5 := by decide +kernel
  have hcomplete : Complete ⟨8, 8⟩ sampleTexts [] (System.run pgSource pgSampleEvents).inputs := by
    rw [pgSampleEvents, hrun]
    exact sampleInputs_complete (hperm.length_eq.trans hwritten) rfl
  have hmem : (System.run pgSource pgSampleEvents).members[0]? = some (pgSample.cfg, pgSampleEnd) := by
    rw [pgSampleEvents, hrun]
    rfl
  have hclosed : pgSampleEnd.back.mirror.service.phase = .closed := by decide +kernel
  have hforce : pgSampleEnd.back.mirror.service.worker.force = false := by decide +kernel
  have hlive : pgSampleEnd.back.mirror.dead = false := by decide +kernel
  have hledger : pgSampleEnd.back.ledger = [⟨newPgRequest 0 syncMessage, syncMessage, .sent⟩,
      ⟨newPgRequest 1 syncMessage, syncMessage, .sent⟩,
      ⟨newPgRequest 2 terminateMessage, terminateMessage, .withheld⟩] := by decide +kernel
  have hrows := pg_rows_for_messages ⟨8, 8⟩ sampleTexts [] pgSampleEvents
  generalize System.run pgSource pgSampleEvents = p at hrows hcomplete hmem ⊢
  replace hrows := hrows hcomplete 0 pgSample.cfg pgSampleEnd hmem hclosed hforce hlive
  have hqueued : (pgSampleEnd.back.ledger.map (wasQueued pgSampleEnd)) = [true, true, false] := by
    decide +kernel
  rw [hledger] at hrows hqueued
  obtain ⟨hsync, -, hterminate⟩ : wasQueued pgSampleEnd _ = true ∧ _ ∧ wasQueued pgSampleEnd _ = false := by
    simpa using hqueued
  have hfirst := hrows _ (.head _)
  have hlast := hrows _ (.tail _ (.tail _ (.head _)))
  rw [hsync] at hfirst
  rw [hterminate] at hlast
  exact ⟨hfirst, hlast⟩

end Pg

end ShadowProxy.LogPipeline
