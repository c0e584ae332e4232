import ShadowProxy.MySQLMirrorAccounts
import ShadowProxy.PgMirrorSession

/-! What the query log of a mirrored PostgreSQL session says about its messages. -/
namespace ShadowProxy.PgMirrorAccounts
open WordBytes EventHistory NetConn StreamCopy PgProtocol ShadowFilter PgMirror PgQueryLoop QueryLog
  WorkQueue PgShadowWorker PgMirrorSession
open MySQLPacket (getMySQLCommand comQuit comPing)
open MySQLMirrorAccounts (pingRun pingRun_back)

def heldBack (x : Entry) : Option QueryLogEntry :=
  match x.route with
  | .filtered filterReason => some (filteredEntry x.req filterReason)
  | .unsent | .withheld | .sent => none

/-- What the connection has still to log for the last message. -/
def unlogged : Point → List (Target × ℕ)
  | .sending req _ | .replying req _ => [(.primary, req.id)]
  | .reading | .writing _ _ | .mirroring _ _ | .copying | .hangup | .done => []

/-- The log of the connection is that of the ledger. -/
abbrev Logged (s : Session) : Prop :=
  Accounts (fun x : Entry => x.req.id) heldBack s.back.ledger (unlogged s.front.point) s.back.logger

section Logged
variable {cfg : Config} {s s' : Session}

lemma mirrored_logged (h : Logged s) {f : Front} {req : QueryRequest} {msg : PgPacket}
    (hp : s.front.point = .mirroring req msg) (hp' : f.point = .sending req msg) :
    Logged ⟨f, s.back.mirrorMessage cfg req msg⟩ := by
  simp only [Logged, hp, hp', unlogged] at h ⊢
  rcases mirrorMessage_cases cfg s.back req msg with
    ⟨-, hm⟩ | ⟨-, -, filterReason, sticky, hm⟩ | ⟨-, sticky, hm⟩ <;> rw [hm]
  · exact h.enter (x := ⟨req, msg, .withheld⟩) rfl
  · exact h.enter_filtered (x := ⟨req, msg, .filtered filterReason⟩) rfl rfl
  · exact h.enter (x := ⟨req, msg, .sent⟩) rfl

lemma moves_logged (h : Logged s) (hm : Moves cfg s s') : Logged s' := by
  cases hm with
  | mirrored hp hp' => exact mirrored_logged h hp hp'
  | @unwritten f req msg e hp hw hp' =>
    simp only [Logged, hp, hp', unlogged] at h ⊢
    exact (h.enter (x := ⟨req, msg, .unsent⟩) rfl).pay
  | answered hp hp' =>
    rcases hp' with hp' | hp' <;>
    · simp only [Logged, hp, hp', unlogged] at h ⊢
      exact h.pay
  | terminated hp hp' =>
    simp only [Logged, hp, hp', unlogged] at h ⊢
    exact h.pay
  | broken hp hp' =>
    simp only [Logged, hp, hp', unlogged] at h ⊢
    exact h.pay
  | waiting => exact h
  | closing => exact h
  | gone hp hp' | received hp hp' | written hp hp' | enqueued hp hp' | hangup hp hp' | hungup hp hp' =>
    simp only [Logged, hp, hp', unlogged] at h ⊢
    exact h

theorem exec_logged (cfg : Config) (client primary shadow : Conn) (acts : List Action) :
    Logged ((Session.start client primary shadow (some [])).exec cfg acts) := by
  induction acts using List.reverseRecOn with
  | nil => exact ⟨rfl, rfl, by simp [Session.start]⟩
  | append_singleton acts act ih =>
    rw [exec_concat]
    cases act with
    | conn => exact moves_logged ih (conn_moves cfg _)
    | copy dir n => simpa [Logged, Session.act] using ih
    | timeout => exact ih
    | worker pick => exact ih

end Logged

lemma after_logged (conn : Conn) (frames : List QueuedFrame)
    (h : buried (.start conn (some [])) frames = []) :
    ((PgShadow.start conn (some [])).after frames).logger.isSome ∧
      ((PgShadow.start conn (some [])).after frames).logger.entries.map QueryLogEntry.key =
        frames.map fun frame => (.shadow, frame.req.id) := by
  induction frames using List.reverseRecOn with
  | nil => exact ⟨rfl, rfl⟩
  | append_singleton frames frame ih =>
    rw [buried_concat, List.append_eq_nil_iff] at h
    have hlive : ((PgShadow.start conn (some [])).after frames).dead = false := by
      by_contra hd
      simp [hd] at h
    obtain ⟨hon, hkeys⟩ := ih h.1
    obtain ⟨-, -, bytesSent, bytesRecv, err, -, hlog⟩ := processFrame_live frame hlive
    obtain ⟨hsome, hentries⟩ := log_isSome hon
      (executionEntry .shadow frame.req bytesSent bytesRecv err)
    rw [after_concat, hlog]
    refine ⟨hsome, ?_⟩
    rw [hentries, List.map_append, hkeys]
    simp [QueryLogEntry.key, executionEntry]

section Conditions
variable (cfg : Config) (s : Session)

def Accepts (acts : List Action) : Prop :=
  EachStep (fun before act => act = .conn → ∀ req msg, (s.exec cfg before).front.point = .writing req msg →
    (s.exec cfg before).front.primary.writable ≠ some 0) acts

/-- Whenever a frame comes to the queue, there is room for it. -/
def RoomFor (acts : List Action) : Prop :=
  EachStep (fun before act => act = .conn → (s.exec cfg before).back.mirror.sending ≠ none →
    (s.exec cfg before).back.mirror.service.Room cfg.shadowQueueSize) acts

/-- Once the worker is dead, no message is given to `Send` and no frame is taken up. -/
def Lives (acts : List Action) : Prop :=
  EachStep (fun before act => (s.exec cfg before).back.mirror.dead = true →
    (act = .conn → ∀ req msg, (s.exec cfg before).front.point = .mirroring req msg →
      ¬ (s.exec cfg before).back.Mirrors cfg msg) ∧
    ∀ pick, act = .worker pick → ∀ mode frame,
      (s.exec cfg before).back.mirror.service.worker.stage ≠ .working mode frame) acts

/-- No reply hands the connection over to `copyFallback`. -/
def NoCopy (acts : List Action) : Prop :=
  EachStep (fun before _ => (s.exec cfg before).front.point ≠ .copying) acts

end Conditions

section Runs
variable {cfg : Config} {client primary shadow : Conn} {logger : QueryLogger} {acts : List Action}

lemma exists_conn_rise (flag : Session → Prop) (hinit : ¬ flag (.start client primary shadow logger))
    (hother : ∀ s act, act ≠ .conn → flag (s.act cfg act) → flag s)
    (hflag : flag ((Session.start client primary shadow logger).exec cfg acts)) :
    ∃ before after, acts = before ++ .conn :: after ∧
      ¬ flag ((Session.start client primary shadow logger).exec cfg before) ∧
      flag (((Session.start client primary shadow logger).exec cfg before).conn cfg) := by
  obtain ⟨before, act, after, rfl, hnew, hrise⟩ := exists_rise flag hinit hflag
  by_cases hact : act = .conn
  · subst hact
    exact ⟨before, after, rfl, hnew, hrise⟩
  · exact absurd (hother _ act hact hrise) hnew

lemma Moves.ledger {s s' : Session} (hm : Moves cfg s s') {x : Entry} (hx : x ∈ s'.back.ledger) :
    x ∈ s.back.ledger ∨
      (s.front.point = .writing x.req x.msg ∧ s.front.primary.writable = some 0) ∨
      x.route ≠ .unsent := by
  cases hm with
  | unwritten hp hw =>
    rcases List.mem_append.mp hx with hx | hx
    · exact .inl hx
    · rw [List.mem_singleton.mp hx]
      exact .inr (.inl ⟨hp, write_refused hw⟩)
  | @mirrored f req msg hp hp' hidle =>
    rcases mirrorMessage_cases cfg s.back req msg with
      ⟨-, hm⟩ | ⟨-, -, filterReason, sticky, hm⟩ | ⟨-, sticky, hm⟩ <;> rw [hm] at hx <;>
      rcases List.mem_append.mp hx with hx | hx
    · exact .inl hx
    · rw [List.mem_singleton.mp hx]
      exact .inr (.inr (by simp))
    · exact .inl hx
    · rw [List.mem_singleton.mp hx]
      exact .inr (.inr (by simp))
    · exact .inl hx
    · rw [List.mem_singleton.mp hx]
      exact .inr (.inr (by simp))
  | _ => exact .inl hx

lemma Accepts.not_unsent (h : Accepts cfg (.start client primary shadow logger) acts) :
    ∀ x ∈ ((Session.start client primary shadow logger).exec cfg acts).back.ledger,
      x.route ≠ .unsent := by
  intro x hx
  obtain ⟨before, after, rfl, hnew, hx⟩ := exists_conn_rise (fun s => x ∈ s.back.ledger)
    (by simp [Session.start]) (fun s act hact hx => by cases act <;> first | contradiction | exact hx) hx
  rcases Moves.ledger (conn_moves cfg _) hx with hx | ⟨hp, hclosed⟩ | hroute
  · exact absurd hx hnew
  · exact absurd hclosed (h before .conn after rfl rfl _ _ hp)
  · exact hroute

lemma Moves.calls {s s' : Session} (hm : Moves cfg s s') {x : QueuedFrame × Offer}
    (hx : x ∈ s'.back.mirror.ledger) :
    x ∈ s.back.mirror.ledger ∨
      (x.2 = .refused ∧ s.back.mirror.dead = true ∧
        ∃ req msg, s.front.point = .mirroring req msg ∧ s.back.Mirrors cfg msg) ∨
      (s.back.mirror.sending ≠ none ∧
        x.2 = .offered (s.back.mirror.service.send cfg.shadowQueueSize x.1).1) := by
  cases hm with
  | @mirrored f req msg hp hp' hidle =>
    rcases mirrorMessage_cases cfg s.back req msg with
      ⟨-, hm⟩ | ⟨-, -, filterReason, sticky, hm⟩ | ⟨hmirrors, sticky, hm⟩ <;> rw [hm] at hx
    · exact .inl hx
    · exact .inl hx
    · rcases Mirror.mem_offer hx with hx | ⟨-, hdead, rfl⟩
      · exact .inl hx
      · exact .inr (.inl ⟨rfl, hdead, req, msg, hp, hmirrors⟩)
  | enqueued hp hp' hidle =>
    rcases Mirror.mem_enqueue hx with hx | ⟨hsending, hx⟩
    · exact .inl hx
    · exact .inr (.inr ⟨by simp [hsending], hx⟩)
  | _ =>
    exact .inl (by simpa [Back.leave, Back.close, Mirror.close, Back.count, Back.written,
      Back.writeFailed, Back.answered, Back.replyFailed] using hx)

lemma all_queued (hlive : Lives cfg (.start client primary shadow logger) acts)
    (hroom : RoomFor cfg (.start client primary shadow logger) acts) :
    ∀ x ∈ ((Session.start client primary shadow logger).exec cfg acts).back.mirror.ledger,
      x.2 = .offered .queued := by
  intro x hx
  obtain ⟨before, after, rfl, hnew, hx⟩ := exists_conn_rise (fun s => x ∈ s.back.mirror.ledger)
    (by simp [Session.start, Mirror.start])
    (fun s act hact hx => by cases act <;> first | contradiction | exact hx) hx
  rcases Moves.calls (conn_moves cfg _) hx with
    hx | ⟨-, hdead, req, msg, hp, hmirrors⟩ | ⟨hsending, hx⟩
  · exact absurd hx hnew
  · exact absurd hmirrors ((hlive before .conn after rfl hdead).1 rfl req msg hp)
  · rw [hx, Service.send_queued_iff.mpr (hroom before .conn after rfl rfl hsending)]

lemma conn_finished (cfg : Config) (s : Session) :
    (s.conn cfg).back.mirror.service.worker.finished = s.back.mirror.service.worker.finished := by
  generalize hs' : s.conn cfg = s'
  have hm := conn_moves cfg s
  rw [hs'] at hm
  cases hm with
  | @mirrored f req msg hp hp' hidle =>
    rcases mirrorMessage_cases cfg s.back req msg with
      ⟨-, hm⟩ | ⟨-, -, filterReason, sticky, hm⟩ | ⟨-, sticky, hm⟩ <;> rw [hm]
    · rfl
    · rfl
    · simp [Back.offer]
  | _ =>
    simp [Back.leave, Back.close, Mirror.close, Back.enqueue, Back.count, Back.written,
      Back.writeFailed, Back.answered, Back.replyFailed]

lemma none_buried (hlive : Lives cfg (.start client primary shadow logger) acts) :
    buried (.start shadow logger) ((Session.start client primary shadow logger).exec cfg
      acts).back.mirror.service.worker.finished = [] := by
  induction acts using List.reverseRecOn with
  | nil => rfl
  | append_singleton acts act ih =>
    obtain ⟨hbefore, hnow⟩ := (eachStep_concat _ _).mp hlive
    have hb := exec_booked cfg client primary shadow logger acts
    rw [exec_concat]
    cases act with
    | conn => exact (congrArg _ (conn_finished cfg _)).trans (ih hbefore)
    | copy dir n => exact ih hbefore
    | timeout => exact (congrArg _ (Service.timeout_finished _)).trans (ih hbefore)
    | worker pick =>
      rcases Service.step_finished processFrame pick
        ((Session.start client primary shadow logger).exec cfg acts).back.mirror.service with hf | ⟨mode, frame, hstage, hf⟩
      · exact (congrArg _ hf).trans (ih hbefore)
      · have hdead : ((Session.start client primary shadow logger).exec cfg
            acts).back.mirror.dead = false := by
          by_contra hd
          exact (hnow (by simpa using hd)).2 pick rfl mode frame hstage
        refine (congrArg _ hf).trans ?_
        rw [buried_concat, ih hbefore, ← hb.mirror.state, List.nil_append,
          if_neg (by simpa [Mirror.dead] using hdead)]

def forwarded (s : Session) : List PgPacket :=
  (s.back.ledger.filter fun x => x.route ≠ .unsent).map Entry.msg ++
    match s.front.point with
    | .mirroring _ msg => [msg]
    | _ => []

/-- The bytes went to the primary as messages, and nothing is copied. -/
structure Direct (primary : Conn) (s : Session) : Prop where
  ended : s.front.Ended
  notHangup : s.front.point ≠ .hangup
  written : s.front.primary.sent = primary.sent ++ (forwarded s).map PgPacket.bytes

lemma mirrorMessage_forwarded (f : Front) (b : Back) (req : QueryRequest) (msg : PgPacket)
    (hp : f.point = .sending req msg) :
    forwarded ⟨f, b.mirrorMessage cfg req msg⟩ =
      (b.ledger.filter fun x => x.route ≠ .unsent).map Entry.msg ++ [msg] := by
  rcases mirrorMessage_cases cfg b req msg with
    ⟨-, hm⟩ | ⟨-, -, filterReason, sticky, hm⟩ | ⟨-, sticky, hm⟩ <;>
    rw [hm] <;> simp [forwarded, hp, Back.withhold, Back.filterOut, Back.offer]

lemma Direct.moves {s s' : Session} (h : Direct primary s) (hm : Moves cfg s s')
    (hcopy : s.front.point ≠ .copying) :
    s'.front.point ≠ .hangup ∧
      s'.front.primary.sent = primary.sent ++ (forwarded s').map PgPacket.bytes := by
  have hw := h.written
  cases hm with
  | gone hp hp' hidle =>
    refine ⟨by simp [hp'], ?_⟩
    rw [hidle.sent, hw]
    simp [forwarded, hp, hp', Back.leave]
  | received hp hp' hprimary =>
    refine ⟨by simp [hp'], ?_⟩
    rw [hprimary, hw]
    simp [forwarded, hp, hp', Back.count]
  | unwritten hp _ hp' hidle =>
    refine ⟨by simp [hp'], ?_⟩
    rw [hidle.sent, hw]
    simp [forwarded, hp, hp', Back.writeFailed, Back.leave]
  | written hp hp' hwrite =>
    refine ⟨by simp [hp'], ?_⟩
    rw [(write_ok hwrite).1, hw]
    simp [forwarded, hp, hp', Back.written]
  | @mirrored f req msg hp hp' hidle =>
    refine ⟨by simp [hp'], ?_⟩
    rw [hidle.sent, hw, mirrorMessage_forwarded f s.back req msg hp']
    simp [forwarded, hp]
  | enqueued hp hp' hidle =>
    refine ⟨by simp [hp'], ?_⟩
    rw [hidle.sent, hw]
    simp [forwarded, hp, hp', Back.enqueue]
  | answered hp hp' hidle =>
    refine ⟨by rcases hp' with hp' | hp' <;> simp [hp'], ?_⟩
    rw [hidle.sent, hw]
    rcases hp' with hp' | hp' <;> simp [forwarded, hp, hp', Back.answered]
  | terminated hp hp' hidle =>
    refine ⟨by simp [hp'], ?_⟩
    rw [hidle.sent, hw]
    simp [forwarded, hp, hp', Back.answered, Back.leave]
  | broken hp hp' hidle =>
    refine ⟨by simp [hp'], ?_⟩
    rw [hidle.sent, hw]
    simp [forwarded, hp, hp', Back.replyFailed, Back.leave]
  | waiting hp => exact absurd hp hcopy
  | hangup hp => exact absurd hp hcopy
  | hungup hp => exact absurd hp h.notHangup
  | closing hp => exact ⟨h.notHangup, hw⟩

lemma NoCopy.direct (h : NoCopy cfg (.start client primary shadow logger) acts)
    (hnow : ((Session.start client primary shadow logger).exec cfg acts).front.point ≠ .copying) :
    Direct primary ((Session.start client primary shadow logger).exec cfg acts) := by
  induction acts using List.reverseRecOn with
  | nil => exact ⟨⟨rfl, rfl⟩, by simp [Session.start], by simp [Session.start, forwarded]⟩
  | append_singleton acts act ih =>
    obtain ⟨hbefore, hpoint⟩ := (eachStep_concat _ _).mp h
    have hd := ih hbefore hpoint
    rw [exec_concat] at hnow ⊢
    cases act with
    | conn =>
      obtain ⟨hhangup, hwritten⟩ := hd.moves (conn_moves cfg _) hpoint
      exact ⟨hd.ended.conn hnow, hhangup, hwritten⟩
    | copy dir n =>
      rw [Session.act, hd.ended.copy n dir]
      exact hd
    | timeout => exact ⟨hd.ended, hd.notHangup, hd.written⟩
    | worker pick => exact ⟨hd.ended, hd.notHangup, hd.written⟩

def queryLog (s : Session) : List QueryLogEntry :=
  s.back.logger.entries ++ s.back.mirror.service.worker.state.logger.entries

/-- Every message but a Terminate has one entry for the primary and one for the shadow; that of a
message that was filtered out says so. -/
def LoggedOnce (s : Session) : Prop :=
  (∀ x ∈ s.back.ledger, x.msg.msgType ≠ pgMsgTerminate →
    entriesFor .primary x.req.id (queryLog s) = 1 ∧ entriesFor .shadow x.req.id (queryLog s) = 1) ∧
  ∀ x ∈ s.back.ledger, ∀ filterReason, x.route = .filtered filterReason →
    filteredEntry x.req filterReason ∈ queryLog s

/-- In every run with a shadow in which the primary accepts every write, the queue has room for every
frame, the worker is not dead when it is needed and nothing is copied, the messages are logged one to
one. -/
theorem messages_logged_once (hshadow : cfg.hasShadow = true)
    (haccept : Accepts cfg (.start client primary shadow (some [])) acts)
    (hroom : RoomFor cfg (.start client primary shadow (some [])) acts)
    (hlive : Lives cfg (.start client primary shadow (some [])) acts)
    (hcopy : NoCopy cfg (.start client primary shadow (some [])) acts) :
    let s := (Session.start client primary shadow (some [])).exec cfg acts
    s.back.mirror.service.phase = .closed → s.back.mirror.service.worker.force = false →
      s.front.primary.sent = primary.sent ++ s.back.ledger.map (fun x => x.msg.bytes) ∧
        LoggedOnce s := by
  intro s hclosed hforce
  have hb : Booked cfg (.start shadow (some [])) s :=
    exec_booked cfg client primary shadow (some []) acts
  have hl : Logged s := exec_logged cfg client primary shadow acts
  have hdone : s.front.point = .done := by
    by_contra hp
    have := hb.serving.mpr hp
    simp [hclosed] at this
  have hunsent := haccept.not_unsent
  have hwritten : s.front.primary.sent =
      primary.sent ++ s.back.ledger.map (fun x => x.msg.bytes) := by
    have hd : Direct primary s := hcopy.direct fun hp => by
      exact absurd (hdone.symm.trans hp) (by simp)
    rw [hd.written, forwarded, hdone,
      List.filter_eq_self.mpr fun x hx => by simpa using hunsent x hx]
    simp
  refine ⟨hwritten, ?_, fun x hx filterReason hf =>
    List.mem_append_left _ (hl.holds x hx _ (by simp [heldBack, hf]))⟩
  rw [Logged, hdone, unlogged] at hl
  have hnodup : (s.back.ledger.map fun x => x.req.id).Nodup := by
    have hnum := hb.numbered
    rw [Session.requests, hdone] at hnum
    simp only [Point.unsettled, List.append_nil, List.map_map] at hnum
    exact (show s.back.ledger.map (fun x => x.req.id) = _ from hnum) ▸ List.nodup_range
  have hfinished : s.back.mirror.service.worker.finished = sentFrames s.back.ledger := by
    have hall : queued s.back.mirror.ledger = s.back.mirror.ledger.map Prod.fst := by
      rw [queued, List.filter_eq_self.mpr fun x hx => by simpa using all_queued hlive hroom x hx]
    rw [hb.mirror.queue.all_finished hclosed hforce, hb.mirror.accepted, hall, hb.calls,
      hb.not_sending (by simp [hdone]), Option.toList_none, List.append_nil]
  have hworker : s.back.mirror.service.worker.state.logger.entries.map QueryLogEntry.key =
      (s.back.ledger.filter fun x => decide (x.route = .sent)).map
        fun x => (.shadow, x.req.id) := by
    rw [hb.mirror.state, (after_logged shadow _ (none_buried hlive)).2, hfinished, sentFrames,
      List.map_map]
    rfl
  intro x hx hterm
  obtain ⟨hone, hcount⟩ := hl.entriesFor hnodup (fun x => decide (x.route = .sent)) hworker hx
  refine ⟨hone, hcount.trans ?_⟩
  cases hroute : x.route with
  | unsent => exact absurd hroute (hunsent x hx)
  | withheld =>
    rcases hb.withheld x hx hroute with hnone | hend
    · simp [hshadow] at hnone
    · exact absurd hend hterm
  | filtered filterReason => simp [heldBack, hroute]
  | sent => simp [heldBack, hroute]

end Runs

/-- The commands of both protocols are logged one to one, in every run in which the primary accepts
every write and the queue has room for everything that is to be mirrored; for PostgreSQL also only if
the worker is not dead when it is needed, and if the connection is not given to `copyFallback`. -/
theorem one_to_one_query_log (client primary shadow : Conn) :
    (∀ (cfg : MySQLMirrorSession.Config) (acts : List MySQLMirrorSession.Action),
      let start := MySQLMirrorSession.Session.start client primary shadow (some [])
      let s := start.exec cfg acts
      MySQLMirrorSession.Accepts cfg start acts →
      MySQLMirrorSession.RoomFor cfg
        (fun roll req => (getMySQLCommand req.packet).1 ≠ comQuit ∧ cfg.Allows roll req) start acts →
      s.back.service.phase = .closed → s.back.service.worker.force = false →
        s.front.primary.sent = primary.sent ++ s.requests.map QueryRequest.packet ∧
          MySQLMirrorAccounts.LoggedOnce s) ∧
    ∀ (cfg : Config) (acts : List Action),
      let start := Session.start client primary shadow (some [])
      let s := start.exec cfg acts
      cfg.hasShadow = true → Accepts cfg start acts → RoomFor cfg start acts →
      Lives cfg start acts → NoCopy cfg start acts →
      s.back.mirror.service.phase = .closed → s.back.mirror.service.worker.force = false →
        s.front.primary.sent = primary.sent ++ s.back.ledger.map (fun x => x.msg.bytes) ∧
          LoggedOnce s :=
  ⟨fun _ _ => MySQLMirrorAccounts.commands_logged_once, fun _ _ => messages_logged_once⟩

/-- A client that has sent the given messages and then closes the connection. -/
def sampleClient (msgs : List PgPacket) : Conn where
  pending := [⟨wire msgs, some .eof⟩]
  received := []
  sent := []
  respond := fun _ => []
  writable := none

/-- A server that answers everything it is sent with a ReadyForQuery. -/
def sampleServer : Conn where
  pending := []
  received := []
  sent := []
  respond := fun _ => [⟨readyForQuery.bytes, none⟩]
  writable := none

/-- Two Syncs before the worker takes the first, and the shutdown. -/
def syncActs : List Action :=
  List.replicate 10 .conn ++ [.worker .queue, .worker .idle, .worker .idle, .worker .queue,
    .worker .idle, .worker .idle, .conn, .conn, .worker .drain, .worker .idle, .conn, .conn]

def syncRun (queueSize : ℕ) (acts : List Action) : Session :=
  (Session.start (sampleClient [syncMessage, syncMessage]) sampleServer sampleServer (some [])).exec
    ⟨none, true, queueSize⟩ acts

/-- The primary accepts a write, the queue has room, the worker lives and nothing is copied. -/
def untroubled (queueSize : ℕ) (s : Session) : Bool :=
  s.front.primary.writable ≠ some 0 ∧
    (s.back.mirror.sending = none ∨ (s.back.mirror.service.worker.drain = false ∧
      s.back.mirror.service.worker.queue.length < queueSize)) ∧
    s.back.mirror.dead = false ∧ s.front.point ≠ .copying

lemma conditions_of_untroubled {cfg : Config} {s : Session} {acts : List Action}
    (h : ∀ k < acts.length, untroubled cfg.shadowQueueSize (s.exec cfg (acts.take k)) = true) :
    Accepts cfg s acts ∧ RoomFor cfg s acts ∧ Lives cfg s acts ∧ NoCopy cfg s acts := by
  simp only [untroubled, decide_eq_true_eq] at h
  refine ⟨eachStep_of_take ?_, eachStep_of_take ?_, eachStep_of_take ?_, eachStep_of_take ?_⟩
  · exact fun k hk _ _ _ _ _ => (h k hk).1
  · intro k hk _ _ hsending
    obtain ⟨hdrain, hlt⟩ := (h k hk).2.1.resolve_left hsending
    exact ⟨hdrain, .inr hlt⟩
  · intro k hk _ hdead
    exact absurd hdead (by simp [(h k hk).2.2.1])
  · exact fun k hk _ => (h k hk).2.2.2

theorem one_to_one_query_log_pingRun_syncRun :
    (pingRun 100 (some [])).back.ledger.length = 3 ∧
      MySQLMirrorAccounts.LoggedOnce (pingRun 100 (some [])) ∧
      (syncRun 8 syncActs).back.ledger.length = 2 ∧ LoggedOnce (syncRun 8 syncActs) := by
  have hclosed : (pingRun 100 (some [])).back.service.phase = .closed := by rw [pingRun_back]; rfl
  have hforce : (pingRun 100 (some [])).back.service.worker.force = false := by
    rw [pingRun_back]; rfl
  have hcalm : ∀ k < syncActs.length, untroubled 8 (syncRun 8 (syncActs.take k)) = true := by
    decide +kernel
  obtain ⟨haccept, hroom, hlive, hcopy⟩ := conditions_of_untroubled hcalm
  refine ⟨by rw [pingRun_back]; rfl, ?_, rfl, ?_⟩
  · unfold pingRun MySQLMirrorServe.Script.session at hclosed hforce ⊢
    exact ((one_to_one_query_log _ _ _).1 _ _ (MySQLMirrorSession.accepts_of_unlimited rfl)
      (MySQLMirrorSession.roomFor_of_capacity (by decide)) hclosed hforce).2
  · exact ((one_to_one_query_log (sampleClient [syncMessage, syncMessage]) sampleServer
      sampleServer).2 ⟨none, true, 8⟩ syncActs rfl haccept hroom hlive hcopy rfl rfl).2

/-- With room for one in the queue, the COM_PING and the second Sync are dropped: each is logged for
the primary and not for the shadow. -/
theorem dropped_commands_have_no_shadow_entry :
    ((pingRun 1 (some [])).back.service.phase = .closed ∧
      (pingRun 1 (some [])).back.service.worker.force = false ∧
      ∃ x ∈ (pingRun 1 (some [])).back.ledger, (getMySQLCommand x.1.packet).1 = comPing ∧
        entriesFor .primary x.1.id (MySQLMirrorAccounts.queryLog (pingRun 1 (some []))) = 1 ∧
        entriesFor .shadow x.1.id (MySQLMirrorAccounts.queryLog (pingRun 1 (some []))) = 0) ∧
    (syncRun 1 syncActs).back.mirror.service.phase = .closed ∧
      (syncRun 1 syncActs).back.mirror.service.worker.force = false ∧
      ∃ x ∈ (syncRun 1 syncActs).back.ledger, x.msg = syncMessage ∧
        entriesFor .primary x.req.id (queryLog (syncRun 1 syncActs)) = 1 ∧
        entriesFor .shadow x.req.id (queryLog (syncRun 1 syncActs)) = 0 := by
  have hclosed : (pingRun 1 (some [])).back.service.phase = .closed := by rw [pingRun_back]; rfl
  have hforce : (pingRun 1 (some [])).back.service.worker.force = false := by rw [pingRun_back]; rfl
  refine ⟨⟨hclosed, hforce, ?_⟩, rfl, rfl, ?_⟩
  · have hx : (MySQLShadowWorker.newQueryRequest 1 MySQLMirrorAccounts.ping.bytes,
        MySQLMirrorSession.Fate.offered .full) ∈ (pingRun 1 (some [])).back.ledger := by
      rw [pingRun_back]
      decide +kernel
    refine ⟨_, hx, by decide, ?_⟩
    unfold pingRun MySQLMirrorServe.Script.session at hclosed hforce hx ⊢
    obtain ⟨hprimary, hshadow⟩ := MySQLMirrorAccounts.entriesFor_ledger hclosed hforce _ hx
    exact ⟨hprimary, hshadow⟩
  · exact ⟨⟨newPgRequest 1 syncMessage, syncMessage, .sent⟩, by decide +kernel, rfl,
      by decide +kernel, by decide +kernel⟩

end ShadowProxy.PgMirrorAccounts
