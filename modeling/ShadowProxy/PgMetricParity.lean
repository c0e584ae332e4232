import ShadowProxy.PgMirrorAccounts

/-! The counters of a mirrored PostgreSQL session. For the primary each Query, Parse and Execute is
counted; for the shadow each Query and Sync that is processed, besides every message that is held back
and every message that finds the queue full. -/
namespace ShadowProxy.PgMetricParity
open WordBytes EventHistory NetConn PgProtocol ShadowFilter PgMirror PgQueryLoop QueryLog WorkQueue
  PgShadowWorker PgMirrorSession PgMirrorAccounts

/-- The sum of `shadow_filtered_total` over its labels. -/
def Metrics.filteredSum (m : Metrics) : ℕ :=
  m.shadowFilteredTotal .none + m.shadowFilteredTotal .sqlOperation +
    m.shadowFilteredTotal .pattern + m.shadowFilteredTotal .sampling +
    m.shadowFilteredTotal .stickyStmt

/-- `queries_total` with the label `primary` is the sum of that with the label `shadow`, of
`shadow_filtered_total` and of `queue_drops_total`. -/
def Parity (s : Session) : Prop :=
  s.back.metrics.queryTotal = s.back.mirror.service.worker.state.metrics.queryTotal +
    Metrics.filteredSum s.back.metrics + s.back.mirror.queueDrops

/-- Whenever the filter or the queue settles what becomes of a message, it is counted like on the
primary: one that is held back or finds the queue full is a Query, Parse or Execute, and one that is
queued is no Parse, Execute or Sync. -/
def CountsAlike (cfg : Config) (s : Session) (acts : List Action) : Prop :=
  EachStep (fun before act => act = .conn → ∀ req msg,
    ((s.exec cfg before).front.point = .mirroring req msg → msg.msgType ≠ pgMsgTerminate →
      ¬ (s.exec cfg before).back.Mirrors cfg msg → isPgCountableQuery msg.msgType = true) ∧
    ((s.exec cfg before).front.point = .sending req msg →
      (s.exec cfg before).back.mirror.sending ≠ none →
      ((s.exec cfg before).back.mirror.service.Room cfg.shadowQueueSize →
        isPgCountableQuery msg.msgType = expectsResponse msg) ∧
      (¬ (s.exec cfg before).back.mirror.service.Room cfg.shadowQueueSize →
        isPgCountableQuery msg.msgType = true))) acts

/-- What is counted apart from the primary, once the queue is worked off. -/
def counted (b : Back) : ℕ :=
  b.mirror.service.worker.accepted.countP (fun frame => frame.expectsResponse) +
    Metrics.filteredSum b.metrics + b.mirror.queueDrops

/-- What is still to be counted for the message at hand. -/
def due (point : Point) (sending : Option QueuedFrame) : ℕ :=
  match point with
  | .mirroring _ msg => (isPgCountableQuery msg.msgType).toNat
  | .sending _ msg => if sending.isSome then (isPgCountableQuery msg.msgType).toNat else 0
  | .reading | .writing _ _ | .replying _ _ | .copying | .hangup | .done => 0

structure Tallied (s : Session) : Prop where
  even : s.back.metrics.queryTotal = counted s.back + due s.front.point s.back.mirror.sending
  frame : ∀ req msg, s.front.point = .sending req msg → ∀ frame ∈ s.back.mirror.sending,
    frame = shadowFrame req msg

section Counted
variable (b : Back) (req : QueryRequest) (msg : PgPacket)

@[simp] lemma counted_leave : counted b.leave = counted b := by
  unfold counted Back.leave Mirror.leave
  dsimp only
  split_ifs <;> simp

@[simp] lemma counted_close : counted b.close = counted b := by
  simp [counted, Back.close, Mirror.close]

@[simp] lemma counted_count : counted b.count = counted b := rfl

@[simp] lemma counted_written : counted (b.written msg) = counted b := rfl

@[simp] lemma counted_writeFailed (e : Err) : counted (b.writeFailed req msg e) = counted b := rfl

@[simp] lemma counted_answered (n : ℕ) : counted (b.answered req msg n) = counted b := rfl

@[simp] lemma counted_replyFailed (n : ℕ) (e : Err) :
    counted (b.replyFailed req msg n e) = counted b := rfl

@[simp] lemma counted_withhold : counted (b.withhold req msg) = counted b := rfl

lemma counted_filterOut (filterReason : FilterReason) (sticky : StickyStmts) :
    counted (b.filterOut req msg filterReason sticky) = counted b + 1 := by
  cases filterReason <;> simp [counted, Back.filterOut, Metrics.filteredSum] <;> omega

@[simp] lemma counted_offer (sticky : StickyStmts) : counted (b.offer req msg sticky) = counted b := by
  unfold counted Back.offer Mirror.offer
  dsimp only
  split_ifs <;> rfl

lemma counted_enqueue (cfg : Config) {frame : QueuedFrame} (h : b.mirror.sending = some frame) :
    counted (b.enqueue cfg) = counted b +
      match (b.mirror.service.send cfg.shadowQueueSize frame).1 with
      | .queued => frame.expectsResponse.toNat
      | .full => 1
      | .closed => 0 := by
  simp only [counted, Back.enqueue, Mirror.enqueue, h, Service.send_accepted]
  rcases hsent : (b.mirror.service.send cfg.shadowQueueSize frame).1 with _ | _ | _
  · cases hr : frame.expectsResponse <;> simp [hr]
    omega
  · simp
    omega
  · simp

end Counted

section Tallied
variable {cfg : Config} {w₀ : PgShadow} {s s' : Session}

lemma Tallied.settled (h : Tallied s)
    (hq : s'.back.metrics.queryTotal = s.back.metrics.queryTotal)
    (hc : counted s'.back = counted s.back) (hs : s'.back.mirror.sending = s.back.mirror.sending)
    (hdue : due s'.front.point s.back.mirror.sending = due s.front.point s.back.mirror.sending)
    (hp : ∀ req msg, s'.front.point ≠ .sending req msg) : Tallied s' := by
  refine ⟨?_, fun req msg hpoint => absurd hpoint (hp req msg)⟩
  rw [hq, hc, hs, hdue]
  exact h.even

lemma mirrored_tallied (h : Tallied s) (hb : Booked cfg w₀ s) (hlive : s.back.mirror.dead = false)
    (hshadow : cfg.hasShadow = true) {f : Front} {req : QueryRequest} {msg : PgPacket}
    (hp : s.front.point = .mirroring req msg) (hp' : f.point = .sending req msg)
    (halike : msg.msgType ≠ pgMsgTerminate → ¬ s.back.Mirrors cfg msg →
      isPgCountableQuery msg.msgType = true) :
    Tallied ⟨f, s.back.mirrorMessage cfg req msg⟩ := by
  have hnone : s.back.mirror.sending = none := hb.not_sending (by simp [hp])
  have heven := h.even
  rw [hp, due] at heven
  by_cases hterm : msg.msgType = pgMsgTerminate
  · have hm : s.back.mirrorMessage cfg req msg = s.back.withhold req msg := by
      simp [Back.mirrorMessage, hterm]
    have hcount : isPgCountableQuery msg.msgType = false := by rw [hterm]; rfl
    rw [hcount] at heven
    refine ⟨?_, by simp [hm, Back.withhold, hnone]⟩
    simp only [hm, counted_withhold, hp', due]
    simpa [Back.withhold, hnone] using heven
  · rcases hd : mirrorFrame cfg.queryFilter s.back.sticky msg with ⟨⟨_ | _, filterReason⟩, sticky⟩
    · have hm : s.back.mirrorMessage cfg req msg = s.back.filterOut req msg filterReason sticky := by
        simp [Back.mirrorMessage, hshadow, hterm, hd]
      have hcount := halike hterm (by simp [Back.Mirrors, hd])
      rw [hcount] at heven
      refine ⟨?_, by simp [hm, Back.filterOut, hnone]⟩
      simp only [hm, counted_filterOut, hp', due]
      simpa [Back.filterOut, hnone] using heven
    · have hm : s.back.mirrorMessage cfg req msg = s.back.offer req msg sticky := by
        simp [Back.mirrorMessage, hshadow, hterm, hd]
      have hsending : (s.back.offer req msg sticky).mirror.sending = some (shadowFrame req msg) := by
        simp [Back.offer, Mirror.offer, hnone, hlive]
      refine ⟨?_, ?_⟩
      · simp only [hm, counted_offer, hp', due, hsending]
        simpa [Back.offer] using heven
      · intro req' msg' hpoint frame hframe
        obtain ⟨rfl, rfl⟩ : req = req' ∧ msg = msg' := by simpa [hp'] using hpoint
        simpa [hm, hsending] using hframe.symm

lemma enqueued_tallied (h : Tallied s) {f : Front} {req : QueryRequest} {msg : PgPacket}
    (hp : s.front.point = .sending req msg) (hp' : f.point = .replying req msg)
    (hb' : Booked cfg w₀ ⟨f, s.back.enqueue cfg⟩)
    (halike : s.back.mirror.sending ≠ none →
      (s.back.mirror.service.Room cfg.shadowQueueSize →
        isPgCountableQuery msg.msgType = expectsResponse msg) ∧
      (¬ s.back.mirror.service.Room cfg.shadowQueueSize → isPgCountableQuery msg.msgType = true)) :
    Tallied ⟨f, s.back.enqueue cfg⟩ := by
  have heven := h.even
  refine ⟨?_, by simp [hp']⟩
  rw [hp, due] at heven
  dsimp only
  rw [hp', due]
  cases hsending : s.back.mirror.sending with
  | none =>
    have hsame : s.back.enqueue cfg = s.back := by simp [Back.enqueue, Mirror.enqueue, hsending]
    simpa [hsame, hsending] using heven
  | some frame =>
    obtain rfl := h.frame req msg hp frame hsending
    obtain ⟨hroom, hfull⟩ := halike (by simp [hsending])
    rw [hsending] at heven
    have hledger : (s.back.enqueue cfg).mirror.ledger = s.back.mirror.ledger ++
        [(shadowFrame req msg, .offered
          (s.back.mirror.service.send cfg.shadowQueueSize (shadowFrame req msg)).1)] := by
      simp [Back.enqueue, Mirror.enqueue, hsending]
    have hnext : (s.back.enqueue cfg).metrics.queryTotal = s.back.metrics.queryTotal := rfl
    have hroom_iff : (s.back.mirror.service.send cfg.shadowQueueSize (shadowFrame req msg)).1 = .queued ↔
        s.back.mirror.service.Room cfg.shadowQueueSize := Service.send_queued_iff
    rw [hnext, counted_enqueue _ cfg hsending, heven, Option.isSome_some, if_pos rfl]
    rcases hsent : (s.back.mirror.service.send cfg.shadowQueueSize (shadowFrame req msg)).1 with _ | _ | _
    · rw [hroom (hroom_iff.mp hsent)]
      rfl
    · rw [hfull fun hr => by simp [hroom_iff.mpr hr] at hsent]
      rfl
    · exact absurd rfl (hb'.opened (shadowFrame req msg, .offered .closed)
        (by simp [hledger, hsent]))

lemma moves_tallied (h : Tallied s) (hb : Booked cfg w₀ s) (hb' : Booked cfg w₀ s')
    (hlive : s.back.mirror.dead = false) (hshadow : cfg.hasShadow = true) (hm : Moves cfg s s')
    (halike : ∀ req msg,
      (s.front.point = .mirroring req msg → msg.msgType ≠ pgMsgTerminate →
        ¬ s.back.Mirrors cfg msg → isPgCountableQuery msg.msgType = true) ∧
      (s.front.point = .sending req msg → s.back.mirror.sending ≠ none →
        (s.back.mirror.service.Room cfg.shadowQueueSize →
          isPgCountableQuery msg.msgType = expectsResponse msg) ∧
        (¬ s.back.mirror.service.Room cfg.shadowQueueSize →
          isPgCountableQuery msg.msgType = true))) : Tallied s' := by
  cases hm with
  | mirrored hp hp' => exact mirrored_tallied h hb hlive hshadow hp hp' ((halike _ _).1 hp)
  | enqueued hp hp' => exact enqueued_tallied h hp hp' hb' ((halike _ _).2 hp)
  | @written f req msg hp hp' =>
    have heven := h.even
    rw [hp, due] at heven
    refine ⟨?_, by simp [hp']⟩
    simp only [hp', due, counted_written]
    simp only [Back.written]
    omega
  | gone hp hp' | unwritten hp _ hp' | terminated hp hp' | broken hp hp' =>
    exact h.settled rfl (by simp)
      (by simp [Back.leave, Back.writeFailed, Back.answered, Back.replyFailed])
      (by simp [hp, hp', due]) (by simp [hp'])
  | received hp hp' => exact h.settled rfl (by simp) rfl (by simp [hp, hp', due]) (by simp [hp'])
  | answered hp hp' =>
    rcases hp' with hp' | hp' <;>
      exact h.settled rfl (by simp) rfl (by simp [hp, hp', due]) (by simp [hp'])
  | waiting => exact h
  | hangup hp hp' => exact h.settled rfl rfl rfl (by simp [hp, hp', due]) (by simp [hp'])
  | hungup hp hp' =>
    exact h.settled rfl (by simp) (by simp [Back.leave]) (by simp [hp, hp', due]) (by simp [hp'])
  | closing hp => exact h.settled rfl (by simp) rfl rfl (by simp [hp])

end Tallied

lemma live_of_append {w : PgShadow} {frames later : List QueuedFrame}
    (h : (w.after (frames ++ later)).dead = false) : (w.after frames).dead = false := by
  by_contra hd
  rw [after_append, after_dead (by simpa using hd)] at h
  exact hd h

lemma after_queryTotal {w : PgShadow} (frames : List QueuedFrame) (h : (w.after frames).dead = false) :
    (w.after frames).metrics.queryTotal =
      w.metrics.queryTotal + frames.countP fun frame => frame.expectsResponse := by
  induction frames using List.reverseRecOn with
  | nil => rfl
  | append_singleton frames frame ih =>
    have hlive := live_of_append h
    have hone : (processFrame frame (w.after frames)).metrics.queryTotal =
        (w.after frames).metrics.queryTotal + frame.expectsResponse.toNat := by
      rw [after_concat, (processFrame_live frame hlive).1, ioError] at h
      rcases hw : (w.after frames).conn.write frame.payload with ⟨_ | e, conn⟩
      · cases hr : frame.expectsResponse with
        | false => simp [processFrame, hlive, hw, hr, PgShadow.logExecution]
        | true =>
          rcases hread : readUntilReady conn with ⟨n, _ | e, c⟩
          · simp [processFrame, hlive, hw, hr, hread, PgShadow.logExecution]
          · simp [hw, hr, hread] at h
      · simp [hw] at h
    rw [after_concat, hone, ih hlive, List.countP_append]
    cases hr : frame.expectsResponse <;> simp [hr, Nat.add_assoc]

section Runs
variable {cfg : Config} {client primary shadow : Conn} {logger : QueryLogger} {acts : List Action}

lemma act_finished (cfg : Config) (s : Session) (act : Action) :
    ∃ frames, (s.act cfg act).back.mirror.service.worker.finished =
      s.back.mirror.service.worker.finished ++ frames ∧ frames.length ≤ 1 := by
  cases act with
  | conn => exact ⟨[], by simpa [Session.act] using conn_finished cfg s, by simp⟩
  | copy dir n => exact ⟨[], by simp [Session.act], by simp⟩
  | timeout => exact ⟨[], by simp [Session.act, Mirror.timeout], by simp⟩
  | worker pick =>
    rcases Service.step_finished processFrame pick s.back.mirror.service with hf | ⟨mode, frame, -, hf⟩
    · exact ⟨[], by simpa [Session.act, Mirror.step] using hf, by simp⟩
    · exact ⟨[frame], by simpa [Session.act, Mirror.step] using hf, by simp⟩

lemma live_before {act : Action}
    (h : ((Session.start client primary shadow logger).exec cfg (acts ++ [act])).back.mirror.dead = false) :
    ((Session.start client primary shadow logger).exec cfg acts).back.mirror.dead = false := by
  have hb := (exec_booked cfg client primary shadow logger acts).mirror.state
  have hb' := (exec_booked cfg client primary shadow logger (acts ++ [act])).mirror.state
  obtain ⟨frames, hfinished, -⟩ := act_finished cfg ((Session.start client primary shadow logger).exec cfg acts) act
  rw [Mirror.dead, hb', exec_concat, hfinished] at h
  rw [Mirror.dead, hb]
  exact live_of_append h

/-- While the worker lives, the counters differ by what is still to be counted. -/
theorem exec_tallied (hshadow : cfg.hasShadow = true)
    (halike : CountsAlike cfg (.start client primary shadow logger) acts)
    (hlive : ((Session.start client primary shadow logger).exec cfg acts).back.mirror.dead = false) :
    Tallied ((Session.start client primary shadow logger).exec cfg acts) := by
  induction acts using List.reverseRecOn with
  | nil => exact ⟨rfl, by simp [Session.start]⟩
  | append_singleton acts act ih =>
    obtain ⟨hbefore, hnow⟩ := (eachStep_concat _ _).mp halike
    have hlive' := live_before hlive
    have hb := exec_booked cfg client primary shadow logger acts
    have hb' := exec_booked cfg client primary shadow logger (acts ++ [act])
    specialize ih hbefore hlive'
    rw [exec_concat] at hb' ⊢
    cases act with
    | conn => exact moves_tallied ih hb hb' hlive' hshadow (conn_moves cfg _) (hnow rfl)
    | copy dir n => exact ⟨by simpa [Session.act] using ih.even, by simpa [Session.act] using ih.frame⟩
    | timeout => exact ⟨by simpa [Session.act, counted, Mirror.timeout] using ih.even, ih.frame⟩
    | worker pick => exact ⟨by simpa [Session.act, counted, Mirror.step] using ih.even, ih.frame⟩

/-- In every run without I/O errors whose messages are counted alike on both sides, the counters agree
when `Close` has drained the queue. -/
theorem frames_parity (hshadow : cfg.hasShadow = true)
    (halike : CountsAlike cfg (.start client primary shadow logger) acts) :
    let s := (Session.start client primary shadow logger).exec cfg acts
    s.back.mirror.service.phase = .closed → s.back.mirror.service.worker.force = false →
      s.back.mirror.dead = false → Parity s := by
  intro s hclosed hforce hlive
  have hb : Booked cfg (.start shadow logger) s := exec_booked cfg client primary shadow logger acts
  have ht : Tallied s := exec_tallied hshadow halike hlive
  have hdone : s.front.point = .done := by
    by_contra hp
    have := hb.serving.mpr hp
    simp [hclosed] at this
  have hshadowTotal : s.back.mirror.service.worker.state.metrics.queryTotal =
      s.back.mirror.service.worker.accepted.countP fun frame => frame.expectsResponse := by
    rw [Mirror.dead, hb.mirror.state] at hlive
    rw [hb.mirror.state, after_queryTotal _ hlive, hb.mirror.queue.all_finished hclosed hforce]
    exact Nat.zero_add _
  have heven := ht.even
  rw [hdone, due, Nat.add_zero, counted] at heven
  rw [Parity, heven, hshadowTotal]

end Runs

/-- A server that answers a Query or Sync with a ReadyForQuery. -/
def replyingServer : Conn where
  pending := []
  received := []
  sent := []
  respond := fun sent =>
    match sent.getLast? with
    | some (t :: _) => if t = pgMsgQuery ∨ t = pgMsgSync then [⟨readyForQuery.bytes, none⟩] else []
    | _ => []
  writable := none

/-- The messages are relayed one after the other, then the worker takes them up, and the session is
shut down. -/
def relayActs (n : ℕ) : List Action :=
  List.replicate (5 * n) .conn ++
    (List.replicate n [.worker .queue, .worker .idle, .worker .idle]).flatten ++
    [.conn, .conn, .worker .drain, .worker .idle, .conn, .conn]

def relayRun (cfg : Config) (msgs : List PgPacket) (acts : List Action) : Session :=
  (Session.start (sampleClient msgs) replyingServer replyingServer none).exec cfg acts

/-- The message at hand meets the condition of `CountsAlike`. -/
def looksAlike (cfg : Config) (s : Session) : Bool :=
  match s.front.point with
  | .mirroring _ msg =>
    isPgCountableQuery msg.msgType || (mirrorFrame cfg.queryFilter s.back.sticky msg).1.1
  | .sending req msg =>
    s.back.mirror.sending.isNone ||
      isPgCountableQuery msg.msgType ==
        match (s.back.mirror.service.send cfg.shadowQueueSize (shadowFrame req msg)).1 with
        | .queued => expectsResponse msg
        | .full | .closed => true
  | _ => true

lemma countsAlike_of_looksAlike {cfg : Config} {s : Session} {acts : List Action}
    (hshadow : cfg.hasShadow = true)
    (h : ∀ k < acts.length, looksAlike cfg (s.exec cfg (acts.take k)) = true) :
    CountsAlike cfg s acts := by
  refine eachStep_of_take fun k hk act _ req msg => ?_
  have hk := h k hk
  refine ⟨fun hp hterm hmirrors => ?_, fun hp hsending => ?_⟩
  · rw [looksAlike, hp] at hk
    simp_all [Back.Mirrors]
  · simp only [looksAlike, hp, Option.isNone_eq_false_iff.mpr (Option.isSome_iff_ne_none.mpr hsending),
      Bool.false_or, beq_iff_eq] at hk
    rw [← Service.send_queued_iff (a := shadowFrame req msg), hk]
    split <;> simp_all

/-- A Parse that is held back, a Bind and a Query that are mirrored, and an Execute that finds the queue
full. -/
def mixedMessages : List PgPacket :=
  [parseMessage unnamed secretText [], frame pgMsgBind [0, 0, 0, 0, 0, 0, 0, 0],
    frame pgMsgQuery [65, 0], frame pgMsgExecute [0, 0, 0, 0, 0]]

def mixedConfig : Config := ⟨some sampleFilter, true, 2⟩

theorem frames_parity_mixedMessages :
    let s := relayRun mixedConfig mixedMessages (relayActs 4)
    s.back.metrics.queryTotal = 3 ∧ s.back.mirror.service.worker.state.metrics.queryTotal = 1 ∧
      Metrics.filteredSum s.back.metrics = 1 ∧ s.back.mirror.queueDrops = 1 ∧ Parity s := by
  have halike : ∀ k < (relayActs 4).length,
      looksAlike mixedConfig (relayRun mixedConfig mixedMessages ((relayActs 4).take k)) = true := by
    decide +kernel
  exact ⟨by decide +kernel, by decide +kernel, by decide +kernel, by decide +kernel,
    frames_parity rfl (countsAlike_of_looksAlike rfl halike) rfl rfl rfl⟩

/-- Parse, Bind, Execute and Sync: two queries for the primary, one for the shadow. -/
def extendedMessages : List PgPacket :=
  [frame pgMsgParse [0, 65, 0, 0, 0], frame pgMsgBind [0, 0, 0, 0, 0, 0, 0, 0],
    frame pgMsgExecute [0, 0, 0, 0, 0], syncMessage]

theorem extended_messages_break_parity :
    let s := relayRun ⟨none, true, 8⟩ extendedMessages (relayActs 4)
    s.back.mirror.service.phase = .closed ∧ s.back.mirror.service.worker.force = false ∧
      s.back.mirror.dead = false ∧ s.front.primary.sent = extendedMessages.map PgPacket.bytes ∧
      s.back.metrics.queryTotal = 2 ∧
      s.back.mirror.service.worker.state.metrics.queryTotal = 1 ∧
      Metrics.filteredSum s.back.metrics = 0 ∧ s.back.mirror.queueDrops = 0 := by
  decide +kernel

end ShadowProxy.PgMetricParity
