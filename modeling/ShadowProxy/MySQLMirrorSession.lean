import ShadowProxy.MySQLShadowWorker

/-! A mirrored MySQL session: the goroutine of the connection, which serves the client and offers
its commands to the shadow worker, and the worker behind its queue. Both go on at their own pace; a
run is the list of the steps they take. -/
namespace ShadowProxy.MySQLMirrorSession
open WordBytes EventHistory NetConn MySQLPacket MySQLPacketReader MySQLResponse MySQLProxyLoop
  ShadowFilter QueryLog WorkQueue MySQLShadowWorker

/-- Where `proxyWithMirrorWorker` stands: before a command is read, with a command that is read,
written to the primary, offered to the shadow; or it has returned. -/
inductive Point
  | reading
  | writing (req : QueryRequest)
  | mirroring (req : QueryRequest)
  | replying (req : QueryRequest)
  | done
  deriving DecidableEq

/-- What became of a command: it was not written to the primary, was not to be mirrored, was
filtered out, or was sent to the queue. -/
inductive Fate
  | unsent
  | quit
  | filtered (reason : FilterReason)
  | offered (sent : Sent)
  deriving DecidableEq

structure Config where
  queryFilter : Option QueryFilter
  sampledOut : ℕ → Bool
  shadowQueueSize : ℕ

/-- The counters with the label `primary`, and those of commands kept from the shadow. -/
structure Metrics where
  mysqlPackets : ℕ
  queryTotal : ℕ
  queryErrors : ℕ
  bytesSent : ℕ
  bytesReceived : ℕ
  shadowFilteredTotal : FilterReason → ℕ
  shadowQueueDrops : ℕ

def Metrics.zero : Metrics := ⟨0, 0, 0, 0, 0, fun _ => 0, 0⟩

/-- The sum of `shadow_filtered_total` over its labels. -/
def Metrics.filteredSum (m : Metrics) : ℕ :=
  m.shadowFilteredTotal .none + m.shadowFilteredTotal .sqlOperation +
    m.shadowFilteredTotal .pattern + m.shadowFilteredTotal .sampling +
    m.shadowFilteredTotal .stickyStmt

/-- What the client and the primary take part in. `nextID` stands for the source of UUIDs. -/
structure Front where
  client : Conn
  primary : Conn
  clientReader : Reader
  primaryReader : Reader
  point : Point
  nextID : ℕ

/-- What is kept for the shadow and for the operator. `logger` has the entries that the connection
logs, the worker has its own; `ledger` is the history of the commands. -/
structure Back where
  metrics : Metrics
  logger : QueryLogger
  service : Service QueryRequest Shadow
  ledger : List (QueryRequest × Fate)

structure Session where
  front : Front
  back : Back

def Back.start (shadow : Conn) (logger : QueryLogger) : Back :=
  ⟨.zero, logger, .start (.start shadow logger), []⟩

def Session.start (client primary shadow : Conn) (logger : QueryLogger) : Session :=
  ⟨⟨client, primary, newMySQLPacketReader, newMySQLPacketReader, .reading, 0⟩, .start shadow logger⟩

def logPrimaryExecution (logger : QueryLogger) (req : QueryRequest) (bytesSent bytesRecv : ℕ)
    (err : Option Err) : QueryLogger :=
  logger.log (executionEntry .primary req bytesSent bytesRecv err)

def logFilteredShadow (logger : QueryLogger) (req : QueryRequest) (filterReason : FilterReason) :
    QueryLogger :=
  logger.log (filteredEntry req filterReason)

namespace Back

def leave (b : Back) : Back := { b with service := b.service.leave }

/-- `Close`, which runs when the loop has returned. -/
def close (b : Back) : Back := { b with service := b.service.close }

def count (b : Back) (packet : Bytes) : Back :=
  { b with metrics := { b.metrics with
      mysqlPackets := b.metrics.mysqlPackets + 1
      queryTotal := b.metrics.queryTotal + (isQuery packet).toNat } }

def writeFailed (b : Back) (req : QueryRequest) (e : Err) : Back :=
  { b with
    metrics := { b.metrics with queryErrors := b.metrics.queryErrors + 1 }
    logger := logPrimaryExecution b.logger req 0 0 (some e)
    ledger := b.ledger ++ [(req, .unsent)] }

def written (b : Back) (req : QueryRequest) : Back :=
  { b with metrics := { b.metrics with bytesSent := b.metrics.bytesSent + req.packet.length } }

def filterOut (b : Back) (req : QueryRequest) (filterReason : FilterReason) : Back :=
  { b with
    metrics := { b.metrics with shadowFilteredTotal := fun reason =>
      b.metrics.shadowFilteredTotal reason + (decide (reason = filterReason)).toNat }
    logger := logFilteredShadow b.logger req filterReason
    ledger := b.ledger ++ [(req, .filtered filterReason)] }

/-- `Send`, which counts what the full queue does not take. -/
def send (cfg : Config) (b : Back) (req : QueryRequest) : Back :=
  match b.service.send cfg.shadowQueueSize req with
  | (sent, service) =>
    { b with
      metrics := { b.metrics with
        shadowQueueDrops := b.metrics.shadowQueueDrops + (decide (sent = .full)).toNat }
      service := service
      ledger := b.ledger ++ [(req, .offered sent)] }

/-- `roll` numbers the sampling rolls. -/
def mirror (cfg : Config) (b : Back) (roll : ℕ) (req : QueryRequest) : Back :=
  if (getMySQLCommand req.packet).1 = comQuit then { b with ledger := b.ledger ++ [(req, .quit)] }
  else
    match cfg.queryFilter with
    | none => b.send cfg req
    | some f =>
      match f.allow (cfg.sampledOut roll) req.queryText with
      | (false, filterReason) => b.filterOut req filterReason
      | (true, _) => b.send cfg req

def replyFailed (b : Back) (req : QueryRequest) (bytesRecv : ℕ) (e : Err) : Back :=
  { b with
    metrics := { b.metrics with queryErrors := b.metrics.queryErrors + 1 }
    logger := logPrimaryExecution b.logger req req.packet.length bytesRecv (some e) }

def answered (b : Back) (req : QueryRequest) (bytesRecv : ℕ) : Back :=
  { b with
    metrics := { b.metrics with bytesReceived := b.metrics.bytesReceived + bytesRecv }
    logger := logPrimaryExecution b.logger req req.packet.length bytesRecv none }

end Back

namespace Session

def receive (s : Session) : Session :=
  match readMultiPacket s.front.clientReader s.front.client with
  | (.error _, r, client) =>
    ⟨{ s.front with client := client, clientReader := r, point := .done }, s.back.leave⟩
  | (.ok packet, r, client) =>
    ⟨{ s.front with
        client := client, clientReader := r, nextID := s.front.nextID + 1
        point := .writing (newQueryRequest s.front.nextID packet) }, s.back.count packet⟩

def writePrimary (s : Session) (req : QueryRequest) : Session :=
  match s.front.primary.write req.packet with
  | (some e, primary) =>
    ⟨{ s.front with primary := primary, point := .done }, (s.back.writeFailed req e).leave⟩
  | (none, primary) =>
    ⟨{ s.front with primary := primary, point := .mirroring req }, s.back.written req⟩

def relayReply (s : Session) (req : QueryRequest) : Session :=
  let cmd := (getMySQLCommand req.packet).1
  if isNoResponseCommand cmd then
    if cmd = comQuit then ⟨{ s.front with point := .done }, (s.back.answered req 0).leave⟩
    else ⟨{ s.front with point := .reading }, s.back.answered req 0⟩
  else
    match forwardReply cmd s.front.primaryReader s.front.primary s.front.client with
    | ⟨bytesRecv, some e, ((r, primary), client)⟩ =>
      ⟨{ s.front with client := client, primary := primary, primaryReader := r, point := .done },
        (s.back.replyFailed req bytesRecv e).leave⟩
    | ⟨bytesRecv, none, ((r, primary), client)⟩ =>
      ⟨{ s.front with client := client, primary := primary, primaryReader := r, point := .reading },
        s.back.answered req bytesRecv⟩

/-- The next step of the connection's goroutine: the loop of `proxyWithMirrorWorker`, and `Close`
after it. -/
def conn (cfg : Config) (s : Session) : Session :=
  match s.front.point with
  | .reading => s.receive
  | .writing req => s.writePrimary req
  | .mirroring req =>
    ⟨{ s.front with point := .replying req }, s.back.mirror cfg s.front.primary.sent.length req⟩
  | .replying req => s.relayReply req
  | .done => ⟨s.front, s.back.close⟩

end Session

/-- A step of the connection, the end of its wait for the drain, or a step of the worker. -/
inductive Action
  | conn
  | timeout
  | worker (pick : Pick)
  deriving DecidableEq

def Session.act (cfg : Config) (s : Session) : Action → Session
  | .conn => s.conn cfg
  | .timeout => { s with back := { s.back with service := s.back.service.timeout } }
  | .worker pick =>
    { s with back := { s.back with service := s.back.service.step processRequest pick } }

def Session.exec (cfg : Config) (acts : List Action) (s : Session) : Session :=
  acts.foldl (Session.act cfg) s

@[simp] lemma exec_nil (cfg : Config) (s : Session) : s.exec cfg [] = s := rfl

@[simp] lemma exec_concat (cfg : Config) (acts : List Action) (act : Action) (s : Session) :
    s.exec cfg (acts ++ [act]) = (s.exec cfg acts).act cfg act := by
  simp [Session.exec]

def Config.Allows (cfg : Config) (roll : ℕ) (req : QueryRequest) : Prop :=
  ∀ f ∈ cfg.queryFilter, (f.allow (cfg.sampledOut roll) req.queryText).1 = true

lemma allow_of_no_text (f : QueryFilter) (sampledOut : Bool) : f.allow sampledOut [] = (true, .none) :=
  rfl

lemma mirror_cases (cfg : Config) (b : Back) (roll : ℕ) (req : QueryRequest) :
    ((getMySQLCommand req.packet).1 = comQuit ∧
      b.mirror cfg roll req = { b with ledger := b.ledger ++ [(req, .quit)] }) ∨
    ((getMySQLCommand req.packet).1 ≠ comQuit ∧ req.queryText ≠ [] ∧ ¬ cfg.Allows roll req ∧
      ∃ filterReason, b.mirror cfg roll req = b.filterOut req filterReason) ∨
    ((getMySQLCommand req.packet).1 ≠ comQuit ∧ cfg.Allows roll req ∧
      b.mirror cfg roll req = b.send cfg req) := by
  by_cases hq : (getMySQLCommand req.packet).1 = comQuit
  · exact .inl ⟨hq, by simp [Back.mirror, hq]⟩
  · refine .inr ?_
    cases hf : cfg.queryFilter with
    | none => exact .inr ⟨hq, by simp [Config.Allows, hf], by simp [Back.mirror, hq, hf]⟩
    | some f =>
      rcases ha : f.allow (cfg.sampledOut roll) req.queryText with ⟨_ | _, filterReason⟩
      · refine .inl ⟨hq, ?_, by simp [Config.Allows, hf, ha], filterReason,
          by simp [Back.mirror, hq, hf, ha]⟩
        intro htext
        simp [htext, allow_of_no_text] at ha
      · exact .inr ⟨hq, by simp [Config.Allows, hf, ha], by simp [Back.mirror, hq, hf, ha]⟩

/-- The primary has at most been read, and no command was read. -/
structure Front.Idles (f f' : Front) : Prop where
  sent : f'.primary.sent = f.primary.sent
  writable : f'.primary.writable = f.primary.writable
  nextID : f'.nextID = f.nextID

lemma Front.Idles.of_primary {f f' : Front} (h : f'.primary = f.primary) (hid : f'.nextID = f.nextID) :
    f.Idles f' := ⟨by rw [h], by rw [h], hid⟩

/-- Everything a step of the connection's goroutine can do. -/
inductive Moves (cfg : Config) (s : Session) : Session → Prop
  | gone {f : Front} : s.front.point = .reading → f.point = .done → s.front.Idles f →
      Moves cfg s ⟨f, s.back.leave⟩
  | received {f : Front} {packet : Bytes} : s.front.point = .reading →
      f.point = .writing (newQueryRequest s.front.nextID packet) →
      f.primary = s.front.primary → f.nextID = s.front.nextID + 1 →
      Moves cfg s ⟨f, s.back.count packet⟩
  | unwritten {f : Front} {req : QueryRequest} {e : Err} : s.front.point = .writing req →
      s.front.primary.write req.packet = (some e, f.primary) → f.point = .done → s.front.Idles f →
      Moves cfg s ⟨f, (s.back.writeFailed req e).leave⟩
  | written {f : Front} {req : QueryRequest} : s.front.point = .writing req →
      f.point = .mirroring req → s.front.primary.write req.packet = (none, f.primary) →
      f.nextID = s.front.nextID → Moves cfg s ⟨f, s.back.written req⟩
  | mirrored {f : Front} {req : QueryRequest} : s.front.point = .mirroring req →
      f.point = .replying req → s.front.Idles f →
      Moves cfg s ⟨f, s.back.mirror cfg s.front.primary.sent.length req⟩
  | answered {f : Front} {req : QueryRequest} {bytesRecv : ℕ} : s.front.point = .replying req →
      f.point = .reading → s.front.Idles f → Moves cfg s ⟨f, s.back.answered req bytesRecv⟩
  | quit {f : Front} {req : QueryRequest} : s.front.point = .replying req →
      f.point = .done → s.front.Idles f → Moves cfg s ⟨f, (s.back.answered req 0).leave⟩
  | broken {f : Front} {req : QueryRequest} {bytesRecv : ℕ} {e : Err} :
      s.front.point = .replying req → f.point = .done → s.front.Idles f →
      Moves cfg s ⟨f, (s.back.replyFailed req bytesRecv e).leave⟩
  | closing : s.front.point = .done → Moves cfg s ⟨s.front, s.back.close⟩

/-- As long as the loop runs, the reader of the primary knows where it stands. -/
def Front.Tracked (f : Front) : Prop :=
  f.point ≠ .done → ∃ start, Positioned start f.primaryReader f.primary

section Conn
variable {cfg : Config} {s : Session}

lemma forwardReply_tracked (cmd : UInt8) {start : Bytes} {r r' : Reader} {p p' d d' : Conn} {n : ℕ}
    {err : Option Err} (h : Positioned start r p)
    (hf : forwardReply cmd r p d = ⟨n, err, ((r', p'), d')⟩) :
    p'.sent = p.sent ∧ p'.writable = p.writable ∧
      (err = none → ∃ start', Positioned start' r' p') := by
  obtain ⟨⟨pkts, hend⟩, hok⟩ := forwardReply_keeps cmd h d
  rw [hf] at hend hok
  refine ⟨hend.reads.sent, hend.reads.writable, fun herr => ?_⟩
  obtain ⟨pkts', hat⟩ := hok herr
  exact ⟨_, hat.position⟩

lemma receive_moves (h : s.front.Tracked) (hp : s.front.point = .reading) :
    Moves cfg s s.receive ∧ s.receive.front.Tracked := by
  obtain ⟨start, hpos⟩ := h (by simp [hp])
  unfold Session.receive
  rcases readMultiPacket s.front.clientReader s.front.client with ⟨e | packet, r, client⟩
  · exact ⟨.gone hp rfl (.of_primary rfl rfl), fun hd => absurd rfl hd⟩
  · exact ⟨.received hp rfl rfl rfl, fun _ => ⟨start, hpos⟩⟩

lemma writePrimary_moves {req : QueryRequest} (h : s.front.Tracked)
    (hp : s.front.point = .writing req) :
    Moves cfg s (s.writePrimary req) ∧ (s.writePrimary req).front.Tracked := by
  obtain ⟨start, hpos⟩ := h (by simp [hp])
  unfold Session.writePrimary
  rcases hw : s.front.primary.write req.packet with ⟨_ | e, primary⟩
  · exact ⟨.written hp rfl hw rfl, fun _ => ⟨start, Positioned.write hpos hw⟩⟩
  · have hsame := write_error hw
    exact ⟨.unwritten hp hw rfl (.of_primary hsame rfl), fun hd => absurd rfl hd⟩

lemma relayReply_moves {req : QueryRequest} (h : s.front.Tracked)
    (hp : s.front.point = .replying req) :
    Moves cfg s (s.relayReply req) ∧ (s.relayReply req).front.Tracked := by
  obtain ⟨start, hpos⟩ := h (by simp [hp])
  dsimp only [Session.relayReply]
  split_ifs
  · exact ⟨.quit hp rfl (.of_primary rfl rfl), fun hd => absurd rfl hd⟩
  · exact ⟨.answered hp rfl (.of_primary rfl rfl), fun _ => ⟨start, hpos⟩⟩
  · rcases hf : forwardReply (getMySQLCommand req.packet).1 s.front.primaryReader s.front.primary
      s.front.client with ⟨n, _ | e, ⟨r, primary⟩, client⟩
    · obtain ⟨hsent, hopen, hpos'⟩ := forwardReply_tracked _ hpos hf
      exact ⟨.answered hp rfl ⟨hsent, hopen, rfl⟩, fun _ => hpos' rfl⟩
    · obtain ⟨hsent, hopen, -⟩ := forwardReply_tracked _ hpos hf
      exact ⟨.broken hp rfl ⟨hsent, hopen, rfl⟩, fun hd => absurd rfl hd⟩

lemma conn_moves (cfg : Config) (h : s.front.Tracked) : Moves cfg s (s.conn cfg) ∧ (s.conn cfg).front.Tracked := by
  unfold Session.conn
  cases hp : s.front.point with
  | reading => exact receive_moves h hp
  | writing req => exact writePrimary_moves h hp
  | mirroring req =>
    obtain ⟨start, hpos⟩ := h (by simp [hp])
    exact ⟨.mirrored hp rfl (.of_primary rfl rfl), fun _ => ⟨start, hpos⟩⟩
  | replying req => exact relayReply_moves h hp
  | done => exact ⟨.closing hp, fun hd => absurd hp hd⟩

end Conn

def Point.unsettled : Point → List QueryRequest
  | .writing req | .mirroring req => [req]
  | .reading | .replying _ | .done => []

/-- The request that is written to the primary but not in the ledger. -/
def Point.underway : Point → List QueryRequest
  | .mirroring req => [req]
  | .reading | .writing _ | .replying _ | .done => []

/-- The requests for which `Send` returned true. -/
def queued (ledger : List (QueryRequest × Fate)) : List QueryRequest :=
  (ledger.filter fun x => x.2 = .offered .queued).map Prod.fst

def forwarded (ledger : List (QueryRequest × Fate)) : List QueryRequest :=
  (ledger.filter fun x => x.2 ≠ .unsent).map Prod.fst

@[simp] lemma queued_concat (ledger : List (QueryRequest × Fate)) (x : QueryRequest × Fate) :
    queued (ledger ++ [x]) = queued ledger ++ if x.2 = .offered .queued then [x.1] else [] := by
  by_cases h : x.2 = .offered .queued <;> simp [queued, h]

@[simp] lemma forwarded_concat (ledger : List (QueryRequest × Fate)) (x : QueryRequest × Fate) :
    forwarded (ledger ++ [x]) = forwarded ledger ++ if x.2 = .unsent then [] else [x.1] := by
  by_cases h : x.2 = .unsent <;> simp [forwarded, h]

lemma forwarded_append (l₁ l₂ : List (QueryRequest × Fate)) :
    forwarded (l₁ ++ l₂) = forwarded l₁ ++ forwarded l₂ := by
  simp [forwarded]

lemma forwarded_cons {req : QueryRequest} {fate : Fate} (h : fate ≠ .unsent)
    (ledger : List (QueryRequest × Fate)) :
    forwarded ((req, fate) :: ledger) = req :: forwarded ledger := by
  simp [forwarded, h]

lemma forwarded_all {ledger : List (QueryRequest × Fate)} (h : ∀ x ∈ ledger, x.2 ≠ .unsent) :
    forwarded ledger = ledger.map Prod.fst := by
  rw [forwarded, List.filter_eq_self.mpr (by simpa using h)]

def Session.requests (s : Session) : List QueryRequest :=
  s.back.ledger.map Prod.fst ++ s.front.point.unsettled

def Fate.Fits (req : QueryRequest) : Fate → Prop
  | .unsent => True
  | .quit => (getMySQLCommand req.packet).1 = comQuit
  | .filtered _ => (getMySQLCommand req.packet).1 ≠ comQuit ∧ req.queryText ≠ []
  | .offered sent => (getMySQLCommand req.packet).1 ≠ comQuit ∧ sent ≠ .closed

/-- What holds of every session with the primary `primary` and the shadow `shadow`: the ledger
accounts for the requests, the writes to the primary and the queue. -/
structure Booked (primary : Conn) (shadow : Shadow) (s : Session) : Prop where
  tracked : s.front.Tracked
  queue : WorkQueue.Inv processRequest shadow s.back.service
  serving : s.back.service.phase = .serving ↔ s.front.point ≠ .done
  accepted : s.back.service.worker.accepted = queued s.back.ledger
  numbered : s.requests.map QueryRequest.id = List.range s.front.nextID
  made : ∀ req ∈ s.requests, req = newQueryRequest req.id req.packet
  written : s.front.primary.sent =
    primary.sent ++ (forwarded s.back.ledger ++ s.front.point.underway).map QueryRequest.packet
  unsent : ∀ x ∈ s.back.ledger, x.2 = .unsent → s.front.point = .done
  unsentLast : ∀ x ∈ s.back.ledger.dropLast, x.2 ≠ .unsent
  fits : ∀ x ∈ s.back.ledger, x.2.Fits x.1

section Booked
variable {cfg : Config} {primary : Conn} {shadow : Shadow} {s : Session}

lemma booked_start (client primary shadow : Conn) (logger : QueryLogger) :
    Booked primary (.start shadow logger) (.start client primary shadow logger) where
  tracked := fun _ => ⟨_, positioned_new primary⟩
  queue := inv_start _ _
  serving := by simp [Session.start, Back.start, Service.start]
  accepted := rfl
  numbered := rfl
  made := by simp [Session.requests, Session.start, Back.start, Point.unsettled]
  written := by simp [Session.start, Back.start, forwarded, Point.underway]
  unsent := by simp [Session.start, Back.start]
  unsentLast := by simp [Session.start, Back.start]
  fits := by simp [Session.start, Back.start]

lemma Booked.settled (h : Booked primary shadow s) {s' : Session}
    (hledger : s'.back.ledger = s.back.ledger)
    (hunsettled : s'.front.point.unsettled = s.front.point.unsettled)
    (hunderway : s'.front.point.underway = s.front.point.underway) (hidle : s.front.Idles s'.front)
    (hdone : s.front.point = .done → s'.front.point = .done) (ht : s'.front.Tracked)
    (hq : WorkQueue.Inv processRequest shadow s'.back.service)
    (ha : s'.back.service.worker.accepted = s.back.service.worker.accepted)
    (hs : s'.back.service.phase = .serving ↔ s'.front.point ≠ .done) : Booked primary shadow s' where
  tracked := ht
  queue := hq
  serving := hs
  accepted := by rw [ha, h.accepted, hledger]
  numbered := by
    have := h.numbered
    rwa [Session.requests, ← hledger, ← hunsettled, ← hidle.nextID] at this
  made := by
    have := h.made
    rwa [Session.requests, ← hledger, ← hunsettled] at this
  written := by rw [hidle.sent, h.written, hledger, hunderway]
  unsent := fun x hx hu => hdone (h.unsent x (hledger ▸ hx) hu)
  unsentLast := by rw [hledger]; exact h.unsentLast
  fits := by rw [hledger]; exact h.fits

lemma Booked.enter (h : Booked primary shadow s) {s' : Session} {req : QueryRequest} {fate : Fate}
    (hledger : s'.back.ledger = s.back.ledger ++ [(req, fate)])
    (hreq : s.front.point.unsettled = [req])
    (hway : s.front.point.underway = if fate = .unsent then [] else [req])
    (hunsettled : s'.front.point.unsettled = []) (hunderway : s'.front.point.underway = [])
    (hidle : s.front.Idles s'.front) (hdone : fate = .unsent → s'.front.point = .done)
    (hfits : fate.Fits req) (ht : s'.front.Tracked)
    (hq : WorkQueue.Inv processRequest shadow s'.back.service)
    (ha : s'.back.service.worker.accepted =
      s.back.service.worker.accepted ++ if fate = .offered .queued then [req] else [])
    (hs : s'.back.service.phase = .serving ↔ s'.front.point ≠ .done) :
    Booked primary shadow s' := by
  have hall : s'.requests = s.requests := by
    simp [Session.requests, hledger, hreq, hunsettled]
  have hnot : ∀ x ∈ s.back.ledger, x.2 ≠ .unsent := by
    intro x hx hu
    have := h.unsent x hx hu
    simp [this, Point.unsettled] at hreq
  exact {
    tracked := ht
    queue := hq
    serving := hs
    accepted := by rw [ha, h.accepted, hledger, queued_concat]
    numbered := by rw [hall, hidle.nextID]; exact h.numbered
    made := by rw [hall]; exact h.made
    written := by rw [hidle.sent, h.written, hledger, hway, hunderway, forwarded_concat, List.append_nil]
    unsent := by
      rw [hledger]
      intro x hx hu
      rcases List.mem_append.mp hx with hx | hx
      · exact absurd hu (hnot x hx)
      · obtain rfl := List.mem_singleton.mp hx
        exact hdone hu
    unsentLast := by simpa [hledger] using hnot
    fits := by
      rw [hledger]
      intro x hx
      rcases List.mem_append.mp hx with hx | hx
      · exact h.fits x hx
      · obtain rfl := List.mem_singleton.mp hx
        exact hfits }

lemma Booked.mirror (cfg : Config) (h : Booked primary shadow s) {req : QueryRequest} (roll : ℕ)
    (hp : s.front.point = .mirroring req) :
    ∃ fate, (s.back.mirror cfg roll req).ledger = s.back.ledger ++ [(req, fate)] ∧
      fate ≠ .unsent ∧ fate.Fits req ∧
      WorkQueue.Inv processRequest shadow (s.back.mirror cfg roll req).service ∧
      (s.back.mirror cfg roll req).service.worker.accepted =
        (s.back.service.worker.accepted ++ if fate = .offered .queued then [req] else []) ∧
      (s.back.mirror cfg roll req).service.phase = s.back.service.phase := by
  have hserving : s.back.service.phase = .serving := h.serving.mpr (by simp [hp])
  rcases mirror_cases cfg s.back roll req with
    ⟨hq, hm⟩ | ⟨hq, htext, -, filterReason, hm⟩ | ⟨hq, -, hm⟩ <;> rw [hm]
  · exact ⟨.quit, rfl, by simp, hq, h.queue, by simp, rfl⟩
  · exact ⟨.filtered filterReason, rfl, by simp, ⟨hq, htext⟩, h.queue, by simp [Back.filterOut], rfl⟩
  · refine ⟨.offered (s.back.service.send cfg.shadowQueueSize req).1, rfl, by simp,
      ⟨hq, h.queue.send_open hserving _ _⟩, h.queue.send _ _, ?_, rfl⟩
    simp only [Fate.offered.injEq]
    exact Service.send_accepted _ _ _

lemma Booked.moves (h : Booked primary shadow s) {s' : Session} (hm : Moves cfg s s')
    (ht : s'.front.Tracked) : Booked primary shadow s' := by
  have hserving := h.serving
  cases hm with
  | gone hp hp' hidle =>
    exact h.settled rfl (by rw [hp, hp']; rfl) (by rw [hp, hp']; rfl) hidle (by simp [hp]) ht
      h.queue.leave (by simp [Back.leave]) (by simp [Back.leave, hp'])
  | @received f packet hp hp' hprimary hid =>
    have hnum := h.numbered
    have hmade := h.made
    simp only [Session.requests, hp, Point.unsettled, List.append_nil] at hnum hmade
    exact {
      tracked := ht
      queue := h.queue
      serving := by simpa [hp, hp', Back.count] using hserving
      accepted := h.accepted
      numbered := by
        simp [Session.requests, hp', Point.unsettled, Back.count, hnum, hid, newQueryRequest,
          List.range_succ]
      made := by
        intro req hreq
        simp only [Session.requests, hp', Point.unsettled, Back.count] at hreq
        rcases List.mem_append.mp hreq with hreq | hreq
        · exact hmade req hreq
        · obtain rfl := List.mem_singleton.mp hreq
          rfl
      written := by
        have := h.written
        simpa [hp, hp', hprimary, Point.underway, Back.count] using this
      unsent := fun x hx hu => by simp [h.unsent x hx hu] at hp
      unsentLast := h.unsentLast
      fits := h.fits }
  | unwritten hp hw hp' hidle =>
    exact h.enter rfl (by rw [hp]; rfl) (by rw [hp]; rfl) (by rw [hp']; rfl) (by rw [hp']; rfl) hidle
      (fun _ => hp') trivial ht h.queue.leave (by simp [Back.leave, Back.writeFailed])
      (by simp [Back.leave, hp'])
  | @written f req hp hp' hw hid =>
    have hsent := (write_ok hw).1
    exact {
      tracked := ht
      queue := h.queue
      serving := by simpa [hp, hp', Back.written] using hserving
      accepted := h.accepted
      numbered := by
        have := h.numbered
        simpa [Session.requests, hp, hp', hid, Point.unsettled, Back.written] using this
      made := by
        have := h.made
        simpa [Session.requests, hp, hp', Point.unsettled, Back.written] using this
      written := by
        have := h.written
        simp only [hp, Point.underway, List.append_nil] at this
        simp [hp', hsent, this, Point.underway, Back.written]
      unsent := fun x hx hu => by simp [h.unsent x hx hu] at hp
      unsentLast := h.unsentLast
      fits := h.fits }
  | mirrored hp hp' hidle =>
    obtain ⟨fate, hledger, hne, hfits, hq, ha, hphase⟩ :=
      h.mirror cfg s.front.primary.sent.length hp
    exact h.enter hledger (by rw [hp]; rfl) (by rw [hp, if_neg hne]; rfl) (by rw [hp']; rfl)
      (by rw [hp']; rfl) hidle (fun hu => absurd hu hne) hfits ht hq ha
      (by simpa [hphase, hp, hp'] using hserving)
  | answered hp hp' hidle =>
    exact h.settled rfl (by rw [hp, hp']; rfl) (by rw [hp, hp']; rfl) hidle (by simp [hp]) ht
      h.queue rfl (by simpa [hp, hp', Back.answered] using hserving)
  | quit hp hp' hidle =>
    exact h.settled rfl (by rw [hp, hp']; rfl) (by rw [hp, hp']; rfl) hidle (by simp [hp]) ht
      h.queue.leave (by simp [Back.leave, Back.answered]) (by simp [Back.leave, hp'])
  | broken hp hp' hidle =>
    exact h.settled rfl (by rw [hp, hp']; rfl) (by rw [hp, hp']; rfl) hidle (by simp [hp]) ht
      h.queue.leave (by simp [Back.leave, Back.replyFailed]) (by simp [Back.leave, hp'])
  | closing hp =>
    exact h.settled rfl rfl rfl (.of_primary rfl rfl) id ht h.queue.close (by simp [Back.close])
      (by simpa [Back.close] using hserving)

lemma Booked.act (h : Booked primary shadow s) (act : Action) :
    Booked primary shadow (s.act cfg act) := by
  have hserving := h.serving
  cases act with
  | conn =>
    obtain ⟨hm, ht⟩ := conn_moves cfg h.tracked
    exact h.moves hm ht
  | timeout =>
    exact h.settled rfl rfl rfl (.of_primary rfl rfl) id h.tracked h.queue.timeout (by simp [Session.act])
      (by simpa [Session.act] using hserving)
  | worker pick =>
    exact h.settled rfl rfl rfl (.of_primary rfl rfl) id h.tracked (h.queue.step pick) (by simp [Session.act])
      (by simpa [Session.act] using hserving)

theorem exec_booked (cfg : Config) (client primary shadow : Conn) (logger : QueryLogger)
    (acts : List Action) :
    Booked primary (.start shadow logger)
      ((Session.start client primary shadow logger).exec cfg acts) := by
  induction acts using List.reverseRecOn with
  | nil => exact booked_start client primary shadow logger
  | append_singleton acts act ih =>
    rw [exec_concat]
    exact ih.act act

end Booked

def Session.processed (s : Session) : List QueryRequest := s.back.service.worker.finished

section Delivery
variable {primary shadow : Conn} {logger : QueryLogger} {s : Session}

lemma queued_sublist_forwarded (ledger : List (QueryRequest × Fate)) :
    (queued ledger).Sublist (forwarded ledger) := by
  unfold queued forwarded
  refine List.Sublist.map _ (List.monotone_filter_right _ ?_)
  intro x hx
  simp only [decide_eq_true_eq] at hx ⊢
  simp [hx]

lemma Booked.state (h : Booked primary (.start shadow logger) s) :
    s.back.service.worker.state = (Shadow.start shadow logger).after s.processed := h.queue.worked

lemma Booked.requests_nodup {shadow : Shadow} (h : Booked primary shadow s) : s.requests.Nodup := by
  refine List.Nodup.of_map QueryRequest.id ?_
  rw [h.numbered]
  exact List.nodup_range

lemma Booked.processed_nodup {shadow : Shadow} (h : Booked primary shadow s) :
    s.processed.Nodup := by
  have hsub : (queued s.back.ledger).Sublist s.requests :=
    ((List.filter_sublist).map Prod.fst).trans (List.sublist_append_left _ _)
  refine List.Nodup.sublist ?_ (hsub.nodup h.requests_nodup)
  rw [← h.accepted]
  exact h.queue.finished_prefix.sublist

lemma Booked.queryText {shadow : Shadow} (h : Booked primary shadow s) {x : QueryRequest × Fate}
    (hx : x ∈ s.back.ledger) : x.1.queryText = MySQLProxyLoop.queryText x.1.packet := by
  have hmem : x.1 ∈ s.requests := List.mem_append_left _ (List.mem_map_of_mem hx)
  rw [h.made _ hmem]
  rfl

lemma Booked.done_of_closed {shadow : Shadow} (h : Booked primary shadow s)
    (hclosed : s.back.service.phase = .closed) : s.front.point = .done := by
  by_contra hp
  rw [h.serving.mpr hp] at hclosed
  simp at hclosed

lemma Booked.processed_prefix {shadow : Shadow} (h : Booked primary shadow s) :
    s.processed <+: queued s.back.ledger := by
  rw [← h.accepted]
  exact h.queue.finished_prefix

lemma Booked.processed_all {shadow : Shadow} (h : Booked primary shadow s)
    (hclosed : s.back.service.phase = .closed) (hforce : s.back.service.worker.force = false) :
    s.processed = queued s.back.ledger := by
  rw [← h.accepted]
  exact h.queue.all_finished hclosed hforce

end Delivery

/-- Whenever a request with `P` is about to be mirrored, the queue has room. `P` is also given the
number of the sampling roll. -/
def RoomFor (cfg : Config) (P : ℕ → QueryRequest → Prop) (s : Session) (acts : List Action) : Prop :=
  EachStep (fun before act => act = .conn → ∀ req,
    (s.exec cfg before).front.point = .mirroring req →
      P (s.exec cfg before).front.primary.sent.length req →
      (s.exec cfg before).back.service.Room cfg.shadowQueueSize) acts

section Room
variable {cfg : Config} {P : ℕ → QueryRequest → Prop} {s s' : Session}

/-- A step of the session `s` in which the fate of a request is settled. -/
inductive Settles (cfg : Config) (s : Session) (req : QueryRequest) : Fate → Prop
  | unsent (hp : s.front.point = .writing req) (hw : s.front.primary.writable = some 0) :
      Settles cfg s req .unsent
  | quit (hp : s.front.point = .mirroring req) : Settles cfg s req .quit
  | filtered (hp : s.front.point = .mirroring req)
      (ha : ¬ cfg.Allows s.front.primary.sent.length req) (reason : FilterReason) :
      Settles cfg s req (.filtered reason)
  | offered (hp : s.front.point = .mirroring req) (hquit : (getMySQLCommand req.packet).1 ≠ comQuit)
      (ha : cfg.Allows s.front.primary.sent.length req) :
      Settles cfg s req (.offered (s.back.service.send cfg.shadowQueueSize req).1)

lemma Moves.ledger (hm : Moves cfg s s') {x : QueryRequest × Fate} (hx : x ∈ s'.back.ledger) :
    x ∈ s.back.ledger ∨ Settles cfg s x.1 x.2 := by
  cases hm with
  | unwritten hp hw =>
    rcases List.mem_append.mp hx with hx | hx
    · exact .inl hx
    · rw [List.mem_singleton.mp hx]
      exact .inr (.unsent hp (write_refused hw))
  | @mirrored f req hp hp' hidle =>
    rcases mirror_cases cfg s.back s.front.primary.sent.length req with
      ⟨-, hm⟩ | ⟨-, -, ha, reason, hm⟩ | ⟨hq, ha, hm⟩ <;> rw [hm] at hx <;>
      rcases List.mem_append.mp hx with hx | hx
    · exact .inl hx
    · rw [List.mem_singleton.mp hx]
      exact .inr (.quit hp)
    · exact .inl hx
    · rw [List.mem_singleton.mp hx]
      exact .inr (.filtered hp ha reason)
    · exact .inl hx
    · rw [List.mem_singleton.mp hx]
      exact .inr (.offered hp hq ha)
  | _ => exact .inl hx

lemma exec_settled {client primary shadow : Conn} {logger : QueryLogger} {acts : List Action}
    {req : QueryRequest} {fate : Fate}
    (hx : (req, fate) ∈ ((Session.start client primary shadow logger).exec cfg acts).back.ledger) :
    ∃ before after, acts = before ++ .conn :: after ∧
      Settles cfg ((Session.start client primary shadow logger).exec cfg before) req fate := by
  obtain ⟨before, act, after, rfl, hnew, hx⟩ :=
    exists_rise (fun s : Session => (req, fate) ∈ s.back.ledger)
      (by simp [Session.start, Back.start]) hx
  cases act with
  | conn =>
    have hb := exec_booked cfg client primary shadow logger before
    exact ⟨before, after, rfl, ((conn_moves cfg hb.tracked).1.ledger hx).resolve_left hnew⟩
  | timeout => exact absurd hx hnew
  | worker pick => exact absurd hx hnew

lemma RoomFor.not_dropped {client primary shadow : Conn} {logger : QueryLogger} {acts : List Action}
    (h : RoomFor cfg P (.start client primary shadow logger) acts) {Q : QueryRequest → Prop}
    (hQ : ∀ roll req, Q req → (getMySQLCommand req.packet).1 ≠ comQuit ∧ cfg.Allows roll req →
      P roll req) :
    ∀ x ∈ ((Session.start client primary shadow logger).exec cfg acts).back.ledger, Q x.1 →
      x.2 ≠ .offered .full := by
  rintro ⟨req, fate⟩ hx hq
  obtain ⟨before, after, rfl, hsettles⟩ := exec_settled hx
  cases hsettles with
  | unsent | quit | filtered => simp
  | offered hp hquit ha =>
    have hqueued := Service.send_queued_iff (a := req) |>.mpr
      (h before .conn after rfl rfl req hp (hQ _ _ hq ⟨hquit, ha⟩))
    simp [hqueued]

lemma Moves.ledger_extends (hm : Moves cfg s s') : s.back.ledger <+: s'.back.ledger := by
  cases hm with
  | unwritten => exact List.prefix_append _ _
  | @mirrored f req hp hp' hidle =>
    rcases mirror_cases cfg s.back s.front.primary.sent.length req with
      ⟨-, hm⟩ | ⟨-, -, -, reason, hm⟩ | ⟨-, -, hm⟩ <;> rw [hm] <;> exact List.prefix_append _ _
  | _ => exact List.prefix_rfl

lemma exec_ledger_extends (cfg : Config) (client primary shadow : Conn) (logger : QueryLogger)
    (before after : List Action) :
    ((Session.start client primary shadow logger).exec cfg before).back.ledger <+:
      ((Session.start client primary shadow logger).exec cfg (before ++ after)).back.ledger := by
  induction after using List.reverseRecOn with
  | nil => rw [List.append_nil]
  | append_singleton after act ih =>
    rw [← List.append_assoc, exec_concat]
    cases act with
    | conn =>
      have hb := exec_booked cfg client primary shadow logger (before ++ after)
      exact ih.trans (conn_moves cfg hb.tracked).1.ledger_extends
    | timeout => exact ih
    | worker pick => exact ih

/-- A request without a text is offered to the worker, and dropped if the queue has no room. -/
lemma Moves.dropped {primary : Conn} {shadow : Shadow} (hm : Moves cfg s s') (hb : Booked primary shadow s')
    {req : QueryRequest} (hp : s.front.point = .mirroring req) (htext : req.queryText = [])
    (hquit : (getMySQLCommand req.packet).1 ≠ comQuit)
    (hfull : ¬ s.back.service.Room cfg.shadowQueueSize) : (req, .offered .full) ∈ s'.back.ledger := by
  cases hm with
  | @mirrored f req' hp' =>
    obtain rfl : req' = req := by simpa [hp'] using hp
    have hfits := hb.fits
    rcases mirror_cases cfg s.back s.front.primary.sent.length req' with
      ⟨hq, -⟩ | ⟨-, hne, -⟩ | ⟨-, -, hm⟩
    · exact absurd hq hquit
    · exact absurd htext hne
    · simp only [hm, Back.send, List.mem_append, List.mem_singleton] at hfits ⊢
      have hsent := hfits _ (.inr rfl)
      have hnot := mt (Service.send_queued_iff (a := req')).mp hfull
      rcases hs : (s.back.service.send cfg.shadowQueueSize req').1 with _ | _ | _
      all_goals simp_all [Fate.Fits]
  | _ => simp_all

lemma roomFor_iff_not_dropped {client primary shadow : Conn} {logger : QueryLogger} {acts : List Action}
    {Q : QueryRequest → Prop} (hQ : ∀ req, Q req → MySQLProxyLoop.queryText req.packet = []) :
    RoomFor cfg (fun _ req => Q req ∧ (getMySQLCommand req.packet).1 ≠ comQuit)
        (.start client primary shadow logger) acts ↔
      ∀ x ∈ ((Session.start client primary shadow logger).exec cfg acts).back.ledger, Q x.1 →
        x.2 ≠ .offered .full := by
  constructor
  · intro h
    exact h.not_dropped fun _ _ hq hallowed => ⟨hq, hallowed.1⟩
  · rintro h before act after rfl rfl req hp ⟨hq, hquit⟩
    by_contra hfull
    have hb := exec_booked cfg client primary shadow logger before
    have hb' := exec_booked cfg client primary shadow logger (before ++ [.conn])
    rw [exec_concat] at hb'
    have hmade : req.queryText = MySQLProxyLoop.queryText req.packet := by
      rw [hb.made req (by simp [Session.requests, hp, Point.unsettled])]
      rfl
    have hin := (conn_moves cfg hb.tracked).1.dropped hb' hp (hmade.trans (hQ req hq)) hquit hfull
    have hext := exec_ledger_extends cfg client primary shadow logger (before ++ [.conn]) after
    rw [exec_concat, List.append_assoc, List.singleton_append] at hext
    exact h _ (hext.subset hin) hq rfl

lemma Moves.ledger_length (hm : Moves cfg s s') :
    s'.back.ledger.length ≤ s.back.ledger.length + 1 := by
  cases hm with
  | unwritten => simp [Back.leave, Back.writeFailed]
  | @mirrored f req hp hp' hidle =>
    rcases mirror_cases cfg s.back s.front.primary.sent.length req with
      ⟨-, hm⟩ | ⟨-, -, -, reason, hm⟩ | ⟨-, -, hm⟩ <;>
      simp [hm, Back.filterOut, Back.send]
  | _ => exact Nat.le_succ _

lemma exec_ledger_length (cfg : Config) (client primary shadow : Conn) (logger : QueryLogger)
    (acts : List Action) :
    ((Session.start client primary shadow logger).exec cfg acts).back.ledger.length ≤
      acts.length := by
  induction acts using List.reverseRecOn with
  | nil => simp [Session.start, Back.start]
  | append_singleton acts act ih =>
    rw [exec_concat, List.length_append, List.length_singleton]
    cases act with
    | conn =>
      have hb := exec_booked cfg client primary shadow logger acts
      exact (conn_moves cfg hb.tracked).1.ledger_length.trans (Nat.succ_le_succ ih)
    | timeout => exact Nat.le_succ_of_le ih
    | worker pick => exact Nat.le_succ_of_le ih

lemma roomFor_of_capacity {client primary shadow : Conn} {logger : QueryLogger} {acts : List Action}
    (h : acts.length < cfg.shadowQueueSize) :
    RoomFor cfg P (.start client primary shadow logger) acts := by
  rintro before act after rfl - req hp -
  have hb := exec_booked cfg client primary shadow logger before
  have hdrain : ¬ _ = true := fun hd => (hb.queue.draining.mp hd).1 (hb.serving.mpr (by simp [hp]))
  refine ⟨by simpa using hdrain, .inr ?_⟩
  have hlen := congrArg List.length hb.queue.conserved
  have hqueued : (queued ((Session.start client primary shadow logger).exec cfg
      before).back.ledger).length ≤ _ := (List.length_map _).trans_le (List.length_filter_le _ _)
  have hledger := exec_ledger_length cfg client primary shadow logger before
  simp only [List.length_append, List.length_cons] at hlen h
  rw [hb.accepted] at hlen
  omega

end Room

def Accepts (cfg : Config) (s : Session) (acts : List Action) : Prop :=
  EachStep (fun before act => act = .conn → ∀ req, (s.exec cfg before).front.point = .writing req →
    (s.exec cfg before).front.primary.writable ≠ some 0) acts

section Accepts
variable {cfg : Config} {s s' : Session} {client primary shadow : Conn} {logger : QueryLogger}
  {acts : List Action}

lemma Accepts.not_unsent (h : Accepts cfg (.start client primary shadow logger) acts) :
    ∀ x ∈ ((Session.start client primary shadow logger).exec cfg acts).back.ledger,
      x.2 ≠ .unsent := by
  rintro ⟨req, fate⟩ hx
  obtain ⟨before, after, rfl, hsettles⟩ := exec_settled hx
  cases hsettles with
  | unsent hp hclosed => exact absurd hclosed (h before .conn after rfl rfl req hp)
  | quit | filtered | offered => simp

lemma Moves.unlimited (hm : Moves cfg s s') (h : s.front.primary.writable = none) :
    s'.front.primary.writable = none := by
  cases hm with
  | gone _ _ hidle => exact hidle.writable.trans h
  | received _ _ hprimary _ => rwa [hprimary]
  | unwritten _ _ _ hidle => exact hidle.writable.trans h
  | written _ _ hw _ =>
    obtain ⟨c, hc, hopen⟩ := write_unlimited h _
    rw [hw] at hc
    exact (Prod.mk.inj hc).2 ▸ hopen
  | mirrored _ _ hidle => exact hidle.writable.trans h
  | answered _ _ hidle => exact hidle.writable.trans h
  | quit _ _ hidle => exact hidle.writable.trans h
  | broken _ _ hidle => exact hidle.writable.trans h
  | closing => exact h

lemma exec_unlimited (h : primary.writable = none) (acts : List Action) :
    ((Session.start client primary shadow logger).exec cfg acts).front.primary.writable = none := by
  induction acts using List.reverseRecOn with
  | nil => exact h
  | append_singleton acts act ih =>
    rw [exec_concat]
    cases act with
    | conn =>
      exact (conn_moves cfg (exec_booked cfg client primary shadow logger acts).tracked).1.unlimited ih
    | timeout => exact ih
    | worker pick => exact ih

lemma accepts_of_unlimited (h : primary.writable = none) :
    Accepts cfg (.start client primary shadow logger) acts := by
  rintro before act after - - req -
  rw [exec_unlimited h before]
  simp

end Accepts

end ShadowProxy.MySQLMirrorSession
