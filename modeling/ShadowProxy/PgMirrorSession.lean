import ShadowProxy.PgShadowWorker
import ShadowProxy.StreamCopy

/-! A mirrored PostgreSQL session: the goroutine of the connection with `runQueryLoop` and what
follows it, the two goroutines of `copyFallback`, and the worker behind its queue. All go on at their
own pace; a run is the list of the steps they take. -/
namespace ShadowProxy.PgMirrorSession
open WordBytes EventHistory NetConn StreamCopy PgProtocol ShadowFilter PgMirror PgQueryLoop QueryLog
  WorkQueue PgShadowWorker

/-- Where the goroutine of the connection stands: before a message is read, with a message that is
read, written to the primary, seen by the filter, sent to the worker; in `copyFallback`, before and
after it has closed the primary; or the loop has returned. -/
inductive Point
  | reading
  | writing (req : QueryRequest) (msg : PgPacket)
  | mirroring (req : QueryRequest) (msg : PgPacket)
  | sending (req : QueryRequest) (msg : PgPacket)
  | replying (req : QueryRequest) (msg : PgPacket)
  | copying
  | hangup
  | done
  deriving DecidableEq

/-- What became of a message: it was not written to the primary, was not to be mirrored, was filtered
out, or was given to `Send`. -/
inductive Route
  | unsent
  | withheld
  | filtered (reason : FilterReason)
  | sent
  deriving DecidableEq

structure Entry where
  req : QueryRequest
  msg : PgPacket
  route : Route
  deriving DecidableEq

structure Config where
  queryFilter : Option QueryFilter
  hasShadow : Bool
  shadowQueueSize : ℕ

/-- The counters with the label `primary`, and that of filtered messages. -/
structure Metrics where
  pgPackets : ℕ
  queryTotal : ℕ
  queryErrors : ℕ
  bytesSent : ℕ
  bytesReceived : ℕ
  shadowFilteredTotal : FilterReason → ℕ

def Metrics.zero : Metrics := ⟨0, 0, 0, 0, 0, fun _ => 0⟩

/-- What the client and the primary take part in. `up` copies from the client to the primary, `down`
the other way; neither runs before `copyFallback`. -/
structure Front where
  client : Conn
  primary : Conn
  point : Point
  nextID : ℕ
  up : Copier
  down : Copier

/-- What is kept for the shadow and for the operator. -/
structure Back where
  metrics : Metrics
  logger : QueryLogger
  sticky : StickyStmts
  mirror : Mirror
  ledger : List Entry

structure Session where
  front : Front
  back : Back

def Session.start (client primary shadow : Conn) (logger : QueryLogger) : Session :=
  ⟨⟨client, primary, .reading, 0, .ended, .ended⟩,
    ⟨.zero, logger, .empty, .start shadow logger, []⟩⟩

def logEntry (logger : QueryLogger) (req : QueryRequest) (bytesSent bytesRecv : ℕ)
    (err : Option Err) : QueryLogger :=
  logger.log (executionEntry .primary req bytesSent bytesRecv err)

def logFilteredShadow (logger : QueryLogger) (req : QueryRequest) (filterReason : FilterReason) :
    QueryLogger :=
  logger.log (filteredEntry req filterReason)

namespace Back

def leave (b : Back) : Back := { b with mirror := b.mirror.leave }

/-- `Close`, which runs when the loop has returned. -/
def close (b : Back) : Back := { b with mirror := b.mirror.close }

def count (b : Back) : Back :=
  { b with metrics := { b.metrics with pgPackets := b.metrics.pgPackets + 1 } }

def writeFailed (b : Back) (req : QueryRequest) (msg : PgPacket) (e : Err) : Back :=
  { b with
    metrics := { b.metrics with queryErrors := b.metrics.queryErrors + 1 }
    logger := logEntry b.logger req 0 0 (some e)
    ledger := b.ledger ++ [⟨req, msg, .unsent⟩] }

def written (b : Back) (msg : PgPacket) : Back :=
  { b with metrics := { b.metrics with
      bytesSent := b.metrics.bytesSent + msg.bytes.length
      queryTotal := b.metrics.queryTotal + (isPgCountableQuery msg.msgType).toNat } }

def withhold (b : Back) (req : QueryRequest) (msg : PgPacket) : Back :=
  { b with ledger := b.ledger ++ [⟨req, msg, .withheld⟩] }

def filterOut (b : Back) (req : QueryRequest) (msg : PgPacket) (filterReason : FilterReason)
    (sticky : StickyStmts) : Back :=
  { b with
    metrics := { b.metrics with shadowFilteredTotal := fun reason =>
      b.metrics.shadowFilteredTotal reason + (decide (reason = filterReason)).toNat }
    logger := logFilteredShadow b.logger req filterReason
    sticky := sticky
    ledger := b.ledger ++ [⟨req, msg, .filtered filterReason⟩] }

/-- The message is given to `Send`, which looks at the dead flag. -/
def offer (b : Back) (req : QueryRequest) (msg : PgPacket) (sticky : StickyStmts) : Back :=
  { b with
    sticky := sticky
    mirror := b.mirror.offer (shadowFrame req msg)
    ledger := b.ledger ++ [⟨req, msg, .sent⟩] }

def mirrorMessage (cfg : Config) (b : Back) (req : QueryRequest) (msg : PgPacket) : Back :=
  if cfg.hasShadow ∧ msg.msgType ≠ pgMsgTerminate then
    match mirrorFrame cfg.queryFilter b.sticky msg with
    | ((false, filterReason), sticky) => b.filterOut req msg filterReason sticky
    | ((true, _), sticky) => b.offer req msg sticky
  else b.withhold req msg

/-- `Send` comes to the queue, unless it has found the worker dead or was not called. -/
def enqueue (cfg : Config) (b : Back) : Back :=
  { b with mirror := b.mirror.enqueue cfg.shadowQueueSize }

def replyFailed (b : Back) (req : QueryRequest) (msg : PgPacket) (bytesRecv : ℕ) (e : Err) : Back :=
  { b with
    metrics := { b.metrics with queryErrors := b.metrics.queryErrors + 1 }
    logger := logEntry b.logger req msg.bytes.length bytesRecv (some e) }

def answered (b : Back) (req : QueryRequest) (msg : PgPacket) (bytesRecv : ℕ) : Back :=
  { b with
    metrics := { b.metrics with bytesReceived := b.metrics.bytesReceived + bytesRecv }
    logger := logEntry b.logger req msg.bytes.length bytesRecv none }

end Back

namespace Session

def receive (s : Session) : Session :=
  match readMessage s.front.client with
  | (.error _, client) => ⟨{ s.front with client := client, point := .done }, s.back.leave⟩
  | (.ok msg, client) =>
    ⟨{ s.front with
        client := client, nextID := s.front.nextID + 1
        point := .writing (newPgRequest s.front.nextID msg) msg }, s.back.count⟩

def writePrimary (s : Session) (req : QueryRequest) (msg : PgPacket) : Session :=
  match s.front.primary.write msg.bytes with
  | (some e, primary) =>
    ⟨{ s.front with primary := primary, point := .done }, (s.back.writeFailed req msg e).leave⟩
  | (none, primary) =>
    ⟨{ s.front with primary := primary, point := .mirroring req msg }, s.back.written msg⟩

def relayReply (s : Session) (req : QueryRequest) (msg : PgPacket) : Session :=
  if msg.msgType = pgMsgTerminate then
    ⟨{ s.front with point := .done }, (s.back.answered req msg 0).leave⟩
  else if expectsResponse msg then
    match forwardResponseUntilReady s.front.primary s.front.client with
    | (⟨bytesRecv, _, some e⟩, primary, client) =>
      ⟨{ s.front with client := client, primary := primary, point := .done },
        (s.back.replyFailed req msg bytesRecv e).leave⟩
    | (⟨bytesRecv, true, none⟩, primary, client) =>
      ⟨{ s.front with
          client := client, primary := primary, point := .copying, up := .reading, down := .reading },
        s.back.answered req msg bytesRecv⟩
    | (⟨bytesRecv, false, none⟩, primary, client) =>
      ⟨{ s.front with client := client, primary := primary, point := .reading },
        s.back.answered req msg bytesRecv⟩
  else ⟨{ s.front with point := .reading }, s.back.answered req msg 0⟩

/-- `copyFallback` waits for one of its goroutines and closes the primary. -/
def awaitCopy (s : Session) : Session :=
  if s.front.up = .ended ∨ s.front.down = .ended then
    ⟨{ s.front with primary := s.front.primary.close, point := .hangup }, s.back⟩
  else s

/-- The next step of the connection's goroutine: `runQueryLoop`, and `Close` after it. -/
def conn (cfg : Config) (s : Session) : Session :=
  match s.front.point with
  | .reading => s.receive
  | .writing req msg => s.writePrimary req msg
  | .mirroring req msg =>
    ⟨{ s.front with point := .sending req msg }, s.back.mirrorMessage cfg req msg⟩
  | .sending req msg => ⟨{ s.front with point := .replying req msg }, s.back.enqueue cfg⟩
  | .replying req msg => s.relayReply req msg
  | .copying => s.awaitCopy
  | .hangup => ⟨{ s.front with client := s.front.client.close, point := .done }, s.back.leave⟩
  | .done => ⟨s.front, s.back.close⟩

end Session

inductive Direction
  | up
  | down
  deriving DecidableEq

/-- A step of one of the goroutines of `copyFallback`, with a buffer of `n` bytes. -/
def Front.copy (n : ℕ) (f : Front) : Direction → Front
  | .up =>
    match f.up.step n f.client f.primary with
    | (up, client, primary) => { f with up := up, client := client, primary := primary }
  | .down =>
    match f.down.step n f.primary f.client with
    | (down, primary, client) => { f with down := down, client := client, primary := primary }

/-- A step of the connection or of a copying goroutine, the end of the wait for the drain, or a step
of the worker. -/
inductive Action
  | conn
  | copy (dir : Direction) (n : ℕ)
  | timeout
  | worker (pick : Pick)
  deriving DecidableEq

def Session.act (cfg : Config) (s : Session) : Action → Session
  | .conn => s.conn cfg
  | .copy dir n => { s with front := s.front.copy n dir }
  | .timeout => { s with back := { s.back with mirror := s.back.mirror.timeout } }
  | .worker pick => { s with back := { s.back with mirror := s.back.mirror.step pick } }

def Session.exec (cfg : Config) (acts : List Action) (s : Session) : Session :=
  acts.foldl (Session.act cfg) s

@[simp] lemma exec_nil (cfg : Config) (s : Session) : s.exec cfg [] = s := rfl

@[simp] lemma exec_concat (cfg : Config) (acts : List Action) (act : Action) (s : Session) :
    s.exec cfg (acts ++ [act]) = (s.exec cfg acts).act cfg act := by
  simp [Session.exec]

/-- The message is one that is given to `Send`. -/
def Back.Mirrors (cfg : Config) (b : Back) (msg : PgPacket) : Prop :=
  cfg.hasShadow = true ∧ msg.msgType ≠ pgMsgTerminate ∧
    (mirrorFrame cfg.queryFilter b.sticky msg).1.1 = true

lemma mirrorMessage_cases (cfg : Config) (b : Back) (req : QueryRequest) (msg : PgPacket) :
    ((cfg.hasShadow = false ∨ msg.msgType = pgMsgTerminate) ∧
      b.mirrorMessage cfg req msg = b.withhold req msg) ∨
    (cfg.hasShadow = true ∧ msg.msgType ≠ pgMsgTerminate ∧
      ∃ filterReason sticky, b.mirrorMessage cfg req msg = b.filterOut req msg filterReason sticky) ∨
    (b.Mirrors cfg msg ∧ ∃ sticky, b.mirrorMessage cfg req msg = b.offer req msg sticky) := by
  by_cases hm : cfg.hasShadow = true ∧ msg.msgType ≠ pgMsgTerminate
  · refine .inr ?_
    rcases hd : mirrorFrame cfg.queryFilter b.sticky msg with ⟨⟨_ | _, filterReason⟩, sticky⟩
    · exact .inl ⟨hm.1, hm.2, filterReason, sticky, by simp [Back.mirrorMessage, hm, hd]⟩
    · exact .inr ⟨⟨hm.1, hm.2, by rw [hd]⟩, sticky, by simp [Back.mirrorMessage, hm, hd]⟩
  · refine .inl ⟨?_, if_neg hm⟩
    by_cases hs : cfg.hasShadow = true
    · exact .inr (by simpa [hs] using hm)
    · exact .inl (by simpa using hs)

/-- The primary has at most been read, and no message was read from the client. -/
structure Front.Idles (f f' : Front) : Prop where
  sent : f'.primary.sent = f.primary.sent
  writable : f'.primary.writable = f.primary.writable
  nextID : f'.nextID = f.nextID

lemma Front.Idles.of_primary {f f' : Front} (h : f'.primary = f.primary) (hid : f'.nextID = f.nextID) :
    f.Idles f' := ⟨by rw [h], by rw [h], hid⟩

/-- Everything a step of the connection's goroutine can do. -/
inductive Moves (cfg : Config) (s : Session) : Session → Prop
  | gone {f : Front} : s.front.point = .reading → f.point = .done → s.front.Idles f →
      Moves cfg s ⟨f, s.back.leave⟩
  | received {f : Front} {msg : PgPacket} : s.front.point = .reading →
      f.point = .writing (newPgRequest s.front.nextID msg) msg → f.primary = s.front.primary →
      f.nextID = s.front.nextID + 1 → Moves cfg s ⟨f, s.back.count⟩
  | unwritten {f : Front} {req : QueryRequest} {msg : PgPacket} {e : Err} :
      s.front.point = .writing req msg → s.front.primary.write msg.bytes = (some e, f.primary) →
      f.point = .done → s.front.Idles f →
      Moves cfg s ⟨f, (s.back.writeFailed req msg e).leave⟩
  | written {f : Front} {req : QueryRequest} {msg : PgPacket} : s.front.point = .writing req msg →
      f.point = .mirroring req msg → s.front.primary.write msg.bytes = (none, f.primary) →
      f.nextID = s.front.nextID → Moves cfg s ⟨f, s.back.written msg⟩
  | mirrored {f : Front} {req : QueryRequest} {msg : PgPacket} :
      s.front.point = .mirroring req msg → f.point = .sending req msg → s.front.Idles f →
      Moves cfg s ⟨f, s.back.mirrorMessage cfg req msg⟩
  | enqueued {f : Front} {req : QueryRequest} {msg : PgPacket} :
      s.front.point = .sending req msg → f.point = .replying req msg → s.front.Idles f →
      Moves cfg s ⟨f, s.back.enqueue cfg⟩
  | answered {f : Front} {req : QueryRequest} {msg : PgPacket} {bytesRecv : ℕ} :
      s.front.point = .replying req msg → f.point = .reading ∨ f.point = .copying →
      s.front.Idles f → Moves cfg s ⟨f, s.back.answered req msg bytesRecv⟩
  | terminated {f : Front} {req : QueryRequest} {msg : PgPacket} :
      s.front.point = .replying req msg → f.point = .done → s.front.Idles f →
      Moves cfg s ⟨f, (s.back.answered req msg 0).leave⟩
  | broken {f : Front} {req : QueryRequest} {msg : PgPacket} {bytesRecv : ℕ} {e : Err} :
      s.front.point = .replying req msg → f.point = .done → s.front.Idles f →
      Moves cfg s ⟨f, (s.back.replyFailed req msg bytesRecv e).leave⟩
  | waiting : s.front.point = .copying → Moves cfg s s
  | hangup {f : Front} : s.front.point = .copying → f.point = .hangup → f.nextID = s.front.nextID →
      Moves cfg s ⟨f, s.back⟩
  | hungup {f : Front} : s.front.point = .hangup → f.point = .done → f.nextID = s.front.nextID →
      Moves cfg s ⟨f, s.back.leave⟩
  | closing : s.front.point = .done → Moves cfg s ⟨s.front, s.back.close⟩

section Conn
variable {cfg : Config} {s : Session}

lemma receive_moves (hp : s.front.point = .reading) : Moves cfg s s.receive := by
  unfold Session.receive
  rcases readMessage s.front.client with ⟨e | msg, client⟩
  · exact .gone hp rfl (.of_primary rfl rfl)
  · exact .received hp rfl rfl rfl

lemma writePrimary_moves {req : QueryRequest} {msg : PgPacket}
    (hp : s.front.point = .writing req msg) : Moves cfg s (s.writePrimary req msg) := by
  unfold Session.writePrimary
  rcases hw : s.front.primary.write msg.bytes with ⟨_ | e, primary⟩
  · exact .written hp rfl hw rfl
  · exact .unwritten hp hw rfl (.of_primary (write_error hw) rfl)

lemma relayReply_moves {req : QueryRequest} {msg : PgPacket}
    (hp : s.front.point = .replying req msg) : Moves cfg s (s.relayReply req msg) := by
  unfold Session.relayReply
  split_ifs
  · exact .terminated hp rfl (.of_primary rfl rfl)
  · obtain ⟨-, -, -, -, -, -, hreads, -⟩ := forwardResponseUntilReadyLoop_relays
      ((s.front.primary.pending.flatMap Segment.bytes).length + 1) 0 s.front.primary s.front.client
    rw [← forwardResponseUntilReady] at hreads
    rcases hf : forwardResponseUntilReady s.front.primary s.front.client with
      ⟨⟨n, copy, _ | e⟩, primary, client⟩ <;> rw [hf] at hreads
    · cases copy with
      | true => exact .answered hp (.inr rfl) ⟨hreads.sent, hreads.writable, rfl⟩
      | false => exact .answered hp (.inl rfl) ⟨hreads.sent, hreads.writable, rfl⟩
    · exact .broken hp rfl ⟨hreads.sent, hreads.writable, rfl⟩
  · exact .answered hp (.inl rfl) (.of_primary rfl rfl)

lemma conn_moves (cfg : Config) (s : Session) : Moves cfg s (s.conn cfg) := by
  unfold Session.conn
  cases hp : s.front.point with
  | reading => exact receive_moves hp
  | writing req msg => exact writePrimary_moves hp
  | mirroring req msg => exact .mirrored hp rfl (.of_primary rfl rfl)
  | sending req msg => exact .enqueued hp rfl (.of_primary rfl rfl)
  | replying req msg => exact relayReply_moves hp
  | copying =>
    dsimp only [Session.awaitCopy]
    split_ifs
    · exact .hangup hp rfl rfl
    · exact .waiting hp
  | hangup => exact .hungup hp rfl rfl
  | done => exact .closing hp

end Conn

def Front.Ended (f : Front) : Prop := f.up = .ended ∧ f.down = .ended

section Ended
variable {cfg : Config} {s : Session} {f : Front}

lemma Front.Ended.copy (h : f.Ended) (n : ℕ) (dir : Direction) : f.copy n dir = f := by
  obtain ⟨client, primary, point, nextID, up, down⟩ := f
  obtain ⟨rfl, rfl⟩ : up = .ended ∧ down = .ended := h
  cases dir <;> rfl

lemma Front.Ended.conn (h : s.front.Ended) (hp' : (s.conn cfg).front.point ≠ .copying) :
    (s.conn cfg).front.Ended := by
  unfold Session.conn at hp' ⊢
  cases hp : s.front.point with
  | reading =>
    simp only [Session.receive]
    rcases readMessage s.front.client with ⟨e | msg, client⟩ <;> exact h
  | writing req msg =>
    simp only [Session.writePrimary]
    rcases s.front.primary.write msg.bytes with ⟨_ | e, primary⟩ <;> exact h
  | replying req msg =>
    simp only [hp, Session.relayReply] at hp' ⊢
    split_ifs at hp' ⊢
    · exact h
    · rcases hf : forwardResponseUntilReady s.front.primary s.front.client with
        ⟨⟨n, copy, _ | e⟩, primary, client⟩
      · cases copy with
        | true => simp [hf] at hp'
        | false => exact h
      · exact h
    · exact h
  | copying =>
    simp only [Session.awaitCopy]
    split_ifs <;> exact h
  | _ => exact h

end Ended

def Point.unsettled : Point → List QueryRequest
  | .writing req _ | .mirroring req _ => [req]
  | .reading | .sending _ _ | .replying _ _ | .copying | .hangup | .done => []

def Session.requests (s : Session) : List QueryRequest :=
  s.back.ledger.map Entry.req ++ s.front.point.unsettled

/-- The frames that were given to `Send`. -/
def sentFrames (ledger : List Entry) : List QueuedFrame :=
  (ledger.filter fun x => x.route = .sent).map fun x => shadowFrame x.req x.msg

@[simp] lemma sentFrames_concat (ledger : List Entry) (x : Entry) :
    sentFrames (ledger ++ [x]) =
      sentFrames ledger ++ if x.route = .sent then [shadowFrame x.req x.msg] else [] := by
  by_cases h : x.route = .sent <;> simp [sentFrames, h]

/-- What holds of every session: the ledger accounts for the requests and for the calls of `Send`. -/
structure Booked (cfg : Config) (w₀ : PgShadow) (s : Session) : Prop where
  mirror : s.back.mirror.Booked w₀
  serving : s.back.mirror.service.phase = .serving ↔ s.front.point ≠ .done
  idle : s.back.mirror.sending ≠ none → ∃ req msg, s.front.point = .sending req msg
  calls : sentFrames s.back.ledger =
    s.back.mirror.ledger.map Prod.fst ++ s.back.mirror.sending.toList
  opened : ∀ x ∈ s.back.mirror.ledger, x.2 ≠ .offered .closed
  numbered : s.requests.map QueryRequest.id = List.range s.front.nextID
  unsent : ∀ x ∈ s.back.ledger, x.route = .unsent → s.front.point = .done
  withheld : ∀ x ∈ s.back.ledger, x.route = .withheld →
    cfg.hasShadow = false ∨ x.msg.msgType = pgMsgTerminate

section Booked
variable {cfg : Config} {w₀ : PgShadow} {s : Session}

lemma booked_start (cfg : Config) (client primary shadow : Conn) (logger : QueryLogger) :
    Booked cfg (.start shadow logger) (.start client primary shadow logger) where
  mirror := Mirror.booked_start shadow logger
  serving := by simp [Session.start, Mirror.start, Service.start]
  idle := by simp [Session.start, Mirror.start]
  calls := rfl
  opened := by simp [Session.start, Mirror.start]
  numbered := rfl
  unsent := by simp [Session.start]
  withheld := by simp [Session.start]

lemma Booked.settled (h : Booked cfg w₀ s) {s' : Session} (hledger : s'.back.ledger = s.back.ledger)
    (hunsettled : s'.front.point.unsettled = s.front.point.unsettled)
    (hid : s'.front.nextID = s.front.nextID)
    (hdone : s.front.point = .done → s'.front.point = .done) (hm : s'.back.mirror.Booked w₀)
    (hcalls : s'.back.mirror.ledger = s.back.mirror.ledger)
    (hsending : s'.back.mirror.sending = s.back.mirror.sending)
    (hidle : s.back.mirror.sending ≠ none → s'.front.point = s.front.point)
    (hs : s'.back.mirror.service.phase = .serving ↔ s'.front.point ≠ .done) : Booked cfg w₀ s' where
  mirror := hm
  serving := hs
  idle := by
    rw [hsending]
    exact fun hne => hidle hne ▸ h.idle hne
  calls := by rw [hledger, hcalls, hsending]; exact h.calls
  opened := by rw [hcalls]; exact h.opened
  numbered := by
    have := h.numbered
    rwa [Session.requests, ← hledger, ← hunsettled, ← hid] at this
  unsent := fun x hx hu => hdone (h.unsent x (hledger ▸ hx) hu)
  withheld := by rw [hledger]; exact h.withheld

lemma Booked.not_sending (h : Booked cfg w₀ s) (hp : ∀ req msg, s.front.point ≠ .sending req msg) :
    s.back.mirror.sending = none := by
  by_contra hne
  obtain ⟨req, msg, hs⟩ := h.idle hne
  exact hp req msg hs

lemma Booked.enter (h : Booked cfg w₀ s) {s' : Session} {x : Entry}
    (hledger : s'.back.ledger = s.back.ledger ++ [x]) (hreq : s.front.point.unsettled = [x.req])
    (hunsettled : s'.front.point.unsettled = []) (hid : s'.front.nextID = s.front.nextID)
    (hdone : x.route = .unsent → s'.front.point = .done)
    (hwithheld : x.route = .withheld → cfg.hasShadow = false ∨ x.msg.msgType = pgMsgTerminate)
    (hm : s'.back.mirror.Booked w₀)
    (hcalls : s'.back.mirror.ledger.map Prod.fst ++ s'.back.mirror.sending.toList =
      s.back.mirror.ledger.map Prod.fst ++ if x.route = .sent then [shadowFrame x.req x.msg] else [])
    (hopened : ∀ y ∈ s'.back.mirror.ledger, y ∈ s.back.mirror.ledger ∨ y.2 ≠ .offered .closed)
    (hidle : s'.back.mirror.sending ≠ none → ∃ req msg, s'.front.point = .sending req msg)
    (hs : s'.back.mirror.service.phase = .serving ↔ s'.front.point ≠ .done) : Booked cfg w₀ s' := by
  have hbusy : s.front.point ≠ .done ∧ ∀ req msg, s.front.point ≠ .sending req msg := by
    constructor
    · intro hp
      simp [hp, Point.unsettled] at hreq
    · intro req msg hp
      simp [hp, Point.unsettled] at hreq
  have hold := h.calls
  rw [h.not_sending hbusy.2, Option.toList_none, List.append_nil] at hold
  exact {
    mirror := hm
    serving := hs
    idle := hidle
    calls := by rw [hledger, sentFrames_concat, hcalls, hold]
    opened := fun y hy => (hopened y hy).elim (h.opened y) id
    numbered := by
      have := h.numbered
      rw [Session.requests, hreq] at this
      rw [Session.requests, hledger, hunsettled, hid, ← this]
      simp
    unsent := by
      rw [hledger]
      intro y hy hu
      rcases List.mem_append.mp hy with hy | hy
      · exact absurd (h.unsent y hy hu) hbusy.1
      · obtain rfl := List.mem_singleton.mp hy
        exact hdone hu
    withheld := by
      rw [hledger]
      intro y hy hw
      rcases List.mem_append.mp hy with hy | hy
      · exact h.withheld y hy hw
      · obtain rfl := List.mem_singleton.mp hy
        exact hwithheld hw }

lemma Booked.mirrored (h : Booked cfg w₀ s) {f : Front} {req : QueryRequest} {msg : PgPacket}
    (hp : s.front.point = .mirroring req msg) (hp' : f.point = .sending req msg)
    (hid : f.nextID = s.front.nextID) : Booked cfg w₀ ⟨f, s.back.mirrorMessage cfg req msg⟩ := by
  have hreq : s.front.point.unsettled = [req] := by rw [hp]; rfl
  have hunsettled : f.point.unsettled = [] := by rw [hp']; rfl
  have hnone := h.not_sending (by simp [hp])
  have hserving := h.serving
  have hs : s.back.mirror.service.phase = .serving ↔ f.point ≠ .done := by
    simpa [hp, hp'] using hserving
  rcases mirrorMessage_cases cfg s.back req msg with
    ⟨hwhy, hm⟩ | ⟨-, -, filterReason, sticky, hm⟩ | ⟨-, sticky, hm⟩ <;> rw [hm]
  · exact h.enter (x := ⟨req, msg, .withheld⟩) rfl hreq hunsettled hid (by simp) (fun _ => hwhy)
      h.mirror (by simp [Back.withhold, hnone]) (fun y hy => .inl hy) (fun _ => ⟨req, msg, hp'⟩) hs
  · exact h.enter (x := ⟨req, msg, .filtered filterReason⟩) rfl hreq hunsettled hid (by simp) (by simp)
      h.mirror (by simp [Back.filterOut, hnone]) (fun y hy => .inl hy) (fun _ => ⟨req, msg, hp'⟩) hs
  · obtain ⟨hcalls, hservice⟩ := Mirror.offer_calls (shadowFrame req msg) hnone
    refine h.enter (x := ⟨req, msg, .sent⟩) rfl hreq hunsettled hid (by simp) (by simp)
      (h.mirror.offer _) (by simpa [Back.offer] using hcalls) ?_ (fun _ => ⟨req, msg, hp'⟩)
      (by simpa [Back.offer, hservice] using hs)
    intro y hy
    rcases Mirror.mem_offer hy with hy | ⟨-, -, rfl⟩
    · exact .inl hy
    · exact .inr (by simp)

lemma Booked.enqueued (h : Booked cfg w₀ s) {f : Front} {req : QueryRequest} {msg : PgPacket}
    (hp : s.front.point = .sending req msg) (hp' : f.point = .replying req msg)
    (hid : f.nextID = s.front.nextID) : Booked cfg w₀ ⟨f, s.back.enqueue cfg⟩ := by
  obtain ⟨hcalls, hsending, hphase⟩ := Mirror.enqueue_calls cfg.shadowQueueSize s.back.mirror
  have hserving := h.serving.mpr (by simp [hp])
  have hun : f.point.unsettled = s.front.point.unsettled := by rw [hp, hp']; rfl
  exact {
    mirror := h.mirror.enqueue _
    serving := by simp [Back.enqueue, hphase, hserving, hp']
    idle := fun hne => absurd hsending hne
    calls := by simp [Back.enqueue, hcalls, hsending, h.calls]
    opened := by
      intro x hx
      rcases Mirror.mem_enqueue hx with hx | ⟨-, hx⟩
      · exact h.opened x hx
      · rw [hx]
        simpa using h.mirror.queue.send_open hserving _ _
    numbered := by
      have := h.numbered
      rwa [Session.requests, ← hun, ← hid] at this
    unsent := fun x hx hu => by simp [h.unsent x hx hu] at hp
    withheld := h.withheld }

lemma Booked.moves (h : Booked cfg w₀ s) {s' : Session} (hm : Moves cfg s s') : Booked cfg w₀ s' := by
  have hserving := h.serving
  cases hm with
  | gone hp hp' hidle =>
    have hnone := h.not_sending (by simp [hp])
    exact h.settled rfl (by rw [hp, hp']; rfl) hidle.nextID (by simp [hp]) h.mirror.leave
      (by simp [Back.leave]) (by simp [Back.leave]) (fun hne => absurd hnone hne)
      (by simp [Back.leave, Mirror.leave_phase hnone, hp'])
  | @received f msg hp hp' hprimary hid =>
    have hnum := h.numbered
    have hnone := h.not_sending (by simp [hp])
    simp only [Session.requests, hp, Point.unsettled, List.append_nil] at hnum
    exact {
      mirror := h.mirror
      serving := by simpa [hp, hp', Back.count] using hserving
      idle := fun hne => absurd hnone hne
      calls := h.calls
      opened := h.opened
      numbered := by
        simp [Session.requests, hp', Point.unsettled, Back.count, hnum, hid, newPgRequest,
          List.range_succ]
      unsent := fun x hx hu => by simp [h.unsent x hx hu] at hp
      withheld := h.withheld }
  | @unwritten f req msg e hp hw hp' hidle =>
    have hnone := h.not_sending (by simp [hp])
    exact h.enter (x := ⟨req, msg, .unsent⟩) rfl (by rw [hp]; rfl) (by rw [hp']; rfl) hidle.nextID
      (fun _ => hp') (by simp) h.mirror.leave (by simp [Back.leave, Back.writeFailed, hnone])
      (fun y hy => .inl (by simpa [Back.leave, Back.writeFailed] using hy))
      (by simp [Back.leave, Back.writeFailed, hnone])
      (by simp [Back.leave, Back.writeFailed, Mirror.leave_phase hnone, hp'])
  | written hp hp' hw hid =>
    have hnone := h.not_sending (by simp [hp])
    exact h.settled rfl (by rw [hp, hp']; rfl) hid (by simp [hp]) h.mirror rfl rfl
      (fun hne => absurd hnone hne) (by simpa [hp, hp', Back.written] using hserving)
  | mirrored hp hp' hidle => exact h.mirrored hp hp' hidle.nextID
  | enqueued hp hp' hidle => exact h.enqueued hp hp' hidle.nextID
  | answered hp hp' hidle =>
    have hnone := h.not_sending (by simp [hp])
    exact h.settled rfl (by rcases hp' with hp' | hp' <;> rw [hp, hp'] <;> rfl) hidle.nextID
      (by simp [hp]) h.mirror rfl rfl (fun hne => absurd hnone hne)
      (by rcases hp' with hp' | hp' <;> simpa [hp, hp', Back.answered] using hserving)
  | terminated hp hp' hidle =>
    have hnone := h.not_sending (by simp [hp])
    exact h.settled rfl (by rw [hp, hp']; rfl) hidle.nextID (by simp [hp]) h.mirror.leave
      (by simp [Back.leave, Back.answered]) (by simp [Back.leave, Back.answered])
      (fun hne => absurd hnone hne)
      (by simp [Back.leave, Back.answered, Mirror.leave_phase hnone, hp'])
  | broken hp hp' hidle =>
    have hnone := h.not_sending (by simp [hp])
    exact h.settled rfl (by rw [hp, hp']; rfl) hidle.nextID (by simp [hp]) h.mirror.leave
      (by simp [Back.leave, Back.replyFailed]) (by simp [Back.leave, Back.replyFailed])
      (fun hne => absurd hnone hne)
      (by simp [Back.leave, Back.replyFailed, Mirror.leave_phase hnone, hp'])
  | waiting => exact h
  | hangup hp hp' hid =>
    have hnone := h.not_sending (by simp [hp])
    exact h.settled rfl (by rw [hp, hp']; rfl) hid (by simp [hp]) h.mirror rfl rfl
      (fun hne => absurd hnone hne) (by simpa [hp, hp'] using hserving)
  | hungup hp hp' hid =>
    have hnone := h.not_sending (by simp [hp])
    exact h.settled rfl (by rw [hp, hp']; rfl) hid (by simp [hp]) h.mirror.leave
      (by simp [Back.leave]) (by simp [Back.leave]) (fun hne => absurd hnone hne)
      (by simp [Back.leave, Mirror.leave_phase hnone, hp'])
  | closing hp =>
    exact h.settled rfl rfl rfl id h.mirror.close rfl rfl (fun _ => rfl)
      (by simpa [Back.close, Mirror.close] using hserving)

@[simp] lemma copy_point (n : ℕ) (f : Front) (dir : Direction) : (f.copy n dir).point = f.point := by
  cases dir <;> rfl

@[simp] lemma copy_nextID (n : ℕ) (f : Front) (dir : Direction) : (f.copy n dir).nextID = f.nextID := by
  cases dir <;> rfl

lemma Booked.act (h : Booked cfg w₀ s) (act : Action) : Booked cfg w₀ (s.act cfg act) := by
  have hserving := h.serving
  cases act with
  | conn => exact h.moves (conn_moves cfg s)
  | copy dir n =>
    exact h.settled rfl (by simp [Session.act]) (by simp [Session.act]) (by simp [Session.act])
      h.mirror rfl rfl (by simp [Session.act]) (by simpa [Session.act] using hserving)
  | timeout =>
    exact h.settled rfl rfl rfl id h.mirror.timeout rfl rfl (fun _ => rfl)
      (by simpa [Session.act, Mirror.timeout] using hserving)
  | worker pick =>
    exact h.settled rfl rfl rfl id (h.mirror.step pick) rfl rfl (fun _ => rfl)
      (by simpa [Session.act, Mirror.step] using hserving)

theorem exec_booked (cfg : Config) (client primary shadow : Conn) (logger : QueryLogger)
    (acts : List Action) :
    Booked cfg (.start shadow logger)
      ((Session.start client primary shadow logger).exec cfg acts) := by
  induction acts using List.reverseRecOn with
  | nil => exact booked_start cfg client primary shadow logger
  | append_singleton acts act ih =>
    rw [exec_concat]
    exact ih.act act

end Booked

def loopState (s : Session) : LoopState :=
  ⟨s.front.client, s.front.primary, s.back.sticky,
    (sentFrames s.back.ledger).map QueuedFrame.toPgShadowFrame,
    (s.back.ledger.filter fun x => x.route ≠ .unsent).map Entry.msg⟩

def endState : Turn → LoopState
  | .again s | .stop s | .copyFallback s => s

def endPoint : Turn → Point
  | .again _ => .reading
  | .stop _ => .done
  | .copyFallback _ => .copying

section Turn
variable (cfg : Config)

lemma mirrorMessage_loopState (f : Front) (b : Back) (req : QueryRequest) (msg : PgPacket)
    (hterm : msg.msgType ≠ pgMsgTerminate) :
    loopState ⟨f, b.mirrorMessage cfg req msg⟩ =
      LoopState.mirror cfg.queryFilter cfg.hasShadow
        { loopState ⟨f, b⟩ with forwarded := (loopState ⟨f, b⟩).forwarded ++ [msg] } msg := by
  unfold Back.mirrorMessage LoopState.mirror
  cases cfg.hasShadow with
  | false => simp [loopState, Back.withhold]
  | true =>
    rw [if_pos ⟨rfl, hterm⟩]
    rcases hd : mirrorFrame cfg.queryFilter b.sticky msg with ⟨⟨_ | _, filterReason⟩, sticky⟩
    · simp [loopState, hd, Back.filterOut]
    · simp [loopState, hd, Back.offer, shadowFrame]

lemma relayReply_loopState (f : Front) (b : Back) (req : QueryRequest) (msg : PgPacket)
    (hterm : msg.msgType ≠ pgMsgTerminate) (hresp : expectsResponse msg = true) {n : ℕ} {copy : Bool}
    {err : Option Err} {primary client : Conn}
    (hf : forwardResponseUntilReady f.primary f.client = (⟨n, copy, err⟩, primary, client)) :
    loopState (Session.relayReply ⟨f, b⟩ req msg) =
        { loopState ⟨f, b⟩ with client := client, primary := primary } ∧
      (Session.relayReply ⟨f, b⟩ req msg).front.point =
        if err = none then (if copy then .copying else .reading) else .done := by
  unfold Session.relayReply
  rw [if_neg hterm, if_pos hresp, hf]
  cases err with
  | some e => exact ⟨rfl, rfl⟩
  | none => cases copy <;> exact ⟨rfl, rfl⟩

lemma exec_replying {f : Front} {b : Back} (hp : f.point = .reading) {msg : PgPacket}
    {client primary : Conn} (hr : readMessage f.client = (.ok msg, client))
    (hw : f.primary.write msg.bytes = (none, primary)) :
    Session.exec cfg (List.replicate 4 .conn) ⟨f, b⟩ =
      ⟨{ f with
          client := client, primary := primary, nextID := f.nextID + 1
          point := .replying (newPgRequest f.nextID msg) msg },
        ((b.count.written msg).mirrorMessage cfg (newPgRequest f.nextID msg) msg).enqueue cfg⟩ := by
  have hread : Session.conn cfg ⟨f, b⟩ =
      ⟨{ f with
          client := client, nextID := f.nextID + 1
          point := .writing (newPgRequest f.nextID msg) msg }, b.count⟩ := by
    simp only [Session.conn, hp, Session.receive, hr]
  have hwritten : ∀ b : Back, Session.conn cfg
      ⟨{ f with
          client := client, nextID := f.nextID + 1
          point := .writing (newPgRequest f.nextID msg) msg }, b⟩ =
      ⟨{ f with
          client := client, primary := primary, nextID := f.nextID + 1
          point := .mirroring (newPgRequest f.nextID msg) msg }, b.written msg⟩ := by
    intro b
    simp only [Session.conn, Session.writePrimary, hw]
  simp only [Session.exec, List.replicate, List.foldl_cons, List.foldl_nil, Session.act, hread,
    hwritten]
  rfl

/-- An iteration of the loop is made of at most five steps. -/
theorem turn_refined {s : Session} (hp : s.front.point = .reading) :
    ∃ k ≤ 5,
      loopState (s.exec cfg (List.replicate k .conn)) =
        endState (turn cfg.queryFilter cfg.hasShadow (loopState s)) ∧
      (s.exec cfg (List.replicate k .conn)).front.point =
        endPoint (turn cfg.queryFilter cfg.hasShadow (loopState s)) := by
  obtain ⟨f, b⟩ := s
  replace hp : f.point = .reading := hp
  rcases hr : readMessage f.client with ⟨e | msg, client⟩
  · refine ⟨1, by omega, ?_⟩
    simp [Session.exec, Session.act, Session.conn, hp, Session.receive, hr, turn, loopState, Back.leave,
      endState, endPoint]
  · rcases hw : f.primary.write msg.bytes with ⟨_ | e, primary⟩
    · refine ⟨5, le_rfl, ?_⟩
      rw [List.replicate_succ', exec_concat, exec_replying cfg hp hr hw]
      set f' : Front := { f with
        client := client, primary := primary, nextID := f.nextID + 1
        point := .replying (newPgRequest f.nextID msg) msg }
      by_cases hterm : msg.msgType = pgMsgTerminate
      · simp [Session.act, Session.conn, f', Session.relayReply, hterm, turn, loopState, hr, hw,
          endState, endPoint, Back.leave, Back.answered, Back.enqueue, Back.mirrorMessage,
          Back.withhold, Back.written, Back.count]
      · have hmirror : loopState ⟨f', ((b.count.written msg).mirrorMessage cfg
            (newPgRequest f.nextID msg) msg).enqueue cfg⟩ = _ :=
          mirrorMessage_loopState cfg f' (b.count.written msg) (newPgRequest f.nextID msg) msg hterm
        by_cases hresp : expectsResponse msg = true
        · rcases hf : forwardResponseUntilReady primary client with ⟨⟨n, copy, err⟩, primary', client'⟩
          obtain ⟨hl, hpoint⟩ := relayReply_loopState f' (((b.count.written msg).mirrorMessage cfg
            (newPgRequest f.nextID msg) msg).enqueue cfg) (newPgRequest f.nextID msg) msg hterm hresp hf
          refine ⟨hl.trans ?_, hpoint.trans ?_⟩
          · rw [hmirror]
            cases err with
            | some e =>
              simp only [turn, loopState, hr, hw, if_neg hterm, if_pos hresp, mirror_primary,
                mirror_client, hf]
              rfl
            | none =>
              cases copy <;>
              · simp only [turn, loopState, hr, hw, if_neg hterm, if_pos hresp, mirror_primary,
                  mirror_client, hf]
                rfl
          · cases err with
            | some e =>
              simp [turn, loopState, hr, hw, hterm, hresp, hf, endPoint]
            | none =>
              cases copy <;> simp [turn, loopState, hr, hw, hterm, hresp, hf, endPoint]
        · have hquiet : Session.relayReply ⟨f', ((b.count.written msg).mirrorMessage cfg
              (newPgRequest f.nextID msg) msg).enqueue cfg⟩ (newPgRequest f.nextID msg) msg =
              ⟨{ f' with point := .reading }, (((b.count.written msg).mirrorMessage cfg
                (newPgRequest f.nextID msg) msg).enqueue cfg).answered (newPgRequest f.nextID msg)
                msg 0⟩ := by
            rw [Session.relayReply, if_neg hterm, if_neg hresp]
          constructor
          · refine (congrArg loopState hquiet).trans (hmirror.trans ?_)
            simp only [turn, loopState, hr, hw, if_neg hterm, if_neg hresp, endState]
            rfl
          · refine (congrArg (fun s => s.front.point) hquiet).trans ?_
            simp [turn, loopState, hr, hw, hterm, hresp, endPoint]
    · refine ⟨2, by omega, ?_⟩
      simp [Session.exec, List.replicate, Session.act, Session.conn, hp, Session.receive, hr,
        Session.writePrimary, hw, turn, loopState, Back.leave, Back.writeFailed, Back.count, endState,
        endPoint]

end Turn

end ShadowProxy.PgMirrorSession
