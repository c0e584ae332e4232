import ShadowProxy.Fleet
import ShadowProxy.QueueProgress
import ShadowProxy.PgConnection
import ShadowProxy.PgShadowStart

/-! The listener of the PostgreSQL proxy with all its connections. A connection is followed from the
dial: TLS with the primary comes before anything else, and the shadow worker is started between the
authentication and the query loop. -/
namespace ShadowProxy.PgServer
open WordBytes NetConn Fleet ShadowFilter PgProtocol PgQueryLoop QueryLog PgStartup PgShadowWorker
  PgMirrorSession PgConnection PgShadowStart
open WorkQueue hiding Phase Stage

/-- The two digits of `%02x`. -/
def hexByte (b : UInt8) : String :=
  String.ofList [lowerHexDigit (b.toNat / 16), lowerHexDigit (b.toNat % 16)]

def backendSSLRequest : Bytes := (leBytes 4 8).reverse ++ (leBytes 4 pgMagicSSLRequest).reverse

/-- The connection over TLS, and the one underneath as it was left. -/
def upgradeBackendTLS (tls : Conn → Except Err Conn) (primary : Conn) : Except Err Conn × Conn :=
  match primary.write backendSSLRequest with
  | (some e, primary) => (.error (.wrap "send SSLRequest to primary" e), primary)
  | (none, primary) =>
    match primary.readFull 1 with
    | (.error e, primary) => (.error (.wrap "read SSLRequest response from primary" e), primary)
    | (.ok resp, primary) =>
      if resp.headD 0 ≠ 0x53 then
        (.error (.errorf ("primary refused TLS upgrade (replied 0x" ++ hexByte (resp.headD 0) ++
          "); PRIMARY_TLS_ENABLED is set but the backend will not accept TLS")), primary)
      else
        match tls primary with
        | .error e => (.error (.wrap "backend TLS handshake" e), primary)
        | .ok tlsConn => (.ok tlsConn, primary)

structure PgProxy where
  listenerTLS : Option (Conn → Option Err)
  backendTLS : Option (Conn → Except Err Conn)
  shadow : ShadowConfig
  queryFilter : Option QueryFilter
  shadowQueueSize : ℕ
  logger : QueryLogger

/-- What a client brings with it: what comes of the dial for it, of its draw and of the calls of
`pgconn`. -/
structure Arrival where
  client : Conn
  dial : Except Err Conn
  sampledOut : Bool
  pgconn : Pgconn

section Shadow
variable (p : PgProxy) (a : Arrival)

/-- There is a draw only with a filter. -/
def PgProxy.sampledOut : Bool := p.queryFilter.isSome && a.sampledOut

/-- What `Initialize` comes to for a connection that is not sampled out. -/
def PgProxy.worker (startup : PgPacket) : Except Err Conn :=
  (initializeWorker p.shadow a.pgconn ((parseStartupParams startup (ascii "database")).getD [])).2

/-- The error of `Initialize`, with which the connection goes on without a shadow. -/
def PgProxy.initErr (startup : PgPacket) : Option Err :=
  if p.shadow.shadowHost = [] then none
  else if p.sampledOut a then none
  else
    match p.worker a startup with
    | .error e => some e
    | .ok _ => none

def PgProxy.serve : Proxy where
  listenerTLS := p.listenerTLS
  startShadowWorker startup := (startShadowWorker p.shadow a.pgconn (p.sampledOut a) startup).2
  queryFilter := p.queryFilter
  shadowQueueSize := p.shadowQueueSize
  logger := p.logger

end Shadow

/-- How far `handleConnection` is. `raw` is the connection to the primary up to the handshake of TLS,
`initErr` what kept the shadow worker from starting. -/
inductive Stage
  | accepted (client : Conn)
  | dialed (client raw : Conn)
  | waiting (client raw : Conn)
  | connected (raw : Conn) (initErr : Option Err) (k : Connection)
  | primaryFailed (err : Err) (client : Conn)
  | upgradeFailed (err : Err) (client raw : Conn)
  | ended (raw : Conn) (initErr : Option Err) (k : Connection)

/-- The query loop is over and so is `Close`, or an earlier part has failed. -/
def returns (k : Connection) : Bool :=
  match k.phase with
  | .starting _ _ | .authenticating _ _ _ => false
  | .looping cfg s =>
    s.front.point = .done ∧ (cfg.hasShadow = false ∨ s.back.mirror.service.phase = .closed)
  | .returned none _ _ => true
  | .returned (some e) _ _ => !waits e

def hangUp (k : Connection) : Connection :=
  match k.phase with
  | .looping cfg s =>
    let front := { s.front with client := s.front.client.close, primary := s.front.primary.close }
    { k with phase := .looping cfg ⟨front, s.back⟩ }
  | _ => k

section Act
variable (p : PgProxy) (a : Arrival)

def Stage.dial (client : Conn) : Stage :=
  match a.dial with
  | .error e => .primaryFailed e client.close
  | .ok raw => .dialed client raw

def Stage.upgrade (client raw : Conn) : Stage :=
  match p.backendTLS with
  | none => .connected raw none (.start client raw)
  | some tls =>
    match upgradeBackendTLS tls raw with
    | (.ok tlsConn, raw) => .connected raw none (.start client tlsConn)
    | (.error e, raw) => if waits e then .waiting client raw else .upgradeFailed e client.close raw.close

/-- The error that the next step of the connection's goroutine brings from `Initialize`. -/
def noted (k : Connection) : Option Err :=
  match k.phase with
  | .authenticating startup client primary =>
    match forwardAuthTurn client primary with
    | (.ready, _, _) => p.initErr a startup
    | _ => none
  | _ => none

def Stage.act : Stage → Action → Stage
  | .accepted client, .conn => dial a client
  | .dialed client raw, .conn => upgrade p client raw
  | .connected raw initErr k, .conn =>
    if returns k then .ended raw.close initErr (hangUp k)
    else .connected raw (initErr.or (noted p a k)) (k.act (p.serve a) .conn)
  | .connected raw initErr k, act => .connected raw initErr (k.act (p.serve a) act)
  | stage, _ => stage

def Stage.exec (acts : List Action) (stage : Stage) : Stage := acts.foldl (Stage.act p a) stage

@[simp] lemma exec_nil (stage : Stage) : stage.exec p a [] = stage := rfl

@[simp] lemma exec_concat (acts : List Action) (act : Action) (stage : Stage) :
    stage.exec p a (acts ++ [act]) = (stage.exec p a acts).act p a act := by
  simp [Stage.exec]

end Act

section Upgrade
variable {tls : Conn → Except Err Conn} {primary raw conn : Conn} {e : Err}

lemma upgradeBackendTLS_ok (h : upgradeBackendTLS tls primary = (.ok conn, raw)) :
    raw.sent = primary.sent ++ [backendSSLRequest] ∧ raw.received = primary.received ++ [0x53] ∧
      tls raw = .ok conn := by
  unfold upgradeBackendTLS at h
  rcases hw : primary.write backendSSLRequest with ⟨_ | e, c⟩
  · obtain ⟨hsent, hrec⟩ := write_ok hw
    rcases hr : c.readFull 1 with ⟨e | resp, c'⟩
    · simp [hw, hr] at h
    · obtain ⟨hlen, hrec', hreads⟩ := readFull_ok hr
      obtain ⟨b, rfl⟩ := List.length_eq_one_iff.mp hlen
      by_cases hb : b = 0x53
      · subst hb
        rcases ht : tls c' with e | tlsConn
        · simp [hw, hr, ht] at h
        · obtain ⟨rfl, rfl⟩ : tlsConn = conn ∧ c' = raw := by simpa [hw, hr, ht] using h
          exact ⟨hreads.sent.trans hsent, by rw [hrec', hrec], ht⟩
      · simp [hw, hr, hb] at h
  · simp [hw] at h

lemma upgradeBackendTLS_sent (tls : Conn → Except Err Conn) (primary : Conn) :
    let raw := (upgradeBackendTLS tls primary).2
    raw.sent = primary.sent ∨ raw.sent = primary.sent ++ [backendSSLRequest] := by
  unfold upgradeBackendTLS
  rcases hw : primary.write backendSSLRequest with ⟨_ | e, c⟩
  · obtain ⟨hsent, -⟩ := write_ok hw
    refine .inr (.trans ?_ hsent)
    rcases hr : c.readFull 1 with ⟨e | resp, c'⟩
    · obtain ⟨new, -, hreads⟩ := readFull_error hr
      simpa only [hr] using hreads.sent
    · obtain ⟨-, -, hreads⟩ := readFull_ok hr
      simp only [hr]
      split_ifs
      · exact hreads.sent
      · cases tls c' <;> exact hreads.sent
  · exact .inl (by simp only [write_error hw])

end Upgrade

section FailsClosed
variable {p : PgProxy} {a : Arrival} {tls : Conn → Except Err Conn} {raw₀ : Conn}

def OnlyAsked (raw₀ raw : Conn) : Prop :=
  raw.sent = raw₀.sent ∨ raw.sent = raw₀.sent ++ [backendSSLRequest]

/-- The primary has been asked for TLS and nothing else, has agreed with a single byte, and all of the
session has gone over the connection that TLS has given. -/
def Secured (p : PgProxy) (a : Arrival) (tls : Conn → Except Err Conn) (raw₀ raw : Conn) (k : Connection) :
    Prop :=
  raw.sent = raw₀.sent ++ [backendSSLRequest] ∧ raw.received = raw₀.received ++ [0x53] ∧
    ∃ conn acts, tls raw = .ok conn ∧ k = (Connection.start a.client conn).exec (p.serve a) acts

/-- The client is not read or written before the connection to the primary is secured. -/
def Stage.FailsClosed (p : PgProxy) (a : Arrival) (tls : Conn → Except Err Conn) (raw₀ : Conn) :
    Stage → Prop
  | .accepted client => client = a.client
  | .dialed client raw => client = a.client ∧ raw = raw₀
  | .waiting client raw => client = a.client ∧ OnlyAsked raw₀ raw
  | .primaryFailed _ _ => False
  | .upgradeFailed _ client raw => client = a.client.close ∧ OnlyAsked raw₀ raw
  | .connected raw _ k => Secured p a tls raw₀ raw k
  | .ended raw' _ k' => ∃ raw k, raw' = raw.close ∧ k' = hangUp k ∧ Secured p a tls raw₀ raw k

lemma Secured.act {raw : Conn} {k : Connection} (h : Secured p a tls raw₀ raw k) (act : Action) :
    Secured p a tls raw₀ raw (k.act (p.serve a) act) := by
  obtain ⟨hsent, hrec, conn, acts, htls, rfl⟩ := h
  exact ⟨hsent, hrec, conn, acts ++ [act], htls, by simp [Connection.exec]⟩

lemma upgrade_failsClosed (htls : p.backendTLS = some tls) :
    (Stage.upgrade p a.client raw₀).FailsClosed p a tls raw₀ := by
  have hasked : OnlyAsked raw₀ (upgradeBackendTLS tls raw₀).2 := upgradeBackendTLS_sent tls raw₀
  simp only [Stage.upgrade, htls]
  rcases hup : upgradeBackendTLS tls raw₀ with ⟨e | conn, raw⟩
  · rw [hup] at hasked
    dsimp only
    split_ifs
    · exact ⟨rfl, hasked⟩
    · exact ⟨rfl, hasked⟩
  · obtain ⟨hsent, hrec, hconn⟩ := upgradeBackendTLS_ok hup
    exact ⟨hsent, hrec, conn, [], hconn, rfl⟩

lemma Stage.FailsClosed.act {stage : Stage} (h : stage.FailsClosed p a tls raw₀)
    (htls : p.backendTLS = some tls) (hdial : a.dial = .ok raw₀) (act : Action) :
    (stage.act p a act).FailsClosed p a tls raw₀ := by
  cases stage with
  | accepted client =>
    cases act with
    | conn => simpa only [Stage.act, Stage.dial, hdial] using ⟨h, rfl⟩
    | _ => exact h
  | dialed client raw =>
    obtain ⟨rfl, rfl⟩ := h
    cases act with
    | conn => exact upgrade_failsClosed htls
    | _ => exact ⟨rfl, rfl⟩
  | connected raw initErr k =>
    cases act with
    | conn =>
      dsimp only [Stage.act]
      split_ifs
      · exact ⟨raw, k, rfl, rfl, h⟩
      · exact Secured.act h .conn
    | _ => exact Secured.act h _
  | _ => exact h

/-- With TLS to the primary switched on, whatever the primary answers and in whatever order the
goroutines run: no byte of a client reaches the primary in the clear, and a client whose primary does
not come to TLS has been neither read nor answered. -/
theorem backend_tls_fails_closed (htls : p.backendTLS = some tls) (hdial : a.dial = .ok raw₀)
    (acts : List Action) : ((Stage.accepted a.client).exec p a acts).FailsClosed p a tls raw₀ := by
  induction acts using List.reverseRecOn with
  | nil => rfl
  | append_singleton acts act ih =>
    rw [exec_concat]
    exact ih.act htls hdial act

end FailsClosed

/-- TLS is asked for, and the session of `samplePrimary` goes on in it. -/
def sampleSecure : PgProxy := ⟨none, some fun _ => .ok samplePrimary, sampleConfig, none, 8, none⟩

/-- A primary that answers the request for TLS with the given byte. -/
def sampleAnswering (answer : UInt8) : Arrival :=
  ⟨sampleClient, .ok (.script [⟨[answer], none⟩]), false, samplePgconn⟩

def sampleSecuring (answer : UInt8) : Stage :=
  (Stage.accepted sampleClient).exec sampleSecure (sampleAnswering answer) (.conn :: .conn :: sampleActs)

/-- The primary refuses with `N`, or agrees with `S` and the session goes on. -/
theorem backend_tls_fails_closed_sample :
    (∃ e raw, sampleSecuring 0x4E = .upgradeFailed e sampleClient.close raw ∧
      OnlyAsked (.script [⟨[0x4E], none⟩]) raw) ∧
    ∃ raw initErr k, sampleSecuring 0x53 = .connected raw initErr k ∧
      Secured sampleSecure (sampleAnswering 0x53) (fun _ => .ok samplePrimary) (.script [⟨[0x53], none⟩]) raw k := by
  have hrefused := backend_tls_fails_closed (p := sampleSecure) (a := sampleAnswering 0x4E) rfl rfl
    (.conn :: .conn :: sampleActs)
  have hagreed := backend_tls_fails_closed (p := sampleSecure) (a := sampleAnswering 0x53) rfl rfl
    (.conn :: .conn :: sampleActs)
  exact ⟨⟨_, _, rfl, hrefused.2⟩, _, _, _, rfl, hagreed⟩

/-- The counters of connections; those with a label are split by it. -/
inductive Counter
  | activeConnections
  | totalConnections
  | connectionFailuresPrimary
  | tlsFailures
  | authFailuresPrimary
  | authFailuresShadow
  | shadowFilteredSampling
  | connectionsWithShadow
  | connectionsWithoutShadow
  | shadowDrainTimeouts
  deriving DecidableEq

/-- Every failure of `ConnectConfig` counts as one of authentication, that of the dial included. -/
def authFailed : Err → Bool
  | .wrap "shadow connect" _ => true
  | _ => false

section Effects
variable (p : PgProxy) (a : Arrival)

def startEffects (startup : PgPacket) : List (Effect Counter) :=
  if p.shadow.shadowHost = [] then []
  else if p.sampledOut a then [.inc .shadowFilteredSampling, .inc .connectionsWithoutShadow]
  else
    match p.worker a startup with
    | .error e =>
      (if authFailed e then [.inc .authFailuresShadow] else []) ++ [.inc .connectionsWithoutShadow]
    | .ok _ => [.register, .inc .connectionsWithShadow]

def connEffects (k : Connection) : List (Effect Counter) :=
  match k.phase with
  | .starting client primary =>
    match forwardStartupTurn p.listenerTLS client primary with
    | (.upgradeFailed e, _, _) => if waits e then [] else [.inc .tlsFailures]
    | _ => []
  | .authenticating startup client primary =>
    match forwardAuthTurn client primary with
    | (.ready, _, _) => startEffects p a startup
    | (.rejected, _, _) => [.inc .authFailuresPrimary]
    | _ => []
  | .looping cfg s =>
    if cfg.hasShadow ∧ s.front.point = .done ∧ s.back.mirror.service.phase = .leaving then [.unregister]
    else []
  | .returned _ _ _ => []

def effects : Stage → Action → List (Effect Counter)
  | .accepted _, .conn =>
    [.inc .activeConnections, .inc .totalConnections] ++
      match a.dial with
      | .error _ => [.inc .connectionFailuresPrimary, .dec .activeConnections]
      | .ok _ => []
  | .dialed _ raw, .conn =>
    match p.backendTLS with
    | none => []
    | some tls =>
      match upgradeBackendTLS tls raw with
      | (.ok _, _) => []
      | (.error e, _) => if waits e then [] else [.inc .tlsFailures, .dec .activeConnections]
  | .connected _ _ k, .conn => if returns k then [.dec .activeConnections] else connEffects p a k
  | .connected _ _ k, .timeout =>
    match k.phase with
    | .looping cfg s =>
      if cfg.hasShadow ∧ s.back.mirror.service.phase = .draining then [.inc .shadowDrainTimeouts] else []
    | _ => []
  | _, _ => []

end Effects

def machine (p : PgProxy) : Machine Arrival Stage Action Counter where
  start a := .accepted a.client
  step a := Stage.act p a
  effects a := effects p a
  fatal _ := false

abbrev Server := System Arrival Stage Counter

def run (p : PgProxy) (events : List (Event Arrival Action)) : Server := System.start.exec (machine p) events

/-- What a counter stands for in a connection that is served. -/
def countedIn (p : PgProxy) (a : Arrival) (initErr : Option Err) (k : Connection) : Counter → Bool
  | .tlsFailures =>
    match k.phase with
    | .returned (some e) _ _ => k.tlsFailures ≠ 0 ∧ waits e = false
    | _ => false
  | .authFailuresPrimary => k.authFailures ≠ 0
  | .authFailuresShadow => initErr.any authFailed
  | .shadowFilteredSampling =>
    match k.phase with
    | .looping _ _ => p.shadow.shadowHost ≠ [] ∧ p.sampledOut a
    | _ => false
  | .connectionsWithShadow =>
    match k.phase with
    | .looping cfg _ => cfg.hasShadow
    | _ => false
  | .connectionsWithoutShadow =>
    match k.phase with
    | .looping cfg _ => p.shadow.shadowHost ≠ [] ∧ cfg.hasShadow = false
    | _ => false
  | .shadowDrainTimeouts =>
    match k.phase with
    | .looping cfg s => cfg.hasShadow ∧ s.back.mirror.service.worker.force
    | _ => false
  | .activeConnections | .totalConnections | .connectionFailuresPrimary => false

def counted (p : PgProxy) (a : Arrival) : Stage → Counter → Bool
  | .accepted _, _ => false
  | .dialed _ _, c | .waiting _ _, c => c = .activeConnections ∨ c = .totalConnections
  | .primaryFailed _ _, c => c = .totalConnections ∨ c = .connectionFailuresPrimary
  | .upgradeFailed _ _ _, c => c = .totalConnections ∨ c = .tlsFailures
  | .connected _ initErr k, c =>
    c = .activeConnections ∨ c = .totalConnections ∨ countedIn p a initErr k c
  | .ended _ initErr k, c => c = .totalConnections ∨ countedIn p a initErr k c

/-- The worker is started and `Close` has not begun. -/
def registered : Stage → Bool
  | .connected _ _ k =>
    match k.phase with
    | .looping cfg s => cfg.hasShadow && s.back.mirror.service.isOpen
    | _ => false
  | _ => false

section Session
variable {cfg : Config} {s s' : Session}

lemma leave_tended (m : Mirror) (capacity : ℕ) (done : Prop) :
    m.service.Tended capacity done m.leave.service := by
  unfold Mirror.leave
  split_ifs
  · exact .idle
  · exact .leaves

lemma moves_tended (h : Moves cfg s s') :
    s.back.mirror.service.Tended cfg.shadowQueueSize (s.front.point = .done) s'.back.mirror.service := by
  have hleave := leave_tended s.back.mirror cfg.shadowQueueSize (s.front.point = .done)
  cases h with
  | gone => exact hleave
  | received => exact .idle
  | unwritten => exact hleave
  | written => exact .idle
  | @mirrored _ req msg =>
    obtain ⟨-, hb⟩ | ⟨-, -, reason, sticky, hb⟩ | ⟨-, sticky, hb⟩ := mirrorMessage_cases cfg s.back req msg <;>
      rw [hb]
    · exact .idle
    · exact .idle
    · simp only [Back.offer, Mirror.offer]
      split_ifs <;> exact .idle
  | enqueued =>
    simp only [Back.enqueue, Mirror.enqueue]
    cases s.back.mirror.sending with
    | none => exact .idle
    | some frame => exact .sends frame
  | answered => exact .idle
  | terminated => exact hleave
  | broken => exact hleave
  | waiting => exact .idle
  | hangup => exact .idle
  | hungup => exact hleave
  | closing hp => exact .closes hp

/-- What a connection needs to know about its session. -/
structure Kept (cfg : Config) (s : Session) : Prop where
  booked : ∃ w₀, Booked cfg w₀ s
  bounds : Bounds cfg.shadowQueueSize s.back.mirror.service

lemma kept_start (cfg : Config) (client primary shadow : Conn) (logger : QueryLogger) :
    Kept cfg (.start client primary shadow logger) :=
  ⟨⟨_, booked_start cfg client primary shadow logger⟩, bounds_start _ _⟩

lemma Kept.serving (h : Kept cfg s) : s.back.mirror.service.phase = .serving ↔ s.front.point ≠ .done := by
  obtain ⟨w₀, hb⟩ := h.booked
  exact hb.serving

lemma Kept.act (h : Kept cfg s) (act : Action) : Kept cfg (s.act cfg act) := by
  obtain ⟨w₀, hb⟩ := h.booked
  refine ⟨⟨w₀, hb.act act⟩, ?_⟩
  cases act with
  | conn => exact (moves_tended (conn_moves cfg s)).bounds h.bounds
  | copy dir n => exact h.bounds
  | timeout => exact h.bounds.timeout
  | worker pick => exact h.bounds.step _ pick

end Session

def SaneIn (p : PgProxy) (initErr : Option Err) (k : Connection) : Prop :=
  match k.phase with
  | .starting _ _ | .authenticating _ _ _ => k.tlsFailures = 0 ∧ k.authFailures = 0 ∧ initErr = none
  | .looping cfg s => cfg.shadowQueueSize = p.shadowQueueSize ∧ Kept cfg s
  | .returned _ _ _ => True

def Sane (p : PgProxy) : Stage → Prop
  | .connected _ initErr k => SaneIn p initErr k
  | _ => True

section Sane
variable {p : PgProxy} {a : Arrival} {stage : Stage} {k : Connection} {initErr : Option Err}

lemma sane_runQueryLoop (startup : PgPacket) (client primary : Conn) (initErr : Option Err)
    (tlsFailures authFailures : ℕ) :
    SaneIn p initErr
      ⟨Connection.runQueryLoop (p.serve a) startup client primary, tlsFailures, authFailures⟩ := by
  unfold Connection.runQueryLoop
  cases (p.serve a).startShadowWorker startup with
  | none => exact ⟨rfl, kept_start _ _ _ _ _⟩
  | some shadow => exact ⟨rfl, kept_start _ _ _ _ _⟩

lemma SaneIn.conn (h : SaneIn p initErr k) :
    SaneIn p (initErr.or (noted p a k)) (k.act (p.serve a) .conn) := by
  obtain ⟨phase, tlsFailures, authFailures⟩ := k
  cases phase with
  | starting client primary =>
    obtain ⟨rfl, rfl, rfl⟩ := h
    simp only [Connection.act, Connection.forwardStartup, noted, Option.or_none]
    rcases forwardStartupTurn (p.serve a).listenerTLS client primary with ⟨_ | _ | _ | _ | _, c, c'⟩
    · exact ⟨rfl, rfl, rfl⟩
    · trivial
    · exact ⟨rfl, rfl, rfl⟩
    · trivial
    · trivial
  | authenticating startup client primary =>
    obtain ⟨rfl, rfl, rfl⟩ := h
    simp only [Connection.act, Connection.forwardAuthPhase, noted]
    rcases forwardAuthTurn client primary with ⟨_ | _ | _ | _, c, c'⟩
    · exact ⟨rfl, rfl, rfl⟩
    · exact sane_runQueryLoop startup c c' _ 0 0
    · trivial
    · trivial
  | looping cfg s => exact ⟨h.1, h.2.act .conn⟩
  | returned err client primary => trivial

lemma SaneIn.act (h : SaneIn p initErr k) {act : Action} (hact : act ≠ .conn) :
    SaneIn p initErr (k.act (p.serve a) act) := by
  obtain ⟨phase, tlsFailures, authFailures⟩ := k
  cases phase with
  | looping cfg s => exact ⟨h.1, h.2.act act⟩
  | _ =>
    cases act with
    | conn => exact absurd rfl hact
    | _ => exact h

lemma Sane.act (h : Sane p stage) (a : Arrival) (act : Action) : Sane p (stage.act p a act) := by
  cases stage with
  | accepted client =>
    cases act with
    | conn =>
      simp only [Stage.act, Stage.dial]
      cases a.dial <;> trivial
    | _ => trivial
  | dialed client raw =>
    cases act with
    | conn =>
      simp only [Stage.act, Stage.upgrade]
      cases p.backendTLS with
      | none => exact ⟨rfl, rfl, rfl⟩
      | some tls =>
        rcases hup : upgradeBackendTLS tls raw with ⟨e | conn, raw'⟩ <;> simp only [hup]
        · split_ifs <;> trivial
        · exact ⟨rfl, rfl, rfl⟩
    | _ => trivial
  | connected raw initErr k =>
    cases act with
    | conn =>
      dsimp only [Stage.act]
      split_ifs
      · trivial
      · exact SaneIn.conn h
    | _ => exact SaneIn.act h (by simp)
  | _ => trivial

lemma reachable_sane (h : (machine p).Reachable a stage) : Sane p stage := by
  obtain ⟨acts, rfl⟩ := h
  induction acts using List.reverseRecOn with
  | nil => trivial
  | append_singleton acts act ih =>
    rw [List.foldl_concat]
    exact ih.act a act

end Sane

section Counts
variable {p : PgProxy} {a : Arrival} {stage : Stage} {k : Connection} {initErr : Option Err}

lemma serve_startShadowWorker (p : PgProxy) (a : Arrival) (startup : PgPacket) :
    (p.serve a).startShadowWorker startup =
      if p.shadow.shadowHost = [] then none
      else if p.sampledOut a then none
      else (p.worker a startup).toOption := by
  simp only [PgProxy.serve, PgShadowStart.startShadowWorker]
  split_ifs <;> rfl

/-- The calls of a step change a counter as the step changes what it counts. -/
def Balanced (p : PgProxy) (a : Arrival) (stage : Stage) (act : Action) : Prop :=
  ∀ c, (counted p a stage c).toInt + net c (effects p a stage act) =
    (counted p a (stage.act p a act) c).toInt

lemma balanced_accepted (client : Conn) : Balanced p a (.accepted client) .conn := by
  intro c
  cases hd : a.dial with
  | error e => cases c <;> simp [effects, Stage.act, Stage.dial, hd, net, counted]
  | ok raw => cases c <;> simp [effects, Stage.act, Stage.dial, hd, net, counted]

lemma balanced_dialed (client raw : Conn) : Balanced p a (.dialed client raw) .conn := by
  have hstart (conn : Conn) (c : Counter) : countedIn p a none (.start client conn) c = false := by
    cases c <;> rfl
  intro c
  cases ht : p.backendTLS with
  | none => simp [effects, Stage.act, Stage.upgrade, ht, net, counted, hstart]
  | some tls =>
    rcases hup : upgradeBackendTLS tls raw with ⟨e | conn, raw'⟩
    · cases hw : waits e with
      | true => simp [effects, Stage.act, Stage.upgrade, ht, hup, hw, net, counted]
      | false => cases c <;> simp [effects, Stage.act, Stage.upgrade, ht, hup, hw, net, counted]
    · simp [effects, Stage.act, Stage.upgrade, ht, hup, net, counted, hstart]

/-- The same for the calls that only a connection that is served makes. -/
def BalancedIn (p : PgProxy) (a : Arrival) (initErr : Option Err) (k : Connection) : Prop :=
  ∀ c, (countedIn p a initErr k c).toInt + net c (connEffects p a k) =
    (countedIn p a (initErr.or (noted p a k)) (k.act (p.serve a) .conn) c).toInt

lemma balancedIn_starting (client primary : Conn) :
    BalancedIn p a none ⟨.starting client primary, 0, 0⟩ := by
  intro c
  rcases hturn : forwardStartupTurn p.listenerTLS client primary with ⟨_ | _ | startup | e | e, client', primary'⟩ <;>
    have hserve : forwardStartupTurn (p.serve a).listenerTLS client primary = _ := hturn
  · cases c <;> simp [connEffects, noted, Connection.act, Connection.forwardStartup, hturn, hserve, net, countedIn]
  · cases c <;> simp [connEffects, noted, Connection.act, Connection.forwardStartup, hturn, hserve, net, countedIn,
      Phase.finish]
  · cases c <;> simp [connEffects, noted, Connection.act, Connection.forwardStartup, hturn, hserve, net, countedIn]
  · cases hw : waits e <;> cases c <;>
      simp [connEffects, noted, Connection.act, Connection.forwardStartup, hturn, hserve, net, countedIn,
        Phase.finish, hw]
  · cases c <;> simp [connEffects, noted, Connection.act, Connection.forwardStartup, hturn, hserve, net, countedIn,
      Phase.finish]

lemma balancedIn_ready {startup : PgPacket} {client primary client' primary' : Conn}
    (hturn : forwardAuthTurn client primary = (.ready, client', primary')) :
    BalancedIn p a none ⟨.authenticating startup client primary, 0, 0⟩ := by
  intro c
  have hserve := serve_startShadowWorker p a startup
  simp only [connEffects, noted, Connection.act, Connection.forwardAuthPhase, hturn, Option.none_or,
    Connection.runQueryLoop, hserve, startEffects, PgProxy.initErr]
  by_cases hhost : p.shadow.shadowHost = []
  · cases c <;> simp [hhost, net, countedIn]
  · cases hdraw : p.sampledOut a with
    | true => cases c <;> simp [hhost, hdraw, net, countedIn]
    | false =>
      cases hw : p.worker a startup with
      | ok shadow =>
        cases c <;> simp [hhost, hdraw, net, countedIn, Except.toOption, Session.start, Mirror.start, Service.start]
      | error e =>
        cases he : authFailed e <;> cases c <;> simp [hhost, hdraw, he, net, countedIn, Except.toOption]

lemma balancedIn_authenticating (startup : PgPacket) (client primary : Conn) :
    BalancedIn p a none ⟨.authenticating startup client primary, 0, 0⟩ := by
  rcases hturn : forwardAuthTurn client primary with ⟨_ | _ | _ | e, client', primary'⟩
  · intro c
    cases c <;> simp [connEffects, noted, Connection.act, Connection.forwardAuthPhase, hturn, net, countedIn]
  · exact balancedIn_ready hturn
  · intro c
    cases c <;> simp [connEffects, noted, Connection.act, Connection.forwardAuthPhase, hturn, net, countedIn,
      Phase.finish]
  · intro c
    cases c <;> simp [connEffects, noted, Connection.act, Connection.forwardAuthPhase, hturn, net, countedIn,
      Phase.finish]

lemma balancedIn_looping (cfg : Config) (s : Session) (tlsFailures authFailures : ℕ) :
    BalancedIn p a initErr ⟨.looping cfg s, tlsFailures, authFailures⟩ := by
  have hforce := (moves_tended (conn_moves cfg s)).force
  have hact : s.act cfg .conn = s.conn cfg := rfl
  intro c
  by_cases hun : cfg.hasShadow ∧ s.front.point = .done ∧ s.back.mirror.service.phase = .leaving
  · cases c <;> simp [connEffects, noted, Connection.act, hun, net, countedIn, hact, hforce]
  · cases c <;> simp [connEffects, noted, Connection.act, hun, net, countedIn, hact, hforce]

lemma SaneIn.balancedIn (h : SaneIn p initErr k) : BalancedIn p a initErr k := by
  obtain ⟨phase, tlsFailures, authFailures⟩ := k
  cases phase with
  | starting client primary =>
    obtain ⟨rfl, rfl, rfl⟩ := h
    exact balancedIn_starting client primary
  | authenticating startup client primary =>
    obtain ⟨rfl, rfl, rfl⟩ := h
    exact balancedIn_authenticating startup client primary
  | looping cfg s => exact balancedIn_looping cfg s tlsFailures authFailures
  | returned err client primary =>
    intro c
    simp [connEffects, noted, Connection.act, net]

lemma countedIn_hangUp (p : PgProxy) (a : Arrival) (initErr : Option Err) (k : Connection) (c : Counter) :
    countedIn p a initErr (hangUp k) c = countedIn p a initErr k c := by
  obtain ⟨phase, tlsFailures, authFailures⟩ := k
  cases phase <;> cases c <;> rfl

lemma balanced_conn (raw : Conn) (h : SaneIn p initErr k) : Balanced p a (.connected raw initErr k) .conn := by
  intro c
  cases hret : returns k with
  | true =>
    have hactive : countedIn p a initErr k .activeConnections = false := rfl
    cases c <;> simp [effects, Stage.act, hret, net, counted, countedIn_hangUp, hactive]
  | false =>
    have hin := h.balancedIn (a := a) c
    cases c <;> simpa [effects, Stage.act, hret, counted, countedIn] using hin

lemma balanced_timeout (raw : Conn) (h : SaneIn p initErr k) :
    Balanced p a (.connected raw initErr k) .timeout := by
  intro c
  obtain ⟨phase, tlsFailures, authFailures⟩ := k
  cases phase with
  | looping cfg s =>
    by_cases hp : s.back.mirror.service.phase = .draining
    · have hforce : s.back.mirror.service.worker.force = false := by
        by_contra hf
        simpa [hp] using h.2.bounds.force (by simpa using hf)
      cases hs : cfg.hasShadow <;> cases c <;>
        simp [effects, Stage.act, Connection.act, Session.act, Mirror.timeout, Service.timeout, hp, hs, hforce,
          net, counted, countedIn]
    · cases c <;> simp [effects, Stage.act, Connection.act, Session.act, Mirror.timeout, Service.timeout, hp,
        net, counted, countedIn]
  | _ => simp [effects, Stage.act, Connection.act, net, counted]

lemma balanced_other (raw : Conn) {act : Action} (hconn : act ≠ .conn) (htimeout : act ≠ .timeout) :
    Balanced p a (.connected raw initErr k) act := by
  intro c
  obtain ⟨phase, tlsFailures, authFailures⟩ := k
  cases act with
  | conn => exact absurd rfl hconn
  | timeout => exact absurd rfl htimeout
  | copy dir n => cases phase <;> cases c <;>
      simp [effects, Stage.act, Connection.act, Session.act, net, counted, countedIn]
  | worker pick => cases phase <;> cases c <;>
      simp [effects, Stage.act, Connection.act, Session.act, Mirror.step, net, counted, countedIn]

lemma Sane.balanced (h : Sane p stage) (a : Arrival) (act : Action) : Balanced p a stage act := by
  have hidle {stage : Stage} (he : effects p a stage act = []) (hs : stage.act p a act = stage) :
      Balanced p a stage act := by
    intro c
    simp [he, hs, net]
  cases stage with
  | accepted client =>
    cases act with
    | conn => exact balanced_accepted client
    | _ => exact hidle rfl rfl
  | dialed client raw =>
    cases act with
    | conn => exact balanced_dialed client raw
    | _ => exact hidle rfl rfl
  | connected raw initErr k =>
    cases act with
    | conn => exact balanced_conn raw h
    | timeout => exact balanced_timeout raw h
    | copy dir n => exact balanced_other raw (by simp) (by simp)
    | worker pick => exact balanced_other raw (by simp) (by simp)
  | _ => exact hidle rfl rfl

lemma counts (p : PgProxy) : Counts (machine p) fun a stage c => counted p a stage c where
  start := fun _ _ => rfl
  step := fun a _ act c hreach => (reachable_sane hreach).balanced a act c

/-- In every run of the server, each of its counters is the number of the connections it stands for. -/
theorem pg_metrics_census (p : PgProxy) (events : List (Event Arrival Action)) (c : Counter) :
    (run p events).counters c = (run p events).members.countP fun m => counted p m.env m.state c :=
  (counts p).census events c

end Counts

section Registry
variable {p : PgProxy} {a : Arrival} {stage : Stage} {k : Connection} {initErr : Option Err}

lemma registers_looping (raw : Conn) {cfg : Config} {s : Session} (h : Kept cfg s) (tlsFailures authFailures : ℕ) :
    registers (cfg.hasShadow && s.back.mirror.service.isOpen)
        (connEffects p a ⟨.looping cfg s, tlsFailures, authFailures⟩) =
      registered (.connected raw initErr ⟨.looping cfg (s.conn cfg), tlsFailures, authFailures⟩) := by
  by_cases hclose : s.front.point = .done ∧ s.back.mirror.service.phase = .leaving
  · cases hs : cfg.hasShadow <;>
      simp [connEffects, hclose, hs, registers, registered, Session.conn, Back.close, Mirror.close, Service.close,
        Service.isOpen]
  · have hsame := (moves_tended (conn_moves cfg s)).isOpen h.serving.mp hclose
    simp [connEffects, hclose, registers, registered, hsame]

lemma registers_ready (raw : Conn) {startup : PgPacket} {client primary client' primary' : Conn}
    (hturn : forwardAuthTurn client primary = (.ready, client', primary')) (tlsFailures authFailures : ℕ) :
    let k : Connection := ⟨.authenticating startup client primary, tlsFailures, authFailures⟩
    registers false (connEffects p a k) = registered (.connected raw initErr (k.act (p.serve a) .conn)) := by
  have hserve := serve_startShadowWorker p a startup
  simp only [connEffects, Connection.act, Connection.forwardAuthPhase, hturn, Connection.runQueryLoop, hserve,
    startEffects]
  by_cases hhost : p.shadow.shadowHost = []
  · simp [hhost, registers, registered]
  · cases hdraw : p.sampledOut a with
    | true => simp [hhost, registers, registered]
    | false =>
      cases hw : p.worker a startup with
      | ok shadow =>
        simp [hhost, registers, registered, Except.toOption, Session.start, Mirror.start, Service.start,
          Service.isOpen]
      | error e => cases he : authFailed e <;> simp [hhost, he, registers, registered, Except.toOption]

lemma SaneIn.registers (raw : Conn) (h : SaneIn p initErr k) :
    registers (registered (.connected raw initErr k)) (connEffects p a k) =
      registered (.connected raw (initErr.or (noted p a k)) (k.act (p.serve a) .conn)) := by
  obtain ⟨phase, tlsFailures, authFailures⟩ := k
  cases phase with
  | starting client primary =>
    rcases hturn : forwardStartupTurn p.listenerTLS client primary with ⟨_ | _ | startup | e | e, client', primary'⟩ <;>
      have hserve : forwardStartupTurn (p.serve a).listenerTLS client primary = _ := hturn <;>
      simp [connEffects, Connection.act, Connection.forwardStartup, hturn, hserve, registered, Phase.finish,
        Fleet.registers]
    cases waits e <;> rfl
  | authenticating startup client primary =>
    rcases hturn : forwardAuthTurn client primary with ⟨_ | _ | _ | e, client', primary'⟩
    · simp [connEffects, Connection.act, Connection.forwardAuthPhase, hturn, registered, Fleet.registers]
    · exact registers_ready raw hturn tlsFailures authFailures
    · simp [connEffects, Connection.act, Connection.forwardAuthPhase, hturn, registered, Phase.finish,
        Fleet.registers]
    · simp [connEffects, Connection.act, Connection.forwardAuthPhase, hturn, registered, Phase.finish,
        Fleet.registers]
  | looping cfg s => exact registers_looping raw h.2 tlsFailures authFailures
  | returned err client primary => rfl

lemma registered_returns (raw : Conn) (h : returns k = true) : registered (.connected raw initErr k) = false := by
  obtain ⟨phase, tlsFailures, authFailures⟩ := k
  cases phase with
  | looping cfg s =>
    obtain ⟨-, hs | hp⟩ : s.front.point = .done ∧ (cfg.hasShadow = false ∨ _) := by simpa [returns] using h
    · simp [registered, hs]
    · simp [registered, Service.isOpen, hp]
  | _ => rfl

lemma Sane.registers (h : Sane p stage) (a : Arrival) (act : Action) :
    registers (registered stage) (effects p a stage act) = registered (stage.act p a act) := by
  cases stage with
  | accepted client =>
    cases act with
    | conn => cases hd : a.dial <;> simp [effects, Stage.act, Stage.dial, hd, Fleet.registers, registered]
    | _ => rfl
  | dialed client raw =>
    cases act with
    | conn =>
      cases ht : p.backendTLS with
      | none => simp [effects, Stage.act, Stage.upgrade, ht, Fleet.registers, registered, Connection.start]
      | some tls =>
        rcases hup : upgradeBackendTLS tls raw with ⟨e | conn, raw'⟩
        · cases hw : waits e <;>
            simp [effects, Stage.act, Stage.upgrade, ht, hup, hw, Fleet.registers, registered]
        · simp [effects, Stage.act, Stage.upgrade, ht, hup, Fleet.registers, registered, Connection.start]
    | _ => rfl
  | connected raw initErr k =>
    cases act with
    | conn =>
      cases hret : returns k with
      | true =>
        simp only [effects, Stage.act, hret, if_true, Fleet.registers, registered_returns raw hret]
        rfl
      | false => simpa [effects, Stage.act, hret] using SaneIn.registers raw h
    | timeout =>
      obtain ⟨phase, tlsFailures, authFailures⟩ := k
      cases phase with
      | looping cfg s =>
        by_cases hp : s.back.mirror.service.phase = .draining
        · cases hs : cfg.hasShadow <;>
            simp [effects, Stage.act, Connection.act, Session.act, Mirror.timeout, Service.timeout, hp, hs,
              Fleet.registers, registered, Service.isOpen]
        · simp [effects, Stage.act, Connection.act, Session.act, Mirror.timeout, Service.timeout, hp,
            Fleet.registers, registered]
      | _ => rfl
    | copy dir n =>
      obtain ⟨phase, tlsFailures, authFailures⟩ := k
      cases phase <;> rfl
    | worker pick =>
      obtain ⟨phase, tlsFailures, authFailures⟩ := k
      cases phase <;> rfl
  | _ => rfl

lemma workerRegistry (p : PgProxy) : Registers (machine p) fun _ => registered where
  start := fun _ => rfl
  step := fun a _ act hreach => (reachable_sane hreach).registers a act

def queueLength (m : Member Arrival Stage) : ℕ :=
  match m.state with
  | .connected _ _ ⟨.looping _ s, _, _⟩ => s.back.mirror.service.worker.queue.length
  | _ => 0

def getPgShadowQueueDepth (s : Server) : ℕ := ∑ i ∈ s.registry, s.members[i]?.elim 0 queueLength

lemma Sane.queueLength_le {m : Member Arrival Stage} (h : Sane p m.state) :
    queueLength m ≤ p.shadowQueueSize := by
  unfold queueLength
  split
  · rename_i hs
    rw [hs] at h
    exact h.1 ▸ h.2.bounds.queue
  · exact Nat.zero_le _

lemma counted_of_registered (p : PgProxy) (a : Arrival) (stage : Stage) (h : registered stage = true) :
    counted p a stage .connectionsWithShadow = true := by
  cases stage with
  | connected raw initErr k =>
    obtain ⟨phase, tlsFailures, authFailures⟩ := k
    cases phase with
    | looping cfg s =>
      have hs : cfg.hasShadow = true := (Bool.and_eq_true_iff.mp h).1
      simp [counted, countedIn, hs]
    | _ => simp [registered] at h
  | _ => simp [registered] at h

/-- In every run, the gauge of the queue depth is the sum of the queues of the connections whose worker
runs and is not closing, and so at most the queue size for each connection that has started one. -/
theorem pg_queue_depth_census (p : PgProxy) (events : List (Event Arrival Action)) :
    let s := run p events
    getPgShadowQueueDepth s = ((s.members.filter fun m => registered m.state).map queueLength).sum ∧
      (getPgShadowQueueDepth s : ℤ) ≤ p.shadowQueueSize * s.counters .connectionsWithShadow :=
  ⟨(workerRegistry p).sum_registry events queueLength,
    (workerRegistry p).sum_registry_le (counts p) (counted_of_registered p)
      (fun _ hm => (reachable_sane hm).queueLength_le) events⟩

end Registry

end ShadowProxy.PgServer
