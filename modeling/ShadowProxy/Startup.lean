import ShadowProxy.FilterConfig
import ShadowProxy.MySQLServer
import ShadowProxy.PgServer

/-! The start of the process: what `loadConfig` makes of the environment, what `main` makes of that, and
which settings pass the start and then fail every client. -/
namespace ShadowProxy.Startup
open WordBytes NetConn ShadowFilter QueryLog FilterConfig Fleet

/-- Channels are made for these. -/
inductive Elem
  | queryRequest
  | pgShadowFrame
  | queryLogEntry

/-- The library and the surroundings of the process. `chanLimit` is the size of the largest buffer that
a channel can have, `openBucket` the error of `storage.NewClient` or of `bucket.Attrs`, and `roll` what
`rand.Float64` gives. -/
structure Host (Cert : Type) where
  loadX509KeyPair : Bytes → Bytes → Except Err Cert
  serverHandshake : Cert → Conn → Except Err Conn
  clientHandshake : PgShadowStart.TLSConfig → Option Bytes → Conn → Except Err Conn
  readFile : Bytes → Except Err Bytes
  appendCertsFromPEM : Bytes → Bool
  sscanUint16 : Bytes → Except Err UInt16
  openBucket : Bytes → Option Err
  chanLimit : Elem → ℕ
  roll : ℕ → ℚ
  sha1 : MySQLShadowLogin.Sha1

section Integers

def decimalDigit (c : UInt8) : Option ℕ := if 0x30 ≤ c ∧ c ≤ 0x39 then some (c.toNat - 0x30) else none

def decimal (s : Bytes) : Option ℕ :=
  if s = [] then none else s.foldlM (fun n c => (decimalDigit c).map (10 * n + ·)) 0

/-- `strconv.Atoi`, with an `int` of 64 bits. -/
def atoi (s : Bytes) : Option ℤ :=
  let value := match s with
    | 0x2B :: digits => (decimal digits).map Int.ofNat
    | 0x2D :: digits => (decimal digits).map fun n => -Int.ofNat n
    | digits => (decimal digits).map Int.ofNat
  value.filter fun n => -2 ^ 63 ≤ n ∧ n < 2 ^ 63

/-- A value that is no integer is as good as none. -/
def getEnvInt (env : Env) (key : String) (defaultValue : ℤ) : ℤ :=
  if env key ≠ [] then (atoi (env key)).getD defaultValue else defaultValue

end Integers

/-- The part of `Config` that the start of the process reads. -/
structure Config where
  protocol : Bytes
  primaryHost : Bytes
  shadowHost : Bytes
  shadowPort : Bytes
  shadowUser : Bytes
  shadowPassword : Bytes
  tlsEnabled : Bool
  tlsCertFile : Bytes
  tlsKeyFile : Bytes
  primaryTLSEnabled : Bool
  primaryTLSCAFile : Bytes
  primaryTLSInsecureSkipVerify : Bool
  shadowQueueSize : ℤ
  shadowTLSEnabled : Bool
  shadowTLSInsecure : Bool
  queryLogGCSBucket : Bytes
  queryLogBufferSize : ℤ
  filter : Settings

section Load
variable (rt : Runtime) (env : Env)

def isPostgresProtocol (protocol : Bytes) : Bool :=
  let protocol := rt.toLower protocol
  protocol = ascii "postgres" ∨ protocol = ascii "postgresql" ∨ protocol = ascii "pg"

def getEnvBool (key : String) : Bool := getEnv env key (ascii "false") = ascii "true"

def loadConfig : Config :=
  let protocol := rt.toLower (getEnv env "PROTOCOL" (ascii "mysql"))
  let defaultBackendPort := if isPostgresProtocol rt protocol then ascii "5432" else ascii "9030"
  { protocol := protocol
    primaryHost := getEnv env "PRIMARY_HOST" []
    shadowHost := getEnv env "SHADOW_HOST" []
    shadowPort := getEnv env "SHADOW_PORT" defaultBackendPort
    shadowUser := getEnv env "SHADOW_USER" (ascii "root")
    shadowPassword := getEnv env "SHADOW_PASSWORD" []
    tlsEnabled := getEnvBool env "TLS_ENABLED"
    tlsCertFile := getEnv env "TLS_CERT_FILE" (ascii "/certs/tls.crt")
    tlsKeyFile := getEnv env "TLS_KEY_FILE" (ascii "/certs/tls.key")
    primaryTLSEnabled := getEnvBool env "PRIMARY_TLS_ENABLED"
    primaryTLSCAFile := getEnv env "PRIMARY_TLS_CA_FILE" []
    primaryTLSInsecureSkipVerify := getEnvBool env "PRIMARY_TLS_INSECURE_SKIP_VERIFY"
    shadowQueueSize := getEnvInt env "SHADOW_QUEUE_SIZE" 10000
    shadowTLSEnabled := getEnvBool env "SHADOW_TLS_ENABLED"
    shadowTLSInsecure := getEnvBool env "SHADOW_TLS_INSECURE"
    queryLogGCSBucket := getEnv env "QUERY_LOG_GCS_BUCKET" []
    queryLogBufferSize := getEnvInt env "QUERY_LOG_BUFFER_SIZE" 10000
    filter := FilterConfig.loadConfig rt env }

end Load

def text (s : Bytes) : String := String.ofList (s.map fun b => Char.ofNat b.toNat)

section Main
variable {Cert : Type} (host : Host Cert) (config : Config)

/-- `make` of a channel panics if this fails. -/
def Host.fits (elem : Elem) (size : ℤ) : Bool := 0 ≤ size ∧ size ≤ host.chanLimit elem

/-- `tls.Client` and its `Handshake`, which begins with a check of the configuration. -/
def Host.tlsClient (conf : PgShadowStart.TLSConfig) (rootCAs : Option Bytes) (conn : Conn) : Except Err Conn :=
  if conf.serverName = [] ∧ conf.insecureSkipVerify = false then
    .error (.errorf "tls: either ServerName or InsecureSkipVerify must be specified in the tls.Config")
  else host.clientHandshake conf rootCAs conn

/-- The two TLS configurations of a `TCPProxy`, each as the handshake that it is for. -/
def newTCPProxy : Except Err (MySQLHandshake.TCPProxy × Option (Conn → Except Err Conn)) :=
  let shadowTLSConfig :=
    if config.shadowTLSEnabled then some (host.tlsClient ⟨config.shadowTLSInsecure, []⟩ none) else none
  if config.tlsEnabled then
    match host.loadX509KeyPair config.tlsCertFile config.tlsKeyFile with
    | .error e => .error (.wrap "failed to load TLS certificates" e)
    | .ok cert => .ok (⟨some (host.serverHandshake cert)⟩, shadowTLSConfig)
  else .ok (⟨none⟩, shadowTLSConfig)

def loadListenerTLSConfig : Except Err (Option (Conn → Option Err)) :=
  if config.tlsEnabled = false then .ok none
  else
    match host.loadX509KeyPair config.tlsCertFile config.tlsKeyFile with
    | .error e =>
      .error (.wrap ("load listener cert/key (" ++ text config.tlsCertFile ++ " / " ++
        text config.tlsKeyFile ++ ")") e)
    | .ok cert => .ok (some fun conn =>
        match host.serverHandshake cert conn with
        | .error e => some e
        | .ok _ => none)

def loadBackendTLSConfig : Except Err (Option (Conn → Except Err Conn)) :=
  let conf : PgShadowStart.TLSConfig := ⟨config.primaryTLSInsecureSkipVerify, config.primaryHost⟩
  if config.primaryTLSEnabled = false then .ok none
  else if config.primaryTLSCAFile ≠ [] then
    match host.readFile config.primaryTLSCAFile with
    | .error e => .error (.wrap ("read primary CA file " ++ text config.primaryTLSCAFile) e)
    | .ok caPEM =>
      if host.appendCertsFromPEM caPEM then .ok (some (host.tlsClient conf (some caPEM)))
      else
        .error (.errorf ("primary CA file " ++ text config.primaryTLSCAFile ++ " contained no usable certs"))
  else .ok (some (host.tlsClient conf none))

def parsePort (s : Bytes) : Except Err UInt16 := if s = [] then .ok 5432 else host.sscanUint16 s

/-- The logger that the process goes on with, or nothing if `NewQueryLogger` panics. -/
def newQueryLogger : Option QueryLogger :=
  if config.queryLogGCSBucket = [] then some none
  else if (host.openBucket config.queryLogGCSBucket).isSome then some none
  else if host.fits .queryLogEntry config.queryLogBufferSize then some (some [])
  else none

/-- What becomes of the process: `log.Fatal` or a panic before it listens, or a proxy. -/
inductive Process
  | fatal (err : Err)
  | panicked
  | mysql (config : Config) (p : MySQLConnection.Proxy)
  | postgres (config : Config) (p : PgServer.PgProxy)

def runPostgresProxy (rt : Runtime) : Process :=
  match loadListenerTLSConfig host config with
  | .error e => .fatal (.wrap "Listener TLS config" e)
  | .ok listenerTLS =>
    match loadBackendTLSConfig host config with
    | .error e => .fatal (.wrap "Backend TLS config" e)
    | .ok backendTLS =>
      match newQueryFilter rt config.filter with
      | .error e => .fatal (.wrap "Failed to create query filter" e)
      | .ok filter =>
        match newQueryLogger host config with
        | none => .panicked
        | some logger => .postgres config
          { listenerTLS := listenerTLS
            backendTLS := backendTLS
            shadow := ⟨config.shadowHost, parsePort host config.shadowPort, config.shadowUser,
              config.shadowPassword, config.shadowTLSEnabled, config.shadowTLSInsecure⟩
            queryFilter := filter.map Prod.fst
            shadowQueueSize := config.shadowQueueSize.toNat
            logger := logger }

def runMySQLProxy (rt : Runtime) : Process :=
  match newQueryFilter rt config.filter with
  | .error e => .fatal (.wrap "Failed to create query filter" e)
  | .ok filter =>
    match newTCPProxy host config with
    | .error e => .fatal (.wrap "Failed to create proxy" e)
    | .ok (tcp, shadowTLSConfig) =>
      match newQueryLogger host config with
      | none => .panicked
      | some logger => .mysql config
        { tcp := tcp
          sha1 := host.sha1
          shadowLogin := ⟨config.shadowUser, config.shadowPassword, shadowTLSConfig⟩
          session := ⟨filter.map Prod.fst, fun n => filter.any fun f => sampledOut f.2 (host.roll n),
            config.shadowQueueSize.toNat⟩
          logger := logger }

def main (rt : Runtime) (env : Env) : Process :=
  let config := loadConfig rt env
  if config.primaryHost = [] then .fatal (.errorf "PRIMARY_HOST is required")
  else if isPostgresProtocol rt config.protocol then runPostgresProxy host config rt
  else if config.shadowHost = [] then .fatal (.errorf "SHADOW_HOST is required")
  else runMySQLProxy host config rt

end Main

section Servers
variable {Cert : Type} (host : Host Cert) (config : Config)

/-- The connections of the MySQL proxy. `NewShadowWorker` makes its queue before `Initialize` dials. -/
def mysqlMachine (p : MySQLConnection.Proxy) :
    Machine MySQLServer.Arrival (MySQLConnection.Phase × Bool) MySQLConnection.Action MySQLServer.Counter :=
  (MySQLServer.machine p).guard fun _ phase act =>
    match phase, act with
    | .established _, .session .conn => !host.fits .queryRequest config.shadowQueueSize
    | _, _ => false

/-- The next step of the connection ends the authentication. -/
def authenticated : PgServer.Stage → PgMirrorSession.Action → Bool
  | .connected _ _ ⟨.authenticating _ client primary, _, _⟩, .conn =>
    match PgStartup.forwardAuthTurn client primary with
    | (.ready, _, _) => true
    | _ => false
  | _, _ => false

/-- There is a shadow and the connection is not sampled out. -/
def wantsShadow (p : PgServer.PgProxy) (a : PgServer.Arrival) : Bool :=
  p.shadow.shadowHost ≠ [] ∧ p.sampledOut a = false

/-- The connections of the PostgreSQL proxy, with the queue that `NewPgShadowWorker` makes. -/
def pgMachine (p : PgServer.PgProxy) :
    Machine PgServer.Arrival (PgServer.Stage × Bool) PgMirrorSession.Action PgServer.Counter :=
  (PgServer.machine p).guard fun a stage act =>
    authenticated stage act && wantsShadow p a && !host.fits .pgShadowFrame config.shadowQueueSize

end Servers

section Outcome
variable {Cert : Type} {host : Host Cert} {rt : Runtime} {env : Env} {config : Config}

lemma runMySQLProxy_cases (host : Host Cert) (rt : Runtime) (config : Config) :
    (∃ e, runMySQLProxy host config rt = .fatal e) ∨ runMySQLProxy host config rt = .panicked ∨
      ∃ p tcp, runMySQLProxy host config rt = .mysql config p ∧
        newTCPProxy host config = .ok (tcp, p.shadowLogin.shadowTLS) := by
  unfold runMySQLProxy
  rcases newQueryFilter rt config.filter with e | filter
  · exact .inl ⟨_, rfl⟩
  · rcases newTCPProxy host config with e | ⟨tcp, shadowTLSConfig⟩
    · exact .inl ⟨_, rfl⟩
    · rcases newQueryLogger host config with _ | logger
      · exact .inr (.inl rfl)
      · exact .inr (.inr ⟨_, tcp, rfl, rfl⟩)

lemma runPostgresProxy_cases (host : Host Cert) (rt : Runtime) (config : Config) :
    (∃ e, runPostgresProxy host config rt = .fatal e) ∨ runPostgresProxy host config rt = .panicked ∨
      ∃ p, runPostgresProxy host config rt = .postgres config p := by
  unfold runPostgresProxy
  rcases loadListenerTLSConfig host config with e | listenerTLS
  · exact .inl ⟨_, rfl⟩
  · rcases loadBackendTLSConfig host config with e | backendTLS
    · exact .inl ⟨_, rfl⟩
    · rcases newQueryFilter rt config.filter with e | filter
      · exact .inl ⟨_, rfl⟩
      · rcases newQueryLogger host config with _ | logger
        · exact .inr (.inl rfl)
        · exact .inr (.inr ⟨_, rfl⟩)

lemma main_cases (host : Host Cert) (rt : Runtime) (env : Env) :
    (∃ e, main host rt env = .fatal e) ∨ main host rt env = .panicked ∨
      (∃ p tcp, main host rt env = .mysql (loadConfig rt env) p ∧
        newTCPProxy host (loadConfig rt env) = .ok (tcp, p.shadowLogin.shadowTLS)) ∨
      ∃ p, main host rt env = .postgres (loadConfig rt env) p := by
  unfold main
  dsimp only
  split_ifs
  · exact .inl ⟨_, rfl⟩
  · obtain h | h | h := runPostgresProxy_cases host rt (loadConfig rt env)
    · exact .inl h
    · exact .inr (.inl h)
    · exact .inr (.inr (.inr h))
  · exact .inl ⟨_, rfl⟩
  · obtain h | h | h := runMySQLProxy_cases host rt (loadConfig rt env)
    · exact .inl h
    · exact .inr (.inl h)
    · exact .inr (.inr (.inl h))

lemma main_mysql {p : MySQLConnection.Proxy} (h : main host rt env = .mysql config p) :
    config = loadConfig rt env ∧ ∃ tcp, newTCPProxy host config = .ok (tcp, p.shadowLogin.shadowTLS) := by
  obtain ⟨e, he⟩ | he | ⟨p', tcp, he, htcp⟩ | ⟨p', he⟩ := main_cases host rt env <;> rw [he] at h <;> cases h
  exact ⟨rfl, tcp, htcp⟩

lemma main_postgres {p : PgServer.PgProxy} (h : main host rt env = .postgres config p) :
    config = loadConfig rt env := by
  obtain ⟨e, he⟩ | he | ⟨p', tcp, he, htcp⟩ | ⟨p', he⟩ := main_cases host rt env <;> rw [he] at h <;> cases h
  rfl

lemma getEnvBool_iff (env : Env) (key : String) : getEnvBool env key = true ↔ env key = ascii "true" := by
  have hne : ascii "true" ≠ [] := by decide
  have hfalse : ascii "false" ≠ ascii "true" := by decide
  unfold getEnvBool getEnv
  split_ifs with h
  · simp
  · simp [hfalse, not_not.mp h, hne.symm]

lemma getEnvInt_atoi {key : String} {n : ℤ} (h : atoi (env key) = some n) (defaultValue : ℤ) :
    getEnvInt env key defaultValue = n := by
  have hne : env key ≠ [] := by
    intro hnil
    have hnone : atoi [] = none := by decide
    simp [hnil, hnone] at h
  rw [getEnvInt, if_pos hne, h, Option.getD_some]

def Process.withQueueSize (size : ℤ) : Process → Process
  | .fatal e => .fatal e
  | .panicked => .panicked
  | .mysql config p =>
    .mysql { config with shadowQueueSize := size }
      { p with session := { p.session with shadowQueueSize := size.toNat } }
  | .postgres config p =>
    .postgres { config with shadowQueueSize := size } { p with shadowQueueSize := size.toNat }

lemma runMySQLProxy_withQueueSize (host : Host Cert) (rt : Runtime) (config : Config) (size : ℤ) :
    runMySQLProxy host { config with shadowQueueSize := size } rt =
      (runMySQLProxy host config rt).withQueueSize size := by
  have htcp : newTCPProxy host { config with shadowQueueSize := size } = newTCPProxy host config := rfl
  have hlogger : newQueryLogger host { config with shadowQueueSize := size } =
      newQueryLogger host config := rfl
  unfold runMySQLProxy
  rw [htcp, hlogger]
  rcases newQueryFilter rt config.filter with e | filter
  · rfl
  · rcases newTCPProxy host config with e | ⟨tcp, shadowTLSConfig⟩
    · rfl
    · cases newQueryLogger host config <;> rfl

lemma runPostgresProxy_withQueueSize (host : Host Cert) (rt : Runtime) (config : Config) (size : ℤ) :
    runPostgresProxy host { config with shadowQueueSize := size } rt =
      (runPostgresProxy host config rt).withQueueSize size := by
  have hlistener : loadListenerTLSConfig host { config with shadowQueueSize := size } =
      loadListenerTLSConfig host config := rfl
  have hbackend : loadBackendTLSConfig host { config with shadowQueueSize := size } =
      loadBackendTLSConfig host config := rfl
  have hlogger : newQueryLogger host { config with shadowQueueSize := size } =
      newQueryLogger host config := rfl
  unfold runPostgresProxy
  rw [hlistener, hbackend, hlogger]
  rcases loadListenerTLSConfig host config with e | listenerTLS
  · rfl
  · rcases loadBackendTLSConfig host config with e | backendTLS
    · rfl
    · rcases newQueryFilter rt config.filter with e | filter
      · rfl
      · cases newQueryLogger host config <;> rfl

/-- The environment with SHADOW_QUEUE_SIZE set to `value`. -/
def setQueueSize (env : Env) (value : Bytes) : Env := Function.update env "SHADOW_QUEUE_SIZE" value

lemma setQueueSize_ne {key : String} (h : key ≠ "SHADOW_QUEUE_SIZE") (env : Env) (value : Bytes) :
    setQueueSize env value key = env key := by
  rw [setQueueSize, Function.update_of_ne h]

lemma loadConfig_setQueueSize (rt : Runtime) (env : Env) (value : Bytes) :
    loadConfig rt (setQueueSize env value) = { loadConfig rt env with
      shadowQueueSize := (loadConfig rt (setQueueSize env value)).shadowQueueSize } := by
  simp [loadConfig, FilterConfig.loadConfig, getEnvBool, getEnv, getEnvInt, getEnvList, getEnvFloat,
    setQueueSize_ne]

/-- Nothing at the start of the process looks at the size of the queue. -/
lemma main_setQueueSize (host : Host Cert) (rt : Runtime) (env : Env) (value : Bytes) :
    main host rt (setQueueSize env value) =
      (main host rt env).withQueueSize (loadConfig rt (setQueueSize env value)).shadowQueueSize := by
  unfold main
  rw [loadConfig_setQueueSize]
  dsimp only
  split_ifs
  · rfl
  · exact runPostgresProxy_withQueueSize _ _ _ _
  · rfl
  · exact runMySQLProxy_withQueueSize _ _ _ _

end Outcome

section MySQL
open MySQLConnection MySQLServer MySQLShadowLogin
variable {Cert : Type} {host : Host Cert} {rt : Runtime} {env : Env} {config : Config}
  {p : Proxy} {dials : Dials}

lemma newTCPProxy_ok {tcp : MySQLHandshake.TCPProxy} {shadowTLS : Option (Conn → Except Err Conn)}
    (h : newTCPProxy host config = .ok (tcp, shadowTLS)) :
    shadowTLS =
      if config.shadowTLSEnabled then some (host.tlsClient ⟨config.shadowTLSInsecure, []⟩ none) else none := by
  unfold newTCPProxy at h
  dsimp only at h
  by_cases htls : config.tlsEnabled = true
  · rcases hcert : host.loadX509KeyPair config.tlsCertFile config.tlsKeyFile with e | cert
    · simp [htls, hcert] at h
    · simp only [htls, hcert, if_true, Except.ok.injEq, Prod.mk.injEq] at h
      exact h.2.symm
  · simp only [htls, Bool.false_eq_true, if_false, Except.ok.injEq, Prod.mk.injEq] at h
    exact h.2.symm

/-- `main` gives the shadow's TLS no name to verify, and nothing else does. -/
lemma upgradeShadow_unverified (h : main host rt env = .mysql config p)
    (htls : env "SHADOW_TLS_ENABLED" = ascii "true") (hverify : env "SHADOW_TLS_INSECURE" ≠ ascii "true")
    (conn : Conn) : ∃ e, (upgradeShadow p.shadowLogin conn).1 = .error e := by
  obtain ⟨rfl, tcp, htcp⟩ := main_mysql h
  have henabled : (loadConfig rt env).shadowTLSEnabled = true := (getEnvBool_iff _ _).mpr htls
  have hinsecure : (loadConfig rt env).shadowTLSInsecure = false :=
    Bool.eq_false_iff.mpr (mt (getEnvBool_iff _ _).mp hverify)
  have hlogin := newTCPProxy_ok htcp
  rw [henabled, hinsecure, if_pos rfl] at hlogin
  unfold upgradeShadow
  rw [hlogin]
  rcases conn.write (withHeader 1 sslRequest) with ⟨_ | e, c⟩
  · exact ⟨_, rfl⟩
  · exact ⟨_, rfl⟩

lemma initializeWorker_refused (h : ∀ conn, ∃ e, (upgradeShadow p.shadowLogin conn).1 = .error e)
    (dial : Except Err Conn) (conn : Conn) : initializeWorker p dial ≠ .ok (.ok conn) := by
  rcases dial with e | raw
  · simp [initializeWorker, pure, Except.pure]
  · simp only [initializeWorker, authenticateWithShadow]
    rcases MySQLPacket.readMySQLPacket raw with ⟨e | packet, c⟩
    · simp [bind, Except.bind, pure, Except.pure]
    · rcases hscramble : extractScrambleFromHandshake packet with e | _ | scramble
      · simp [bind, Except.bind, hscramble]
      · simp [bind, Except.bind, pure, Except.pure, hscramble]
      · obtain ⟨e, he⟩ := h c
        rcases hup : upgradeShadow p.shadowLogin c with ⟨r, c'⟩
        obtain rfl : r = .error e := by simpa [hup] using he
        simp [bind, Except.bind, pure, Except.pure, hscramble, hup]

/-- The connection is not mirrored and was not. -/
def unmirrored : Phase → Bool
  | .mirroring _ | .returned (.withShadow _) _ _ => false
  | _ => true

/-- Nothing has been forwarded for the client beyond its login. -/
def unserved : Phase → Bool
  | .copying _ _ _ _ | .mirroring _ | .returned (.withoutShadow _) _ _ | .returned (.withShadow _) _ _ => false
  | _ => true

lemma act_keeps {phase : Phase} {act : Action} (hact : ∀ s, phase = .established s → act ≠ .session .conn) :
    (unserved phase = true → unserved (phase.act p dials act) = true) ∧
      (unmirrored phase = true → unmirrored (phase.act p dials act) = true) := by
  unfold Phase.act
  split
  · unfold Phase.dialBackend
    split <;> exact ⟨fun _ => rfl, fun _ => rfl⟩
  · unfold Phase.handshake
    split
    · exact ⟨fun _ => rfl, fun _ => rfl⟩
    · split_ifs <;> exact ⟨fun _ => rfl, fun _ => rfl⟩
  · exact absurd rfl (hact _ rfl)
  · split_ifs <;> exact ⟨by simp [unserved], fun _ => rfl⟩
  · exact ⟨by simp [unserved], fun _ => rfl⟩
  · exact ⟨by simp [unserved], fun _ => rfl⟩
  · exact ⟨by simp [unserved], by simp [unmirrored]⟩
  · exact ⟨id, id⟩

lemma unmirrored_act (hinit : ∀ conn, initializeWorker p dials.shadow ≠ .ok (.ok conn)) {phase : Phase}
    (h : unmirrored phase = true) (act : Action) : unmirrored (phase.act p dials act) = true := by
  by_cases hstart : ∃ s, phase = .established s ∧ act = .session .conn
  · obtain ⟨s, rfl, rfl⟩ := hstart
    simp only [Phase.act, Phase.startWorker]
    split
    · rfl
    · rename_i conn hok
      exact absurd hok (hinit conn)
    · split_ifs <;> rfl
  · exact (act_keeps fun s hs ha => hstart ⟨s, hs, ha⟩).2 h

lemma counted_unmirrored {phase : Phase} (h : unmirrored phase = true) :
    counted p .connectionsWithShadow phase = false := by
  cases phase with
  | mirroring session => simp [unmirrored] at h
  | returned outcome client primary =>
    cases outcome with
    | withShadow forced => simp [unmirrored] at h
    | _ => rfl
  | _ => rfl

lemma counted_unserved {phase : Phase} (h : unserved phase = true) :
    counted p .connectionsWithShadow phase = false ∧ counted p .connectionsWithoutShadow phase = false := by
  cases phase with
  | copying err s up down => simp [unserved] at h
  | mirroring session => simp [unserved] at h
  | returned outcome client primary =>
    cases outcome with
    | withShadow forced => simp [unserved] at h
    | withoutShadow err => simp [unserved] at h
    | _ => exact ⟨rfl, rfl⟩
  | _ => exact ⟨rfl, rfl⟩

lemma reachable_unserved (hsize : host.fits .queryRequest config.shadowQueueSize = false) {a : Arrival}
    {s : Phase × Bool} (h : (mysqlMachine host config p).Reachable a s) : unserved s.1 = true := by
  refine guard_inv (P := fun phase => unserved phase = true) rfl (fun phase act h hpanics => ?_) h
  refine (act_keeps ?_).1 h
  rintro s rfl rfl
  simp [hsize] at hpanics

/-- With SHADOW_TLS_ENABLED and without SHADOW_TLS_INSECURE no client of the MySQL proxy is ever mirrored,
whatever the shadow's certificate: the configuration has no name to verify it against, and TLS refuses
to begin. -/
theorem verified_shadow_tls_mirrors_nothing (hmain : main host rt env = .mysql config p)
    (htls : env "SHADOW_TLS_ENABLED" = ascii "true") (hverify : env "SHADOW_TLS_INSECURE" ≠ ascii "true")
    (events : List (Event Arrival Action)) :
    let s := System.start.exec (mysqlMachine host config p) events
    s.counters .connectionsWithShadow = 0 ∧ ∀ m ∈ s.members, ∀ session, m.state.1 ≠ .mirroring session := by
  have hrefused := initializeWorker_refused (upgradeShadow_unverified hmain htls hverify)
  have hnone : ∀ a s, (mysqlMachine host config p).Reachable a s → unmirrored s.1 = true := fun a _ hs =>
    guard_inv (P := fun phase => unmirrored phase = true) rfl
      (fun _ act h _ => unmirrored_act (hrefused a.dials.shadow) h act) hs
  refine ⟨((counts p).guard _).eq_zero (fun a s hs => ?_) events, fun m hm session hsession => ?_⟩
  · exact counted_unmirrored (hnone a s hs)
  · have hs := hnone _ _ (members_reachable _ events m hm)
    simp [hsession, unmirrored] at hs

section Samples

def sampleRuntime : Runtime := ⟨fun _ => none, fun _ => .error .eof, id, id, fun _ => "", fun _ => ""⟩

def sampleHost : Host Unit where
  loadX509KeyPair _ _ := .ok ()
  serverHandshake _ := .ok
  clientHandshake _ _ := .ok
  readFile _ := .ok []
  appendCertsFromPEM _ := true
  sscanUint16 _ := .ok 5432
  openBucket _ := none
  chanLimit _ := 2 ^ 40
  roll _ := 0
  sha1 := MySQLShadowLogin.sampleSha1

def sampleEnv (setting : String) (value : Bytes) : Env := fun key =>
  if key = "PRIMARY_HOST" then ascii "primary"
  else if key = "SHADOW_HOST" then ascii "shadow"
  else if key = setting then value
  else []

def sampleMySQL (shadowTLS : Option (Conn → Except Err Conn)) (queueSize : ℕ) : Proxy :=
  ⟨⟨none⟩, MySQLShadowLogin.sampleSha1, ⟨ascii "root", [], shadowTLS⟩, ⟨none, fun _ => false, queueSize⟩, none⟩

lemma main_sampleTLS : main sampleHost sampleRuntime (sampleEnv "SHADOW_TLS_ENABLED" (ascii "true")) =
    .mysql (loadConfig sampleRuntime (sampleEnv "SHADOW_TLS_ENABLED" (ascii "true")))
      (sampleMySQL (some (sampleHost.tlsClient ⟨false, []⟩ none)) 10000) := rfl

lemma main_sampleQueue : main sampleHost sampleRuntime (sampleEnv "SHADOW_QUEUE_SIZE" (ascii "-1")) =
    .mysql (loadConfig sampleRuntime (sampleEnv "SHADOW_QUEUE_SIZE" (ascii "-1"))) (sampleMySQL none 0) := rfl

/-- A client that logs in, up to the start of its shadow worker. -/
def sampleLogin : List (Event Arrival Action) :=
  [.accept (sampleArrival (.script [⟨MySQLNegotiation.sampleGreeting, none⟩])), .step 0 (.session .conn),
    .step 0 (.session .conn)]

end Samples

theorem verified_shadow_tls_mirrors_nothing_sample :
    let s := System.start.exec (mysqlMachine sampleHost
      (loadConfig sampleRuntime (sampleEnv "SHADOW_TLS_ENABLED" (ascii "true")))
      (sampleMySQL (some (sampleHost.tlsClient ⟨false, []⟩ none)) 10000))
      (sampleLogin ++ [.step 0 (.session .conn)])
    s.members.length = 1 ∧ s.counters .connectionsWithShadow = 0 :=
  ⟨rfl, (verified_shadow_tls_mirrors_nothing main_sampleTLS rfl (by decide) _).1⟩

end MySQL

section Pg
open PgConnection PgServer PgShadowStart PgStartup
variable {p : PgProxy} {a : Arrival}

def shadowless : PgConnection.Phase → Bool
  | .looping cfg _ => !cfg.hasShadow
  | _ => true

def unshadowed : PgServer.Stage → Bool
  | .connected _ _ k | .ended _ _ k => shadowless k.phase
  | _ => true

lemma startShadowWorker_unwanted (h : wantsShadow p a = false) (startup : PgProtocol.PgPacket) :
    (p.serve a).startShadowWorker startup = none := by
  unfold wantsShadow at h
  by_cases hhost : p.shadow.shadowHost = []
  · simp [PgProxy.serve, startShadowWorker, hhost]
  · have hsampled : p.sampledOut a = true := by simpa [hhost] using h
    simp [PgProxy.serve, startShadowWorker, hhost, hsampled]

lemma forwardStartup_shadowless (proxy : PgConnection.Proxy) (client primary : Conn) (k : Connection) :
    shadowless (k.forwardStartup proxy client primary).phase = true := by
  unfold Connection.forwardStartup
  rcases forwardStartupTurn proxy.listenerTLS client primary with ⟨_ | _ | _ | _ | _, _, _⟩ <;> rfl

lemma shadowless_act {raw : Conn} {initErr : Option Err} {k : Connection} (h : shadowless k.phase = true)
    {act : PgMirrorSession.Action}
    (hact : (authenticated (.connected raw initErr k) act && wantsShadow p a) = false) :
    shadowless (k.act (p.serve a) act).phase = true := by
  obtain ⟨phase, tlsFailures, authFailures⟩ := k
  cases phase with
  | starting client primary =>
    cases act with
    | conn => exact forwardStartup_shadowless _ _ _ _
    | _ => rfl
  | authenticating startup client primary =>
    cases act with
    | conn =>
      simp only [authenticated] at hact
      simp only [Connection.act, Connection.forwardAuthPhase]
      rcases hturn : forwardAuthTurn client primary with ⟨_ | _ | _ | _, c, d⟩
      · rfl
      · rw [hturn, Bool.true_and] at hact
        simp [Connection.runQueryLoop, startShadowWorker_unwanted hact, shadowless]
      · rfl
      · rfl
    | _ => rfl
  | looping cfg s => exact h
  | returned err client primary => cases act <;> rfl

lemma unshadowed_act {stage : PgServer.Stage} (h : unshadowed stage = true) {act : PgMirrorSession.Action}
    (hact : (authenticated stage act && wantsShadow p a) = false) : unshadowed (stage.act p a act) = true := by
  cases stage with
  | accepted client =>
    cases act with
    | conn => cases hdial : a.dial <;> simp [Stage.act, Stage.dial, hdial, unshadowed]
    | _ => rfl
  | dialed client raw =>
    cases act with
    | conn =>
      simp only [Stage.act, Stage.upgrade]
      split
      · rfl
      · split
        · rfl
        · split_ifs <;> rfl
    | _ => rfl
  | connected raw initErr k =>
    have hk := shadowless_act h hact
    cases act with
    | conn =>
      simp only [Stage.act]
      split_ifs
      · unfold hangUp
        split
        · rename_i cfg s hphase
          simpa [unshadowed, hphase, shadowless] using h
        · exact h
      · exact hk
    | _ => exact hk
  | _ => exact h

lemma counted_unshadowed {stage : PgServer.Stage} (h : unshadowed stage = true) :
    counted p a stage .connectionsWithShadow = false := by
  have hin (initErr : Option Err) {k : Connection} (hk : shadowless k.phase = true) :
      countedIn p a initErr k .connectionsWithShadow = false := by
    obtain ⟨phase, tlsFailures, authFailures⟩ := k
    cases phase with
    | looping cfg s => simpa [shadowless, countedIn] using hk
    | _ => rfl
  cases stage with
  | connected raw initErr k => simp [counted, hin initErr h]
  | ended raw initErr k => simp [counted, hin initErr h]
  | _ => simp [counted]

lemma reachable_unshadowed {Cert : Type} {host : Host Cert} {config : Config}
    (hsize : host.fits .pgShadowFrame config.shadowQueueSize = false) {s : PgServer.Stage × Bool}
    (h : (pgMachine host config p).Reachable a s) : unshadowed s.1 = true := by
  refine guard_inv (P := fun stage => unshadowed stage = true) rfl (fun stage act h hpanics => ?_) h
  exact unshadowed_act h (by simpa [hsize] using hpanics)

end Pg

section Queue
variable {Cert : Type} {host : Host Cert} {rt : Runtime} {env : Env} {n : ℤ}

lemma not_fits_of_neg (host : Host Cert) (elem : Elem) {config : Config} (hconfig : config = loadConfig rt env)
    (hn : atoi (env "SHADOW_QUEUE_SIZE") = some n) (hneg : n < 0) :
    host.fits elem config.shadowQueueSize = false := by
  have hsize : config.shadowQueueSize = n := by
    rw [hconfig]
    exact getEnvInt_atoi hn 10000
  simp [Host.fits, hsize, hneg]

/-- A negative SHADOW_QUEUE_SIZE passes the start as any other value does. Then no client of the MySQL
proxy is served: the first that has logged in stops the process, with all that is in it. On the PostgreSQL
path the first that is to have a shadow does, and none ever has one. -/
theorem negative_queue_size (hn : atoi (env "SHADOW_QUEUE_SIZE") = some n) (hneg : n < 0) :
    (∀ value, main host rt (setQueueSize env value) =
      (main host rt env).withQueueSize (loadConfig rt (setQueueSize env value)).shadowQueueSize) ∧
    (∀ config p, main host rt env = .mysql config p →
      ∀ events : List (Event MySQLServer.Arrival MySQLConnection.Action),
      let M := mysqlMachine host config p
      let s := System.start.exec M events
      s.counters .connectionsWithShadow = 0 ∧ s.counters .connectionsWithoutShadow = 0 ∧
        (∀ m ∈ s.members, unserved m.state.1 = true) ∧
        ∀ i m session later, s.members[i]? = some m → m.state.1 = .established session →
          (System.start.exec M (events ++ .step i (.session .conn) :: later)).stage = .crashed) ∧
    (∀ config p, main host rt env = .postgres config p →
      ∀ events : List (Event PgServer.Arrival PgMirrorSession.Action),
      let M := pgMachine host config p
      let s := System.start.exec M events
      s.counters .connectionsWithShadow = 0 ∧ (∀ m ∈ s.members, unshadowed m.state.1 = true) ∧
        ∀ i m later, s.members[i]? = some m → authenticated m.state.1 .conn = true →
          wantsShadow p m.env = true →
          (System.start.exec M (events ++ .step i .conn :: later)).stage = .crashed) := by
  refine ⟨main_setQueueSize host rt env, ?_, ?_⟩
  · intro config p hmain events M s
    have hsize := not_fits_of_neg host .queryRequest (main_mysql hmain).1 hn hneg
    have hcounts : Counts M _ := (MySQLServer.counts p).guard _
    refine ⟨hcounts.eq_zero (fun a s hs => (counted_unserved (reachable_unserved hsize hs)).1) events,
      hcounts.eq_zero (fun a s hs => (counted_unserved (reachable_unserved hsize hs)).2) events,
      fun m hm => reachable_unserved hsize (members_reachable M events m hm), ?_⟩
    rintro i ⟨a, phase, panicked⟩ session later hm rfl
    rw [exec_append]
    exact guard_crash hm (by simp [hsize]) later
  · intro config p hmain events M s
    have hsize := not_fits_of_neg host .pgShadowFrame (main_postgres hmain) hn hneg
    have hcounts : Counts M _ := (PgServer.counts p).guard _
    refine ⟨hcounts.eq_zero (fun a s hs => counted_unshadowed (reachable_unshadowed hsize hs)) events,
      fun m hm => reachable_unshadowed hsize (members_reachable M events m hm), ?_⟩
    intro i m later hm hauth hwants
    rw [exec_append]
    exact guard_crash hm (by simp [hsize, hauth, hwants]) later

theorem negative_queue_size_sample :
    let config := loadConfig sampleRuntime (sampleEnv "SHADOW_QUEUE_SIZE" (ascii "-1"))
    let M := mysqlMachine sampleHost config (sampleMySQL none 0)
    main sampleHost sampleRuntime (sampleEnv "SHADOW_QUEUE_SIZE" (ascii "-1")) =
        .mysql config (sampleMySQL none 0) ∧
      (System.start.exec M sampleLogin).members.length = 1 ∧
      (∀ m ∈ (System.start.exec M sampleLogin).members, unserved m.state.1 = true) ∧
      (System.start.exec M (sampleLogin ++ [.step 0 (.session .conn)])).stage = .crashed := by
  intro config M
  have hsize : atoi (sampleEnv "SHADOW_QUEUE_SIZE" (ascii "-1") "SHADOW_QUEUE_SIZE") = some (-1) := rfl
  obtain ⟨-, -, hmembers, hcrash⟩ :=
    (negative_queue_size hsize (by decide)).2.1 config _ main_sampleQueue sampleLogin
  exact ⟨main_sampleQueue, rfl, hmembers, hcrash 0 _ _ [] rfl rfl⟩

end Queue

end ShadowProxy.Startup
