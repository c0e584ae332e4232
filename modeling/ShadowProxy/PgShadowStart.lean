import ShadowProxy.NetConn
import ShadowProxy.PgProtocol
import ShadowProxy.ShadowFilter

/-! The start of the shadow side of a PostgreSQL connection: which database it is connected to, and
which one the primary selects for the same startup message. -/
namespace ShadowProxy.PgShadowStart
open WordBytes NetConn PgProtocol ShadowFilter

/-- A `map[string]string`. -/
abbrev Params := Bytes → Option Bytes

/-- The loop of `parseStartupParams`, two parts at a time. -/
def setParams : List Bytes → Params → Params
  | key :: value :: parts, out =>
    if key = [] then out else setParams parts (Function.update out key (some value))
  | _, out => out

def parseStartupParams (p : PgPacket) : Params :=
  if p.payload.length < 9 then fun _ => none
  else setParams ((p.payload.drop 8).splitOn 0) fun _ => none

structure TLSConfig where
  insecureSkipVerify : Bool
  serverName : Bytes
  deriving DecidableEq

/-- The fields of a `pgconn.Config` that `Initialize` sets; the timeout is in seconds. -/
structure ConnConfig where
  host : Bytes
  port : UInt16
  user : Bytes
  password : Bytes
  database : Bytes
  connectTimeout : ℕ
  tlsConfig : Option TLSConfig
  deriving DecidableEq

/-- `pgconn`: the configuration that it finds in the environment, the connection with its
authentication, and the release of the connection underneath. -/
structure Pgconn where
  parseConfig : Except Err ConnConfig
  connectConfig : ConnConfig → Except Err Conn
  hijack : Conn → Except Err Conn

/-- The port is what `parsePort` makes of the setting. -/
structure ShadowConfig where
  shadowHost : Bytes
  shadowPort : Except Err UInt16
  shadowUser : Bytes
  shadowPassword : Bytes
  shadowTLSEnabled : Bool
  shadowTLSInsecure : Bool

/-- What `Initialize` sets in the configuration that it has parsed. -/
def ShadowConfig.connConfig (config : ShadowConfig) (dbname : Bytes) (conf : ConnConfig) : ConnConfig where
  host := config.shadowHost
  port := match config.shadowPort with
    | .ok port => port
    | .error _ => conf.port
  user := config.shadowUser
  password := config.shadowPassword
  database := dbname
  connectTimeout := 10
  tlsConfig := if config.shadowTLSEnabled then some ⟨config.shadowTLSInsecure, config.shadowHost⟩ else none

section Start
variable (config : ShadowConfig) (pgconn : Pgconn)

/-- `PgShadowWorker.Initialize`: the configuration that is dialled, if it comes to that, and the
connection or the error. -/
def initializeWorker (dbname : Bytes) : Option ConnConfig × Except Err Conn :=
  if config.shadowHost = [] then (none, .error (.errorf "SHADOW_HOST not set"))
  else
    let dbname := if dbname = [] then config.shadowUser else dbname
    match pgconn.parseConfig with
    | .error e => (none, .error (.wrap "pgconn parse config" e))
    | .ok conf =>
      let conf := config.connConfig dbname conf
      match pgconn.connectConfig conf with
      | .error e => (some conf, .error (.wrap "shadow connect" e))
      | .ok pgConn =>
        match pgconn.hijack pgConn with
        | .error e => (some conf, .error (.wrap "hijack shadow conn" e))
        | .ok conn => (some conf, .ok conn)

/-- `sampledOut` is the outcome of the draw for this connection. -/
def startShadowWorker (sampledOut : Bool) (startup : PgPacket) : Option ConnConfig × Option Conn :=
  if config.shadowHost = [] then (none, none)
  else if sampledOut then (none, none)
  else
    let dbname := (parseStartupParams startup (ascii "database")).getD []
    let result := initializeWorker config pgconn dbname
    (result.1, result.2.toOption)

end Start

/-- A parameter of a startup message. -/
structure Param where
  key : Bytes
  value : Bytes
  key_ne_nil : key ≠ []
  key_nullFree : (0 : UInt8) ∉ key
  value_nullFree : (0 : UInt8) ∉ value

namespace Param

def bytes (p : Param) : Bytes := p.key ++ 0 :: (p.value ++ [0])

/-- The value that a list of parameters gives to a key; a later one replaces an earlier one. -/
def lastValue (ps : List Param) (key : Bytes) : Option Bytes :=
  (ps.reverse.find? (·.key = key)).map value

end Param

def startupMessage (version : ℕ) (ps : List Param) : PgPacket :=
  frame 0 ((leBytes 4 version).reverse ++ (ps.flatMap Param.bytes ++ [0]))

/-- The database a PostgreSQL server selects: the one named, or else the one named like the user. -/
def primaryDatabase (ps : List Param) : Bytes :=
  let database := (Param.lastValue ps (ascii "database")).getD []
  if database = [] then (Param.lastValue ps (ascii "user")).getD [] else database

section Parameters
variable {p : Param} {ps : List Param} {key : Bytes}

lemma lastValue_cons (p : Param) (ps : List Param) (key : Bytes) :
    Param.lastValue (p :: ps) key =
      (Param.lastValue ps key).or (if p.key = key then some p.value else none) := by
  rw [Param.lastValue, List.reverse_cons, List.find?_append, Option.map_or, List.find?_singleton]
  by_cases h : p.key = key
  · simp [Param.lastValue, h]
  · simp [Param.lastValue, h]

lemma splitOn_nullFree {s : Bytes} (hs : (0 : UInt8) ∉ s) (t : Bytes) :
    (s ++ 0 :: t).splitOn 0 = s :: t.splitOn 0 := by
  refine List.splitOnP_append_cons_of_forall_mem ?_ 0 rfl t
  intro b hb
  exact beq_false_of_ne fun h => hs (h ▸ hb)

lemma splitOn_params (ps : List Param) :
    (ps.flatMap Param.bytes ++ [0]).splitOn 0 = ps.flatMap (fun p => [p.key, p.value]) ++ [[], []] := by
  induction ps with
  | nil => rfl
  | cons p ps ih =>
    have hbytes : (p :: ps).flatMap Param.bytes ++ [0] =
        p.key ++ 0 :: (p.value ++ 0 :: (ps.flatMap Param.bytes ++ [0])) := by
      simp [Param.bytes]
    rw [hbytes, splitOn_nullFree p.key_nullFree, splitOn_nullFree p.value_nullFree, ih]
    rfl

lemma setParams_params (ps : List Param) (out : Params) (key : Bytes) :
    setParams (ps.flatMap (fun p => [p.key, p.value]) ++ [[], []]) out key =
      (Param.lastValue ps key).or (out key) := by
  induction ps generalizing out with
  | nil => rfl
  | cons p ps ih =>
    have hparts : (p :: ps).flatMap (fun p => [p.key, p.value]) ++ [[], []] =
        p.key :: p.value :: (ps.flatMap (fun p => [p.key, p.value]) ++ [[], []]) := rfl
    rw [hparts, setParams, if_neg p.key_ne_nil, ih, lastValue_cons, Option.or_assoc]
    congr 1
    by_cases h : p.key = key
    · simp [h]
    · simp [h, Function.update_of_ne (Ne.symm h)]

theorem parseStartupParams_startupMessage (version : ℕ) (ps : List Param) (key : Bytes) :
    parseStartupParams (startupMessage version ps) key = Param.lastValue ps key := by
  have hdrop : (startupMessage version ps).payload.drop 8 = ps.flatMap Param.bytes ++ [0] := by
    rw [startupMessage, show 8 = 4 + 4 from rfl, ← List.drop_drop, frame_drop, List.drop_left' (by simp)]
  have hlen : ¬ (startupMessage version ps).payload.length < 9 := by
    simp [startupMessage]
    omega
  rw [parseStartupParams, if_neg hlen, hdrop, splitOn_params, setParams_params, Option.or_none]

end Parameters

section Database
variable {config : ShadowConfig} {pgconn : Pgconn} {dbname : Bytes} {conf : ConnConfig}

lemma initializeWorker_dialled (hhost : config.shadowHost ≠ []) (dbname : Bytes) :
    (initializeWorker config pgconn dbname).1 = pgconn.parseConfig.toOption.map
      (config.connConfig (if dbname = [] then config.shadowUser else dbname)) := by
  rw [initializeWorker, if_neg hhost]
  cases pgconn.parseConfig with
  | error e => rfl
  | ok base =>
    dsimp only
    cases pgconn.connectConfig _ with
    | error e => rfl
    | ok pgConn =>
      dsimp only
      cases pgconn.hijack pgConn <;> rfl

lemma startShadowWorker_dialled (hhost : config.shadowHost ≠ []) (startup : PgPacket) :
    (startShadowWorker config pgconn false startup).1 =
      (initializeWorker config pgconn ((parseStartupParams startup (ascii "database")).getD [])).1 := by
  rw [startShadowWorker, if_neg hhost]
  rfl

lemma startShadowWorker_of_dialled {sampledOut : Bool} {startup : PgPacket}
    (h : (startShadowWorker config pgconn sampledOut startup).1 = some conf) :
    config.shadowHost ≠ [] ∧ sampledOut = false := by
  unfold startShadowWorker at h
  split_ifs at h with hhost hsampled
  exact ⟨hhost, by simpa using hsampled⟩

lemma startShadowWorker_isSome (sampledOut : Bool) (startup : PgPacket) :
    (startShadowWorker config pgconn sampledOut startup).1.isSome ↔
      config.shadowHost ≠ [] ∧ sampledOut = false ∧ pgconn.parseConfig.isOk := by
  have hdialled : ∀ dbname, config.shadowHost ≠ [] →
      ((initializeWorker config pgconn dbname).1.isSome ↔ pgconn.parseConfig.isOk) := by
    intro dbname hhost
    rw [initializeWorker_dialled hhost, Option.isSome_map]
    cases pgconn.parseConfig <;> rfl
  constructor
  · intro h
    obtain ⟨conf, hconf⟩ := Option.isSome_iff_exists.mp h
    obtain ⟨hhost, rfl⟩ := startShadowWorker_of_dialled hconf
    rw [startShadowWorker_dialled hhost, hdialled _ hhost] at h
    exact ⟨hhost, rfl, h⟩
  · rintro ⟨hhost, rfl, hok⟩
    rwa [startShadowWorker_dialled hhost, hdialled _ hhost]

end Database

/-- The parameters are the pairs of the message; and the shadow is connected to the database of the
primary exactly if the message names one, or its user is the one the shadow is connected as. -/
theorem shadow_database_iff (config : ShadowConfig) (pgconn : Pgconn) (sampledOut : Bool)
    (version : ℕ) (ps : List Param) :
    (∀ key, parseStartupParams (startupMessage version ps) key = Param.lastValue ps key) ∧
    ((startShadowWorker config pgconn sampledOut (startupMessage version ps)).1.isSome ↔
      config.shadowHost ≠ [] ∧ sampledOut = false ∧ pgconn.parseConfig.isOk) ∧
    ∀ conf, (startShadowWorker config pgconn sampledOut (startupMessage version ps)).1 = some conf →
      (conf.database = primaryDatabase ps ↔
        (Param.lastValue ps (ascii "database")).getD [] ≠ [] ∨
          (Param.lastValue ps (ascii "user")).getD [] = config.shadowUser) := by
  have hparse := parseStartupParams_startupMessage version ps
  refine ⟨hparse, startShadowWorker_isSome sampledOut _, fun conf hconf => ?_⟩
  obtain ⟨hhost, rfl⟩ := startShadowWorker_of_dialled hconf
  rw [startShadowWorker_dialled hhost, initializeWorker_dialled hhost, hparse] at hconf
  obtain ⟨base, -, rfl⟩ := Option.map_eq_some_iff.mp hconf
  simp only [ShadowConfig.connConfig, primaryDatabase]
  by_cases hnil : (Param.lastValue ps (ascii "database")).getD [] = []
  · simp [hnil, eq_comm]
  · simp [hnil]

def sampleConfig : ShadowConfig := ⟨ascii "shadow", .ok 5432, ascii "root", [], false, false⟩

def samplePgconn : Pgconn where
  parseConfig := .ok ⟨[], 5432, [], [], [], 0, none⟩
  connectConfig := fun _ => .ok (.script [])
  hijack := .ok

def userAlice : Param := ⟨ascii "user", ascii "alice", by decide, by decide, by decide⟩

def databaseReports : Param := ⟨ascii "database", ascii "reports", by decide, by decide, by decide⟩

theorem shadow_database_of_reports :
    ∃ conf, (startShadowWorker sampleConfig samplePgconn false
        (startupMessage 196608 [userAlice, databaseReports])).1 = some conf ∧
      conf.database = primaryDatabase [userAlice, databaseReports] :=
  ⟨_, rfl, ((shadow_database_iff sampleConfig samplePgconn false 196608
    [userAlice, databaseReports]).2.2 _ rfl).mpr (.inl (by decide))⟩

/-- A user who names no database gets their own at the primary, and at the shadow the one of the user
that the proxy is configured with. -/
theorem shadow_database_of_alice :
    (startShadowWorker sampleConfig samplePgconn false (startupMessage 196608 [userAlice])).1.map
      ConnConfig.database = some (ascii "root") ∧
    primaryDatabase [userAlice] = ascii "alice" ∧ ascii "root" ≠ ascii "alice" := by
  decide

end ShadowProxy.PgShadowStart
