import ShadowProxy.Fleet
import ShadowProxy.QueueProgress
import ShadowProxy.MySQLConnection

/-! The listener of the MySQL proxy with all its connections: what its counters and the registry of
shadow workers say about them, and what one panic does to all. -/
namespace ShadowProxy.MySQLServer
open WordBytes NetConn StreamCopy Fleet MySQLPacket MySQLPacketReader MySQLHandshake MySQLNegotiation
  MySQLProxyLoop QueryLog MySQLShadowWorker MySQLShadowLogin MySQLConnection
open WorkQueue hiding Phase Stage
open MySQLMirrorSession (Booked)

/-- The counters of connections; those with a label are split by it. -/
inductive Counter
  | activeConnections
  | totalConnections
  | connectionFailuresPrimary
  | connectionFailuresShadow
  | authFailuresShadow
  | tlsFailures
  | connectionsWithShadow
  | connectionsWithoutShadow
  | shadowDrainTimeouts
  deriving DecidableEq

/-- What a client brings with it, and what the dials for it come to. -/
structure Arrival where
  client : Conn
  dials : Dials

/-- The TLS handshake with the shadow has failed, which is counted on the way. -/
def tlsFailed : Err → Bool
  | .wrap "failed to authenticate with shadow" (.wrap "TLS handshake with shadow failed" _) => true
  | _ => false

/-- The shadow has refused the login, or asked for another way of authentication. -/
def authFailed : Err → Bool
  | .wrap "failed to authenticate with shadow" (.errorf msg) =>
    msg ≠ "failed to extract scramble from handshake"
  | _ => false

/-- What `Initialize` counts before it fails. -/
def initializeEffects (err : Err) : List (Effect Counter) :=
  (if tlsFailed err then [.inc .tlsFailures] else []) ++
    if authFailed err then [.inc .authFailuresShadow] else []

/-- The calls that a step of a connection makes on the counters and on the registry. -/
def effects (p : Proxy) (dials : Dials) : Phase → Action → List (Effect Counter)
  | .accepted _, .session .conn =>
    [.inc .activeConnections, .inc .totalConnections] ++
      match dials.primary with
      | .error _ => [.inc .connectionFailuresPrimary, .dec .activeConnections]
      | .ok _ => []
  | .dialed s, .session .conn =>
    match p.tcp.handshake s with
    | (.ok _, _) => []
    | (.error e, _) =>
      if waits e then []
      else (if p.tcp.tlsConfig.isSome then [.inc .tlsFailures] else []) ++ [.dec .activeConnections]
  | .established _, .session .conn =>
    match initializeWorker p dials.shadow with
    | .error _ => []
    | .ok (.ok _) => [.register, .inc .connectionsWithShadow]
    | .ok (.error e) =>
      if waits e then []
      else initializeEffects e ++ [.inc .connectionFailuresShadow, .inc .connectionsWithoutShadow]
  | .copying _ _ up down, .session .conn =>
    if up = .ended ∧ down = .ended then [.dec .activeConnections] else []
  | .mirroring session, .session .conn =>
    if session.back.service.phase = .closed then [.dec .activeConnections]
    else if session.front.point = .done ∧ session.back.service.phase = .leaving then [.unregister]
    else []
  | .mirroring session, .session .timeout =>
    if session.back.service.phase = .draining then [.inc .shadowDrainTimeouts] else []
  | _, _ => []

def machine (p : Proxy) : Machine Arrival Phase Action Counter where
  start a := .accepted a.client
  step a := Phase.act p a.dials
  effects a := effects p a.dials
  fatal
    | .panicked => true
    | _ => false

abbrev Server := System Arrival Phase Counter

def run (p : Proxy) (events : List (Event Arrival Action)) : Server := System.start.exec (machine p) events

def counted (p : Proxy) : Counter → Phase → Bool
  | .activeConnections, .accepted _ | .activeConnections, .returned _ _ _ => false
  | .activeConnections, _ => true
  | .totalConnections, .accepted _ => false
  | .totalConnections, _ => true
  | .connectionFailuresPrimary, .returned (.primaryFailed _) _ _ => true
  | .connectionFailuresShadow, .copying _ _ _ _
  | .connectionFailuresShadow, .returned (.withoutShadow _) _ _ => true
  | .authFailuresShadow, .copying e _ _ _ | .authFailuresShadow, .returned (.withoutShadow e) _ _ =>
    authFailed e
  | .tlsFailures, .returned (.handshakeFailed _) _ _ => p.tcp.tlsConfig.isSome
  | .tlsFailures, .copying e _ _ _ | .tlsFailures, .returned (.withoutShadow e) _ _ => tlsFailed e
  | .connectionsWithShadow, .mirroring _ | .connectionsWithShadow, .returned (.withShadow _) _ _ => true
  | .connectionsWithoutShadow, .copying _ _ _ _
  | .connectionsWithoutShadow, .returned (.withoutShadow _) _ _ => true
  | .shadowDrainTimeouts, .mirroring session => session.back.service.worker.force
  | .shadowDrainTimeouts, .returned (.withShadow forced) _ _ => forced
  | _, _ => false

/-- The worker is started and `Close` has not begun. -/
def registered : Phase → Bool
  | .mirroring session => session.back.service.isOpen
  | _ => false

section Session
variable {cfg : MySQLMirrorSession.Config} {s s' : MySQLMirrorSession.Session}

lemma moves_tended (h : MySQLMirrorSession.Moves cfg s s') :
    s.back.service.Tended cfg.shadowQueueSize (s.front.point = .done) s'.back.service := by
  cases h with
  | gone => exact .leaves
  | received => exact .idle
  | unwritten => exact .leaves
  | written => exact .idle
  | mirrored =>
    obtain ⟨-, hb⟩ | ⟨-, -, -, reason, hb⟩ | ⟨-, -, hb⟩ := MySQLMirrorSession.mirror_cases cfg s.back
      s.front.primary.sent.length _ <;> rw [hb]
    · exact .idle
    · exact .idle
    · exact .sends _
  | answered => exact .idle
  | quit => exact .leaves
  | broken => exact .leaves
  | closing hp => exact .closes hp

/-- What a connection needs to know about its session. -/
structure Kept (cfg : MySQLMirrorSession.Config) (s : MySQLMirrorSession.Session) : Prop where
  booked : ∃ primary shadow, Booked primary shadow s
  bounds : Bounds cfg.shadowQueueSize s.back.service

lemma kept_start (cfg : MySQLMirrorSession.Config) (client primary shadow : Conn) (logger : QueryLogger) :
    Kept cfg (.start client primary shadow logger) :=
  ⟨⟨_, _, MySQLMirrorSession.booked_start client primary shadow logger⟩, bounds_start _ _⟩

lemma Kept.serving (h : Kept cfg s) : s.back.service.phase = .serving ↔ s.front.point ≠ .done := by
  obtain ⟨primary, shadow, hb⟩ := h.booked
  exact hb.serving

lemma Kept.tended (h : Kept cfg s) :
    s.back.service.Tended cfg.shadowQueueSize (s.front.point = .done) (s.conn cfg).back.service := by
  obtain ⟨primary, shadow, hb⟩ := h.booked
  exact moves_tended (MySQLMirrorSession.conn_moves cfg hb.tracked).1

lemma Kept.act (h : Kept cfg s) (act : MySQLMirrorSession.Action) : Kept cfg (s.act cfg act) := by
  obtain ⟨primary, shadow, hb⟩ := h.booked
  refine ⟨⟨primary, shadow, hb.act act⟩, ?_⟩
  cases act with
  | conn => exact h.tended.bounds h.bounds
  | timeout => exact h.bounds.timeout
  | worker pick => exact h.bounds.step _ pick

end Session

/-- What holds of every state that a connection reaches. -/
def Sane (p : Proxy) : Phase → Prop
  | .mirroring session => Kept p.session session
  | _ => True

section Sane
variable {p : Proxy} {a : Arrival} {phase : Phase}

lemma Sane.act (h : Sane p phase) (dials : Dials) (act : Action) : Sane p (phase.act p dials act) := by
  unfold Phase.act
  split
  · unfold Phase.dialBackend
    split <;> trivial
  · unfold Phase.handshake
    split
    · trivial
    · split_ifs <;> trivial
  · unfold Phase.startWorker
    split
    · trivial
    · exact kept_start _ _ _ _ _
    · split_ifs <;> trivial
  · split_ifs <;> trivial
  · trivial
  · trivial
  · split_ifs
    · trivial
    · exact Kept.act h _
  · exact h

lemma reachable_sane (h : (machine p).Reachable a phase) : Sane p phase := by
  obtain ⟨acts, rfl⟩ := h
  induction acts using List.reverseRecOn with
  | nil => trivial
  | append_singleton acts act ih =>
    rw [List.foldl_concat]
    exact ih.act a.dials act

end Sane

section Counts
variable {p : Proxy} {dials : Dials} {phase : Phase}

/-- The calls of a step change a counter as the step changes what it counts. -/
def Balanced (p : Proxy) (dials : Dials) (phase : Phase) (act : Action) : Prop :=
  ∀ c, (counted p c phase).toInt + net c (effects p dials phase act) =
    (counted p c (phase.act p dials act)).toInt

lemma balanced_accepted (client : Conn) : Balanced p dials (.accepted client) (.session .conn) := by
  intro c
  cases hd : dials.primary with
  | error e => cases c <;> simp [effects, Phase.act, Phase.dialBackend, hd, net, counted]
  | ok primary => cases c <;> simp [effects, Phase.act, Phase.dialBackend, hd, net, counted]

lemma balanced_dialed (s : Session) : Balanced p dials (.dialed s) (.session .conn) := by
  intro c
  rcases hs : p.tcp.handshake s with ⟨e | r, s'⟩
  · cases hw : waits e with
    | true => cases c <;> simp [effects, Phase.act, Phase.handshake, hs, hw, net, counted]
    | false =>
      cases ht : p.tcp.tlsConfig.isSome <;> cases c <;>
        simp [effects, Phase.act, Phase.handshake, hs, hw, ht, net, counted]
  · cases c <;> simp [effects, Phase.act, Phase.handshake, hs, net, counted]

lemma balanced_established (s : Session) : Balanced p dials (.established s) (.session .conn) := by
  intro c
  rcases hi : initializeWorker p dials.shadow with fault | e | shadow
  · cases c <;> simp [effects, Phase.act, Phase.startWorker, hi, net, counted]
  · cases hw : waits e with
    | true => cases c <;> simp [effects, Phase.act, Phase.startWorker, hi, hw, net, counted]
    | false =>
      cases ht : tlsFailed e <;> cases ha : authFailed e <;> cases c <;>
        simp [effects, initializeEffects, Phase.act, Phase.startWorker, hi, hw, ht, ha, net, counted]
  · cases c <;> simp [effects, Phase.act, Phase.startWorker, hi, net, counted,
      MySQLMirrorSession.Session.start, MySQLMirrorSession.Back.start, Service.start]

lemma balanced_copying (e : Err) (s : Session) (up down : Copier) :
    Balanced p dials (.copying e s up down) (.session .conn) := by
  intro c
  by_cases hend : up = .ended ∧ down = .ended
  · cases c <;> simp [effects, Phase.act, hend, net, counted]
  · cases c <;> simp [effects, Phase.act, hend, net, counted]

lemma balanced_mirroring {session : MySQLMirrorSession.Session} (h : Kept p.session session)
    (act : MySQLMirrorSession.Action) : Balanced p dials (.mirroring session) (.session act) := by
  intro c
  cases act with
  | conn =>
    by_cases hclosed : session.back.service.phase = .closed
    · cases c <;> simp [effects, Phase.act, hclosed, net, counted]
    · have hforce := h.tended.force
      by_cases hleave : session.front.point = .done ∧ session.back.service.phase = .leaving
      · cases c <;> simp [effects, Phase.act, hleave, net, counted, MySQLMirrorSession.Session.act, hforce]
      · cases c <;>
          simp [effects, Phase.act, hclosed, hleave, net, counted, MySQLMirrorSession.Session.act, hforce]
  | timeout =>
    by_cases hp : session.back.service.phase = .draining
    · have hforce : session.back.service.worker.force = false := by
        by_contra hf
        simpa [hp] using h.bounds.force (by simpa using hf)
      cases c <;> simp [effects, Phase.act, hp, net, counted, MySQLMirrorSession.Session.act,
        Service.timeout, hforce]
    · cases c <;> simp [effects, Phase.act, hp, net, counted, MySQLMirrorSession.Session.act, Service.timeout]
  | worker pick =>
    cases c <;> simp [effects, Phase.act, net, counted, MySQLMirrorSession.Session.act]

lemma Sane.balanced (h : Sane p phase) (dials : Dials) (act : Action) : Balanced p dials phase act := by
  have hidle {phase : Phase} (he : effects p dials phase act = []) (hs : phase.act p dials act = phase) :
      Balanced p dials phase act := by
    intro c
    simp [he, hs, net]
  cases phase with
  | accepted client =>
    rcases act with (_ | _ | pick) | n | n
    · exact balanced_accepted client
    all_goals exact hidle rfl rfl
  | dialed s =>
    rcases act with (_ | _ | pick) | n | n
    · exact balanced_dialed s
    all_goals exact hidle rfl rfl
  | established s =>
    rcases act with (_ | _ | pick) | n | n
    · exact balanced_established s
    all_goals exact hidle rfl rfl
  | copying e s up down =>
    rcases act with (_ | _ | pick) | n | n
    · exact balanced_copying e s up down
    · exact hidle rfl rfl
    · exact hidle rfl rfl
    all_goals
      intro c
      cases c <;> simp [effects, Phase.act, net, counted]
  | mirroring session =>
    cases act with
    | session act => exact balanced_mirroring h act
    | copyUp n => exact hidle rfl rfl
    | copyDown n => exact hidle rfl rfl
  | waiting e s => exact hidle rfl rfl
  | returned outcome client primary => exact hidle rfl rfl
  | panicked => exact hidle rfl rfl

lemma counts (p : Proxy) : Counts (machine p) fun _ phase c => counted p c phase where
  start := fun _ c => by cases c <;> rfl
  step := fun a _ act c hreach => (reachable_sane hreach).balanced a.dials act c

/-- In every run of the server, each of its counters is the number of the connections it stands for. -/
theorem metrics_census (p : Proxy) (events : List (Event Arrival Action)) (c : Counter) :
    (run p events).counters c = (run p events).members.countP fun m => counted p c m.state :=
  (counts p).census events c

end Counts

section Registry
variable {p : Proxy} {dials : Dials} {phase : Phase}

lemma registers_mirroring {session : MySQLMirrorSession.Session} (h : Kept p.session session)
    (act : MySQLMirrorSession.Action) :
    registers (registered (.mirroring session)) (effects p dials (.mirroring session) (.session act)) =
      registered ((Phase.mirroring session).act p dials (.session act)) := by
  cases act with
  | conn =>
    by_cases hclosed : session.back.service.phase = .closed
    · simp [effects, Phase.act, hclosed, registers, registered, Service.isOpen]
    · by_cases hleave : session.front.point = .done ∧ session.back.service.phase = .leaving
      · simp [effects, Phase.act, hleave, registers, registered, Service.isOpen,
          MySQLMirrorSession.Session.act, MySQLMirrorSession.Session.conn, MySQLMirrorSession.Back.close,
          Service.close]
      · have hsame := h.tended.isOpen h.serving.mp hleave
        simp [effects, Phase.act, hclosed, hleave, registers, registered, MySQLMirrorSession.Session.act,
          hsame]
  | timeout =>
    by_cases hp : session.back.service.phase = .draining
    · simp [effects, Phase.act, hp, registers, registered, Service.isOpen,
        MySQLMirrorSession.Session.act, Service.timeout]
    · simp [effects, Phase.act, hp, registers, registered, MySQLMirrorSession.Session.act, Service.timeout]
  | worker pick => rfl

lemma registers_established (s : Session) :
    registers (registered (.established s)) (effects p dials (.established s) (.session .conn)) =
      registered ((Phase.established s).act p dials (.session .conn)) := by
  rcases hi : initializeWorker p dials.shadow with fault | e | shadow
  · simp [effects, Phase.act, Phase.startWorker, hi, registers, registered]
  · cases hw : waits e with
    | true => simp [effects, Phase.act, Phase.startWorker, hi, hw, registers, registered]
    | false =>
      cases ht : tlsFailed e <;> cases ha : authFailed e <;>
        simp [effects, initializeEffects, Phase.act, Phase.startWorker, hi, hw, ht, ha, registers, registered]
  · simp [effects, Phase.act, Phase.startWorker, hi, registers, registered, Service.isOpen,
      MySQLMirrorSession.Session.start, MySQLMirrorSession.Back.start, Service.start]

lemma Sane.registers (h : Sane p phase) (dials : Dials) (act : Action) :
    registers (registered phase) (effects p dials phase act) = registered (phase.act p dials act) := by
  cases phase with
  | accepted client =>
    rcases act with (_ | _ | pick) | n | n
    · cases hd : dials.primary <;>
        simp [effects, Phase.act, Phase.dialBackend, hd, Fleet.registers, registered]
    all_goals rfl
  | dialed s =>
    rcases act with (_ | _ | pick) | n | n
    · rcases hs : p.tcp.handshake s with ⟨e | r, s'⟩
      · cases hw : waits e <;> cases ht : p.tcp.tlsConfig.isSome <;>
          simp [effects, Phase.act, Phase.handshake, hs, hw, ht, Fleet.registers, registered]
      · simp [effects, Phase.act, Phase.handshake, hs, Fleet.registers, registered]
    all_goals rfl
  | established s =>
    rcases act with (_ | _ | pick) | n | n
    · exact registers_established s
    all_goals rfl
  | copying e s up down =>
    rcases act with (_ | _ | pick) | n | n
    · by_cases hend : up = .ended ∧ down = .ended <;>
        simp [effects, Phase.act, hend, Fleet.registers, registered]
    all_goals rfl
  | mirroring session =>
    cases act with
    | session act => exact registers_mirroring h act
    | copyUp n => rfl
    | copyDown n => rfl
  | waiting e s => rfl
  | returned outcome client primary => rfl
  | panicked => rfl

lemma workerRegistry (p : Proxy) : Registers (machine p) fun _ => registered where
  start := fun _ => rfl
  step := fun a _ act hreach => (reachable_sane hreach).registers a.dials act

def queueLength (m : Member Arrival Phase) : ℕ :=
  match m.state with
  | .mirroring session => session.back.service.worker.queue.length
  | _ => 0

/-- `getQueueDepth`: the sum over the registry. -/
def getQueueDepth (s : Server) : ℕ := ∑ i ∈ s.registry, s.members[i]?.elim 0 queueLength

lemma Sane.queueLength_le {m : Member Arrival Phase} (h : Sane p m.state) :
    queueLength m ≤ p.session.shadowQueueSize := by
  unfold queueLength
  split
  · rename_i session hs
    rw [hs] at h
    exact h.bounds.queue
  · exact Nat.zero_le _

lemma counted_of_registered (p : Proxy) (phase : Phase) (h : registered phase = true) :
    counted p .activeConnections phase = true := by
  cases phase with
  | mirroring session => rfl
  | _ => simp [registered] at h

/-- In every run, the gauge of the queue depth is the sum of the queues of the connections whose worker
runs and is not closing, and so at most the queue size for each active connection. -/
theorem queue_depth_census (p : Proxy) (events : List (Event Arrival Action)) :
    let s := run p events
    getQueueDepth s = ((s.members.filter fun m => registered m.state).map queueLength).sum ∧
      (getQueueDepth s : ℤ) ≤ p.session.shadowQueueSize * s.counters .activeConnections :=
  ⟨(workerRegistry p).sum_registry events queueLength,
    (workerRegistry p).sum_registry_le (counts p) (fun _ => counted_of_registered p)
      (fun _ hm => (reachable_sane hm).queueLength_le) events⟩

end Registry

section Crash
variable {p : Proxy} {events : List (Event Arrival Action)} {i : ℕ} {a : Arrival} {s : Session}
  {shadow c : Conn} {packet : Bytes}

/-- The shadow greets one client with a handshake that ends in the reserved bytes: from then on no
connection of the server takes a step. -/
theorem malformed_greeting_stops_server (hm : (run p events).members[i]? = some ⟨a, .established s⟩)
    (hlive : (run p events).stage ≠ .crashed) (hshadow : a.dials.shadow = .ok shadow)
    (hread : readMySQLPacket shadow = (.ok packet, c)) (hend : EndsInReserved packet)
    (later : List (Event Arrival Action)) :
    let s' := run p (events ++ .step i (.session .conn) :: later)
    s'.stage = .crashed ∧ s'.members = (run p events).members.set i ⟨a, .panicked⟩ := by
  have hinit : initializeWorker p a.dials.shadow = .error .inverted := by
    rw [hshadow]
    simp only [initializeWorker, authenticateWithShadow, hread, extractScramble_endsInReserved hend]
    rfl
  have hstep : (machine p).step a (.established s) (.session .conn) = .panicked := by
    simp [machine, Phase.act, Phase.startWorker, hinit]
  have hrun : run p (events ++ .step i (.session .conn) :: later) =
      ((run p events).act (machine p) (.step i (.session .conn))).exec (machine p) later := by
    simp [run, System.exec]
  have hcrash : ((run p events).act (machine p) (.step i (.session .conn))).stage = .crashed := by
    have hfatal : (machine p).fatal .panicked = true := rfl
    simp [System.act, hlive, hm, hstep, hfatal]
  intro s'
  rw [show s' = _ from hrun, exec_crashed (machine p) later hcrash]
  exact ⟨hcrash, by simp [System.act, hlive, hm, hstep]⟩

end Crash

def sampleArrival (shadow : Conn) : Arrival := ⟨samplePingSession.client, ⟨.ok samplePingSession.primary, .ok shadow⟩⟩

/-- One client is served without a shadow, and the next one's shadow greets with too little. -/
theorem malformed_greeting_stops_server_sample :
    let served : Arrival := ⟨samplePingSession.client, sampleDials⟩
    let greeted := sampleArrival (.script [⟨cutHandshake, none⟩])
    let events : List (Event Arrival Action) :=
      .accept served :: List.replicate 3 (.step 0 (.session .conn)) ++
        .accept greeted :: List.replicate 2 (.step 1 (.session .conn))
    let s' := run sampleProxy (events ++ [.step 1 (.session .conn), .step 0 (.copyUp 64), .accept greeted])
    (∃ err s, (run sampleProxy events).members[0]? = some ⟨served, .copying err s .reading .reading⟩) ∧
      s'.stage = .crashed ∧ s'.members = (run sampleProxy events).members.set 1 ⟨greeted, .panicked⟩ :=
  ⟨⟨_, _, rfl⟩, malformed_greeting_stops_server rfl (by decide) rfl rfl (by decide) _⟩

end ShadowProxy.MySQLServer
