import ShadowProxy.MySQLMirrorSession
import ShadowProxy.MySQLShadowLogin
import ShadowProxy.StreamCopy

/-! A whole MySQL connection: the dial, the handshake, the start of the shadow worker, and then either
the mirrored session or, without a shadow, two goroutines that copy. -/
namespace ShadowProxy.MySQLConnection
open WordBytes NetConn StreamCopy CheckedSlice MySQLPacket MySQLPacketReader MySQLResponse MySQLAuth
  MySQLHandshake MySQLNegotiation MySQLProxyLoop QueryLog MySQLShadowWorker MySQLShadowLogin
open MySQLMirrorSession (Point Front)

/-- Between the two states the given messages were written to the two peers. -/
structure Gives (s : Session) (toPrimary toClient : List Bytes) (s' : Session) : Prop where
  primary : s'.primary.sent = s.primary.sent ++ toPrimary
  client : s'.client.sent = s.client.sent ++ toClient

/-- How the primary's packets arrive at the client: over TLS the verdict is renumbered. -/
def delivered : Path → List Bytes → List Bytes
  | .plain, packets | .declined, packets => packets
  | .upgraded, packets => packets.map (·.set 3 3)

section Gives
variable {s s₁ s' : Session} {packet : Bytes} {msg : String}

lemma Gives.trans {a a' b b' : List Bytes} (h : Gives s a b s₁) (h' : Gives s₁ a' b' s') :
    Gives s (a ++ a') (b ++ b') s' :=
  ⟨by rw [h'.primary, h.primary, List.append_assoc], by rw [h'.client, h.client, List.append_assoc]⟩

end Gives

/-- What has passed between the peers since their connections were `c₁` and `p₁`: each was sent the next
bytes of the other. -/
structure Carries (c₁ p₁ client primary : Conn) (up down : List Bytes) : Prop where
  toPrimary : primary.sent = p₁.sent ++ up
  toClient : client.sent = c₁.sent ++ down
  fromClient : c₁.received ++ up.flatten <+: client.stream
  fromPrimary : p₁.received ++ down.flatten <+: primary.stream

section Mirrored

def inHand : Point → List Bytes
  | .writing req => [req.packet]
  | .reading | .mirroring _ | .replying _ | .done => []

/-- A mirrored session that began with the connections `c₁` and `p₁`. -/
structure Streams (c₁ p₁ : Conn) (cmds replies : List Bytes) (f : Front) : Prop
    extends Carries c₁ p₁ f.client f.primary cmds replies where
  clientAt : f.point ≠ .done →
    Positioned (c₁.received ++ (cmds ++ inHand f.point).flatten) f.clientReader f.client
  primaryAt : f.point ≠ .done → Positioned (p₁.received ++ replies.flatten) f.primaryReader f.primary

variable {cfg : MySQLMirrorSession.Config} {c₁ p₁ : Conn} {cmds replies : List Bytes}
  {s : MySQLMirrorSession.Session}

lemma received_prefix_stream (c : Conn) : c.received <+: c.stream := List.prefix_append _ _

lemma carries_start (client primary : Conn) : Carries client primary client primary [] [] :=
  ⟨(List.append_nil _).symm, (List.append_nil _).symm, by simpa using received_prefix_stream client,
    by simpa using received_prefix_stream primary⟩

lemma streams_start (client primary shadow : Conn) (logger : QueryLogger) :
    Streams client primary [] [] (MySQLMirrorSession.Session.start client primary shadow logger).front where
  toCarries := carries_start client primary
  clientAt := fun _ => by
    simpa [MySQLMirrorSession.Session.start, inHand] using positioned_new client
  primaryAt := fun _ => by simpa [MySQLMirrorSession.Session.start] using positioned_new primary

lemma Streams.receive (h : Streams c₁ p₁ cmds replies s.front) (hp : s.front.point = .reading) :
    Streams c₁ p₁ cmds replies s.receive.front := by
  have hpos := h.clientAt (by simp [hp])
  simp only [hp, inHand, List.append_nil] at hpos
  unfold MySQLMirrorSession.Session.receive
  rcases hread : readMultiPacket s.front.clientReader s.front.client with ⟨e | packet, r, client⟩
  · have hreads := readMultiPacketLoop_reads (available s.front.clientReader s.front.client + 1)
      s.front.clientReader s.front.client []
    rw [show readMultiPacketLoop _ _ s.front.client [] = _ from hread] at hreads
    exact ⟨⟨h.toPrimary, hreads.sent.trans h.toClient, hpos.stream_prefix hreads, h.fromPrimary⟩,
      fun hd => absurd rfl hd, fun hd => absurd rfl hd⟩
  · obtain ⟨-, hpos', hreads⟩ := readMultiPacket_ok hpos hread
    refine ⟨⟨h.toPrimary, hreads.sent.trans h.toClient, hpos.stream_prefix hreads, h.fromPrimary⟩,
      fun _ => ?_, fun _ => h.primaryAt (by simp [hp])⟩
    simpa [inHand] using hpos'

lemma Streams.writePrimary (h : Streams c₁ p₁ cmds replies s.front) {req : QueryRequest}
    (hp : s.front.point = .writing req) : ∃ cmds', Streams c₁ p₁ cmds' replies (s.writePrimary req).front := by
  have hclient := h.clientAt (by simp [hp])
  have hprimary := h.primaryAt (by simp [hp])
  unfold MySQLMirrorSession.Session.writePrimary
  rcases hw : s.front.primary.write req.packet with ⟨_ | e, primary⟩
  · have hprimary' := Positioned.write hprimary hw
    simp only [hp, inHand] at hclient
    refine ⟨cmds ++ [req.packet], ⟨?_, h.toClient, hclient.stream_prefix (Reads.refl _),
      hprimary'.stream_prefix (Reads.refl _)⟩, fun _ => by simpa [inHand] using hclient, fun _ => hprimary'⟩
    rw [(write_ok hw).1, h.toPrimary, List.append_assoc]
  · obtain rfl := write_error hw
    exact ⟨cmds, ⟨h.toPrimary, h.toClient, h.fromClient, h.fromPrimary⟩, fun hd => absurd rfl hd,
      fun hd => absurd rfl hd⟩

lemma Streams.relayReply (h : Streams c₁ p₁ cmds replies s.front) {req : QueryRequest}
    (hp : s.front.point = .replying req) :
    ∃ replies', Streams c₁ p₁ cmds replies' (s.relayReply req).front := by
  have hclient := h.clientAt (by simp [hp])
  have hprimary := h.primaryAt (by simp [hp])
  simp only [hp, inHand, List.append_nil] at hclient
  dsimp only [MySQLMirrorSession.Session.relayReply]
  split_ifs with hno hquit
  · exact ⟨replies, h.toCarries, fun hd => absurd rfl hd, fun hd => absurd rfl hd⟩
  · exact ⟨replies, h.toCarries, fun _ => by simpa [inHand] using hclient, fun _ => hprimary⟩
  · obtain ⟨hend, hat⟩ := forwardReply_keeps (getMySQLCommand req.packet).1 hprimary s.front.client
    rcases hf : forwardReply (getMySQLCommand req.packet).1 s.front.primaryReader s.front.primary
      s.front.client with ⟨n, err, ⟨r, primary⟩, client⟩
    rw [hf] at hend hat
    have hposition (hrec : client.received = s.front.client.received) :
        Positioned (c₁.received ++ cmds.flatten) s.front.clientReader client :=
      ⟨hclient.inv, hrec.trans hclient.received⟩
    cases err with
    | none =>
      obtain ⟨pkts, ha⟩ := hat rfl
      have hat' : Positioned (p₁.received ++ (replies ++ pkts).flatten) r primary := by
        simpa using ha.position
      refine ⟨replies ++ pkts, ⟨ha.reads.sent.trans h.toPrimary, ?_,
        Positioned.stream_prefix (hposition ha.received) (Reads.refl _), hat'.stream_prefix (Reads.refl _)⟩,
        fun _ => by simpa [inHand] using hposition ha.received, fun _ => hat'⟩
      exact ha.sent.trans (by rw [h.toClient, List.append_assoc])
    | some e =>
      obtain ⟨pkts, he⟩ := hend
      refine ⟨replies ++ pkts, ⟨he.reads.sent.trans h.toPrimary, ?_,
        Positioned.stream_prefix (hposition he.received) (Reads.refl _), ?_⟩,
        fun hd => absurd rfl hd, fun hd => absurd rfl hd⟩
      · exact he.sent.trans (by rw [h.toClient, List.append_assoc])
      · have htaken := he.taken
        rw [← he.reads.stream] at htaken
        simpa using htaken

lemma Streams.conn (h : Streams c₁ p₁ cmds replies s.front) :
    ∃ cmds' replies', Streams c₁ p₁ cmds' replies' (s.conn cfg).front := by
  unfold MySQLMirrorSession.Session.conn
  cases hp : s.front.point with
  | reading => exact ⟨cmds, replies, h.receive hp⟩
  | writing req =>
    obtain ⟨cmds', h'⟩ := h.writePrimary hp
    exact ⟨cmds', replies, h'⟩
  | mirroring req =>
    have hclient := h.clientAt (by simp [hp])
    rw [hp] at hclient
    exact ⟨cmds, replies, h.toCarries, fun _ => hclient, fun _ => h.primaryAt (by simp [hp])⟩
  | replying req =>
    obtain ⟨replies', h'⟩ := h.relayReply hp
    exact ⟨cmds, replies', h'⟩
  | done => exact ⟨cmds, replies, h⟩

lemma Streams.act (h : Streams c₁ p₁ cmds replies s.front) (act : MySQLMirrorSession.Action) :
    ∃ cmds' replies', Streams c₁ p₁ cmds' replies' (s.act cfg act).front := by
  cases act with
  | conn => exact h.conn
  | timeout => exact ⟨cmds, replies, h⟩
  | worker pick => exact ⟨cmds, replies, h⟩

end Mirrored

section Copying

/-- Two goroutines that copy between connections which were `c₁` and `p₁` when they began. -/
structure Copies (c₁ p₁ : Conn) (ups downs : List Bytes) (s : Session) (up down : Copier) : Prop where
  toPrimary : s.primary.sent = p₁.sent ++ ups
  toClient : s.client.sent = c₁.sent ++ downs
  fromClient : ∃ taken, s.client.received = c₁.received ++ taken ∧ up.Conserves taken ups.flatten
  fromPrimary : ∃ taken, s.primary.received = p₁.received ++ taken ∧ down.Conserves taken downs.flatten

variable {c₁ p₁ : Conn} {ups downs : List Bytes} {s : Session} {up down : Copier}

lemma copies_start (s : Session) : Copies s.client s.primary [] [] s .reading .reading :=
  ⟨by simp, by simp, ⟨[], by simp, .of_eq rfl⟩, ⟨[], by simp, .of_eq rfl⟩⟩

lemma Copies.copyUp (h : Copies c₁ p₁ ups downs s up down) (n : ℕ) :
    ∃ ups', Copies c₁ p₁ ups' downs
      ⟨(up.step n s.client s.primary).2.1, (up.step n s.client s.primary).2.2⟩
      (up.step n s.client s.primary).1 down := by
  obtain ⟨new, out, hrec, hsent, hrec', hsent', hcons⟩ := up.step_spec n s.client s.primary
  obtain ⟨taken, htaken, hup⟩ := h.fromClient
  obtain ⟨taken', htaken', hdown⟩ := h.fromPrimary
  refine ⟨ups ++ out, ?_, hsent.trans h.toClient, ⟨taken ++ new, ?_, ?_⟩, taken', ?_, hdown⟩
  · exact hsent'.trans (by rw [h.toPrimary, List.append_assoc])
  · exact hrec.trans (by rw [htaken, List.append_assoc])
  · simpa using hcons taken _ hup
  · exact hrec'.trans htaken'

lemma Copies.copyDown (h : Copies c₁ p₁ ups downs s up down) (n : ℕ) :
    ∃ downs', Copies c₁ p₁ ups downs'
      ⟨(down.step n s.primary s.client).2.2, (down.step n s.primary s.client).2.1⟩
      up (down.step n s.primary s.client).1 := by
  obtain ⟨new, out, hrec, hsent, hrec', hsent', hcons⟩ := down.step_spec n s.primary s.client
  obtain ⟨taken, htaken, hup⟩ := h.fromClient
  obtain ⟨taken', htaken', hdown⟩ := h.fromPrimary
  refine ⟨downs ++ out, hsent.trans h.toPrimary, ?_, ⟨taken, ?_, hup⟩, taken' ++ new, ?_, ?_⟩
  · exact hsent'.trans (by rw [h.toClient, List.append_assoc])
  · exact hrec'.trans htaken
  · exact hrec.trans (by rw [htaken', List.append_assoc])
  · simpa using hcons taken' _ hdown

lemma carried_prefix {a taken given : Bytes} {k : Copier} {c : Conn} (hrec : c.received = a ++ taken)
    (h : k.Conserves taken given) : a ++ given <+: c.stream := by
  have hgiven : a ++ given <+: c.received := by
    rw [hrec, List.prefix_append_right_inj]
    exact (List.prefix_append given _).trans h.inOrder
  exact hgiven.trans (received_prefix_stream c)

lemma Copies.carries (h : Copies c₁ p₁ ups downs s up down) :
    Carries c₁ p₁ s.client s.primary ups downs := by
  obtain ⟨taken, htaken, hup⟩ := h.fromClient
  obtain ⟨taken', htaken', hdown⟩ := h.fromPrimary
  exact ⟨h.toPrimary, h.toClient, carried_prefix htaken hup, carried_prefix htaken' hdown⟩

end Copying

/-- What the connections of a listener are served with. -/
structure Proxy where
  tcp : TCPProxy
  sha1 : Sha1
  shadowLogin : LoginConfig
  session : MySQLMirrorSession.Config
  logger : QueryLogger

/-- What comes of the two dials of a connection. -/
structure Dials where
  primary : Except Err Conn
  shadow : Except Err Conn

/-- `Initialize` of a `ShadowWorker`: the connection its goroutine works on. -/
def initializeWorker (p : Proxy) (dial : Except Err Conn) : Checked (Except Err Conn) :=
  match dial with
  | .error e => pure (.error (.wrap "failed to dial shadow" e))
  | .ok rawConn => do
    match ← authenticateWithShadow p.sha1 p.shadowLogin rawConn with
    | (some e, _) => pure (.error (.wrap "failed to authenticate with shadow" e))
    | (none, conn) => pure (.ok conn)

/-- Why a connection has returned. With a shadow, its worker may have been forced to stop. -/
inductive Outcome
  | primaryFailed (err : Err)
  | handshakeFailed (err : Err)
  | withoutShadow (err : Err)
  | withShadow (forced : Bool)

/-- How far `handleConnection` is. A connection that has returned has the two connections as they
were when it closed them. -/
inductive Phase
  | accepted (client : Conn)
  | dialed (s : Session)
  | established (s : Session)
  | copying (err : Err) (s : Session) (up down : Copier)
  | mirroring (session : MySQLMirrorSession.Session)
  | waiting (err : Err) (s : Session)
  | returned (outcome : Outcome) (client : Conn) (primary : Option Conn)
  | panicked

namespace Phase

def dialBackend (dials : Dials) (client : Conn) : Phase :=
  match dials.primary with
  | .error e => .returned (.primaryFailed e) client none
  | .ok primary => .dialed ⟨client, primary⟩

def handshake (p : Proxy) (s : Session) : Phase :=
  match p.tcp.handshake s with
  | (.ok _, s) => .established s
  | (.error e, s) =>
    if waits e then .waiting e s else .returned (.handshakeFailed e) s.client (some s.primary)

/-- A panic is not recovered from. -/
def startWorker (p : Proxy) (dials : Dials) (s : Session) : Phase :=
  match initializeWorker p dials.shadow with
  | .error _ => .panicked
  | .ok (.ok shadow) => .mirroring (.start s.client s.primary shadow p.logger)
  | .ok (.error e) => if waits e then .waiting e s else .copying e s .reading .reading

end Phase

/-- A step of the connection's goroutine, of its shadow worker or of one of the two that copy; `n`
is the size of the buffer. -/
inductive Action
  | session (act : MySQLMirrorSession.Action)
  | copyUp (n : ℕ)
  | copyDown (n : ℕ)
  deriving DecidableEq

def Phase.act (p : Proxy) (dials : Dials) : Phase → Action → Phase
  | .accepted client, .session .conn => dialBackend dials client
  | .dialed s, .session .conn => handshake p s
  | .established s, .session .conn => startWorker p dials s
  | .copying err s up down, .session .conn =>
    if up = .ended ∧ down = .ended then .returned (.withoutShadow err) s.client (some s.primary)
    else .copying err s up down
  | .copying err s up down, .copyUp n =>
    match up.step n s.client s.primary with
    | (up, client, primary) => .copying err ⟨client, primary⟩ up down
  | .copying err s up down, .copyDown n =>
    match down.step n s.primary s.client with
    | (down, primary, client) => .copying err ⟨client, primary⟩ up down
  | .mirroring session, .session act =>
    if act = .conn ∧ session.back.service.phase = .closed then
      .returned (.withShadow session.back.service.worker.force) session.front.client
        (some session.front.primary)
    else .mirroring (session.act p.session act)
  | phase, _ => phase

def Phase.exec (p : Proxy) (dials : Dials) (acts : List Action) (phase : Phase) : Phase :=
  acts.foldl (Phase.act p dials) phase

@[simp] lemma exec_nil (p : Proxy) (dials : Dials) (phase : Phase) : phase.exec p dials [] = phase := rfl

@[simp] lemma exec_concat (p : Proxy) (dials : Dials) (acts : List Action) (act : Action) (phase : Phase) :
    phase.exec p dials (acts ++ [act]) = (phase.exec p dials acts).act p dials act := by
  simp [Phase.exec]

section Tracks
variable {p : Proxy} {dials : Dials} {client : Conn} {phase : Phase} {s : Session}

/-- The handshake of a connection that began with `client` has succeeded. -/
def Reached (p : Proxy) (dials : Dials) (client : Conn) (s : Session) : Prop :=
  ∃ primary r, dials.primary = .ok primary ∧ p.tcp.handshake ⟨client, primary⟩ = (.ok r, s)

/-- What holds of a connection that began with `client`, however far it is. -/
def Tracks (p : Proxy) (dials : Dials) (client : Conn) : Phase → Prop
  | .accepted c => c = client
  | .dialed s => dials.primary = .ok s.primary ∧ s.client = client
  | .established s => Reached p dials client s
  | .copying _ s up down => ∃ s₁ ups downs, Reached p dials client s₁ ∧
      Copies s₁.client s₁.primary ups downs s up down
  | .mirroring session => ∃ s₁ cmds replies, Reached p dials client s₁ ∧
      Streams s₁.client s₁.primary cmds replies session.front
  | .returned (.withoutShadow _) c primary | .returned (.withShadow _) c primary =>
    ∃ s₁ ups downs, Reached p dials client s₁ ∧
      ∀ d ∈ primary, Carries s₁.client s₁.primary c d ups downs
  | .waiting _ _ | .panicked | .returned (.primaryFailed _) _ _ | .returned (.handshakeFailed _) _ _ => True

lemma handshake_tracks (h : Tracks p dials client (.dialed s)) :
    Tracks p dials client (Phase.handshake p s) := by
  obtain ⟨hdial, rfl⟩ := h
  unfold Phase.handshake
  rcases hs : p.tcp.handshake s with ⟨e | r, s'⟩
  · dsimp only
    split_ifs
    · trivial
    · trivial
  · exact ⟨s.primary, r, hdial, hs⟩

lemma startWorker_tracks (h : Reached p dials client s) :
    Tracks p dials client (Phase.startWorker p dials s) := by
  unfold Phase.startWorker
  rcases initializeWorker p dials.shadow with fault | e | shadow
  · trivial
  · dsimp only
    split_ifs
    · trivial
    · exact ⟨s, [], [], h, copies_start s⟩
  · exact ⟨s, [], [], h, streams_start s.client s.primary shadow p.logger⟩

lemma session_tracks {session : MySQLMirrorSession.Session} (h : Tracks p dials client (.mirroring session))
    (act : MySQLMirrorSession.Action) :
    Tracks p dials client ((Phase.mirroring session).act p dials (.session act)) := by
  obtain ⟨s₁, cmds, replies, hreached, hstreams⟩ := h
  dsimp only [Phase.act]
  split_ifs
  · exact ⟨s₁, cmds, replies, hreached, by simpa using hstreams.toCarries⟩
  · obtain ⟨cmds', replies', h'⟩ : ∃ cmds' replies', Streams s₁.client s₁.primary cmds' replies'
        (session.act p.session act).front := hstreams.act act
    exact ⟨s₁, cmds', replies', hreached, h'⟩

lemma copying_tracks {err : Err} {up down : Copier} (h : Tracks p dials client (.copying err s up down))
    (act : Action) : Tracks p dials client ((Phase.copying err s up down).act p dials act) := by
  obtain ⟨s₁, ups, downs, hreached, hcopies⟩ := h
  cases act with
  | session act =>
    cases act with
    | conn =>
      dsimp only [Phase.act]
      split_ifs
      · exact ⟨s₁, ups, downs, hreached, by simpa using hcopies.carries⟩
      · exact ⟨s₁, ups, downs, hreached, hcopies⟩
    | timeout => exact ⟨s₁, ups, downs, hreached, hcopies⟩
    | worker pick => exact ⟨s₁, ups, downs, hreached, hcopies⟩
  | copyUp n =>
    obtain ⟨ups', h'⟩ := hcopies.copyUp n
    exact ⟨s₁, ups', downs, hreached, h'⟩
  | copyDown n =>
    obtain ⟨downs', h'⟩ := hcopies.copyDown n
    exact ⟨s₁, ups, downs', hreached, h'⟩

lemma Tracks.act (h : Tracks p dials client phase) (act : Action) :
    Tracks p dials client (phase.act p dials act) := by
  unfold Phase.act
  split
  · obtain rfl := h
    unfold Phase.dialBackend
    cases hd : dials.primary with
    | error e => trivial
    | ok primary => exact ⟨hd, rfl⟩
  · exact handshake_tracks h
  · exact startWorker_tracks h
  · exact copying_tracks h (.session .conn)
  · exact copying_tracks h (.copyUp _)
  · exact copying_tracks h (.copyDown _)
  · exact session_tracks h _
  · exact h

end Tracks

/-- The two connections, once the handshake is through and as long as the connection is served. -/
def Phase.served : Phase → Option Session
  | .established s | .copying _ s _ _ => some s
  | .mirroring session => some ⟨session.front.client, session.front.primary⟩
  | .returned (.withoutShadow _) client primary | .returned (.withShadow _) client primary =>
    primary.map fun primary => ⟨client, primary⟩
  | .accepted _ | .dialed _ | .waiting _ _ | .panicked | .returned (.primaryFailed _) _ _
  | .returned (.handshakeFailed _) _ _ => none

lemma Tracks.served {p : Proxy} {dials : Dials} {client : Conn} {phase : Phase} {s : Session}
    (h : Tracks p dials client phase) (hs : s ∈ phase.served) :
    ∃ s₁ ups downs, Reached p dials client s₁ ∧ Carries s₁.client s₁.primary s.client s.primary ups downs := by
  unfold Phase.served at hs
  split at hs
  · obtain rfl := Option.mem_some.mp hs
    exact ⟨_, [], [], h, carries_start _ _⟩
  · obtain rfl := Option.mem_some.mp hs
    obtain ⟨s₁, ups, downs, hreached, hcopies⟩ := h
    exact ⟨s₁, ups, downs, hreached, hcopies.carries⟩
  · obtain rfl := Option.mem_some.mp hs
    obtain ⟨s₁, cmds, replies, hreached, hstreams⟩ := h
    exact ⟨s₁, cmds, replies, hreached, hstreams.toCarries⟩
  · obtain ⟨s₁, ups, downs, hreached, hcarries⟩ := h
    obtain ⟨d, hd, rfl⟩ := Option.mem_map.mp hs
    exact ⟨s₁, ups, downs, hreached, hcarries d hd⟩
  · obtain ⟨s₁, ups, downs, hreached, hcarries⟩ := h
    obtain ⟨d, hd, rfl⟩ := Option.mem_map.mp hs
    exact ⟨s₁, ups, downs, hreached, hcarries d hd⟩
  all_goals simp at hs

/-- Everything that has passed between a client and the primary since the two were connected. The
client was greeted over `c`, and its login is read from `d`, which is `c` or what TLS made of it. -/
structure Relayed (p : TCPProxy) (client primary c d : Conn) (x : Login)
    (packets answers ups downs : List Bytes) (s : Session) : Prop where
  edited : x.Edited
  greeted : c.sent = client.sent ++ [x.clientHandshake] ∧ c.received = client.received
  secured : d = c ∨ ∃ tls ∈ p.tlsConfig, ∃ c', Reads c c' ∧ tls c' = .ok d
  toPrimary : s.primary.sent = primary.sent ++ (x.serverLogin :: answers ++ ups)
  fromClient : d.received ++ (x.clientLogin :: answers ++ ups).flatten <+: s.client.stream
  toClient : s.client.sent = d.sent ++ (delivered x.path packets ++ downs)
  fromPrimary : primary.received ++ (x.serverHandshake :: packets ++ downs).flatten <+: s.primary.stream

def sampleProxy : Proxy :=
  ⟨plainProxy, sampleSha1, ⟨[117], [], none⟩, ⟨none, fun _ => false, 4⟩, none⟩

def sampleDials : Dials := ⟨.ok samplePingSession.primary, .error (.errorf "connection refused")⟩

/-- Without a shadow, the two packets of the client arrive as one chunk. -/
def sampleActs : List Action :=
  [.session .conn, .session .conn, .session .conn, .copyUp 64, .copyUp 64, .copyDown 64, .copyDown 64]

/-- The peer takes the connection, and a whole packet does not come from it. -/
def Silent (c : Conn) : Prop := ∃ e, (readMySQLPacket c).1 = .error e ∧ waits e = true

lemma initializeWorker_silent (p : Proxy) {shadow : Conn} (h : Silent shadow) :
    ∃ e, initializeWorker p (.ok shadow) = .ok (.error e) ∧ waits e = true := by
  obtain ⟨e, hread, hwaits⟩ := h
  rcases hr : readMySQLPacket shadow with ⟨e' | packet, c⟩
  · rw [hr] at hread
    obtain rfl := Except.error.inj hread
    refine ⟨.wrap "failed to authenticate with shadow" (.wrap "failed to read handshake from shadow" e'),
      ?_, hwaits⟩
    simp only [initializeWorker, authenticateWithShadow, hr]
    rfl
  · simp [hr] at hread

/-- Only the connection's own goroutine takes part before the client is served. -/
lemma act_unserved (p : Proxy) (dials : Dials) {phase : Phase}
    (h : (∃ c, phase = .accepted c) ∨ (∃ s, phase = .dialed s) ∨ ∃ s, phase = .established s)
    (act : Action) : phase.act p dials act = phase ∨ act = .session .conn := by
  rcases act with (_ | _ | pick) | n | n
  · exact .inr rfl
  all_goals
    refine .inl ?_
    obtain ⟨c, rfl⟩ | ⟨s, rfl⟩ | ⟨s, rfl⟩ := h
    all_goals rfl

section Waiting
variable {p : Proxy} {dials : Dials} {client primary shadow : Conn} {s : Session} {r : Login × List Bytes}

/-- `Initialize` reads the greeting of the shadow without a deadline, and before the first command of
the client is read. If the shadow stays silent, a client that is logged in is never served, and its
connection never ends. -/
theorem silent_shadow_stops_client (hdial : dials.primary = .ok primary)
    (hshake : p.tcp.handshake ⟨client, primary⟩ = (.ok r, s)) (hshadow : dials.shadow = .ok shadow)
    (hsilent : Silent shadow) (acts : List Action) :
    (Phase.accepted client).exec p dials acts ∈
      ({.accepted client, .dialed ⟨client, primary⟩, .established s} ∪ {.waiting e s | e} : Set Phase) := by
  obtain ⟨e, hinit, hwaits⟩ := initializeWorker_silent p hsilent
  induction acts using List.reverseRecOn with
  | nil => simp
  | append_singleton acts act ih =>
    rw [exec_concat]
    obtain (h | h | h) | ⟨e', h⟩ := ih
    · rw [h]
      obtain hsame | rfl := act_unserved p dials (.inl ⟨client, rfl⟩) act
      · simp [hsame]
      · simp [Phase.act, Phase.dialBackend, hdial]
    · rw [h]
      obtain hsame | rfl := act_unserved p dials (.inr (.inl ⟨⟨client, primary⟩, rfl⟩)) act
      · simp [hsame]
      · simp [Phase.act, Phase.handshake, hshake]
    · rw [h]
      obtain hsame | rfl := act_unserved p dials (.inr (.inr ⟨s, rfl⟩)) act
      · simp [hsame]
      · simp [Phase.act, Phase.startWorker, hshadow, hinit, hwaits]
    · exact .inr ⟨e', by rw [← h]; rfl⟩

end Waiting

def sampleSilent : Dials := ⟨.ok samplePingSession.primary, .ok (.script [])⟩

theorem silent_shadow_stops_client_sample :
    Silent (.script []) ∧
      (Phase.accepted samplePingSession.client).exec sampleProxy sampleSilent
        (List.replicate 8 (.session .conn)) ∈
      ({.accepted samplePingSession.client, .dialed samplePingSession,
        .established (plainProxy.handshake samplePingSession).2} ∪
        {.waiting e (plainProxy.handshake samplePingSession).2 | e} : Set Phase) :=
  have hsilent : Silent (.script []) := ⟨.stalled, rfl, rfl⟩
  ⟨hsilent, silent_shadow_stops_client rfl (Prod.ext rfl rfl) rfl hsilent (List.replicate 8 _)⟩

section Fallback
variable {p : Proxy} {dials : Dials} {client primary : Conn} {s : Session} {r : Login × List Bytes} {e : Err}

/-- A connection on its way to the fallback without a shadow, or in it; there the goroutine that copies
to the client runs on. -/
def Lasts (client primary : Conn) (s : Session) (err : Err) : Phase → Prop
  | .accepted c => c = client
  | .dialed s' => s' = ⟨client, primary⟩
  | .established s' => s' = s
  | .copying err' s' _ down => err' = err ∧ down.Runs ∧ StaysOpen s'.primary ∧ s'.client.writable = none
  | .mirroring _ | .waiting _ _ | .returned _ _ _ | .panicked => False

lemma copying_lasts {s' : Session} {up down : Copier} (h : Lasts client primary s e (.copying e s' up down))
    (act : Action) : Lasts client primary s e ((Phase.copying e s' up down).act p dials act) := by
  obtain ⟨-, hdown, hopen, hwritable⟩ := h
  rcases act with (_ | _ | pick) | n | n
  · have hne : ¬ (up = .ended ∧ down = .ended) := by
      rintro ⟨-, rfl⟩
      exact hdown
    simpa [Phase.act, hne, Lasts] using ⟨hdown, hopen, hwritable⟩
  · exact ⟨rfl, hdown, hopen, hwritable⟩
  · exact ⟨rfl, hdown, hopen, hwritable⟩
  · exact ⟨rfl, hdown, up.step_staysOpen n hopen, (up.step_src_writable n _ _).trans hwritable⟩
  · obtain ⟨hruns, hopen', hwritable'⟩ := Copier.step_runs hdown n hopen hwritable
    exact ⟨rfl, hruns, hopen', hwritable'⟩

/-- Without a shadow, the end of the client does not end the connection: as long as the primary does
not end it and the client's side takes what is written, `proxyWithoutShadow` does not return and the
connection to the primary stays open. -/
theorem fallback_outlives_client (hdial : dials.primary = .ok primary)
    (hshake : p.tcp.handshake ⟨client, primary⟩ = (.ok r, s))
    (hshadow : initializeWorker p dials.shadow = .ok (.error e)) (hfails : waits e = false)
    (hopen : StaysOpen s.primary) (hwritable : s.client.writable = none) (acts : List Action) :
    Lasts client primary s e ((Phase.accepted client).exec p dials acts) := by
  induction acts using List.reverseRecOn with
  | nil => exact rfl
  | append_singleton acts act ih =>
    rw [exec_concat]
    rcases hphase : (Phase.accepted client).exec p dials acts with c | s' | s' | ⟨err, s', up, down⟩ | _ | _ | _ | _
      <;> rw [hphase] at ih
    · obtain rfl := ih
      obtain hsame | rfl := act_unserved p dials (.inl ⟨c, rfl⟩) act
      · simp [hsame, Lasts]
      · simp [Phase.act, Phase.dialBackend, hdial, Lasts]
    · obtain rfl := ih
      obtain hsame | rfl := act_unserved p dials (.inr (.inl ⟨⟨client, primary⟩, rfl⟩)) act
      · simp [hsame, Lasts]
      · simp [Phase.act, Phase.handshake, hshake, Lasts]
    · obtain rfl := ih
      obtain hsame | rfl := act_unserved p dials (.inr (.inr ⟨s', rfl⟩)) act
      · simp [hsame, Lasts]
      · simpa [Phase.act, Phase.startWorker, hshadow, hfails, Lasts, Copier.Runs] using ⟨hopen, hwritable⟩
    · obtain rfl := ih.1
      exact copying_lasts ih act
    all_goals exact ih.elim

end Fallback

def sampleGone : Session :=
  ⟨Conn.script [⟨sampleLogin 1, none⟩, ⟨[], some .eof⟩], (sampleSession 1 sampleVerdict).primary⟩

theorem fallback_outlives_client_sampleGone :
    let acts := [.session .conn, .session .conn, .session .conn, .copyUp 64, .session .conn]
    let dials : Dials := ⟨.ok sampleGone.primary, .error (.errorf "connection refused")⟩
    let phase := (Phase.accepted sampleGone.client).exec sampleProxy dials acts
    (∃ err s down, phase = .copying err s .ended down) ∧
      Lasts sampleGone.client sampleGone.primary (plainProxy.handshake sampleGone).2
        (.wrap "failed to dial shadow" (.errorf "connection refused")) phase :=
  have hshake : sampleProxy.tcp.handshake ⟨sampleGone.client, sampleGone.primary⟩ =
      (.ok (samplePlain 1, [sampleVerdict]), (plainProxy.handshake sampleGone).2) := Prod.ext rfl rfl
  have hopen : StaysOpen (plainProxy.handshake sampleGone).2.primary :=
    ⟨fun _ hseg => absurd hseg List.not_mem_nil, fun _ _ hseg => absurd hseg List.not_mem_nil⟩
  ⟨⟨_, _, _, rfl⟩, fallback_outlives_client rfl hshake rfl rfl hopen rfl _⟩

end ShadowProxy.MySQLConnection
