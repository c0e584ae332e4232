import ShadowProxy.EventHistory
import ShadowProxy.MySQLNegotiation
import ShadowProxy.MySQLReplyStream
import ShadowProxy.ShadowFilter

/-! The loop that serves a MySQL session after the handshake: a command is read from the client,
written to the primary and offered to the shadow, and the primary's reply is relayed to the
client before the next command is read. -/
namespace ShadowProxy.MySQLProxyLoop
open WordBytes EventHistory NetConn MySQLPacket MySQLPacketReader MySQLResponse MySQLReplyStream
  MySQLHandshake MySQLNegotiation ShadowFilter

/-- The SQL text of a `NewQueryRequest`. -/
def queryText (packet : Bytes) : Bytes :=
  if (getMySQLCommand packet).1 = comQuery ∧ 5 < packet.length then packet.drop 5 else []

/-- `offered` lists the packets handed to the shadow worker. -/
structure LoopState where
  client : Conn
  primary : Conn
  clientReader : Reader
  primaryReader : Reader
  offered : List Bytes

def LoopState.start (client primary : Conn) : LoopState :=
  ⟨client, primary, newMySQLPacketReader, newMySQLPacketReader, []⟩

section Loop
variable (filter : Option QueryFilter) (sampledOut : ℕ → Bool)

def LoopState.offer (s : LoopState) (packet : Bytes) : LoopState :=
  if (getMySQLCommand packet).1 = comQuit then s
  else
    match filter with
    | none => { s with offered := s.offered ++ [packet] }
    | some f =>
      if (f.allow (sampledOut s.primary.sent.length) (queryText packet)).1 then
        { s with offered := s.offered ++ [packet] }
      else s

/-- One iteration, and whether the loop goes on. The sampling roll for a command is the one for
the number of writes to the primary. -/
def turn (s : LoopState) : LoopState × Bool :=
  match readMultiPacket s.clientReader s.client with
  | (.error _, r, client) => ({ s with client := client, clientReader := r }, false)
  | (.ok packet, r, client) =>
    let s := { s with client := client, clientReader := r }
    match s.primary.write packet with
    | (some _, primary) => ({ s with primary := primary }, false)
    | (none, primary) =>
      let s := LoopState.offer filter sampledOut { s with primary := primary } packet
      let cmd := (getMySQLCommand packet).1
      if isNoResponseCommand cmd then (s, cmd ≠ comQuit)
      else
        match forwardReply cmd s.primaryReader s.primary s.client with
        | ⟨_, err, ((r, primary), client)⟩ =>
          ({ s with client := client, primary := primary, primaryReader := r }, err = none)

/-- The session after at most `n` iterations. -/
def run : ℕ → LoopState → LoopState
  | 0, s => s
  | n + 1, s =>
    match turn filter sampledOut s with
    | (s, true) => run n s
    | (s, false) => s

def proxyWithMirrorWorker (n : ℕ) (client primary : Conn) : LoopState :=
  run filter sampledOut n (.start client primary)

end Loop

section Relay
variable {start : Bytes} {p d : Conn}

/-- From the primary `p`, whose reader stood behind `start`, whole packets have been relayed to
the client `d`, and the reader stands behind them. -/
structure RelayAt (start : Bytes) (p d : Conn) (pkts : List Bytes) (s : (Reader × Conn) × Conn) :
    Prop where
  whole : ∀ q ∈ pkts, WellFramed q
  sent : s.2.sent = d.sent ++ pkts
  received : s.2.received = d.received
  reads : Reads p s.1.2
  position : Positioned (start ++ pkts.flatten) s.1.1 s.1.2

/-- As `RelayAt` after a failure, when the reader may have taken more than was relayed. -/
structure RelayEnd (start : Bytes) (p d : Conn) (pkts : List Bytes) (s : (Reader × Conn) × Conn) :
    Prop where
  whole : ∀ q ∈ pkts, WellFramed q
  sent : s.2.sent = d.sent ++ pkts
  received : s.2.received = d.received
  reads : Reads p s.1.2
  taken : start ++ pkts.flatten <+: p.stream

lemma RelayAt.relayEnd {pkts : List Bytes} {s : (Reader × Conn) × Conn}
    (h : RelayAt start p d pkts s) : RelayEnd start p d pkts s := by
  refine ⟨h.whole, h.sent, h.received, h.reads, ?_⟩
  have htaken := h.position.stream_prefix (Reads.refl s.1.2)
  rwa [h.reads.stream] at htaken

lemma forwardRelay_guards (start : Bytes) (p d : Conn) :
    Guards forwardRelay (fun s => ∃ pkts, RelayAt start p d pkts s)
      (fun s => ∃ pkts, RelayEnd start p d pkts s) where
  ok := by
    rintro what s q s' ⟨pkts, h⟩ hq
    unfold forwardRelay at hq
    rcases hp : readPacket s.1.1 s.1.2 with ⟨e | packet, r, c⟩
    · simp [hp] at hq
    · obtain ⟨hwhole, hpos, hreads⟩ := h.position.readPacket_ok hp
      rcases hw : s.2.write packet with ⟨_ | e, dest⟩
      · simp only [hp, hw, Prod.mk.injEq, Except.ok.injEq] at hq
        obtain ⟨rfl, rfl⟩ := hq
        obtain ⟨hsent, hrec⟩ := write_ok hw
        refine ⟨pkts ++ [packet], ?_, ?_, hrec.trans h.received, h.reads.trans hreads, ?_⟩
        · simpa [or_imp, forall_and] using ⟨h.whole, hwhole⟩
        · rw [hsent, h.sent, List.append_assoc]
        · simpa using hpos
      · simp [hp, hw] at hq
  err := by
    rintro what s e s' ⟨pkts, h⟩ hq
    have hend := h.relayEnd
    unfold forwardRelay at hq
    rcases hp : readPacket s.1.1 s.1.2 with ⟨e' | packet, r, c⟩
    · simp only [hp, Prod.mk.injEq] at hq
      obtain ⟨-, rfl⟩ := hq
      have hreads := (readPacket_error h.position.inv hp).reads
      exact ⟨pkts, h.whole, h.sent, h.received, h.reads.trans hreads, hend.taken⟩
    · obtain ⟨-, -, hreads⟩ := h.position.readPacket_ok hp
      rcases hw : s.2.write packet with ⟨_ | e', dest⟩
      · simp [hp, hw] at hq
      · simp only [hp, hw, Prod.mk.injEq] at hq
        obtain ⟨-, rfl⟩ := hq
        obtain rfl := write_error hw
        exact ⟨pkts, h.whole, h.sent, h.received, h.reads.trans hreads, hend.taken⟩
  weaken := fun ⟨pkts, h⟩ => ⟨pkts, h.relayEnd⟩

lemma forwardReply_guarded {I J : (Reader × Conn) × Conn → Prop} (g : Guards forwardRelay I J)
    (cmd : UInt8) {r : Reader} (h : I ((r, p), d)) : Keeps I J (forwardReply cmd r p d) := by
  unfold forwardReply
  split_ifs
  · unfold readAndForwardSimpleResponse
    rcases hq : forwardRelay "failed to forward simple response" ((r, p), d) with ⟨e | q, s⟩
    · exact ⟨g.err h hq, by simp⟩
    · exact ⟨g.weaken (g.ok h hq), fun _ => g.ok h hq⟩
  · rw [readAndForwardResponse_eq]
    exact responseLoop_keeps g _ 0 h

lemma forwardReply_keeps (cmd : UInt8) {r : Reader} (h : Positioned start r p) (d : Conn) :
    Keeps (fun s => ∃ pkts, RelayAt start p d pkts s) (fun s => ∃ pkts, RelayEnd start p d pkts s)
      (forwardReply cmd r p d) :=
  forwardReply_guarded (forwardRelay_guards start p d) cmd
    ⟨[], by simp, by simp, rfl, Reads.refl p, by simpa using h⟩

end Relay

/-- A session that started with the connections `c₀` and `p₀`: the primary has been sent the
commands `cmds`, which are the next bytes of the client, and the client the packets `replies`,
which are the next bytes of the primary. -/
structure Served (c₀ p₀ : Conn) (cmds replies : List Bytes) (s : LoopState) : Prop where
  toPrimary : s.primary.sent = p₀.sent ++ cmds
  toClient : s.client.sent = c₀.sent ++ replies
  fromClient : c₀.received ++ cmds.flatten <+: s.client.stream
  fromPrimary : p₀.received ++ replies.flatten <+: s.primary.stream
  commands : ∀ cmd ∈ cmds, CommandBytes cmd
  packets : ∀ q ∈ replies, WellFramed q
  quitLast : ∀ a cmd b, cmds = a ++ cmd :: b → (getMySQLCommand cmd).1 = comQuit → b = []

/-- A session in which the loop reads the next command. -/
structure Waiting (c₀ p₀ : Conn) (cmds replies : List Bytes) (s : LoopState) : Prop where
  toPrimary : s.primary.sent = p₀.sent ++ cmds
  toClient : s.client.sent = c₀.sent ++ replies
  clientAt : Positioned (c₀.received ++ cmds.flatten) s.clientReader s.client
  primaryAt : Positioned (p₀.received ++ replies.flatten) s.primaryReader s.primary
  commands : ∀ cmd ∈ cmds, CommandBytes cmd
  packets : ∀ q ∈ replies, WellFramed q
  noQuit : ∀ cmd ∈ cmds, (getMySQLCommand cmd).1 ≠ comQuit

section Session
variable {filter : Option QueryFilter} {sampledOut : ℕ → Bool} {c₀ p₀ : Conn}
  {cmds replies : List Bytes} {s : LoopState}

lemma waiting_start (c p : Conn) : Waiting c p [] [] (.start c p) :=
  ⟨(List.append_nil _).symm, (List.append_nil _).symm,
    by simpa [LoopState.start] using positioned_new c,
    by simpa [LoopState.start] using positioned_new p, by simp, by simp, by simp⟩

lemma Waiting.served (h : Waiting c₀ p₀ cmds replies s) : Served c₀ p₀ cmds replies s := by
  refine ⟨h.toPrimary, h.toClient, h.clientAt.stream_prefix (Reads.refl _),
    h.primaryAt.stream_prefix (Reads.refl _), h.commands, h.packets, ?_⟩
  rintro a cmd b rfl hquit
  exact absurd hquit (h.noQuit cmd (by simp))

lemma offer_eq (filter : Option QueryFilter) (sampledOut : ℕ → Bool) (s : LoopState)
    (packet : Bytes) :
    ∃ offered, s.offer filter sampledOut packet = { s with offered := offered } := by
  unfold LoopState.offer
  split_ifs
  · exact ⟨_, rfl⟩
  · cases filter with
    | none => exact ⟨_, rfl⟩
    | some f =>
      dsimp only
      split_ifs <;> exact ⟨_, rfl⟩

lemma Positioned.write {start bs : Bytes} {r : Reader} {c c' : Conn} (h : Positioned start r c)
    (hw : c.write bs = (none, c')) : Positioned start r c' :=
  ⟨h.inv, (write_ok hw).2.trans h.received⟩

lemma Waiting.command (h : Waiting c₀ p₀ cmds replies s) {packet : Bytes} {r : Reader}
    {client primary : Conn}
    (hread : readMultiPacket s.clientReader s.client = (.ok packet, r, client))
    (hwrite : s.primary.write packet = (none, primary)) (offered : List Bytes) :
    Served c₀ p₀ (cmds ++ [packet]) replies ⟨client, primary, r, s.primaryReader, offered⟩ ∧
      ((getMySQLCommand packet).1 ≠ comQuit →
        Waiting c₀ p₀ (cmds ++ [packet]) replies ⟨client, primary, r, s.primaryReader, offered⟩) := by
  obtain ⟨hcmd, hpos, hreads⟩ := readMultiPacket_ok h.clientAt hread
  have hpos' : Positioned (c₀.received ++ (cmds ++ [packet]).flatten) r client := by
    simpa using hpos
  have hprimary := Positioned.write h.primaryAt hwrite
  have hsent : primary.sent = p₀.sent ++ (cmds ++ [packet]) := by
    rw [(write_ok hwrite).1, h.toPrimary, List.append_assoc]
  have hcmds : ∀ cmd ∈ cmds ++ [packet], CommandBytes cmd := by
    simpa [or_imp, forall_and] using ⟨h.commands, hcmd⟩
  refine ⟨⟨hsent, hreads.sent.trans h.toClient, hpos'.stream_prefix (Reads.refl _),
    hprimary.stream_prefix (Reads.refl _), hcmds, h.packets, ?_⟩, fun hne => ⟨hsent,
    hreads.sent.trans h.toClient, hpos', hprimary, hcmds, h.packets, ?_⟩⟩
  · intro a cmd b heq hquit
    obtain ⟨-, -, hb⟩ | ⟨b', -, rfl⟩ := concat_eq_append_cons.mp heq
    · exact hb
    · exact absurd hquit (h.noQuit cmd (by simp))
  · simpa [or_imp, forall_and] using ⟨h.noQuit, hne⟩

lemma Waiting.reply (h : Waiting c₀ p₀ cmds replies s) (cmd : UInt8) {n : ℕ} {err : Option Err}
    {r : Reader} {primary client : Conn}
    (hreply : forwardReply cmd s.primaryReader s.primary s.client =
      ⟨n, err, ((r, primary), client)⟩) :
    ∃ replies', Served c₀ p₀ cmds replies' ⟨client, primary, s.clientReader, r, s.offered⟩ ∧
      (err = none → Waiting c₀ p₀ cmds replies' ⟨client, primary, s.clientReader, r, s.offered⟩) := by
  obtain ⟨hend, hat⟩ := forwardReply_keeps cmd h.primaryAt s.client
  rw [hreply] at hend hat
  cases err with
  | none =>
    obtain ⟨pkts, ha⟩ := hat rfl
    have hw : Waiting c₀ p₀ cmds (replies ++ pkts) ⟨client, primary, s.clientReader, r, s.offered⟩ := by
      refine ⟨ha.reads.sent.trans h.toPrimary, ?_, ⟨h.clientAt.inv, ?_⟩, ?_, h.commands, ?_, h.noQuit⟩
      · exact ha.sent.trans (by rw [h.toClient, List.append_assoc])
      · exact ha.received.trans h.clientAt.received
      · simpa using ha.position
      · simpa [or_imp, forall_and] using ⟨h.packets, ha.whole⟩
    exact ⟨_, hw.served, fun _ => hw⟩
  | some e =>
    obtain ⟨pkts, he⟩ := hend
    refine ⟨replies ++ pkts, ⟨he.reads.sent.trans h.toPrimary, ?_, ?_, ?_, h.commands, ?_,
      h.served.quitLast⟩, by simp⟩
    · exact he.sent.trans (by rw [h.toClient, List.append_assoc])
    · have hpos : Positioned (c₀.received ++ cmds.flatten) s.clientReader client :=
        ⟨h.clientAt.inv, he.received.trans h.clientAt.received⟩
      exact hpos.stream_prefix (Reads.refl _)
    · rw [List.flatten_append, ← List.append_assoc]
      exact he.reads.stream ▸ he.taken
    · simpa [or_imp, forall_and] using ⟨h.packets, he.whole⟩

lemma Waiting.discard (h : Waiting c₀ p₀ cmds replies s) {client : Conn}
    (hreads : Reads s.client client) (r : Reader) :
    Served c₀ p₀ cmds replies ⟨client, s.primary, r, s.primaryReader, s.offered⟩ :=
  ⟨h.toPrimary, hreads.sent.trans h.toClient, h.clientAt.stream_prefix hreads,
    h.served.fromPrimary, h.commands, h.packets, h.served.quitLast⟩

/-- An iteration keeps the session served, and leaves it waiting when the loop goes on. -/
lemma Waiting.turn (h : Waiting c₀ p₀ cmds replies s) {t : LoopState} {go : Bool}
    (ht : turn filter sampledOut s = (t, go)) :
    ∃ cmds' replies', Served c₀ p₀ cmds' replies' t ∧
      (go = true → Waiting c₀ p₀ cmds' replies' t) := by
  unfold MySQLProxyLoop.turn at ht
  rcases hread : readMultiPacket s.clientReader s.client with ⟨e | packet, r, client⟩
  · simp only [hread, Prod.mk.injEq] at ht
    obtain ⟨rfl, rfl⟩ := ht
    have hreads := readMultiPacketLoop_reads (available s.clientReader s.client + 1) s.clientReader
      s.client []
    rw [show readMultiPacketLoop _ _ s.client [] = _ from hread] at hreads
    exact ⟨cmds, replies, h.discard hreads r, by simp⟩
  · rcases hwrite : s.primary.write packet with ⟨_ | e, primary⟩
    · simp only [hread, hwrite] at ht
      obtain ⟨offered, hoffer⟩ := offer_eq filter sampledOut
        ⟨client, primary, r, s.primaryReader, s.offered⟩ packet
      obtain ⟨hserved, hwaiting⟩ := h.command hread hwrite offered
      rw [hoffer] at ht
      split_ifs at ht with hno
      · simp only [Prod.mk.injEq] at ht
        obtain ⟨rfl, rfl⟩ := ht
        exact ⟨_, replies, hserved, by simpa using hwaiting⟩
      · have hquit : (getMySQLCommand packet).1 ≠ comQuit := by
          intro hq
          rw [hq] at hno
          exact hno rfl
        rcases hreply : forwardReply (getMySQLCommand packet).1 s.primaryReader primary client
          with ⟨n, err, ⟨r', primary'⟩, client'⟩
        simp only [hreply, Prod.mk.injEq] at ht
        obtain ⟨rfl, rfl⟩ := ht
        obtain ⟨replies', hs, hw⟩ := (hwaiting hquit).reply _ hreply
        exact ⟨_, replies', hs, by simpa using hw⟩
    · simp only [hread, hwrite, Prod.mk.injEq] at ht
      obtain ⟨rfl, rfl⟩ := ht
      obtain rfl := write_error hwrite
      exact ⟨cmds, replies, h.discard (readMultiPacket_ok h.clientAt hread).2.2 r, by simp⟩

/-- A command that has arrived is sent to the primary. -/
theorem Waiting.turn_forwards (h : Waiting c₀ p₀ cmds replies s) {ps : List Packet} {rest : Bytes}
    (hcmd : IsCommand (ps.map Packet.bytes))
    (hready : unread s.clientReader ++ s.client.ready = wire ps ++ rest)
    (hw : s.primary.writable = none) :
    (MySQLProxyLoop.turn filter sampledOut s).1.primary.sent = s.primary.sent ++ [wire ps] := by
  obtain ⟨r, client, hread⟩ := readMultiPacket_ready h.clientAt.inv hcmd hready
  rcases hwrite : s.primary.write (wire ps) with ⟨_ | e, primary⟩
  · obtain ⟨offered, hoffer⟩ := offer_eq filter sampledOut
      ⟨client, primary, r, s.primaryReader, s.offered⟩ (wire ps)
    have hsent := (write_ok hwrite).1
    simp only [MySQLProxyLoop.turn, hread, hwrite, hoffer]
    split_ifs
    · exact hsent
    · obtain ⟨⟨pkts, hend⟩, -⟩ := forwardReply_keeps (getMySQLCommand (wire ps)).1
        (Positioned.write h.primaryAt hwrite) client
      exact hend.reads.sent.trans hsent
  · simp [Conn.write, hw] at hwrite

/-- The reply to a command with a single packet for an answer is relayed when it has arrived. -/
theorem Waiting.turn_relays (h : Waiting c₀ p₀ cmds replies s) {ps : List Packet} {q : Packet}
    {rest rest' : Bytes} (hcmd : IsCommand (ps.map Packet.bytes))
    (hready : unread s.clientReader ++ s.client.ready = wire ps ++ rest)
    (hno : isNoResponseCommand (getMySQLCommand (wire ps)).1 = false)
    (hsimple : isSimpleResponseCommand (getMySQLCommand (wire ps)).1 = true)
    {primary : Conn} (hwrite : s.primary.write (wire ps) = (none, primary))
    (hreply : unread s.primaryReader ++ primary.ready = q.bytes ++ rest')
    (hopen : s.client.writable = none) :
    (MySQLProxyLoop.turn filter sampledOut s).1.client.sent = s.client.sent ++ [q.bytes] := by
  obtain ⟨r, client, hread⟩ := readMultiPacket_ready h.clientAt.inv hcmd hready
  obtain ⟨-, -, hreads⟩ := readMultiPacket_ok h.clientAt hread
  obtain ⟨r', primary', hpacket, -⟩ := readPacket_ready h.primaryAt.inv hreply
  obtain ⟨client', hforward, -⟩ := write_unlimited (hreads.writable.trans hopen) q.bytes
  obtain ⟨offered, hoffer⟩ := offer_eq filter sampledOut
    ⟨client, primary, r, s.primaryReader, s.offered⟩ (wire ps)
  simp only [MySQLProxyLoop.turn, hread, hwrite, hoffer, hno, forwardReply, hsimple,
    readAndForwardSimpleResponse, forwardRelay, hpacket, hforward, Bool.false_eq_true, if_true, if_false]
  rw [(write_ok hforward).1, hreads.sent]

/-- Whatever the number of iterations, the session is served. -/
theorem Waiting.run (h : Waiting c₀ p₀ cmds replies s) (n : ℕ) :
    ∃ cmds' replies', Served c₀ p₀ cmds' replies' (run filter sampledOut n s) := by
  induction n generalizing s cmds replies with
  | zero => exact ⟨cmds, replies, h.served⟩
  | succ n ih =>
    unfold MySQLProxyLoop.run
    rcases ht : MySQLProxyLoop.turn filter sampledOut s with ⟨t, go⟩
    obtain ⟨cmds', replies', hs, hw⟩ := h.turn ht
    cases go with
    | true => exact ih (hw rfl)
    | false => exact ⟨cmds', replies', hs⟩

end Session

/-- In every run after a successful handshake the primary has been sent whole commands, which are
the bytes of the client right behind the handshake, and nothing after COM_QUIT; the client has been
sent whole packets, which are the bytes of the primary right behind the handshake. -/
theorem proxyWithMirrorWorker_preserves_streams {p : TCPProxy} {s₀ s : Session} {x : Login}
    {packets : List Bytes} (hs : p.handshake s₀ = (.ok (x, packets), s))
    (filter : Option QueryFilter) (sampledOut : ℕ → Bool) (n : ℕ) :
    (∃ answers, HandedOver p s₀ x answers packets s) ∧
    ∃ cmds replies, Served s.client s.primary cmds replies
      (proxyWithMirrorWorker filter sampledOut n s.client s.primary) :=
  ⟨handshake_handedOver hs, (waiting_start s.client s.primary).run n⟩

def samplePing : Packet := ⟨0, [0x0E], by decide⟩

def samplePong : Packet := ⟨1, [0, 0, 0, 2, 0, 0, 0], by decide⟩

/-- After its login the client sends COM_PING and COM_QUIT. -/
def samplePingSession : Session :=
  ⟨Conn.script [⟨sampleLogin 1 ++ samplePing.bytes ++ [1, 0, 0, 0, 0x01], none⟩],
    Conn.script [⟨sampleGreeting ++ sampleVerdict ++ samplePong.bytes, none⟩]⟩

theorem proxyWithMirrorWorker_preserves_streams_samplePing :
    let s := (plainProxy.handshake samplePingSession).2
    ((∃ answers, HandedOver plainProxy samplePingSession (samplePlain 1) answers [sampleVerdict] s) ∧
      ∃ cmds replies, Served s.client s.primary cmds replies
        (proxyWithMirrorWorker none (fun _ => false) 2 s.client s.primary)) ∧
    (turn none (fun _ => false) (.start s.client s.primary)).1.primary.sent =
      s.primary.sent ++ [samplePing.bytes] ∧
    (turn none (fun _ => false) (.start s.client s.primary)).1.client.sent =
      s.client.sent ++ [samplePong.bytes] := by
  intro s
  have hstart := waiting_start s.client s.primary
  have hready : unread newMySQLPacketReader ++ s.client.ready =
      wire [samplePing] ++ [1, 0, 0, 0, 0x01] := rfl
  have hreply : unread newMySQLPacketReader ++ (s.primary.write (wire [samplePing])).2.ready =
      samplePong.bytes ++ [] := rfl
  have hcmd : IsCommand ([samplePing].map Packet.bytes) := by
    show payloadLen samplePing.bytes < 0xFFFFFF
    decide
  refine ⟨proxyWithMirrorWorker_preserves_streams (Prod.ext rfl rfl) none (fun _ => false) 2, ?_, ?_⟩
  · exact hstart.turn_forwards hcmd hready rfl
  · exact hstart.turn_relays hcmd hready rfl rfl (Prod.ext rfl rfl) hreply rfl

end ShadowProxy.MySQLProxyLoop
