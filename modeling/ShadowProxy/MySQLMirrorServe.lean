import ShadowProxy.MySQLMirrorSession

/-! How the steps of a mirrored session make up the iterations of its loop, and what a session does
that is given well-formed commands and replies. -/
namespace ShadowProxy.MySQLMirrorServe
open WordBytes NetConn MySQLPacket MySQLPacketReader MySQLResponse MySQLReplyStream MySQLReply
  MySQLSegmentation MySQLProxyLoop ShadowFilter QueryLog WorkQueue MySQLShadowWorker
  MySQLMirrorSession

def Fate.isOffered : Fate → Bool
  | .offered _ => true
  | .unsent | .quit | .filtered _ => false

def offered (ledger : List (QueryRequest × Fate)) : List Bytes :=
  (ledger.filter fun x => Fate.isOffered x.2).map fun x => x.1.packet

def loopState (s : Session) : LoopState :=
  ⟨s.front.client, s.front.primary, s.front.clientReader, s.front.primaryReader,
    offered s.back.ledger⟩

section Turn
variable (cfg : Config)

lemma mirror_offered (b : Back) (id : ℕ) (packet : Bytes) (loop : LoopState)
    (hl : loop.offered = offered b.ledger) :
    (LoopState.offer cfg.queryFilter cfg.sampledOut loop packet).offered =
      offered (b.mirror cfg loop.primary.sent.length (newQueryRequest id packet)).ledger := by
  have hsend : offered (b.send cfg (newQueryRequest id packet)).ledger = loop.offered ++ [packet] := by
    simp [Back.send, offered, hl, Fate.isOffered]
  unfold LoopState.offer Back.mirror
  by_cases hq : (getMySQLCommand packet).1 = comQuit
  · simp [hq, hl, offered, Fate.isOffered]
  · simp only [newQueryRequest_packet, newQueryRequest_queryText, hq, if_false]
    cases cfg.queryFilter with
    | none => exact hsend.symm
    | some f =>
      rcases ha : f.allow (cfg.sampledOut loop.primary.sent.length) (queryText packet) with
        ⟨_ | _, filterReason⟩
      · simp [ha, hl, Back.filterOut, offered, Fate.isOffered]
      · simpa [ha] using hsend.symm

lemma exec_replying {f : Front} {b : Back} (hp : f.point = .reading) {packet : Bytes} {r : Reader}
    {client primary : Conn}
    (hr : readMultiPacket f.clientReader f.client = (.ok packet, r, client))
    (hw : f.primary.write packet = (none, primary)) :
    Session.exec cfg (List.replicate 3 .conn) ⟨f, b⟩ =
      ⟨{ f with
          client := client, primary := primary, clientReader := r, nextID := f.nextID + 1
          point := .replying (newQueryRequest f.nextID packet) },
        ((b.count packet).written (newQueryRequest f.nextID packet)).mirror cfg primary.sent.length
          (newQueryRequest f.nextID packet)⟩ := by
  have hread : Session.conn cfg ⟨f, b⟩ =
      ⟨{ f with
          client := client, clientReader := r, nextID := f.nextID + 1
          point := .writing (newQueryRequest f.nextID packet) }, b.count packet⟩ := by
    simp only [Session.conn, hp, Session.receive, hr]
  have hwritten : ∀ b : Back, Session.conn cfg
      ⟨{ f with
          client := client, clientReader := r, nextID := f.nextID + 1
          point := .writing (newQueryRequest f.nextID packet) }, b⟩ =
      ⟨{ f with
          client := client, primary := primary, clientReader := r, nextID := f.nextID + 1
          point := .mirroring (newQueryRequest f.nextID packet) },
        b.written (newQueryRequest f.nextID packet)⟩ := by
    intro b
    simp only [Session.conn, Session.writePrimary, newQueryRequest_packet, hw]
  simp only [Session.exec, List.replicate, List.foldl_cons, List.foldl_nil, Session.act, hread,
    hwritten]
  rfl

lemma relayReply_silent (f : Front) (b : Back) (req : QueryRequest)
    (hno : isNoResponseCommand (getMySQLCommand req.packet).1 = true) :
    loopState (Session.relayReply ⟨f, b⟩ req) = loopState ⟨f, b⟩ ∧
      (Session.relayReply ⟨f, b⟩ req).front.point =
        if (getMySQLCommand req.packet).1 = comQuit then .done else .reading := by
  dsimp only [Session.relayReply]
  rw [if_pos hno]
  split_ifs <;> exact ⟨rfl, rfl⟩

lemma relayReply_reply (f : Front) (b : Back) (req : QueryRequest)
    (hno : ¬ isNoResponseCommand (getMySQLCommand req.packet).1 = true) {n : ℕ} {err : Option Err}
    {r : Reader} {primary client : Conn}
    (hf : forwardReply (getMySQLCommand req.packet).1 f.primaryReader f.primary f.client =
      ⟨n, err, ((r, primary), client)⟩) :
    loopState (Session.relayReply ⟨f, b⟩ req) =
        ⟨client, primary, f.clientReader, r, offered b.ledger⟩ ∧
      (Session.relayReply ⟨f, b⟩ req).front.point = if err = none then .reading else .done := by
  dsimp only [Session.relayReply]
  rw [if_neg hno, hf]
  cases err <;> exact ⟨rfl, rfl⟩

/-- An iteration of the loop is made of at most four steps. -/
theorem turn_refined {s : Session} (hp : s.front.point = .reading) :
    ∃ k ≤ 4,
      loopState (s.exec cfg (List.replicate k .conn)) =
        (turn cfg.queryFilter cfg.sampledOut (loopState s)).1 ∧
      (s.exec cfg (List.replicate k .conn)).front.point =
        if (turn cfg.queryFilter cfg.sampledOut (loopState s)).2 then .reading else .done := by
  obtain ⟨f, b⟩ := s
  replace hp : f.point = .reading := hp
  rcases hr : readMultiPacket f.clientReader f.client with ⟨e | packet, r, client⟩
  · refine ⟨1, by omega, ?_⟩
    simp [Session.exec, Session.act, Session.conn, hp, Session.receive, hr, turn, loopState,
      Back.leave]
  · rcases hw : f.primary.write packet with ⟨_ | e, primary⟩
    · refine ⟨4, le_rfl, ?_⟩
      have hoffer := mirror_offered cfg
        ((b.count packet).written (newQueryRequest f.nextID packet)) f.nextID packet
        ⟨client, primary, r, f.primaryReader, offered b.ledger⟩ rfl
      obtain ⟨out, hout⟩ := offer_eq cfg.queryFilter cfg.sampledOut
        ⟨client, primary, r, f.primaryReader, offered b.ledger⟩ packet
      rw [hout] at hoffer
      rw [List.replicate_succ', exec_concat, exec_replying cfg hp hr hw]
      generalize hb : ((b.count packet).written (newQueryRequest f.nextID packet)).mirror cfg
        primary.sent.length (newQueryRequest f.nextID packet) = b'
      rw [hb] at hoffer
      obtain rfl : out = offered b'.ledger := hoffer
      by_cases hno : isNoResponseCommand (getMySQLCommand packet).1 = true
      · obtain ⟨hl, hpoint⟩ := relayReply_silent
          { f with
            client := client, primary := primary, clientReader := r, nextID := f.nextID + 1
            point := .replying (newQueryRequest f.nextID packet) } b'
          (newQueryRequest f.nextID packet) hno
        refine ⟨hl.trans ?_, hpoint.trans ?_⟩
        · simp only [turn, loopState, hr, hw, hout, if_pos hno]
        · simp only [turn, loopState, hr, hw, hout, if_pos hno]
          by_cases hquit : (getMySQLCommand packet).1 = comQuit <;> simp [hquit]
      · rcases hf : forwardReply (getMySQLCommand packet).1 f.primaryReader primary client with
          ⟨n, err, ⟨r', primary'⟩, client'⟩
        obtain ⟨hl, hpoint⟩ := relayReply_reply
          { f with
            client := client, primary := primary, clientReader := r, nextID := f.nextID + 1
            point := .replying (newQueryRequest f.nextID packet) } b'
          (newQueryRequest f.nextID packet) hno hf
        refine ⟨hl.trans ?_, hpoint.trans ?_⟩
        · simp only [turn, loopState, hr, hw, hout, if_neg hno, hf]
        · simp only [turn, loopState, hr, hw, hout, if_neg hno, hf]
          by_cases herr : err = none <;> simp [herr]
    · refine ⟨2, by omega, ?_⟩
      simp [Session.exec, Session.act, Session.conn, hp, Session.receive, hr, Session.writePrimary,
        turn, loopState, hw, Back.leave, Back.count, Back.writeFailed, offered, Fate.isOffered]

end Turn

section Reply
variable {req : Bytes} {ps : List Packet} {rest : Bytes} {r : Reader} {c d : Conn}

lemma readMultiPacket_single {p : Packet} (hp : p.payload.length < 0xFFFFFF) (hi : Inv r)
    (hr : unread r ++ c.ready = p.bytes ++ rest) :
    ∃ r' c', readMultiPacket r c = (.ok p.bytes, r', c') ∧ Inv r' ∧ Reads c c' ∧
      unread r' ++ c'.ready = rest := by
  obtain ⟨r', c', hread, hi', hreads, hrest⟩ := readPacket_ready hi hr
  refine ⟨r', c', ?_, hi', hreads, hrest⟩
  simp [readMultiPacket, readMultiPacketLoop, hread, hp]

lemma forwardReply_ready (hd : Delimited req ps)
    (hresp : isNoResponseCommand (getMySQLCommand req).1 = false) (hi : Inv r)
    (hr : unread r ++ c.ready = wire ps ++ rest) (hw : d.writable = none) :
    ∃ r' c' d', forwardReply (getMySQLCommand req).1 r c d =
        ⟨(wire ps).length, none, ((r', c'), d')⟩ ∧ Inv r' ∧ unread r' ++ c'.ready = rest := by
  unfold forwardReply
  split_ifs with hsimple
  · simp only [Delimited, hresp, hsimple, Bool.false_eq_true, if_true, if_false] at hd
    obtain ⟨p, rfl⟩ := hd
    rw [wire_cons, wire_nil, List.append_nil] at hr ⊢
    obtain ⟨r', c', hread, hi', -, hrest⟩ := readPacket_ready hi hr
    obtain ⟨d', hwrite, -⟩ := write_unlimited hw p.bytes
    exact ⟨r', c', d', by simp [readAndForwardSimpleResponse, forwardRelay, hread, hwrite], hi', hrest⟩
  · have hall := hd.consumesAll hresp (by simpa using hsimple)
    obtain ⟨r', c', d', hfull, hi', hrest, -⟩ := (forwardsExactly_iff hi hw hr).mpr hall
    exact ⟨r', c', d', hfull, hi', hrest⟩

/-- The relay writes to `d`, which sends nothing, and reads from a primary without interruptions. -/
structure Quiet (d : Conn) (s : (Reader × Conn) × Conn) : Prop where
  pending : s.2.pending = d.pending
  respond : s.2.respond = d.respond
  writable : s.2.writable = none
  clean : s.1.2.Clean

lemma forwardRelay_quiet (hsilent : d.respond = fun _ => []) :
    Guards forwardRelay (Quiet d) (fun _ => True) where
  ok := by
    rintro what s q s' h hq
    unfold forwardRelay at hq
    rcases hp : readPacket s.1.1 s.1.2 with ⟨e | packet, r, c⟩
    · simp [hp] at hq
    · obtain ⟨dest, hw, hopen⟩ := write_unlimited h.writable packet
      obtain ⟨hpending, hrespond⟩ := write_pending hw
      have hclean := readPacket_clean h.clean s.1.1
      simp only [hp, hw, Prod.mk.injEq] at hq
      obtain ⟨-, rfl⟩ := hq
      rw [hp] at hclean
      refine ⟨?_, hrespond.trans h.respond, hopen, hclean⟩
      rw [hpending, h.pending, h.respond, hsilent, List.append_nil]
  err := fun _ _ => trivial
  weaken := fun _ => trivial

end Reply

/-- What a command adds that is served with a reply of `bytesRecv` bytes. -/
def served (cfg : Config) (b : Back) (roll : ℕ) (req : QueryRequest) (bytesRecv : ℕ) : Back :=
  (((b.count req.packet).written req).mirror cfg roll req).answered req bytesRecv

/-- The client has sent the commands `cmds` and waits; the primary, which was sent `login` packets before
the first command, waits and will answer every request with `reply`. -/
structure Fed (reply : Bytes → List Packet) (login : ℕ) (cmds : List Packet) (f : Front) : Prop where
  point : f.point = .reading
  clientInv : Inv f.clientReader
  commands : unread f.clientReader ++ f.client.ready = wire cmds
  clientSilent : f.client.respond = fun _ => []
  clientOpen : f.client.writable = none
  position : ∃ start, Positioned start f.primaryReader f.primary
  clean : f.primary.Clean
  consumed : unread f.primaryReader ++ f.primary.ready = []
  answers : ∀ sent req, f.primary.respond (sent ++ [req]) = [⟨wire (reply req), none⟩]
  primaryOpen : f.primary.writable = none
  rolls : f.primary.sent.length = login + f.nextID

section Fed
variable (cfg : Config) {reply : Bytes → List Packet} {login : ℕ} {p : Packet} {cmds : List Packet}
  {f : Front}

lemma Fed.replying (h : Fed reply login (p :: cmds) f) (hp : p.payload.length < 0xFFFFFF) :
    ∃ r client primary start,
      readMultiPacket f.clientReader f.client = (.ok p.bytes, r, client) ∧
      f.primary.write p.bytes = (none, primary) ∧ Inv r ∧ Reads f.client client ∧
      unread r ++ client.ready = wire cmds ∧ Positioned start f.primaryReader primary ∧
      primary.Clean ∧ unread f.primaryReader ++ primary.ready = wire (reply p.bytes) ∧
      primary.respond = f.primary.respond ∧ primary.writable = none ∧
      primary.sent.length = login + f.nextID + 1 := by
  obtain ⟨r, client, hread, hi, hreads, hrest⟩ :=
    readMultiPacket_single hp h.clientInv (h.commands.trans (wire_cons p cmds))
  obtain ⟨primary, hwrite, hopen⟩ := write_unlimited h.primaryOpen p.bytes
  obtain ⟨hpending, hrespond⟩ := write_pending hwrite
  obtain ⟨start, hpos⟩ := h.position
  have hclean : primary.Clean := by
    intro seg hseg
    rw [hpending, h.answers] at hseg
    rcases List.mem_append.mp hseg with hseg | hseg
    · exact h.clean seg hseg
    · rw [List.mem_singleton.mp hseg]
  have hready : unread f.primaryReader ++ primary.ready = wire (reply p.bytes) := by
    have hnone := h.consumed
    rw [Conn.ready, readyBytes_of_clean h.clean] at hnone
    rw [Conn.ready, readyBytes_of_clean hclean, hpending, h.answers, List.flatMap_append,
      ← List.append_assoc, hnone]
    simp
  refine ⟨r, client, primary, start, hread, hwrite, hi, hreads, hrest,
    MySQLProxyLoop.Positioned.write hpos hwrite, hclean, hready, hrespond, hopen, ?_⟩
  rw [(write_ok hwrite).1, List.length_append, h.rolls, List.length_singleton]

lemma Fed.serve (h : Fed reply login (p :: cmds) f) (hp : p.payload.length < 0xFFFFFF)
    (hd : Delimited p.bytes (reply p.bytes)) (hquit : (getMySQLCommand p.bytes).1 ≠ comQuit)
    (b : Back) :
    ∃ f', Fed reply login cmds f' ∧ f'.nextID = f.nextID + 1 ∧
      Session.exec cfg (List.replicate 4 .conn) ⟨f, b⟩ =
        ⟨f', served cfg b (login + f.nextID + 1) (newQueryRequest f.nextID p.bytes)
          (wire (reply p.bytes)).length⟩ := by
  obtain ⟨r, client, primary, start, hread, hwrite, hi, hreads, hrest, hpos, hclean, hready, hrespond,
    hopen, hrolls⟩ := h.replying hp
  rw [List.replicate_succ', exec_concat, exec_replying cfg h.point hread hwrite, hrolls]
  have hsilent : client.respond = fun _ => [] := hreads.respond.trans h.clientSilent
  have hclientOpen : client.writable = none := hreads.writable.trans h.clientOpen
  by_cases hno : isNoResponseCommand (getMySQLCommand p.bytes).1 = true
  · have hnil : reply p.bytes = [] := by simpa [Delimited, hno] using hd
    refine ⟨{ f with
        client := client, primary := primary, clientReader := r, nextID := f.nextID + 1
        point := .reading },
      ⟨rfl, hi, hrest, hsilent, hclientOpen, ⟨start, hpos⟩, hclean, by rw [hready, hnil, wire_nil],
        hrespond ▸ h.answers, hopen, hrolls⟩, rfl, ?_⟩
    simp [Session.act, Session.conn, Session.relayReply, hno, hquit, served, hnil]
  · obtain ⟨r', primary', client', hf, hi', hrest'⟩ := forwardReply_ready hd (by simpa using hno)
      hpos.inv (hready.trans (List.append_nil _).symm) hclientOpen
    obtain ⟨⟨pkts, hend⟩, hat⟩ := forwardReply_keeps (getMySQLCommand p.bytes).1 hpos client
    have hquiet := (forwardReply_guarded (forwardRelay_quiet hsilent) (getMySQLCommand p.bytes).1
      (r := f.primaryReader) ⟨rfl, rfl, hclientOpen, hclean⟩).2
    rw [hf] at hend hat hquiet
    obtain ⟨pkts', hat⟩ := hat rfl
    have hq := hquiet rfl
    refine ⟨{ f with
        client := client', primary := primary', clientReader := r, primaryReader := r'
        nextID := f.nextID + 1, point := .reading },
      ⟨rfl, hi, ?_, hq.respond.trans hsilent, hq.writable, ⟨_, hat.position⟩, hq.clean, hrest', ?_,
        hend.reads.writable.trans hopen, ?_⟩, rfl, ?_⟩
    · rw [Conn.ready, hq.pending]
      exact hrest
    · rw [hend.reads.respond, hrespond]
      exact h.answers
    · rw [hend.reads.sent]
      exact hrolls
    · simp [Session.act, Session.conn, Session.relayReply, hno, hf, served]

lemma Fed.quit (h : Fed reply login (p :: cmds) f) (hp : p.payload.length < 0xFFFFFF)
    (hquit : (getMySQLCommand p.bytes).1 = comQuit) (b : Back) :
    ∃ f', f'.point = .done ∧
      Session.exec cfg (List.replicate 4 .conn) ⟨f, b⟩ =
        ⟨f', (served cfg b (login + f.nextID + 1) (newQueryRequest f.nextID p.bytes) 0).leave⟩ := by
  obtain ⟨r, client, primary, start, hread, hwrite, -, -, -, -, -, -, -, -, hrolls⟩ := h.replying hp
  refine ⟨{ f with
      client := client, primary := primary, clientReader := r, nextID := f.nextID + 1
      point := .done }, rfl, ?_⟩
  have hno : isNoResponseCommand comQuit = true := rfl
  rw [List.replicate_succ', exec_concat, exec_replying cfg h.point hread hwrite, hrolls]
  simp [Session.act, Session.conn, Session.relayReply, hquit, hno, served]

/-- Commands, each with the steps that the worker takes before the next. -/
abbrev Script := List (Packet × List Pick)

def Script.actions (script : Script) : List Action :=
  script.flatMap fun x => List.replicate 4 .conn ++ x.2.map .worker

/-- What a script comes to when every command is served. -/
def Script.play (cfg : Config) (reply : Bytes → List Packet) : Script → ℕ → Back → Back
  | [], _, b => b
  | (p, picks) :: script, id, b =>
    let b := served cfg b (id + 1) (newQueryRequest id p.bytes) (wire (reply p.bytes)).length
    Script.play cfg reply script (id + 1)
      { b with service := picks.foldl (fun s pick => s.step processRequest pick) b.service }

def Servable (reply : Bytes → List Packet) (p : Packet) : Prop :=
  p.payload.length < 0xFFFFFF ∧ Delimited p.bytes (reply p.bytes) ∧
    (getMySQLCommand p.bytes).1 ≠ comQuit

lemma exec_append (acts acts' : List Action) (s : Session) :
    s.exec cfg (acts ++ acts') = (s.exec cfg acts).exec cfg acts' := by
  simp [Session.exec]

lemma exec_worker (picks : List Pick) (b : Back) :
    Session.exec cfg (picks.map .worker) ⟨f, b⟩ =
      ⟨f, { b with service := picks.foldl (fun s pick => s.step processRequest pick) b.service }⟩ := by
  induction picks generalizing b with
  | nil => rfl
  | cons pick picks ih => exact ih { b with service := b.service.step processRequest pick }

/-- A session plays a script of commands that can be served. -/
theorem Fed.play {script : Script} (h : Fed reply 0 (script.map Prod.fst ++ cmds) f)
    (hs : ∀ x ∈ script, Servable reply x.1) (b : Back) :
    ∃ f', Fed reply 0 cmds f' ∧ f'.nextID = f.nextID + script.length ∧
      Session.exec cfg script.actions ⟨f, b⟩ = ⟨f', script.play cfg reply f.nextID b⟩ := by
  induction script generalizing f b with
  | nil => exact ⟨f, h, rfl, rfl⟩
  | cons x script ih =>
    obtain ⟨p, picks⟩ := x
    obtain ⟨hx, hrest⟩ := List.forall_mem_cons.mp hs
    obtain ⟨hp, hd, hquit⟩ := hx
    obtain ⟨f₁, h₁, hid₁, hexec₁⟩ := Fed.serve cfg h hp hd hquit b
    rw [Nat.zero_add] at hexec₁
    obtain ⟨f', h', hid', hexec'⟩ := ih h₁ hrest
      { served cfg b (f.nextID + 1) (newQueryRequest f.nextID p.bytes) (wire (reply p.bytes)).length with
        service := picks.foldl (fun s pick => s.step processRequest pick)
          (served cfg b (f.nextID + 1) (newQueryRequest f.nextID p.bytes)
            (wire (reply p.bytes)).length).service }
    refine ⟨f', h', by rw [hid', hid₁, List.length_cons]; omega, ?_⟩
    have hactions : Script.actions ((p, picks) :: script) =
        List.replicate 4 .conn ++ picks.map .worker ++ Script.actions script := by
      simp [Script.actions]
    rw [hactions, exec_append, exec_append, hexec₁, exec_worker, hexec', hid₁]
    rfl

/-- What happens to a session after its loop has returned. -/
def shutdown (b : Back) : Action → Back
  | .conn => b.close
  | .timeout => { b with service := b.service.timeout }
  | .worker pick => { b with service := b.service.step processRequest pick }

lemma exec_done (hp : f.point = .done) (acts : List Action) (b : Back) :
    Session.exec cfg acts ⟨f, b⟩ = ⟨f, acts.foldl shutdown b⟩ := by
  induction acts using List.reverseRecOn with
  | nil => rfl
  | append_singleton acts act ih =>
    rw [exec_concat, ih, List.foldl_append]
    cases act <;> simp [Session.act, Session.conn, hp, shutdown]

end Fed

/-- A client that sends the commands at once, and nothing more. -/
def scriptClient (cmds : List Packet) : Conn := Conn.script [⟨wire cmds, none⟩]

/-- A server that answers every request with `reply`. -/
def scriptServer (reply : Bytes → List Packet) : Conn where
  pending := []
  received := []
  sent := []
  respond := fun sent => sent.getLast?.toList.map fun req => ⟨wire (reply req), none⟩
  writable := none

/-- A client and a primary that are in this state when the loop begins. -/
lemma fed_start {reply : Bytes → List Packet} {login : ℕ} {cmds : List Packet} {client primary : Conn}
    (shadow : Conn) (logger : QueryLogger) (hclient : client.pending = [⟨wire cmds, none⟩])
    (hsilent : client.respond = fun _ => []) (hopen : client.writable = none)
    (hprimary : primary.pending = []) (hanswers : primary.respond = (scriptServer reply).respond)
    (hprimaryOpen : primary.writable = none) (hsent : primary.sent.length = login) :
    Fed reply login cmds (Session.start client primary shadow logger).front where
  point := rfl
  clientInv := new_inv
  commands := by
    change unread newMySQLPacketReader ++ client.ready = _
    simp [Conn.ready, hclient, readyBytes]
  clientSilent := hsilent
  clientOpen := hopen
  position := ⟨_, positioned_new _⟩
  clean := by simp [Session.start, Conn.Clean, hprimary]
  consumed := by
    change unread newMySQLPacketReader ++ primary.ready = _
    simp [Conn.ready, hprimary, readyBytes]
  answers := by simp [Session.start, hanswers, scriptServer]
  primaryOpen := hprimaryOpen
  rolls := hsent

def okReply (req : Bytes) : List Packet :=
  if isNoResponseCommand (getMySQLCommand req).1 then [] else [sampleOK]

lemma okReply_servable {p : Packet} (hp : p.payload.length < 0xFFFFFF)
    (hquit : (getMySQLCommand p.bytes).1 ≠ comQuit) : Servable okReply p := by
  refine ⟨hp, ?_, hquit⟩
  unfold Delimited okReply
  dsimp only
  split_ifs
  · rfl
  · exact ⟨sampleOK, rfl⟩
  · exact .inl sampleOK_reply

lemma script_servable (script : Script) (h : ∀ x ∈ script, x.1.payload.length < 0xFFFFFF ∧
    (getMySQLCommand x.1.bytes).1 ≠ comQuit) : ∀ x ∈ script, Servable okReply x.1 :=
  fun x hx => okReply_servable (h x hx).1 (h x hx).2

def quitPacket : Packet := ⟨0, [comQuit], by decide⟩

/-- The actions of a client that plays a script and leaves with COM_QUIT, and then `acts`. -/
def Script.whole (script : Script) (acts : List Action) : List Action :=
  script.actions ++ List.replicate 4 .conn ++ acts

def Script.session (script : Script) (shadow : Conn) (logger : QueryLogger) : Session :=
  .start (scriptClient (script.map Prod.fst ++ [quitPacket])) (scriptServer okReply) shadow logger

def Script.outcome (cfg : Config) (script : Script) (shadow : Conn) (logger : QueryLogger)
    (acts : List Action) : Back :=
  acts.foldl shutdown (served cfg (script.play cfg okReply 0 (.start shadow logger))
    (script.length + 1) (newQueryRequest script.length quitPacket.bytes) 0).leave

theorem Script.exec_whole (cfg : Config) {script : Script}
    (hs : ∀ x ∈ script, Servable okReply x.1) (shadow : Conn) (logger : QueryLogger)
    (acts : List Action) :
    ((script.session shadow logger).exec cfg (script.whole acts)).front.point = .done ∧
      ((script.session shadow logger).exec cfg (script.whole acts)).back =
        script.outcome cfg shadow logger acts := by
  have hstart : Fed okReply 0 (script.map Prod.fst ++ [quitPacket]) (script.session shadow logger).front :=
    fed_start shadow logger rfl rfl rfl rfl rfl rfl rfl
  obtain ⟨f₁, h₁, hid, hexec⟩ := Fed.play cfg hstart hs (.start shadow logger)
  obtain ⟨f, hdone, hquit⟩ := Fed.quit cfg h₁ (by decide) rfl
    (script.play cfg okReply 0 (.start shadow logger))
  replace hid : f₁.nextID = script.length := hid.trans (Nat.zero_add _)
  have hplay : (script.session shadow logger).exec cfg script.actions =
      ⟨f₁, script.play cfg okReply 0 (.start shadow logger)⟩ := hexec
  rw [Script.whole, exec_append, exec_append, hplay, hquit, exec_done cfg hdone, Nat.zero_add, hid]
  exact ⟨hdone, rfl⟩

end ShadowProxy.MySQLMirrorServe
