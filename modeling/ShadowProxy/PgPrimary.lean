import ShadowProxy.PgQueryLoop

/-! A primary that follows the message flow of the PostgreSQL protocol outside COPY, and how much
of what it emits has reached the client whenever the query loop reads from the client. -/
namespace ShadowProxy.PgPrimary
open WordBytes NetConn EventHistory PgProtocol ShadowFilter PgMirror PgQueryLoop

/-- Extended-protocol messages, whose replies wait for the next Sync or Flush. -/
def isDeferred (msgType : UInt8) : Bool :=
  msgType = pgMsgParse ∨ msgType = pgMsgBind ∨ msgType = pgMsgDescribe ∨ msgType = pgMsgExecute ∨
    msgType = pgMsgClose

def triggersReady (msgType : UInt8) : Bool :=
  msgType = pgMsgQuery ∨ msgType = pgMsgSync ∨ msgType = pgMsgFunctionCall

/-- `reply before m` are the messages that answer `m` after the messages `before`, without the
ReadyForQuery that closes the answer. -/
structure PgServer where
  reply : List PgPacket → PgPacket → List PgPacket
  ready : List PgPacket → PgPacket → PgPacket
  reply_regular : ∀ before m, ∀ x ∈ reply before m, RegularMessage x
  ready_readyMessage : ∀ before m, ReadyMessage (ready before m)

namespace PgServer
variable (srv : PgServer)

/-- The replies that are waiting after the given messages. -/
def pending : List PgPacket → List PgPacket :=
  accum (fun before waiting m =>
    if triggersReady m.msgType ∨ m.msgType = pgMsgFlush then []
    else if isDeferred m.msgType then waiting ++ srv.reply before m
    else waiting) []

/-- What the server emits on receiving `m` after the messages `before`. -/
def emitted (before : List PgPacket) (m : PgPacket) : List PgPacket :=
  if triggersReady m.msgType then
    srv.pending before ++ srv.reply before m ++ [srv.ready before m]
  else if m.msgType = pgMsgFlush then srv.pending before
  else []

/-- Everything the server has emitted after the given messages. -/
def transcript : List PgPacket → List PgPacket :=
  accum (fun before out m => out ++ srv.emitted before m) []

@[simp] lemma transcript_nil : srv.transcript [] = [] := rfl

@[simp] lemma transcript_concat (before : List PgPacket) (m : PgPacket) :
    srv.transcript (before ++ [m]) = srv.transcript before ++ srv.emitted before m := by
  simp [transcript]

lemma pending_regular (before : List PgPacket) : ∀ x ∈ srv.pending before, RegularMessage x := by
  induction before using List.reverseRecOn with
  | nil => simp [pending]
  | append_singleton before m ih =>
    unfold pending at ih ⊢
    rw [accum_concat]
    intro x hx
    split_ifs at hx
    · simp at hx
    · rcases List.mem_append.mp hx with hx | hx
      · exact ih x hx
      · exact srv.reply_regular before m x hx
    · exact ih x hx

lemma emitted_of_triggersReady {m : PgPacket} (h : triggersReady m.msgType) (before : List PgPacket) :
    ∃ as z, srv.emitted before m = as ++ [z] ∧ (∀ a ∈ as, RegularMessage a) ∧ ReadyMessage z := by
  refine ⟨srv.pending before ++ srv.reply before m, srv.ready before m, if_pos h, ?_,
    srv.ready_readyMessage before m⟩
  intro a ha
  rcases List.mem_append.mp ha with ha | ha
  · exact srv.pending_regular before a ha
  · exact srv.reply_regular before m a ha

end PgServer

/-- The primary `c`, seen from the loop: it has been sent the messages `h` after what it was sent
before the loop, answers as `srv` does, and `backlog` is what it has emitted and nobody has read. -/
structure Attached (srv : PgServer) (base : List Bytes) (h backlog : List PgPacket) (c : Conn) :
    Prop where
  sent : c.sent = base ++ h.map PgPacket.bytes
  clean : c.Clean
  ready : c.ready = wire backlog
  answers : ∀ before m, (∀ x ∈ before ++ [m], x.Framed) →
    (∀ seg ∈ c.respond (base ++ (before ++ [m]).map PgPacket.bytes), seg.err = none) ∧
    (c.respond (base ++ (before ++ [m]).map PgPacket.bytes)).flatMap Segment.bytes =
      wire (srv.emitted before m)

/-- Everything the primary has emitted in answer to the forwarded messages is with the client. -/
def Idle (srv : PgServer) (s₀ s : LoopState) : Prop :=
  s.client.sent = s₀.client.sent ++ (srv.transcript s.forwarded).map PgPacket.bytes

section Attached
variable {srv : PgServer} {base : List Bytes} {h backlog : List PgPacket} {c c' : Conn}

lemma Attached.read {rest : List PgPacket} (ha : Attached srv base h backlog c) (hr : Reads c c')
    (hclean : c'.Clean) (hready : c'.ready = wire rest) : Attached srv base h rest c' :=
  ⟨hr.sent.trans ha.sent, hclean, hready, hr.respond ▸ ha.answers⟩

lemma Attached.write {m : PgPacket} (ha : Attached srv base h backlog c)
    (hf : ∀ x ∈ h ++ [m], x.Framed) (hw : c.write m.bytes = (none, c')) :
    Attached srv base (h ++ [m]) (backlog ++ srv.emitted h m) c' := by
  obtain ⟨hp, hresp⟩ := write_pending hw
  have hsent : c.sent ++ [m.bytes] = base ++ (h ++ [m]).map PgPacket.bytes := by simp [ha.sent]
  obtain ⟨herr, hbytes⟩ := ha.answers h m hf
  rw [hsent] at hp
  have hclean : c'.Clean := by
    intro s hs
    rw [hp] at hs
    rcases List.mem_append.mp hs with hs | hs
    · exact ha.clean s hs
    · exact herr s hs
  refine ⟨by rw [(write_ok hw).1, hsent], hclean, ?_, hresp ▸ ha.answers⟩
  have hold : c.ready = c.pending.flatMap Segment.bytes := readyBytes_of_clean ha.clean
  rw [Conn.ready, readyBytes_of_clean hclean, hp, List.flatMap_append, hbytes, ← hold, ha.ready,
    wire_append]

end Attached

/-- The state of a session at the top of the loop: what the primary has emitted is what the
client was sent, and then the backlog. -/
structure Tracks (srv : PgServer) (s₀ s : LoopState) (backlog : List PgPacket) : Prop where
  framed : ∀ x ∈ s.forwarded, x.Framed
  primary : Attached srv s₀.primary.sent s.forwarded backlog s.primary
  shape : ∀ x ∈ backlog, RegularMessage x ∨ ReadyMessage x
  client : ∃ out : List PgPacket, s.client.sent = s₀.client.sent ++ out.map PgPacket.bytes ∧
    out ++ backlog = srv.transcript s.forwarded

lemma Tracks.idle_iff {srv : PgServer} {s₀ s : LoopState} {backlog : List PgPacket}
    (h : Tracks srv s₀ s backlog) : Idle srv s₀ s ↔ backlog = [] := by
  obtain ⟨out, hsent, hout⟩ := h.client
  rw [Idle, hsent, ← hout, List.append_cancel_left_eq]
  constructor
  · intro heq
    have hlen := congrArg List.length heq
    simp only [List.map_append, List.length_append, List.length_map] at hlen
    exact List.length_eq_zero_iff.mp (by omega)
  · rintro rfl
    simp

lemma emitted_shape (srv : PgServer) (before : List PgPacket) (m : PgPacket) :
    ∀ x ∈ srv.emitted before m, RegularMessage x ∨ ReadyMessage x := by
  intro x hx
  unfold PgServer.emitted at hx
  split_ifs at hx
  · simp only [List.append_assoc, List.mem_append, List.mem_singleton] at hx
    obtain hx | hx | rfl := hx
    · exact .inl (srv.pending_regular before x hx)
    · exact .inl (srv.reply_regular before m x hx)
    · exact .inr (srv.ready_readyMessage before m)
  · exact .inl (srv.pending_regular before x hx)
  · simp at hx

lemma exists_first_ready {l : List PgPacket} (hl : ∀ x ∈ l, RegularMessage x ∨ ReadyMessage x)
    {y : PgPacket} (hy : y ∈ l) (hready : ReadyMessage y) :
    ∃ as z bs, l = as ++ z :: bs ∧ (∀ a ∈ as, RegularMessage a) ∧ ReadyMessage z := by
  induction l with
  | nil => simp at hy
  | cons x xs ih =>
    obtain ⟨hx, hxs⟩ := List.forall_mem_cons.mp hl
    rcases hx with hx | hx
    · have hy' : y ∈ xs := by
        rcases List.mem_cons.mp hy with rfl | hy
        · exact absurd hready.ready hx.notReady
        · exact hy
      obtain ⟨as, z, bs, rfl, has, hz⟩ := ih hxs hy'
      exact ⟨x :: as, z, bs, rfl, List.forall_mem_cons.mpr ⟨hx, has⟩, hz⟩
    · exact ⟨[], x, xs, rfl, by simp, hx⟩

/-- What an iteration leaves of the backlog and the new answer: all of it, or after a Query or a
Sync what follows the first ReadyForQuery. -/
def Leaves (msg : PgPacket) (waiting rest : List PgPacket) : Prop :=
  if expectsResponse msg then
    ∃ as z, waiting = as ++ z :: rest ∧ (∀ a ∈ as, RegularMessage a) ∧ ReadyMessage z
  else rest = waiting

section Turn
variable {filter : Option QueryFilter} {hasShadow : Bool} {srv : PgServer} {s₀ s t : LoopState}
  {backlog : List PgPacket}

lemma framed_of_frontend {c c' : Conn} {m : PgPacket} (hread : readMessage c = (.ok m, c'))
    (hm : m.msgType ∈ frontendTypes) : m.Framed := by
  apply (readMessage_ok hread).1
  intro h0
  rw [h0] at hm
  exact absurd hm (by decide)

lemma triggersReady_of_expectsResponse {msg : PgPacket} (hexp : expectsResponse msg = true) :
    triggersReady msg.msgType = true := by
  simp only [expectsResponse, decide_eq_true_eq] at hexp
  simp only [triggersReady, decide_eq_true_eq]
  tauto

lemma Tracks.framed_concat (h : Tracks srv s₀ s backlog) {msg : PgPacket} {client : Conn}
    (hread : readMessage s.client = (.ok msg, client)) (hmsg : msg.msgType ∈ frontendTypes) :
    ∀ x ∈ s.forwarded ++ [msg], x.Framed := by
  intro x hx
  rcases List.mem_append.mp hx with hx | hx
  · exact h.framed x hx
  · obtain rfl := List.mem_singleton.mp hx
    exact framed_of_frontend hread hmsg

lemma Tracks.shape_append (h : Tracks srv s₀ s backlog) (msg : PgPacket) :
    ∀ x ∈ backlog ++ srv.emitted s.forwarded msg, RegularMessage x ∨ ReadyMessage x := by
  intro x hx
  exact (List.mem_append.mp hx).elim (h.shape x) (emitted_shape srv s.forwarded msg x)

lemma Tracks.exists_answer (h : Tracks srv s₀ s backlog) {msg : PgPacket}
    (hexp : expectsResponse msg = true) :
    ∃ as z bs, backlog ++ srv.emitted s.forwarded msg = as ++ z :: bs ∧
      (∀ a ∈ as, RegularMessage a) ∧ ReadyMessage z := by
  obtain ⟨ys, y, hy, -, hready⟩ :=
    srv.emitted_of_triggersReady (triggersReady_of_expectsResponse hexp) s.forwarded
  exact exists_first_ready (y := y) (h.shape_append msg) (by simp [hy]) hready

lemma Tracks.turn (h : Tracks srv s₀ s backlog) (ht : turn filter hasShadow s = .again t)
    (hfront : ∀ m ∈ t.forwarded, m.msgType ∈ frontendTypes) :
    ∃ msg rest, t.forwarded = s.forwarded ++ [msg] ∧ Tracks srv s₀ t rest ∧
      Leaves msg (backlog ++ srv.emitted s.forwarded msg) rest := by
  obtain ⟨msg, client, primary, hread, hwrite, hfwd, -, hafter⟩ := turn_again ht
  have hclient : client.sent = s.client.sent := (readMessage_ok hread).2.2.sent
  have hframed : ∀ x ∈ t.forwarded, x.Framed := by
    rw [hfwd] at hfront ⊢
    exact h.framed_concat hread (hfront msg (by simp))
  have hprimary : Attached srv s₀.primary.sent t.forwarded _ primary :=
    hfwd ▸ h.primary.write (hfwd ▸ hframed) hwrite
  have hshape := h.shape_append msg
  obtain ⟨out, hsent, hout⟩ := h.client
  have htrans : out ++ (backlog ++ srv.emitted s.forwarded msg) = srv.transcript t.forwarded := by
    rw [hfwd, srv.transcript_concat, ← hout, List.append_assoc]
  refine ⟨msg, ?_⟩
  unfold Leaves
  split_ifs at hafter ⊢ with hexp
  · obtain ⟨n, hrelay⟩ := hafter
    obtain ⟨as, z, bs, hsplit, has, hz⟩ := h.exists_answer hexp
    rw [hsplit] at hprimary hshape htrans
    obtain ⟨hsent', hclean, hrest, hreads⟩ :=
      forwardResponseUntilReadyLoop_ok has hz hprimary.clean hprimary.ready hrelay
    refine ⟨bs, hfwd, ⟨hframed, hprimary.read hreads hclean hrest, ?_, out ++ (as ++ [z]), ?_, ?_⟩,
      as, z, hsplit, has, hz⟩
    · exact fun x hx => hshape x (by simp [hx])
    · rw [hsent', hclient, hsent]
      simp
    · rw [← htrans]
      simp
  · obtain ⟨hp, hc⟩ := hafter
    exact ⟨_, hfwd, ⟨hframed, hp ▸ hprimary, hshape, out, by rw [hc, hclient, hsent], htrans⟩, rfl⟩

lemma length_le_wire {ms : List PgPacket} (h : ∀ m ∈ ms, m.Framed) :
    ms.length ≤ (wire ms).length := by
  induction ms with
  | nil => simp
  | cons m ms ih =>
    obtain ⟨hm, hms⟩ := List.forall_mem_cons.mp h
    have := ih hms
    simp only [wire_cons, hm.bytes_eq, List.length_append, List.length_cons]
    omega

/-- An iteration goes on after every message but Terminate: the answer to a Query or a Sync comes
to its end. -/
theorem Tracks.turn_returns (h : Tracks srv s₀ s backlog) {msg : PgPacket} {client : Conn}
    (hread : readMessage s.client = (.ok msg, client)) (hmsg : msg.msgType ∈ frontendTypes)
    (hterm : msg.msgType ≠ pgMsgTerminate) (hc : s.client.writable = none)
    (hp : s.primary.writable = none) : ∃ t, PgQueryLoop.turn filter hasShadow s = .again t := by
  rcases hwrite : s.primary.write msg.bytes with ⟨_ | e, primary⟩
  · simp only [PgQueryLoop.turn, hread, hwrite, hterm, if_false]
    split_ifs with hexp
    · have hprimary := h.primary.write (h.framed_concat hread hmsg) hwrite
      have hshape := h.shape_append msg
      obtain ⟨as, z, bs, hsplit, has, hz⟩ := h.exists_answer hexp
      rw [hsplit] at hprimary hshape
      have hfuel : as.length < (primary.pending.flatMap Segment.bytes).length + 1 := by
        have hready : primary.pending.flatMap Segment.bytes = wire (as ++ z :: bs) :=
          (readyBytes_of_clean hprimary.clean).symm.trans hprimary.ready
        have hlen := length_le_wire fun x hx => (hshape x hx).elim (·.framed) (·.framed)
        rw [List.length_append] at hlen
        rw [hready]
        omega
      obtain ⟨n, p', c', hrelay⟩ := forwardResponseUntilReadyLoop_returns has hz 0 hfuel
        hprimary.clean hprimary.ready ((readMessage_ok hread).2.2.writable.trans hc)
      simp only [mirror_primary, mirror_client, forwardResponseUntilReady, hrelay]
      exact ⟨_, rfl⟩
    · exact ⟨_, rfl⟩
  · simp [Conn.write, hp] at hwrite

/-- A message after which nothing stays unread: it is not a FunctionCall, and if it is a Flush, no
reply is waiting for it. -/
def AnsweredInTurn (srv : PgServer) (before : List PgPacket) (m : PgPacket) : Prop :=
  m.msgType ≠ pgMsgFunctionCall ∧ (m.msgType = pgMsgFlush → srv.pending before = [])

lemma eq_nil_of_single_ready {as bs rest : List PgPacket} {y z : PgPacket}
    (has : ∀ a ∈ as, RegularMessage a) (hz : ReadyMessage z) (h : as ++ [y] = bs ++ z :: rest) :
    rest = [] := by
  obtain ⟨-, -, hrest⟩ | ⟨rest', -, rfl⟩ := concat_eq_append_cons.mp h
  · exact hrest
  · exact absurd hz.ready (has z (by simp)).notReady

/-- From an empty backlog, the iteration leaves none exactly when its message is answered in
turn. -/
lemma leaves_nil_iff {before rest : List PgPacket} {msg : PgPacket}
    (h : Leaves msg (srv.emitted before msg) rest) : rest = [] ↔ AnsweredInTurn srv before msg := by
  unfold Leaves at h
  split_ifs at h with hexp
  · obtain ⟨bs, z, hsplit, -, hz⟩ := h
    obtain ⟨as, y, hy, has, -⟩ :=
      srv.emitted_of_triggersReady (triggersReady_of_expectsResponse hexp) before
    rw [hy] at hsplit
    have htype : msg.msgType = pgMsgQuery ∨ msg.msgType = pgMsgSync := by
      simpa [expectsResponse] using hexp
    refine iff_of_true (eq_nil_of_single_ready has hz hsplit) ⟨?_, fun hflush => ?_⟩
    · rcases htype with ht | ht <;> rw [ht] <;> decide
    · rw [hflush] at htype
      exact absurd htype (by decide)
  · subst h
    have htrig : triggersReady msg.msgType ↔ msg.msgType = pgMsgFunctionCall := by
      simp only [expectsResponse, decide_eq_true_eq] at hexp
      simp only [triggersReady, decide_eq_true_eq]
      tauto
    unfold PgServer.emitted AnsweredInTurn
    split_ifs with hf hh
    · simp [htrig.mp hf]
    · simp [hh, pgMsgFlush, pgMsgFunctionCall]
    · exact iff_of_true rfl ⟨fun hc => hf (htrig.mpr hc), fun hc => absurd hc hh⟩

end Turn

section Session
variable {filter : Option QueryFilter} {hasShadow : Bool} {srv : PgServer} {client primary : Conn}
  (hserver : Attached srv primary.sent [] [] primary)
include hserver

lemma tracks_start : Tracks srv (.start client primary) (.start client primary) [] :=
  ⟨by simp [LoopState.start], hserver, by simp, [], by simp [LoopState.start], rfl⟩

lemma tracks_loopTop {n : ℕ} {t : LoopState}
    (htop : loopTop filter hasShadow (.start client primary) n = some t)
    (hfront : ∀ m ∈ t.forwarded, m.msgType ∈ frontendTypes) :
    ∃ backlog, Tracks srv (.start client primary) t backlog := by
  induction n generalizing t with
  | zero =>
    obtain rfl : LoopState.start client primary = t := by simpa [loopTop] using htop
    exact ⟨[], tracks_start hserver⟩
  | succ n ih =>
    obtain ⟨s, hs, hturn⟩ := loopTop_succ htop
    obtain ⟨msg, -, -, -, -, hfwd, -⟩ := turn_again hturn
    obtain ⟨backlog, hb⟩ := ih hs (fun m hm => hfront m (by simp [hfwd, hm]))
    obtain ⟨-, rest, -, ht, -⟩ := hb.turn hturn hfront
    exact ⟨rest, ht⟩

omit hserver in
lemma forall_le_succ_loopTop {P : LoopState → Prop} {n : ℕ} {t : LoopState}
    (htop : loopTop filter hasShadow (.start client primary) (n + 1) = some t) :
    (∀ k ≤ n + 1, ∀ s, loopTop filter hasShadow (.start client primary) k = some s → P s) ↔
      (∀ k ≤ n, ∀ s, loopTop filter hasShadow (.start client primary) k = some s → P s) ∧ P t := by
  constructor
  · exact fun h => ⟨fun k hk => h k (hk.trans n.le_succ), h (n + 1) le_rfl t htop⟩
  · rintro ⟨h, ht⟩ k hk s hs
    rcases Nat.le_succ_iff.mp hk with hk | rfl
    · exact h k hk s hs
    · obtain rfl : t = s := Option.some.inj (htop.symm.trans hs)
      exact ht

/-- Each time the loop reads from the client the client has been sent everything the primary has
emitted, if and only if every forwarded message was answered in turn. -/
theorem idle_at_top_iff_answered {n : ℕ} {t : LoopState}
    (htop : loopTop filter hasShadow (.start client primary) n = some t)
    (hfront : ∀ m ∈ t.forwarded, m.msgType ∈ frontendTypes) :
    (∀ k ≤ n, ∀ s, loopTop filter hasShadow (.start client primary) k = some s →
      Idle srv (.start client primary) s) ↔
    EachStep (AnsweredInTurn srv) t.forwarded := by
  induction n generalizing t with
  | zero =>
    obtain rfl : LoopState.start client primary = t := by simpa [loopTop] using htop
    refine iff_of_true ?_ (by simp [LoopState.start])
    intro k hk s hs
    obtain rfl := Nat.le_zero.mp hk
    obtain rfl : LoopState.start client primary = s := by simpa [loopTop] using hs
    exact (tracks_start hserver).idle_iff.mpr rfl
  | succ n ih =>
    obtain ⟨s, hs, hturn⟩ := loopTop_succ htop
    obtain ⟨msg, -, -, -, -, hfwd, -⟩ := turn_again hturn
    have hfront' : ∀ m ∈ s.forwarded, m.msgType ∈ frontendTypes :=
      fun m hm => hfront m (by simp [hfwd, hm])
    obtain ⟨backlog, hb⟩ := tracks_loopTop hserver hs hfront'
    obtain ⟨msg, rest, hfwd, ht, hleaves⟩ := hb.turn hturn hfront
    rw [forall_le_succ_loopTop htop, ih hs hfront', hfwd, eachStep_concat, ht.idle_iff]
    refine and_congr_right fun hall => ?_
    have hidle : Idle srv (.start client primary) s := (ih hs hfront').mpr hall n le_rfl s hs
    obtain rfl := hb.idle_iff.mp hidle
    exact leaves_nil_iff hleaves

end Session

def decode (bs : Bytes) : PgPacket := ⟨bs.headD 0, bs.tail⟩

lemma map_decode {ms : List PgPacket} (h : ∀ m ∈ ms, m.Framed) :
    (ms.map PgPacket.bytes).map decode = ms := by
  rw [List.map_map]
  refine (List.map_congr_left fun m hm => ?_).trans (List.map_id ms)
  simp [(h m hm).bytes_eq, decode]

/-- A connection to the server that sends each answer in one piece. -/
def PgServer.conn (srv : PgServer) : Conn where
  pending := []
  received := []
  sent := []
  respond sent :=
    match (sent.map decode).getLast? with
    | none => []
    | some m => [⟨wire (srv.emitted (sent.map decode).dropLast m), none⟩]
  writable := none

lemma attached_conn (srv : PgServer) : Attached srv srv.conn.sent [] [] srv.conn := by
  refine ⟨rfl, by simp [Conn.Clean, PgServer.conn], rfl, ?_⟩
  intro before m hframed
  simp only [PgServer.conn, List.nil_append, map_decode hframed, List.getLast?_concat,
    List.dropLast_concat]
  simp

def sampleReply (m : PgPacket) : List PgPacket :=
  if m.msgType = pgMsgQuery then [frame 0x43 (ascii "SELECT 1" ++ [0])]
  else if m.msgType = pgMsgFunctionCall then [frame 0x56 [0xFF, 0xFF, 0xFF, 0xFF]]
  else if m.msgType = pgMsgParse then [frame 0x31 []]
  else []

def sampleServer : PgServer where
  reply _ m := sampleReply m
  ready _ _ := frame pgBackendReadyForQuery [0x49]
  reply_regular := by
    intro before m x hx
    unfold sampleReply at hx
    split_ifs at hx <;> simp only [List.mem_singleton, List.not_mem_nil] at hx <;> subst hx <;>
    exact ⟨frame_framed (by decide) (by decide), by decide, by decide⟩
  ready_readyMessage := by
    intro before m
    exact ⟨frame_framed (by decide) (by decide), rfl⟩

def sampleQuery : PgPacket := frame pgMsgQuery (ascii "SELECT 1" ++ [0])

def sampleCall : PgPacket := frame pgMsgFunctionCall [0, 0, 0, 1, 0, 0, 0, 0, 0, 0]

def scriptClient (ms : List PgPacket) : Conn := .script [⟨wire ms, none⟩]

def sampleParse : PgPacket := frame pgMsgParse (0 :: ascii "SELECT 1" ++ [0, 0, 0])

def sampleSync : PgPacket := frame pgMsgSync []

def sampleFlush : PgPacket := frame pgMsgFlush []

/-- A Parse, whose reply waits for the Sync, then a Query, and a Flush when no reply is waiting. -/
def sampleMessages : List PgPacket := [sampleParse, sampleSync, sampleQuery, sampleFlush]

lemma sampleMessages_answered : EachStep (AnsweredInTurn sampleServer) sampleMessages := by
  change EachStep _ (((([] ++ [sampleParse]) ++ [sampleSync]) ++ [sampleQuery]) ++ [sampleFlush])
  simp only [eachStep_concat, eachStep_nil, AnsweredInTurn]
  decide

theorem idle_at_top_sampleMessages :
    ∃ t, loopTop none false (.start (scriptClient sampleMessages) sampleServer.conn) 4 = some t ∧
      t.forwarded = sampleMessages ∧ t.client.sent.length = 4 ∧
      ∀ k ≤ 4, ∀ s,
        loopTop none false (.start (scriptClient sampleMessages) sampleServer.conn) k = some s →
        Idle sampleServer (.start (scriptClient sampleMessages) sampleServer.conn) s := by
  have hrun : (loopTop none false (.start (scriptClient sampleMessages) sampleServer.conn) 4).map
      (fun t => (t.forwarded, t.client.sent.length)) = some (sampleMessages, 4) := by decide +kernel
  obtain ⟨t, ht, hobs⟩ := Option.map_eq_some_iff.mp hrun
  obtain ⟨hfwd, hsent⟩ := Prod.mk.inj hobs
  refine ⟨t, ht, hfwd, hsent, (idle_at_top_iff_answered (attached_conn sampleServer) ht ?_).mpr ?_⟩
  · rw [hfwd]
    decide
  · rw [hfwd]
    exact sampleMessages_answered

/-- A FunctionCall and then a Query: the answer to the call is what the client gets for the query,
and the answer to the query stays unread. -/
theorem functionCall_shifts_answers :
    ∃ t, loopTop none false (.start (scriptClient [sampleCall, sampleQuery]) sampleServer.conn) 2 =
        some t ∧
      (∀ m ∈ t.forwarded, m.msgType ∈ frontendTypes) ∧
      t.client.sent = (sampleServer.emitted [] sampleCall).map PgPacket.bytes ∧
      ¬ Idle sampleServer (.start (scriptClient [sampleCall, sampleQuery]) sampleServer.conn) t := by
  have hrun : (loopTop none false
      (.start (scriptClient [sampleCall, sampleQuery]) sampleServer.conn) 2).map
      (fun t => (t.forwarded, t.client.sent)) = some ([sampleCall, sampleQuery],
        (sampleServer.emitted [] sampleCall).map PgPacket.bytes) := by decide
  obtain ⟨t, ht, hobs⟩ := Option.map_eq_some_iff.mp hrun
  obtain ⟨hfwd, hsent⟩ := Prod.mk.inj hobs
  refine ⟨t, ht, ?_, hsent, ?_⟩
  · rw [hfwd]
    decide
  · rw [Idle, hfwd, hsent]
    decide

end ShadowProxy.PgPrimary
