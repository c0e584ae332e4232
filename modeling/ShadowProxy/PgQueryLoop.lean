import ShadowProxy.PgMirror

/-! The request and response loop of a PostgreSQL session: one frontend message is read from the
client and written to the primary, and after a Query or a Sync the answer is relayed up to
ReadyForQuery before the next message is read. -/
namespace ShadowProxy.PgQueryLoop
open WordBytes NetConn PgProtocol ShadowFilter PgMirror

def isCopyResponse (msgType : UInt8) : Bool :=
  msgType = pgBackendCopyInResponse ∨ msgType = pgBackendCopyOutResponse ∨
    msgType = pgBackendCopyBothResponse

/-- What `forwardResponseUntilReady` returns: bytes forwarded, whether COPY was entered, and the
error. -/
structure Forwarded where
  total : ℕ
  copyMode : Bool
  err : Option Err
  deriving DecidableEq

def forwardResponseUntilReadyLoop : ℕ → ℕ → Conn → Conn → Forwarded × Conn × Conn
  | 0, total, primary, client => (⟨total, false, some .stalled⟩, primary, client)
  | fuel + 1, total, primary, client =>
    match readMessage primary with
    | (.error e, primary) => (⟨total, false, some e⟩, primary, client)
    | (.ok msg, primary) =>
      match client.write msg.bytes with
      | (some e, client) => (⟨total, false, some e⟩, primary, client)
      | (none, client) =>
        let total := total + msg.bytes.length
        if msg.msgType = pgBackendReadyForQuery then (⟨total, false, none⟩, primary, client)
        else if isCopyResponse msg.msgType then (⟨total, true, none⟩, primary, client)
        else forwardResponseUntilReadyLoop fuel total primary client

/-- Every message takes at least one byte, so the bytes on their way bound the iterations. -/
def forwardResponseUntilReady (primary client : Conn) : Forwarded × Conn × Conn :=
  forwardResponseUntilReadyLoop ((primary.pending.flatMap Segment.bytes).length + 1) 0 primary client

structure PgShadowFrame where
  payload : Bytes
  expectsResponse : Bool
  deriving DecidableEq

/-- `mirrored` lists the frames handed to the shadow worker and `forwarded` the messages written
to the primary. -/
structure LoopState where
  client : Conn
  primary : Conn
  sticky : StickyStmts
  mirrored : List PgShadowFrame
  forwarded : List PgPacket

def LoopState.start (client primary : Conn) : LoopState := ⟨client, primary, .empty, [], []⟩

def expectsResponse (msg : PgPacket) : Bool := msg.msgType = pgMsgQuery ∨ msg.msgType = pgMsgSync

/-- How an iteration ends: the loop goes on, returns, or hands over to `copyFallback`. -/
inductive Turn
  | again (s : LoopState)
  | stop (s : LoopState)
  | copyFallback (s : LoopState)

def Turn.next : Turn → Option LoopState
  | .again s => some s
  | .stop _ | .copyFallback _ => none

section Loop
variable (filter : Option QueryFilter) (hasShadow : Bool)

def LoopState.mirror (s : LoopState) (msg : PgPacket) : LoopState :=
  if hasShadow then
    let decision := mirrorFrame filter s.sticky msg
    { s with sticky := decision.2,
             mirrored := if decision.1.1 then s.mirrored ++ [⟨msg.bytes, expectsResponse msg⟩]
               else s.mirrored }
  else s

/-- One iteration of `runQueryLoop`. -/
def turn (s : LoopState) : Turn :=
  match readMessage s.client with
  | (.error _, client) => .stop { s with client := client }
  | (.ok msg, client) =>
    match s.primary.write msg.bytes with
    | (some _, primary) => .stop { s with client := client, primary := primary }
    | (none, primary) =>
      let s := { s with client := client, primary := primary, forwarded := s.forwarded ++ [msg] }
      if msg.msgType = pgMsgTerminate then .stop s
      else
        let s := s.mirror filter hasShadow msg
        if expectsResponse msg then
          match forwardResponseUntilReady s.primary s.client with
          | (⟨_, _, some _⟩, primary, client) =>
            .stop { s with client := client, primary := primary }
          | (⟨_, true, none⟩, primary, client) =>
            .copyFallback { s with client := client, primary := primary }
          | (⟨_, false, none⟩, primary, client) =>
            .again { s with client := client, primary := primary }
        else .again s

/-- The state in which the loop, started in `s`, comes to read from the client once more after
`n` iterations. -/
def loopTop (s : LoopState) : ℕ → Option LoopState
  | 0 => some s
  | n + 1 => (loopTop s n).bind fun s => (turn filter hasShadow s).next

end Loop

variable {filter : Option QueryFilter} {hasShadow : Bool}

@[simp] lemma mirror_client (s : LoopState) (msg : PgPacket) :
    (s.mirror filter hasShadow msg).client = s.client := by
  unfold LoopState.mirror
  split_ifs <;> rfl

@[simp] lemma mirror_primary (s : LoopState) (msg : PgPacket) :
    (s.mirror filter hasShadow msg).primary = s.primary := by
  unfold LoopState.mirror
  split_ifs <;> rfl

@[simp] lemma mirror_forwarded (s : LoopState) (msg : PgPacket) :
    (s.mirror filter hasShadow msg).forwarded = s.forwarded := by
  unfold LoopState.mirror
  split_ifs <;> rfl

def wire (msgs : List PgPacket) : Bytes := msgs.flatMap PgPacket.bytes

@[simp] lemma wire_cons (m : PgPacket) (ms : List PgPacket) : wire (m :: ms) = m.bytes ++ wire ms := by
  simp [wire]

@[simp] lemma wire_append (ms ns : List PgPacket) : wire (ms ++ ns) = wire ms ++ wire ns := by
  simp [wire]

/-- A message that neither ends an answer nor starts a COPY. -/
structure RegularMessage (m : PgPacket) : Prop where
  framed : m.Framed
  notReady : m.msgType ≠ pgBackendReadyForQuery
  notCopy : isCopyResponse m.msgType = false

structure ReadyMessage (m : PgPacket) : Prop where
  framed : m.Framed
  ready : m.msgType = pgBackendReadyForQuery

lemma forwardResponseUntilReadyLoop_ok {as bs : List PgPacket} {z : PgPacket}
    (has : ∀ a ∈ as, RegularMessage a) (hz : ReadyMessage z) {fuel total n : ℕ} {p p' c c' : Conn}
    {copy : Bool} (hclean : p.Clean) (hready : p.ready = wire (as ++ z :: bs))
    (h : forwardResponseUntilReadyLoop fuel total p c = (⟨n, copy, none⟩, p', c')) :
    c'.sent = c.sent ++ (as ++ [z]).map PgPacket.bytes ∧ p'.Clean ∧ p'.ready = wire bs ∧
      Reads p p' := by
  induction as generalizing fuel total p c with
  | nil =>
    cases fuel with
    | zero => simp [forwardResponseUntilReadyLoop] at h
    | succ fuel =>
      obtain ⟨p₁, hread, hc₁, hr₁, hreads⟩ :=
        readMessage_next hclean hz.framed (by simpa using hready)
      rcases hw : c.write z.bytes with ⟨_ | e, c₁⟩
      · simp only [forwardResponseUntilReadyLoop, hread, hw, hz.ready, if_true, Prod.mk.injEq] at h
        obtain ⟨-, rfl, rfl⟩ := h
        exact ⟨by simpa using (write_ok hw).1, hc₁, hr₁, hreads⟩
      · simp [forwardResponseUntilReadyLoop, hread, hw] at h
  | cons a as ih =>
    obtain ⟨ha, has⟩ := List.forall_mem_cons.mp has
    cases fuel with
    | zero => simp [forwardResponseUntilReadyLoop] at h
    | succ fuel =>
      obtain ⟨p₁, hread, hc₁, hr₁, hreads⟩ :=
        readMessage_next hclean ha.framed (by simpa using hready)
      rcases hw : c.write a.bytes with ⟨_ | e, c₁⟩
      · simp only [forwardResponseUntilReadyLoop, hread, hw, ha.notReady, ha.notCopy, if_false] at h
        obtain ⟨hsent, hc', hr', hreads'⟩ := ih has hc₁ (by simpa using hr₁) h
        refine ⟨?_, hc', hr', hreads.trans hreads'⟩
        rw [hsent, (write_ok hw).1]
        simp
      · simp [forwardResponseUntilReadyLoop, hread, hw] at h

/-- However the loop ends, it has only read from the primary and written to the client: the messages
it has written are the first bytes it has read. -/
lemma forwardResponseUntilReadyLoop_relays (fuel total : ℕ) (p c : Conn) :
    ∃ (msgs : List PgPacket) (tail : Bytes), (∀ m ∈ msgs, m.Sized) ∧
      (forwardResponseUntilReadyLoop fuel total p c).2.2.sent = c.sent ++ msgs.map PgPacket.bytes ∧
      (forwardResponseUntilReadyLoop fuel total p c).2.2.received = c.received ∧
      (forwardResponseUntilReadyLoop fuel total p c).2.1.received =
        p.received ++ (msgs.flatMap PgPacket.raw ++ tail) ∧
      Reads p (forwardResponseUntilReadyLoop fuel total p c).2.1 ∧
      ((forwardResponseUntilReadyLoop fuel total p c).1.err = none → tail = []) := by
  induction fuel generalizing total p c with
  | zero => exact ⟨[], [], by simp [forwardResponseUntilReadyLoop, Reads.refl]⟩
  | succ fuel ih =>
    rcases hread : readMessage p with ⟨e | m, p₁⟩
    · obtain ⟨new, hrec, hreads⟩ := readMessage_error hread
      exact ⟨[], new, by simp [forwardResponseUntilReadyLoop, hread, hrec, hreads]⟩
    · obtain ⟨hm, hrec, hreads⟩ := readMessage_sized hread
      rcases hw : c.write m.bytes with ⟨_ | e, c₁⟩
      · obtain ⟨hsent, hrec'⟩ := write_ok hw
        have hone : ∀ x ∈ [m], x.Sized := by simpa using hm
        simp only [forwardResponseUntilReadyLoop, hread, hw]
        split_ifs
        · exact ⟨[m], [], hone, by simpa using hsent, hrec', by simpa using hrec, hreads,
            fun _ => rfl⟩
        · exact ⟨[m], [], hone, by simpa using hsent, hrec', by simpa using hrec, hreads,
            fun _ => rfl⟩
        · obtain ⟨msgs, tail, hmsgs, hs, hcr, hpr, hreads', hend⟩ :=
            ih (total + m.bytes.length) p₁ c₁
          refine ⟨m :: msgs, tail, List.forall_mem_cons.mpr ⟨hm, hmsgs⟩, ?_, hcr.trans hrec', ?_,
            hreads.trans hreads', hend⟩
          · simp [hs, hsent]
          · simp [hpr, hrec]
      · obtain rfl := write_error hw
        refine ⟨[], m.raw, ?_⟩
        simp [forwardResponseUntilReadyLoop, hread, hw, hrec, hreads]

lemma forwardResponseUntilReadyLoop_returns {as bs : List PgPacket} {z : PgPacket}
    (has : ∀ a ∈ as, RegularMessage a) (hz : ReadyMessage z) {fuel : ℕ} (total : ℕ) {p c : Conn}
    (hfuel : as.length < fuel) (hclean : p.Clean) (hready : p.ready = wire (as ++ z :: bs))
    (hw : c.writable = none) :
    ∃ n p' c', forwardResponseUntilReadyLoop fuel total p c = (⟨n, false, none⟩, p', c') := by
  induction as generalizing fuel total p c with
  | nil =>
    obtain ⟨fuel, rfl⟩ := Nat.exists_eq_add_of_lt hfuel
    obtain ⟨p₁, hread, -⟩ := readMessage_next hclean hz.framed (by simpa using hready)
    simp [forwardResponseUntilReadyLoop, hread, Conn.write, hw, hz.ready]
  | cons a as ih =>
    obtain ⟨ha, has⟩ := List.forall_mem_cons.mp has
    obtain ⟨fuel, rfl⟩ := Nat.exists_eq_add_of_lt hfuel
    obtain ⟨p₁, hread, hc₁, hr₁, -⟩ := readMessage_next hclean ha.framed (by simpa using hready)
    simp only [forwardResponseUntilReadyLoop, hread, Conn.write, hw, ha.notReady, ha.notCopy,
      if_false]
    exact ih has _ (by simp only [List.length_cons]; omega) hc₁ (by simpa using hr₁) rfl

lemma loopTop_succ {s₀ t : LoopState} {n : ℕ}
    (h : loopTop filter hasShadow s₀ (n + 1) = some t) :
    ∃ s, loopTop filter hasShadow s₀ n = some s ∧ turn filter hasShadow s = .again t := by
  obtain ⟨s, hs, hnext⟩ := Option.bind_eq_some_iff.mp h
  refine ⟨s, hs, ?_⟩
  cases hturn : turn filter hasShadow s with
  | again u => simpa [hturn, Turn.next] using hnext
  | stop u => simp [hturn, Turn.next] at hnext
  | copyFallback u => simp [hturn, Turn.next] at hnext

lemma turn_again {s t : LoopState} (h : turn filter hasShadow s = .again t) :
    ∃ msg client primary, readMessage s.client = (.ok msg, client) ∧
      s.primary.write msg.bytes = (none, primary) ∧ t.forwarded = s.forwarded ++ [msg] ∧
      msg.msgType ≠ pgMsgTerminate ∧
      if expectsResponse msg then
        ∃ n, forwardResponseUntilReady primary client = (⟨n, false, none⟩, t.primary, t.client)
      else t.primary = primary ∧ t.client = client := by
  unfold turn at h
  rcases hread : readMessage s.client with ⟨e | msg, client⟩
  · simp [hread] at h
  · rcases hwrite : s.primary.write msg.bytes with ⟨_ | e, primary⟩
    · simp only [hread, hwrite] at h
      split_ifs at h with hterm hexp
      · refine ⟨msg, client, primary, rfl, hwrite, ?_⟩
        simp only [mirror_primary, mirror_client] at h
        rcases hfwd : forwardResponseUntilReady primary client with ⟨⟨n, copy, err⟩, p, c⟩
        rw [hfwd] at h
        cases err with
        | some e => simp at h
        | none =>
          cases copy with
          | true => simp at h
          | false =>
            simp only [Turn.again.injEq] at h
            subst h
            simp [hexp, hterm]
      · simp only [Turn.again.injEq] at h
        subst h
        exact ⟨msg, client, primary, rfl, hwrite, by simp, hterm, by simp [hexp]⟩
    · simp [hread, hwrite] at h

end ShadowProxy.PgQueryLoop
