import ShadowProxy.FrameCode
import ShadowProxy.PgStartup
import ShadowProxy.PgMirrorSession

/-! A whole PostgreSQL connection, from the first packet to the end of the query loop, and what it
passes on: the bytes of the client go to the primary and those of the primary to the client, up to
the probes and their answers. -/
namespace ShadowProxy.PgConnection
open WordBytes NetConn StreamCopy FrameCode PgProtocol ShadowFilter PgQueryLoop QueryLog PgStartup
  PgShadowWorker PgMirrorSession

/-- `startShadowWorker` gives the connection to the shadow once it is authenticated; there is none if
the shadow is switched off, sampled out or cannot be reached. -/
structure Proxy where
  listenerTLS : Option (Conn → Option Err)
  startShadowWorker : PgPacket → Option Conn
  queryFilter : Option QueryFilter
  shadowQueueSize : ℕ
  logger : QueryLogger

/-- How far `handleConnection` is. The primary is the connection after the upgrade to TLS. -/
inductive Phase
  | starting (client primary : Conn)
  | authenticating (startup : PgPacket) (client primary : Conn)
  | looping (cfg : Config) (session : Session)
  | returned (err : Option Err) (client primary : Conn)

structure Connection where
  phase : Phase
  tlsFailures : ℕ
  authFailures : ℕ

namespace Phase

def client : Phase → Conn
  | .starting client _ | .authenticating _ client _ | .returned _ client _ => client
  | .looping _ s => s.front.client

def primary : Phase → Conn
  | .starting _ primary | .authenticating _ _ primary | .returned _ _ primary => primary
  | .looping _ s => s.front.primary

/-- `handleConnection` returns, which closes both connections. -/
def finish (err : Option Err) (client primary : Conn) : Phase := .returned err client.close primary.close

end Phase

namespace Connection

def start (client primary : Conn) : Connection := ⟨.starting client primary, 0, 0⟩

def runQueryLoop (proxy : Proxy) (startup : PgPacket) (client primary : Conn) : Phase :=
  match proxy.startShadowWorker startup with
  | some shadow =>
    .looping ⟨proxy.queryFilter, true, proxy.shadowQueueSize⟩
      (.start client primary shadow proxy.logger)
  | none =>
    .looping ⟨proxy.queryFilter, false, proxy.shadowQueueSize⟩
      (.start client primary (.script []) proxy.logger)

def forwardStartup (proxy : Proxy) (client primary : Conn) (k : Connection) : Connection :=
  match forwardStartupTurn proxy.listenerTLS client primary with
  | (.again, client, primary) => { k with phase := .starting client primary }
  | (.cancelled, client, primary) => { k with phase := .finish none client primary }
  | (.started startup, client, primary) => { k with phase := .authenticating startup client primary }
  | (.upgradeFailed e, client, primary) =>
    { k with phase := .finish (some e) client primary, tlsFailures := k.tlsFailures + 1 }
  | (.failed e, client, primary) => { k with phase := .finish (some e) client primary }

def forwardAuthPhase (proxy : Proxy) (startup : PgPacket) (client primary : Conn) (k : Connection) :
    Connection :=
  match forwardAuthTurn client primary with
  | (.again, client, primary) => { k with phase := .authenticating startup client primary }
  | (.ready, client, primary) => { k with phase := runQueryLoop proxy startup client primary }
  | (.rejected, client, primary) =>
    { k with
      phase := .finish (some (.errorf "primary auth error response")) client primary
      authFailures := k.authFailures + 1 }
  | (.failed e, client, primary) => { k with phase := .finish (some e) client primary }

/-- The next step of the connection's goroutine, of a copying goroutine or of the worker; there are
only the first before the query loop. -/
def act (proxy : Proxy) (k : Connection) (act : Action) : Connection :=
  match k.phase, act with
  | .starting client primary, .conn => k.forwardStartup proxy client primary
  | .authenticating startup client primary, .conn =>
    k.forwardAuthPhase proxy startup client primary
  | .looping cfg s, act => { k with phase := .looping cfg (s.act cfg act) }
  | _, _ => k

def exec (proxy : Proxy) (acts : List Action) (k : Connection) : Connection :=
  acts.foldl (Connection.act proxy) k

end Connection

/-- Whole messages with a type, the last of which may be cut off. -/
def Regular (bs : Bytes) : Prop := ∃ ms : List PgPacket, (∀ m ∈ ms, m.Framed) ∧ bs <+: wire ms

section Regular

lemma raw_injective : Function.Injective PgPacket.raw := by
  rintro ⟨t, payload⟩ ⟨t', payload'⟩ h
  simpa [PgPacket.raw] using h

lemma raw_prefixFree : PrefixFree {bs | ∃ p : PgPacket, p.Sized ∧ bs = p.raw} where
  ne_nil := by
    rintro _ ⟨p, -, rfl⟩
    simp [PgPacket.raw]
  eq_of_isPrefix := by
    rintro _ ⟨p, hp, rfl⟩ _ ⟨q, hq, rfl⟩ hpre
    obtain ⟨htype, hpayload⟩ := List.cons_prefix_cons.mp hpre
    have htake : p.payload.take 4 = q.payload.take 4 := by
      obtain ⟨more, hmore⟩ := hpayload
      rw [← hmore, List.take_append_of_le_length hp.header]
    have hlength : p.payload.length = q.payload.length := by rw [← hp.length, htake, hq.length]
    rw [PgPacket.raw, PgPacket.raw, htype, hpayload.eq_of_length hlength]

lemma flatMap_raw {ms : List PgPacket} (h : ∀ m ∈ ms, m.msgType ≠ 0) :
    ms.flatMap PgPacket.raw = wire ms :=
  List.flatMap_congr fun m hm => (if_neg (h m hm)).symm

lemma Regular.flatMap_raw {bs rest : Bytes} {msgs : List PgPacket} (h : Regular bs)
    (hsized : ∀ m ∈ msgs, m.Sized) (hpre : msgs.flatMap PgPacket.raw ++ rest <+: bs) :
    msgs.flatMap PgPacket.raw = wire msgs := by
  obtain ⟨ms, hframed, hbs⟩ := h
  rw [← PgConnection.flatMap_raw fun m hm => (hframed m hm).typed] at hbs
  have hflat := (List.prefix_append _ rest).trans (hpre.trans hbs)
  rw [List.flatMap_def, List.flatMap_def] at hflat
  have halign : msgs.map PgPacket.raw <+: ms.map PgPacket.raw := by
    refine raw_prefixFree.align ?_ ?_ hflat
    · intro x hx
      obtain ⟨m, hm, rfl⟩ := List.mem_map.mp hx
      exact ⟨m, hsized m hm, rfl⟩
    · intro x hx
      obtain ⟨m, hm, rfl⟩ := List.mem_map.mp hx
      exact ⟨m, (hframed m hm).sized, rfl⟩
  refine PgConnection.flatMap_raw fun m hm => ?_
  obtain ⟨m', hm', hraw⟩ := List.mem_map.mp (halign.subset (List.mem_map_of_mem hm))
  exact raw_injective hraw ▸ (hframed m' hm').typed

end Regular

/-- What has been taken since `a` are whole messages, and what has been given since `d` are the
same messages. -/
def Aligned (a : Bytes) (d : List Bytes) (received : Bytes) (sent : List Bytes) : Prop :=
  ∃ msgs : List PgPacket, (∀ m ∈ msgs, m.Sized) ∧ received = a ++ msgs.flatMap PgPacket.raw ∧
    sent = d ++ msgs.map PgPacket.bytes

/-- The same with bytes after the messages that are copied. -/
def Carried (a : Bytes) (d : List Bytes) (k : Copier) (received : Bytes) (sent : List Bytes) : Prop :=
  ∃ (msgs : List PgPacket) (outs : List Bytes) (taken given : Bytes), (∀ m ∈ msgs, m.Sized) ∧
    received = a ++ (msgs.flatMap PgPacket.raw ++ taken) ∧ sent = d ++ outs ∧
    outs.flatten = wire msgs ++ given ∧ k.Conserves taken given

section Carried
variable {a received : Bytes} {d sent : List Bytes} {k : Copier}

lemma Aligned.refl (a : Bytes) (d : List Bytes) : Aligned a d a d := ⟨[], by simp, by simp, by simp⟩

lemma Aligned.messages (h : Aligned a d received sent) {msgs : List PgPacket}
    (hmsgs : ∀ m ∈ msgs, m.Sized) :
    Aligned a d (received ++ msgs.flatMap PgPacket.raw) (sent ++ msgs.map PgPacket.bytes) := by
  obtain ⟨before, hbefore, hrec, hsent⟩ := h
  refine ⟨before ++ msgs, ?_, by simp [hrec], by simp [hsent]⟩
  intro m hm
  exact (List.mem_append.mp hm).elim (hbefore m) (hmsgs m)

lemma Aligned.message (h : Aligned a d received sent) {m : PgPacket} (hm : m.Sized) :
    Aligned a d (received ++ m.raw) (sent ++ [m.bytes]) := by
  have hone : Aligned a d (received ++ [m].flatMap PgPacket.raw) (sent ++ [m].map PgPacket.bytes) :=
    h.messages (by simpa using hm)
  simpa using hone

lemma Aligned.carried (h : Aligned a d received sent) {new : Bytes} (hk : k.Conserves new []) :
    Carried a d k (received ++ new) sent := by
  obtain ⟨msgs, hmsgs, hrec, hsent⟩ := h
  exact ⟨msgs, msgs.map PgPacket.bytes, new, [], hmsgs, by simp [hrec], hsent,
    by simp [wire, List.flatMap_def], hk⟩

lemma Aligned.carried_ended (h : Aligned a d received sent) (new : Bytes) :
    Carried a d .ended (received ++ new) sent :=
  h.carried ⟨List.nil_prefix, by simp⟩

lemma Aligned.carried_reading (h : Aligned a d received sent) : Carried a d .reading received sent := by
  have hnone : Carried a d .reading (received ++ []) sent := h.carried (.of_eq rfl)
  simpa using hnone

lemma Carried.copy (h : Carried a d k received sent) {k' : Copier} {new : Bytes} {out : List Bytes}
    (hk : ∀ taken given, k.Conserves taken given →
      k'.Conserves (taken ++ new) (given ++ out.flatten)) :
    Carried a d k' (received ++ new) (sent ++ out) := by
  obtain ⟨msgs, outs, taken, given, hmsgs, hrec, hsent, houts, hcons⟩ := h
  exact ⟨msgs, outs ++ out, taken ++ new, given ++ out.flatten, hmsgs, by simp [hrec], by simp [hsent],
    by simp [houts], hk taken given hcons⟩

lemma Carried.ended (h : Carried a d k received sent) : Carried a d .ended received sent := by
  obtain ⟨msgs, outs, taken, given, hmsgs, hrec, hsent, houts, hcons⟩ := h
  refine ⟨msgs, outs, taken, given, hmsgs, hrec, hsent, houts, ?_, by simp⟩
  simpa [Copier.inHand] using (List.prefix_append given k.inHand).trans hcons.inOrder

lemma Carried.transparent (h : Carried a d k received sent) {body : Bytes}
    (hpre : received <+: a ++ body) (hreg : Regular body) :
    ∃ outs, sent = d ++ outs ∧ outs.flatten <+: body ∧
      (k ≠ .ended → received = a ++ (outs.flatten ++ k.inHand)) := by
  obtain ⟨msgs, outs, taken, given, hmsgs, rfl, hsent, houts, hcons⟩ := h
  rw [List.prefix_append_right_inj] at hpre
  have hraw := hreg.flatMap_raw hmsgs hpre
  rw [hraw] at hpre ⊢
  refine ⟨outs, hsent, ?_, ?_⟩
  · have hgiven := (List.prefix_append given k.inHand).trans hcons.inOrder
    rw [houts]
    exact ((List.prefix_append_right_inj _).mpr hgiven).trans hpre
  · intro hk
    rw [houts, ← hcons.whole hk, List.append_assoc]

end Carried

/-- What a session has passed on both ways: messages, one of which may be read and not written, and
then what is copied. -/
def Transfers (a a' : Bytes) (d d' : List Bytes) (s : Session) : Prop :=
  match s.front.point with
  | .reading | .mirroring _ _ | .sending _ _ | .replying _ _ =>
    s.front.Ended ∧ Aligned a d s.front.client.received s.front.primary.sent ∧
      Aligned a' d' s.front.primary.received s.front.client.sent
  | .writing _ msg =>
    s.front.Ended ∧ msg.Sized ∧
      (∃ before, s.front.client.received = before ++ msg.raw ∧
        Aligned a d before s.front.primary.sent) ∧
      Aligned a' d' s.front.primary.received s.front.client.sent
  | .copying | .hangup | .done =>
    Carried a d s.front.up s.front.client.received s.front.primary.sent ∧
      Carried a' d' s.front.down s.front.primary.received s.front.client.sent

section Transfers
variable {a a' : Bytes} {d d' : List Bytes} {cfg : Config} {s : Session}

lemma receive_transfers (hended : s.front.Ended)
    (hup : Aligned a d s.front.client.received s.front.primary.sent)
    (hdown : Aligned a' d' s.front.primary.received s.front.client.sent) :
    Transfers a a' d d' s.receive := by
  unfold Session.receive
  rcases hr : readMessage s.front.client with ⟨e | msg, client⟩
  · obtain ⟨new, hrec, hreads⟩ := readMessage_error hr
    have hlost := hup.carried_ended new
    rw [← hrec] at hlost
    rw [← hreads.sent] at hdown
    refine ⟨?_, ?_⟩
    · simpa [hended.1] using hlost
    · simpa [hended.2] using hdown.carried_ended []
  · obtain ⟨hsized, hrec, hreads⟩ := readMessage_sized hr
    rw [← hreads.sent] at hdown
    exact ⟨hended, hsized, ⟨_, hrec, hup⟩, hdown⟩

lemma writePrimary_transfers {req : QueryRequest} {msg : PgPacket} {before : Bytes}
    (hended : s.front.Ended) (hsized : msg.Sized)
    (hrec : s.front.client.received = before ++ msg.raw)
    (hup : Aligned a d before s.front.primary.sent)
    (hdown : Aligned a' d' s.front.primary.received s.front.client.sent) :
    Transfers a a' d d' (s.writePrimary req msg) := by
  unfold Session.writePrimary
  rcases hw : s.front.primary.write msg.bytes with ⟨_ | e, primary⟩
  · obtain ⟨hsent, hrec'⟩ := write_ok hw
    have hmore := hup.message hsized
    rw [← hrec, ← hsent] at hmore
    rw [← hrec'] at hdown
    exact ⟨hended, hmore, hdown⟩
  · obtain rfl := write_error hw
    have hlost := hup.carried_ended msg.raw
    rw [← hrec] at hlost
    refine ⟨?_, ?_⟩
    · simpa [hended.1] using hlost
    · simpa [hended.2] using hdown.carried_ended []

lemma relayReply_transfers {req : QueryRequest} {msg : PgPacket} (hended : s.front.Ended)
    (hup : Aligned a d s.front.client.received s.front.primary.sent)
    (hdown : Aligned a' d' s.front.primary.received s.front.client.sent) :
    Transfers a a' d d' (s.relayReply req msg) := by
  unfold Session.relayReply
  split_ifs
  · refine ⟨?_, ?_⟩
    · simpa [hended.1] using hup.carried_ended []
    · simpa [hended.2] using hdown.carried_ended []
  · obtain ⟨msgs, tail, hmsgs, hsent, hrec, hrec', hreads, hall⟩ := forwardResponseUntilReadyLoop_relays
      ((s.front.primary.pending.flatMap Segment.bytes).length + 1) 0 s.front.primary s.front.client
    have hsame := hreads.sent
    rw [← forwardResponseUntilReady] at hsent hrec hrec' hsame hall
    have hmore := hdown.messages hmsgs
    rcases hf : forwardResponseUntilReady s.front.primary s.front.client with
      ⟨⟨n, copy, _ | e⟩, primary, client⟩ <;> rw [hf] at hsent hrec hrec' hsame hall <;>
      dsimp only at hsent hrec hrec' hsame <;> rw [← hrec, ← hsame] at hup
    · rw [hall rfl, List.append_nil] at hrec'
      rw [← hrec', ← hsent] at hmore
      cases copy with
      | true => exact ⟨hup.carried_reading, hmore.carried_reading⟩
      | false => exact ⟨hended, hup, hmore⟩
    · have hlost := hmore.carried_ended tail
      rw [List.append_assoc, ← hrec', ← hsent] at hlost
      refine ⟨?_, ?_⟩
      · simpa [hended.1] using hup.carried_ended []
      · simpa [hended.2] using hlost
  · exact ⟨hended, hup, hdown⟩

lemma Transfers.conn (h : Transfers a a' d d' s) : Transfers a a' d d' (s.conn cfg) := by
  unfold Session.conn
  cases hp : s.front.point with
  | reading =>
    simp only [Transfers, hp] at h
    exact receive_transfers h.1 h.2.1 h.2.2
  | writing req msg =>
    simp only [Transfers, hp] at h
    obtain ⟨hended, hsized, ⟨before, hrec, hup⟩, hdown⟩ := h
    exact writePrimary_transfers hended hsized hrec hup hdown
  | mirroring req msg =>
    simp only [Transfers, hp] at h
    exact h
  | sending req msg =>
    simp only [Transfers, hp] at h
    exact h
  | replying req msg =>
    simp only [Transfers, hp] at h
    exact relayReply_transfers h.1 h.2.1 h.2.2
  | copying =>
    dsimp only [Session.awaitCopy]
    split_ifs
    · simp only [Transfers, hp] at h
      exact h
    · exact h
  | hangup =>
    simp only [Transfers, hp] at h
    exact h
  | done => simpa only [Transfers, hp] using h

lemma carried_copy (n : ℕ) (dir : Direction)
    (hup : Carried a d s.front.up s.front.client.received s.front.primary.sent)
    (hdown : Carried a' d' s.front.down s.front.primary.received s.front.client.sent) :
    Carried a d (s.front.copy n dir).up (s.front.copy n dir).client.received
        (s.front.copy n dir).primary.sent ∧
      Carried a' d' (s.front.copy n dir).down (s.front.copy n dir).primary.received
        (s.front.copy n dir).client.sent := by
  cases dir with
  | up =>
    obtain ⟨new, out, hsrc, hsrcSent, hdstRec, hdst, hcons⟩ :=
      s.front.up.step_spec n s.front.client s.front.primary
    have hmore := hup.copy hcons
    rw [← hsrc, ← hdst] at hmore
    rw [← hdstRec, ← hsrcSent] at hdown
    exact ⟨hmore, hdown⟩
  | down =>
    obtain ⟨new, out, hsrc, hsrcSent, hdstRec, hdst, hcons⟩ :=
      s.front.down.step_spec n s.front.primary s.front.client
    have hmore := hdown.copy hcons
    rw [← hsrc, ← hdst] at hmore
    rw [← hdstRec, ← hsrcSent] at hup
    exact ⟨hup, hmore⟩

lemma Transfers.copy (h : Transfers a a' d d' s) (n : ℕ) (dir : Direction) :
    Transfers a a' d d' { s with front := s.front.copy n dir } := by
  cases hp : s.front.point with
  | reading | mirroring req msg | sending req msg | replying req msg | writing req msg =>
    have hended : s.front.Ended := by
      simp only [Transfers, hp] at h
      exact h.1
    rw [hended.copy n dir]
    exact h
  | copying | hangup | done =>
    simp only [Transfers, hp] at h
    simp only [Transfers, copy_point, hp]
    exact carried_copy n dir h.1 h.2

lemma Transfers.act (h : Transfers a a' d d' s) (act : Action) :
    Transfers a a' d d' (s.act cfg act) := by
  cases act with
  | conn => exact h.conn
  | copy dir n => exact h.copy n dir
  | timeout => exact h
  | worker pick => exact h

end Transfers

/-- What an iteration of `forwardAuthPhase` has passed on. -/
def AuthDone (a a' : Bytes) (d d' : List Bytes) (client primary : Conn) : AuthNext → Prop
  | .again | .ready | .rejected =>
    Aligned a d client.received primary.sent ∧ Aligned a' d' primary.received client.sent
  | .failed _ =>
    Carried a d .ended client.received primary.sent ∧ Carried a' d' .ended primary.received client.sent

section Auth
variable {a a' : Bytes} {d d' : List Bytes} {client primary : Conn}

lemma forwardPassword_done (code : ℕ) (hup : Aligned a d client.received primary.sent)
    (hdown : Aligned a' d' primary.received client.sent) :
    let r := forwardPassword code client primary
    AuthDone a a' d d' r.2.1 r.2.2 r.1 := by
  unfold forwardPassword
  rcases hr : readMessage client with ⟨e | pwMsg, client'⟩
  · obtain ⟨new, hrec, hreads⟩ := readMessage_error hr
    have hlost := hup.carried_ended new
    rw [← hrec] at hlost
    rw [← hreads.sent] at hdown
    exact ⟨hlost, hdown.carried_reading.ended⟩
  · obtain ⟨hsized, hrec, hreads⟩ := readMessage_sized hr
    rw [← hreads.sent] at hdown
    dsimp only
    rcases hw : primary.write pwMsg.bytes with ⟨_ | e, primary'⟩
    · obtain ⟨hsent, hrec'⟩ := write_ok hw
      have hmore := hup.message hsized
      rw [← hrec, ← hsent] at hmore
      rw [← hrec'] at hdown
      exact ⟨hmore, hdown⟩
    · obtain rfl := write_error hw
      have hlost := hup.carried_ended pwMsg.raw
      rw [← hrec] at hlost
      exact ⟨hlost, hdown.carried_reading.ended⟩

lemma forwardAuthTurn_done (hup : Aligned a d client.received primary.sent)
    (hdown : Aligned a' d' primary.received client.sent) :
    let r := forwardAuthTurn client primary
    AuthDone a a' d d' r.2.1 r.2.2 r.1 := by
  unfold forwardAuthTurn
  rcases hr : readMessage primary with ⟨e | msg, primary'⟩
  · obtain ⟨new, hrec, hreads⟩ := readMessage_error hr
    have hlost := hdown.carried_ended new
    rw [← hrec] at hlost
    rw [← hreads.sent] at hup
    exact ⟨hup.carried_reading.ended, hlost⟩
  · obtain ⟨hsized, hrec, hreads⟩ := readMessage_sized hr
    rw [← hreads.sent] at hup
    dsimp only
    rcases hw : client.write msg.bytes with ⟨_ | e, client'⟩
    · obtain ⟨hsent, hrec'⟩ := write_ok hw
      have hmore := hdown.message hsized
      rw [← hrec, ← hsent] at hmore
      rw [← hrec'] at hup
      dsimp only
      split_ifs
      · exact ⟨hup.carried_reading.ended, hmore.carried_reading.ended⟩
      · exact ⟨hup, hmore⟩
      · exact forwardPassword_done _ hup hmore
      · exact ⟨hup, hmore⟩
      · exact ⟨hup, hmore⟩
      · exact ⟨hup, hmore⟩
    · obtain rfl := write_error hw
      have hlost := hdown.carried_ended msg.raw
      rw [← hrec] at hlost
      exact ⟨hup.carried_reading.ended, hlost⟩

end Auth

/-- The probes that were answered, and the first packet after them. -/
structure Opening (packets : List Bytes) (first : Bytes) : Prop where
  allProbes : ∀ p ∈ packets, isProbe p = true
  startup : StartupPacket first
  notProbe : isProbe first = false

def Relayed (proxy : Proxy) : Phase → Prop
  | .starting client primary =>
    primary.received = [] ∧ primary.sent = [] ∧
      ∃ packets : List Bytes, (∀ p ∈ packets, isProbe p = true) ∧
        client.received = packets.flatten ∧
        client.sent = packets.map (probeAnswer proxy.listenerTLS)
  | .authenticating _ client primary =>
    ∃ packets first, Opening packets first ∧ isCancelRequest ⟨0, first⟩ = false ∧
      Aligned (packets.flatten ++ first) [first] client.received primary.sent ∧
      Aligned [] (packets.map (probeAnswer proxy.listenerTLS)) primary.received client.sent
  | .looping _ s =>
    ∃ packets first, Opening packets first ∧ isCancelRequest ⟨0, first⟩ = false ∧
      Transfers (packets.flatten ++ first) [] [first] (packets.map (probeAnswer proxy.listenerTLS)) s
  | .returned _ client primary =>
    (primary.received = [] ∧ primary.sent = [] ∧
      ∃ (packets : List Bytes) (new : Bytes), (∀ p ∈ packets, isProbe p = true) ∧
        client.received = packets.flatten ++ new ∧
        client.sent <+: packets.map (probeAnswer proxy.listenerTLS)) ∨
    (∃ packets first, Opening packets first ∧ client.received = packets.flatten ++ first ∧
      primary.sent = [first] ∧ primary.received = [] ∧
      client.sent = packets.map (probeAnswer proxy.listenerTLS)) ∨
    ∃ packets first, Opening packets first ∧ isCancelRequest ⟨0, first⟩ = false ∧
      Carried (packets.flatten ++ first) [first] .ended client.received primary.sent ∧
      Carried [] (packets.map (probeAnswer proxy.listenerTLS)) .ended primary.received client.sent

section Relayed
variable {proxy : Proxy} {k : Connection} {client primary : Conn}

lemma forwardStartup_relayed (h : Relayed proxy (.starting client primary)) :
    Relayed proxy (k.forwardStartup proxy client primary).phase := by
  obtain ⟨hrec, hsent, packets, hpackets, hcrec, hcsent⟩ := h
  have hprobed : ∀ {client' packet}, Probed proxy.listenerTLS client client' packet →
      (∀ p ∈ packets ++ [packet], isProbe p = true) ∧
        client'.received = (packets ++ [packet]).flatten ∧
        client'.sent = (packets ++ [packet]).map (probeAnswer proxy.listenerTLS) := by
    intro client' packet hp
    refine ⟨?_, by simp [hp.received, hcrec], by simp [hp.sent, hcsent]⟩
    intro p hmem
    rcases List.mem_append.mp hmem with hmem | hmem
    · exact hpackets p hmem
    · rw [List.mem_singleton.mp hmem]
      exact hp.probe
  have hturn := forwardStartupTurn_spec proxy.listenerTLS client primary
  unfold Connection.forwardStartup
  rcases hr : forwardStartupTurn proxy.listenerTLS client primary with ⟨next, client', primary'⟩
  rw [hr] at hturn
  cases next with
  | again =>
    obtain ⟨rfl, packet, hp⟩ := hturn
    exact ⟨hrec, hsent, packets ++ [packet], hprobed hp⟩
  | cancelled =>
    obtain ⟨packet, -, hp⟩ := hturn
    refine .inr (.inl ⟨packets, packet, ⟨hpackets, hp.startup, hp.notProbe⟩, ?_, ?_, ?_, ?_⟩)
    · exact hcrec ▸ hp.received
    · exact hp.toPrimary.trans (by rw [hsent]; rfl)
    · exact hp.fromPrimary.trans hrec
    · exact hp.sent.trans hcsent
  | started startup =>
    obtain ⟨hcancel, hp⟩ := hturn
    refine ⟨packets, startup.payload, ⟨hpackets, hp.startup, hp.notProbe⟩, hcancel, ?_, ?_⟩
    · rw [hp.received, hp.toPrimary, hcrec, hsent]
      exact Aligned.refl _ _
    · rw [hp.fromPrimary, hp.sent, hrec, hcsent]
      exact Aligned.refl _ _
  | upgradeFailed e =>
    obtain ⟨rfl, ⟨new, hnew, hsame⟩ | ⟨packet, hp⟩⟩ := hturn
    · refine .inl ⟨hrec, hsent, packets, new, hpackets, hcrec ▸ hnew, ?_⟩
      exact (hsame.trans hcsent) ▸ List.prefix_rfl
    · obtain ⟨hall, hflat, hanswers⟩ := hprobed hp
      exact .inl ⟨hrec, hsent, packets ++ [packet], [], hall, by rw [List.append_nil]; exact hflat,
        hanswers ▸ List.prefix_rfl⟩
  | failed e =>
    obtain ⟨rfl, new, hnew, hsame⟩ := hturn
    refine .inl ⟨hrec, hsent, packets, new, hpackets, hcrec ▸ hnew, ?_⟩
    exact (hsame.trans hcsent) ▸ List.prefix_rfl

lemma forwardAuthPhase_relayed {startup : PgPacket}
    (h : Relayed proxy (.authenticating startup client primary)) :
    Relayed proxy (k.forwardAuthPhase proxy startup client primary).phase := by
  obtain ⟨packets, first, hopen, hcancel, hup, hdown⟩ := h
  have hturn := forwardAuthTurn_done hup hdown
  unfold Connection.forwardAuthPhase
  rcases hr : forwardAuthTurn client primary with ⟨next, client', primary'⟩
  rw [hr] at hturn
  cases next with
  | again => exact ⟨packets, first, hopen, hcancel, hturn⟩
  | ready =>
    dsimp only [Connection.runQueryLoop]
    cases proxy.startShadowWorker startup with
    | none => exact ⟨packets, first, hopen, hcancel, ⟨rfl, rfl⟩, hturn⟩
    | some shadow => exact ⟨packets, first, hopen, hcancel, ⟨rfl, rfl⟩, hturn⟩
  | rejected =>
    exact .inr (.inr ⟨packets, first, hopen, hcancel, hturn.1.carried_reading.ended,
      hturn.2.carried_reading.ended⟩)
  | failed e => exact .inr (.inr ⟨packets, first, hopen, hcancel, hturn⟩)

lemma act_relayed (h : Relayed proxy k.phase) (act : Action) : Relayed proxy (k.act proxy act).phase := by
  unfold Connection.act
  cases hp : k.phase with
  | starting client primary =>
    rw [hp] at h
    cases act with
    | conn => exact forwardStartup_relayed h
    | _ => simpa only [hp] using h
  | authenticating startup client primary =>
    rw [hp] at h
    cases act with
    | conn => exact forwardAuthPhase_relayed h
    | _ => simpa only [hp] using h
  | looping cfg s =>
    rw [hp] at h
    obtain ⟨packets, first, hopen, hcancel, htransfers⟩ := h
    exact ⟨packets, first, hopen, hcancel, htransfers.act act⟩
  | returned err client primary =>
    rw [hp] at h
    cases act <;> simpa only [hp] using h

theorem exec_relayed (hclient : client.received = [] ∧ client.sent = [])
    (hprimary : primary.received = [] ∧ primary.sent = []) (proxy : Proxy) (acts : List Action) :
    Relayed proxy ((Connection.start client primary).exec proxy acts).phase := by
  induction acts using List.reverseRecOn with
  | nil => exact ⟨hprimary.1, hprimary.2, [], by simp, hclient.1, hclient.2⟩
  | append_singleton acts act ih =>
    simp only [Connection.exec, List.foldl_append, List.foldl_cons, List.foldl_nil]
    exact act_relayed ih act

end Relayed

/-- What the connection does with the bytes of the client, as a copying goroutine would do it. -/
def Phase.up : Phase → Copier
  | .starting _ _ | .authenticating _ _ _ => .reading
  | .looping _ s =>
    match s.front.point with
    | .reading | .mirroring _ _ | .sending _ _ | .replying _ _ => .reading
    | .writing _ msg => .writing msg.raw none
    | .copying => s.front.up
    | .hangup | .done => .ended
  | .returned _ _ _ => .ended

def Phase.down : Phase → Copier
  | .starting _ _ | .authenticating _ _ _ => .reading
  | .looping _ s =>
    match s.front.point with
    | .reading | .writing _ _ | .mirroring _ _ | .sending _ _ | .replying _ _ => .reading
    | .copying => s.front.down
    | .hangup | .done => .ended
  | .returned _ _ _ => .ended

lemma Transfers.carried {a a' : Bytes} {d d' : List Bytes} {s : Session} (h : Transfers a a' d d' s)
    (cfg : Config) :
    Carried a d (Phase.looping cfg s).up s.front.client.received s.front.primary.sent ∧
      Carried a' d' (Phase.looping cfg s).down s.front.primary.received s.front.client.sent := by
  unfold Phase.up Phase.down
  cases hp : s.front.point with
  | reading | mirroring req msg | sending req msg | replying req msg =>
    simp only [Transfers, hp] at h ⊢
    exact ⟨h.2.1.carried_reading, h.2.2.carried_reading⟩
  | writing req msg =>
    simp only [Transfers, hp] at h ⊢
    obtain ⟨-, -, ⟨before, hrec, hup⟩, hdown⟩ := h
    rw [hrec]
    exact ⟨hup.carried (.of_eq rfl), hdown.carried_reading⟩
  | copying =>
    simp only [Transfers, hp] at h ⊢
    exact h
  | hangup | done =>
    simp only [Transfers, hp] at h ⊢
    exact ⟨h.1.ended, h.2.ended⟩

/-- The messages of a client that follow its first packet are regular. -/
def ClientRegular (stream : Bytes) : Prop :=
  ∀ first body, skipProbes stream = first ++ body → StartupPacket first →
    isCancelRequest ⟨0, first⟩ = false → Regular body

/-- What is written to the primary is the beginning of the client's stream without the probes. What is
written to the client is the beginning of the primary's stream, with the answers to the probes before
it. As long as a direction is served, nothing of it is missing but what is in hand. -/
structure Transparent (listenerTLS : Option (Conn → Option Err)) (clientStream primaryStream : Bytes)
    (up down : Copier) (client primary : Conn) : Prop where
  toPrimary : primary.sent.flatten <+: skipProbes clientStream
  noneLostUp : up ≠ .ended → primary.sent.flatten ++ up.inHand = skipProbes client.received
  toClient : ∃ answers outs, client.sent = answers ++ outs ∧
    answers <+: (probes clientStream).map (probeAnswer listenerTLS) ∧
    outs.flatten <+: primaryStream ∧ (down ≠ .ended → outs.flatten ++ down.inHand = primary.received)

section Transparent
variable {listenerTLS : Option (Conn → Option Err)} {packets : List Bytes} {first S P : Bytes}
  {up down : Copier} {client primary : Conn}

lemma Opening.split (h : Opening packets first) (body : Bytes) :
    splitProbes (packets.flatten ++ first ++ body) = (packets, first ++ body) := by
  rw [List.append_assoc, splitProbes_probes h.allProbes, splitProbes_startup h.startup h.notProbe,
    List.append_nil]

lemma Opening.transparent (h : Opening packets first) (hcancel : isCancelRequest ⟨0, first⟩ = false)
    (hup : Carried (packets.flatten ++ first) [first] up client.received primary.sent)
    (hdown : Carried [] (packets.map (probeAnswer listenerTLS)) down primary.received client.sent)
    (hS : client.received <+: S) (hP : primary.received <+: P) (hclient : ClientRegular S)
    (hprimary : Regular P) : Transparent listenerTLS S P up down client primary := by
  obtain ⟨body, rfl⟩ : ∃ body, S = packets.flatten ++ first ++ body := by
    obtain ⟨msgs, _, taken, _, _, hrec, _⟩ := hup
    obtain ⟨more, hmore⟩ := hS
    exact ⟨msgs.flatMap PgPacket.raw ++ taken ++ more, by rw [← hmore, hrec]; simp⟩
  have hskip := h.split body
  have hreg := hclient first body (by rw [skipProbes, hskip]) h.startup hcancel
  obtain ⟨outs, hsent, hpre, hwhole⟩ := hup.transparent hS hreg
  obtain ⟨outs', hsent', hpre', hwhole'⟩ := hdown.transparent hP hprimary
  refine ⟨?_, ?_, packets.map (probeAnswer listenerTLS), outs', hsent', ?_, hpre', ?_⟩
  · rw [skipProbes, hskip, hsent]
    simpa using hpre
  · intro hk
    rw [skipProbes, hwhole hk, h.split, hsent]
    simp
  · rw [probes, hskip]
  · intro hk
    exact (hwhole' hk).symm

lemma transparent_of_probes (hprobes : ∀ p ∈ packets, isProbe p = true) (new : Bytes)
    (hrec : client.received = packets.flatten ++ new)
    (hsent : client.sent <+: packets.map (probeAnswer listenerTLS)) (hprec : primary.received = [])
    (hpsent : primary.sent = []) (hS : client.received <+: S)
    (hup : up ≠ .ended → up = .reading ∧ new = []) (hdown : down ≠ .ended → down = .reading) :
    Transparent listenerTLS S P up down client primary := by
  refine ⟨by simp [hpsent], ?_, client.sent, [], by simp, ?_, by simp, ?_⟩
  · intro hk
    obtain ⟨rfl, rfl⟩ := hup hk
    rw [hrec, skipProbes, splitProbes_probes hprobes, hpsent]
    rfl
  · obtain ⟨more, hmore⟩ := hS
    rw [← hmore, hrec, List.append_assoc, probes, splitProbes_probes hprobes, List.map_append]
    exact hsent.trans (List.prefix_append _ _)
  · intro hk
    rw [hdown hk, hprec]
    rfl

lemma Opening.transparent_of_cancel (h : Opening packets first)
    (hrec : client.received = packets.flatten ++ first) (hpsent : primary.sent = [first])
    (hsent : client.sent = packets.map (probeAnswer listenerTLS)) (hS : client.received <+: S) :
    Transparent listenerTLS S P .ended .ended client primary := by
  obtain ⟨body, rfl⟩ := hS
  rw [hrec] at *
  have hskip := h.split body
  refine ⟨?_, by simp, packets.map (probeAnswer listenerTLS), [], by simp [hsent], ?_, by simp, by simp⟩
  · rw [skipProbes, hskip, hpsent]
    simp
  · rw [probes, hskip]

end Transparent

/-- Over a whole connection, every byte is passed on in order and none is added, whatever the shadow
does. `S` and `P` are the streams of the client and the primary. -/
theorem pgwire_transparency {client primary : Conn} (hclient : client.received = [] ∧ client.sent = [])
    (hprimary : primary.received = [] ∧ primary.sent = []) (proxy : Proxy) (acts : List Action)
    {S P : Bytes} :
    let phase := ((Connection.start client primary).exec proxy acts).phase
    phase.client.received <+: S → phase.primary.received <+: P → ClientRegular S → Regular P →
      Transparent proxy.listenerTLS S P phase.up phase.down phase.client phase.primary := by
  intro phase hS hP hregular hregular'
  have hrelayed : Relayed proxy phase := exec_relayed hclient hprimary proxy acts
  cases hp : phase with
  | starting client primary =>
    rw [hp] at hrelayed hS
    obtain ⟨hrec, hsent, packets, hpackets, hcrec, hcsent⟩ := hrelayed
    exact transparent_of_probes hpackets [] (hcrec.trans (List.append_nil _).symm)
      (hcsent ▸ List.prefix_rfl) hrec hsent hS (fun _ => ⟨rfl, rfl⟩) (fun _ => rfl)
  | authenticating startup client primary =>
    rw [hp] at hrelayed hS hP
    obtain ⟨packets, first, hopen, hcancel, hup, hdown⟩ := hrelayed
    exact hopen.transparent hcancel hup.carried_reading hdown.carried_reading hS hP hregular hregular'
  | looping cfg s =>
    rw [hp] at hrelayed hS hP
    obtain ⟨packets, first, hopen, hcancel, htransfers⟩ := hrelayed
    obtain ⟨hup, hdown⟩ := htransfers.carried cfg
    exact hopen.transparent hcancel hup hdown hS hP hregular hregular'
  | returned err client primary =>
    rw [hp] at hrelayed hS hP
    rcases hrelayed with ⟨hrec, hsent, packets, new, hpackets, hcrec, hcsent⟩ |
      ⟨packets, first, hopen, hcrec, hsent, hrec, hcsent⟩ |
      ⟨packets, first, hopen, hcancel, hup, hdown⟩
    · exact transparent_of_probes hpackets new hcrec hcsent hrec hsent hS (fun hk => absurd rfl hk)
        (fun hk => absurd rfl hk)
    · exact hopen.transparent_of_cancel hcrec hsent hcsent hS
    · exact hopen.transparent hcancel hup hdown hS hP hregular hregular'

lemma StartupPacket.eq_of_append {first first' body body' : Bytes} (h : StartupPacket first)
    (h' : StartupPacket first') (heq : first ++ body = first' ++ body') :
    first = first' ∧ body = body' := by
  have hfield : ∀ {packet : Bytes}, StartupPacket packet → ∀ more : Bytes,
      (packet ++ more).take 4 = packet.take 4 := fun hp more =>
    List.take_append_of_le_length (le_trans (by omega) hp.header)
  have htake : first.take 4 = first'.take 4 := by rw [← hfield h body, heq, hfield h' body']
  exact List.append_inj heq (by rw [← h.length, htake, h'.length])

lemma Opening.clientRegular {packets : List Bytes} {first body : Bytes} (h : Opening packets first)
    (hbody : Regular body) : ClientRegular (packets.flatten ++ first ++ body) := by
  intro first' body' hskip hstartup _
  rw [skipProbes, h.split] at hskip
  obtain ⟨-, rfl⟩ := StartupPacket.eq_of_append h.startup hstartup hskip
  exact hbody

def sslRequest : Bytes := [0, 0, 0, 8, 0x04, 0xD2, 0x16, 0x2F]

def sampleStartup : Bytes := [0, 0, 0, 9, 0, 3, 0, 0, 0]

/-- A password, a query that starts a COPY, and a CopyData message. -/
def sampleMessages : List PgPacket := [frame 0x70 [65], frame pgMsgQuery [66, 0], frame 0x64 [67]]

/-- AuthenticationCleartextPassword; AuthenticationOk and ReadyForQuery; CopyInResponse. -/
def sampleAnswers : List (List PgPacket) :=
  [[frame pgBackendAuthRequest [0, 0, 0, 3]],
    [frame pgBackendAuthRequest [0, 0, 0, 0], readyForQuery], [frame pgBackendCopyInResponse [0]]]

def sampleClient : Conn := .script [⟨sslRequest ++ sampleStartup ++ wire sampleMessages, none⟩]

def samplePrimary : Conn where
  pending := []
  received := []
  sent := []
  respond := fun sent => (sampleAnswers[sent.length - 1]?).toList.map fun msgs => ⟨wire msgs, none⟩
  writable := none

def sampleProxy : Proxy := ⟨none, fun _ => none, none, 8, none⟩

/-- The probe, the startup packet, two rounds of authentication and a ReadyForQuery, the query, and
the CopyData message. -/
def sampleActs : List Action := List.replicate 10 .conn ++ [.copy .up 100, .copy .up 100]

def sampleConnection : Connection :=
  (Connection.start sampleClient samplePrimary).exec sampleProxy sampleActs

lemma sampleMessages_regular : Regular (wire sampleMessages) := by
  refine ⟨sampleMessages, ?_, List.prefix_rfl⟩
  simp only [sampleMessages, List.forall_mem_cons, List.not_mem_nil, false_implies, implies_true,
    and_true]
  exact ⟨frame_framed (by decide) (by decide), frame_framed (by decide) (by decide),
    frame_framed (by decide) (by decide)⟩

lemma sampleAnswers_regular : Regular (wire sampleAnswers.flatten) := by
  refine ⟨sampleAnswers.flatten, ?_, List.prefix_rfl⟩
  simp only [sampleAnswers, List.flatten_cons, List.flatten_nil, List.cons_append, List.nil_append,
    List.forall_mem_cons, List.not_mem_nil, false_implies, implies_true, and_true]
  exact ⟨frame_framed (by decide) (by decide), frame_framed (by decide) (by decide),
    frame_framed (by decide) (by decide), frame_framed (by decide) (by decide)⟩

theorem pgwire_transparency_sampleConnection :
    sampleConnection.phase.primary.sent.flatten = sampleStartup ++ wire sampleMessages ∧
      sampleConnection.phase.client.sent = [0x4E] :: sampleAnswers.flatten.map PgPacket.bytes ∧
      sampleConnection.phase.up = .reading ∧
      Transparent none (sslRequest ++ sampleStartup ++ wire sampleMessages)
        (wire sampleAnswers.flatten) sampleConnection.phase.up sampleConnection.phase.down
        sampleConnection.phase.client sampleConnection.phase.primary := by
  have hopen : Opening [sslRequest] sampleStartup :=
    ⟨by decide, ⟨by decide, by decide, by decide⟩, by decide⟩
  have hregular := hopen.clientRegular sampleMessages_regular
  rw [List.flatten_singleton] at hregular
  have hclient : sampleClient.received = [] ∧ sampleClient.sent = [] := ⟨rfl, rfl⟩
  have hprimary : samplePrimary.received = [] ∧ samplePrimary.sent = [] := ⟨rfl, rfl⟩
  exact ⟨by decide +kernel, by decide +kernel, by decide +kernel,
    pgwire_transparency hclient hprimary sampleProxy sampleActs (by decide +kernel)
      (by decide +kernel) hregular sampleAnswers_regular⟩

end ShadowProxy.PgConnection
