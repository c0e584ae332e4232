import ShadowProxy.MySQLServer
import ShadowProxy.MySQLMirrorServe
import ShadowProxy.PgMirrorAccounts
import ShadowProxy.PgServer

/-! How a connection comes to its end on both paths: its loop returns, `Close` waits for the worker, and
then the connection returns. -/
namespace ShadowProxy.Teardown
open WordBytes EventHistory NetConn QueryLog

namespace MySQL
open StreamCopy MySQLPacket MySQLPacketReader MySQLHandshake MySQLNegotiation MySQLProxyLoop
  MySQLShadowWorker MySQLShadowLogin MySQLConnection MySQLServer
open WorkQueue hiding Phase Stage

section Ending
variable {p : Proxy} {dials : Dials} {phase : Phase}

/-- The loop of `proxyWithMirrorWorker` has returned. -/
def loopEnded : Phase → Bool
  | .mirroring session => session.front.point = .done
  | _ => false

def Returned : Phase → Prop
  | .returned (.withShadow _) _ _ => True
  | _ => False

/-- How much is left to do for the worker and for `Close`. -/
def left : Phase → ℕ
  | .mirroring session => session.back.service.rank + 1
  | _ => 0

lemma act_done (cfg : MySQLMirrorSession.Config) {session : MySQLMirrorSession.Session}
    (hdone : session.front.point = .done) (act : MySQLMirrorSession.Action) :
    (session.act cfg act).front = session.front ∧ ∃ m,
      (session.act cfg act).back = { session.back with service := session.back.service.move processRequest m } := by
  cases act with
  | conn =>
    refine ⟨?_, .close, ?_⟩ <;>
      simp [MySQLMirrorSession.Session.act, MySQLMirrorSession.Session.conn, hdone,
        MySQLMirrorSession.Back.close, Service.move]
  | timeout => exact ⟨rfl, .timeout, rfl⟩
  | worker pick => exact ⟨rfl, .step pick, rfl⟩

def Ends (p : Proxy) : Phase → Prop
  | .mirroring session => Kept p.session session ∧ session.front.point = .done
  | .returned (.withShadow _) _ _ => True
  | _ => False

lemma Ends.act (h : Ends p phase) (dials : Dials) (act : Action) :
    Ends p (phase.act p dials act) ∧
      (phase.act p dials act = phase ∨ left (phase.act p dials act) < left phase) := by
  cases phase with
  | mirroring session =>
    obtain ⟨hkept, hdone⟩ := h
    cases act with
    | session act =>
      dsimp only [Phase.act]
      split_ifs with hclosed
      · exact ⟨trivial, .inr (Nat.succ_pos _)⟩
      · obtain ⟨hfront, m, hback⟩ := act_done p.session hdone act
        refine ⟨⟨hkept.act act, by rw [hfront, hdone]⟩, ?_⟩
        obtain hsame | hlt := session.back.service.move_rank processRequest m
        · rw [hsame] at hback
          left
          rw [show session.act p.session act = ⟨session.front, session.back⟩ from
            congrArg₂ MySQLMirrorSession.Session.mk hfront hback]
        · exact .inr (Nat.succ_lt_succ (by rw [hback]; exact hlt))
    | copyUp n => exact ⟨⟨hkept, hdone⟩, .inl rfl⟩
    | copyDown n => exact ⟨⟨hkept, hdone⟩, .inl rfl⟩
  | returned outcome client primary => exact ⟨h, .inl rfl⟩
  | _ => exact h.elim

lemma Ends.busy_length (h : Ends p phase) {acts : List Action}
    (hb : Busy (Phase.act p dials) (fun _ => true) phase acts) :
    acts.length ≤ left phase ∧ Ends p (phase.exec p dials acts) := by
  obtain ⟨hlast, hle⟩ := hb.count_le (Ends p) left (fun _ => 0) (fun phase act h hne => by
    obtain ⟨hends, hstep⟩ := h.act dials act
    exact ⟨hends, hstep.resolve_left (hne rfl)⟩) h
  rw [List.countP_true, List.map_const', List.sum_replicate, smul_zero] at hle
  exact ⟨by omega, hlast⟩

lemma Ends.exists_act (h : Ends p phase) (dials : Dials) :
    Returned phase ∨ ∃ act, phase.act p dials act ≠ phase := by
  cases phase with
  | mirroring session =>
    obtain ⟨hkept, hdone⟩ := h
    obtain ⟨primary, shadow, hb⟩ := hkept.booked
    refine .inr ?_
    by_cases hclosed : session.back.service.phase = .closed
    · exact ⟨.session .conn, by simp [Phase.act, hclosed]⟩
    · have hleft : session.back.service.phase ≠ .serving := by simp [hb.serving, hdone]
      obtain ⟨m, hm⟩ := hb.queue.exists_move hleft hclosed
      have hact (act : MySQLMirrorSession.Action)
          (heq : (session.act p.session act).back.service = session.back.service.move processRequest m) :
          ∃ act, (Phase.mirroring session).act p dials act ≠ .mirroring session := by
        refine ⟨.session act, ?_⟩
        simp only [Phase.act, hclosed, and_false, if_false]
        intro hsame
        rw [Phase.mirroring.inj hsame] at heq
        exact hm heq.symm
      cases m with
      | close =>
        refine hact .conn ?_
        simp [MySQLMirrorSession.Session.act, MySQLMirrorSession.Session.conn, hdone,
          MySQLMirrorSession.Back.close, Service.move]
      | timeout => exact hact .timeout rfl
      | step pick => exact hact (.worker pick) rfl
  | returned outcome client primary =>
    cases outcome with
    | withShadow forced => exact .inl trivial
    | _ => exact h.elim
  | _ => exact h.elim

/-- When the loop has returned, `Close` does not wait forever: whatever steps the goroutines of the
connection take, there are only so many of them, and one is always possible until the connection has
returned. A request is one step of the worker: its read has a deadline, and its write returns, which
nothing but the shadow sees to. -/
theorem mirrored_connection_ends (p : Proxy) (dials : Dials) (client : Conn) (acts more : List Action)
    (hended : loopEnded ((Phase.accepted client).exec p dials acts) = true)
    (hbusy : Busy (Phase.act p dials) (fun _ => true) ((Phase.accepted client).exec p dials acts) more) :
    let phase := (Phase.accepted client).exec p dials (acts ++ more)
    more.length ≤ 4 * p.session.shadowQueueSize + 9 ∧
      (Returned phase ∨ ∃ act, phase.act p dials act ≠ phase) := by
  have hsane : Sane p ((Phase.accepted client).exec p dials acts) :=
    reachable_sane (a := ⟨client, dials⟩) ⟨acts, rfl⟩
  intro phase
  have hphase : phase = ((Phase.accepted client).exec p dials acts).exec p dials more := by
    simp [phase, Phase.exec]
  rw [hphase]
  generalize (Phase.accepted client).exec p dials acts = before at *
  cases before with
  | mirroring session =>
    have hdone : session.front.point = .done := by simpa [loopEnded] using hended
    have hends : Ends p (.mirroring session) := ⟨hsane, hdone⟩
    have hleft : session.back.service.phase ≠ .serving := by simp [hsane.serving, hdone]
    have hrank := hsane.bounds.rank_le hleft
    obtain ⟨hle, hlast⟩ := hends.busy_length hbusy
    exact ⟨hle.trans (Nat.succ_le_succ hrank), hlast.exists_act dials⟩
  | _ => simp [loopEnded] at hended

end Ending

section Kept
variable {cfg : MySQLMirrorSession.Config} {s : MySQLMirrorSession.Session}

lemma kept_exec (h : Kept cfg s) (acts : List MySQLMirrorSession.Action) : Kept cfg (s.exec cfg acts) := by
  induction acts generalizing s with
  | nil => exact h
  | cons act acts ih => exact ih (h.act act)

lemma closed_act (h : Kept cfg s) (hclosed : s.back.service.phase = .closed)
    (act : MySQLMirrorSession.Action) : (s.act cfg act).back.service.phase = .closed := by
  have hdone : s.front.point = .done := by
    by_contra hp
    simp [h.serving.mpr hp] at hclosed
  obtain ⟨-, m, hback⟩ := act_done cfg hdone act
  rw [hback]
  cases m <;> simp [Service.move, Service.close, Service.timeout, Service.step, hclosed]

/-- Until `Close` has returned, the steps of a mirrored connection are those of its session. -/
lemma mirroring_exec {p : Proxy} {dials : Dials} (h : Kept p.session s)
    {acts : List MySQLMirrorSession.Action}
    (hopen : (s.exec p.session acts.dropLast).back.service.phase ≠ .closed) :
    (Phase.mirroring s).exec p dials (acts.map .session) = .mirroring (s.exec p.session acts) := by
  induction acts using List.reverseRecOn with
  | nil => rfl
  | append_singleton acts act ih =>
    rw [List.dropLast_concat] at hopen
    have hbefore : (s.exec p.session acts.dropLast).back.service.phase ≠ .closed := by
      intro hclosed
      rcases List.eq_nil_or_concat acts with rfl | ⟨acts, last, rfl⟩
      · exact hopen hclosed
      · rw [List.concat_eq_append, List.dropLast_concat] at hclosed
        rw [List.concat_eq_append, MySQLMirrorSession.exec_concat] at hopen
        exact hopen (closed_act (kept_exec h acts) hclosed last)
    rw [List.map_append, List.map_singleton, exec_concat, ih hbefore, MySQLMirrorSession.exec_concat]
    simp [Phase.act, hopen]

end Kept

section Sample
open MySQLMirrorServe

lemma exec_mirroring {p : Proxy} {dials : Dials} {client primary shadow : Conn} {s : Session}
    {r : Login × List Bytes} (hdial : dials.primary = .ok primary)
    (hshake : p.tcp.handshake ⟨client, primary⟩ = (.ok r, s))
    (hinit : initializeWorker p dials.shadow = .ok (.ok shadow)) :
    (Phase.accepted client).exec p dials (List.replicate 3 (.session .conn)) =
      .mirroring (.start s.client s.primary shadow p.logger) := by
  simp only [Phase.exec, List.replicate, List.foldl_cons, List.foldl_nil, Phase.act, Phase.dialBackend,
    hdial, Phase.handshake, hshake, Phase.startWorker, hinit]

/-- A shadow that lets the proxy in, and answers nothing after that. -/
def sampleShadow : Conn := .script [⟨sampleHandshake.bytes ++ sampleVerdict, none⟩]

def samplePing : Packet := ⟨0, [comPing], by decide⟩

def sampleMirrored : Arrival where
  client := .script [⟨sampleLogin 1, none⟩, ⟨wire [samplePing, quitPacket], none⟩]
  dials := ⟨.ok { scriptServer okReply with pending := [⟨sampleGreeting, none⟩] }, .ok sampleShadow⟩

def sampleAdmitted : Conn :=
  match initializeWorker sampleProxy (.ok sampleShadow) with
  | .ok (.ok conn) => conn
  | _ => sampleShadow

lemma initializeWorker_sample : initializeWorker sampleProxy (.ok sampleShadow) = .ok (.ok sampleAdmitted) := by
  have hok : (match initializeWorker sampleProxy (.ok sampleShadow) with
      | .ok (.ok _) => true
      | _ => false) = true := by decide +kernel
  unfold sampleAdmitted
  split at hok
  · rename_i conn hconn
    rw [hconn]
  · cases hok

/-- The loop has returned, and the COM_PING is in the queue. -/
def sampleLeaving : MySQLMirrorSession.Back :=
  (served sampleProxy.session
    (served sampleProxy.session (.start sampleAdmitted none) 2 (newQueryRequest 0 samplePing.bytes)
      (wire (okReply samplePing.bytes)).length)
    3 (newQueryRequest 1 quitPacket.bytes) 0).leave

/-- The steps of the connection up to the end of the loop. -/
def sampleSteps : List Action := List.replicate 3 (.session .conn) ++ (List.replicate 8 .conn).map .session

lemma sampleMirrored_handshake :
    ∃ s, sampleProxy.tcp.handshake
        ⟨sampleMirrored.client, { scriptServer okReply with pending := [⟨sampleGreeting, none⟩] }⟩ =
          (.ok (samplePlain 1, [MySQLReply.sampleOK.bytes]), s) ∧
      Fed okReply 1 [samplePing, quitPacket]
        (MySQLMirrorSession.Session.start s.client s.primary sampleAdmitted none).front :=
  ⟨_, Prod.ext rfl rfl, fed_start _ _ rfl rfl rfl rfl rfl rfl rfl⟩

lemma sampleMirrored_exec : ∃ f, f.point = .done ∧
    (Phase.accepted sampleMirrored.client).exec sampleProxy sampleMirrored.dials sampleSteps =
      .mirroring ⟨f, sampleLeaving⟩ ∧ Kept sampleProxy.session ⟨f, sampleLeaving⟩ := by
  obtain ⟨s, hshake, hfed⟩ := sampleMirrored_handshake
  obtain ⟨f₁, hfed₁, hid₁, hserve⟩ := Fed.serve sampleProxy.session hfed (by decide)
    (okReply_servable (by decide) (by decide)).2.1 (by decide) (.start sampleAdmitted none)
  obtain ⟨f, hdone, hquit⟩ := Fed.quit sampleProxy.session hfed₁ (by decide) rfl
    (served sampleProxy.session (.start sampleAdmitted none) 2 (newQueryRequest 0 samplePing.bytes)
      (wire (okReply samplePing.bytes)).length)
  have hkept : Kept sampleProxy.session (.start s.client s.primary sampleAdmitted none) :=
    kept_start _ _ _ _ _
  have hexec : (MySQLMirrorSession.Session.start s.client s.primary sampleAdmitted none).exec
      sampleProxy.session (List.replicate 8 .conn) = ⟨f, sampleLeaving⟩ := by
    rw [List.replicate_add 4 4, MySQLMirrorServe.exec_append]
    rw [hid₁] at hquit
    exact (congrArg _ hserve).trans hquit
  refine ⟨f, hdone, ?_, hexec ▸ kept_exec hkept _⟩
  rw [sampleSteps, Phase.exec, List.foldl_append, ← Phase.exec, ← Phase.exec,
    exec_mirroring rfl hshake initializeWorker_sample, ← hexec]
  refine mirroring_exec hkept fun hclosed => ?_
  have hleaving := closed_act (kept_exec hkept _) hclosed .conn
  rw [← MySQLMirrorSession.exec_concat] at hleaving
  rw [show (List.replicate 8 MySQLMirrorSession.Action.conn).dropLast ++ [.conn] = List.replicate 8 .conn
    from rfl, hexec] at hleaving
  have hopen : sampleLeaving.service.phase ≠ .closed := by decide +kernel
  exact hopen hleaving

/-- What `Close` and the worker do then. -/
def sampleClose : List MySQLMirrorSession.Action :=
  [.conn, .worker .drain, .worker .queue, .worker .idle, .worker .idle, .worker .idle, .conn, .conn]

section Close
variable {f : MySQLMirrorSession.Front} (hdone : f.point = .done)
  (hkept : Kept sampleProxy.session ⟨f, sampleLeaving⟩)

include hdone hkept

lemma sampleClose_exec {k : ℕ} (hk : k ≤ 8) :
    (Phase.mirroring ⟨f, sampleLeaving⟩).exec sampleProxy sampleMirrored.dials
      ((sampleClose.take k).map .session) =
        .mirroring ⟨f, (sampleClose.take k).foldl shutdown sampleLeaving⟩ := by
  have hopen : ∀ k ≤ 8, ((sampleClose.take k).dropLast.foldl shutdown sampleLeaving).service.phase ≠
      .closed := by decide +kernel
  rw [mirroring_exec hkept, exec_done _ hdone]
  rw [exec_done _ hdone]
  exact hopen k hk

lemma sampleClose_returned :
    Returned ((Phase.mirroring ⟨f, sampleLeaving⟩).exec sampleProxy sampleMirrored.dials
      (sampleClose.map .session ++ [.session .conn])) := by
  have hclosed : (sampleClose.foldl shutdown sampleLeaving).service.phase = .closed := by decide +kernel
  have hlast := sampleClose_exec hdone hkept le_rfl
  rw [List.take_of_length_le (by decide)] at hlast
  rw [exec_concat, hlast]
  simp [Phase.act, hclosed, Returned]

lemma sampleClose_busy :
    Busy (Phase.act sampleProxy sampleMirrored.dials) (fun _ => true) (.mirroring ⟨f, sampleLeaving⟩)
      (sampleClose.map .session ++ [.session .conn]) := by
  have hrank : ∀ k < 8, ((sampleClose.take (k + 1)).foldl shutdown sampleLeaving).service.rank ≠
      ((sampleClose.take k).foldl shutdown sampleLeaving).service.rank := by decide +kernel
  have htake {k : ℕ} (hk : k ≤ 8) : (sampleClose.map Action.session ++ [Action.session .conn]).take k =
      (sampleClose.take k).map .session := by
    rw [List.take_append_of_le_length (by simpa [sampleClose] using hk), List.map_take]
  refine Busy.of_image left _ fun k hk => ?_
  rw [← Phase.exec, ← Phase.exec]
  obtain hk | rfl : k < 8 ∨ k = 8 := by
    simp only [sampleClose, List.length_append, List.length_map, List.length_cons, List.length_nil] at hk
    omega
  · rw [htake hk, htake hk.le, sampleClose_exec hdone hkept hk, sampleClose_exec hdone hkept hk.le]
    exact fun hsame => hrank k hk (Nat.succ.inj hsame)
  · rw [htake le_rfl, sampleClose_exec hdone hkept le_rfl, List.take_of_length_le (by decide)]
    have hreturned := sampleClose_returned hdone hkept
    revert hreturned
    cases (Phase.mirroring ⟨f, sampleLeaving⟩).exec sampleProxy sampleMirrored.dials
      (sampleClose.map .session ++ [.session .conn]) <;> simp [Returned, left]

end Close

theorem mirrored_connection_ends_sample :
    let more := sampleClose.map .session ++ [.session .conn]
    let phase := (Phase.accepted sampleMirrored.client).exec sampleProxy sampleMirrored.dials
      (sampleSteps ++ more)
    sampleLeaving.service.worker.queue.length = 1 ∧ Returned phase ∧
      more.length ≤ 4 * sampleProxy.session.shadowQueueSize + 9 ∧
      (Returned phase ∨ ∃ act, phase.act sampleProxy sampleMirrored.dials act ≠ phase) := by
  intro more phase
  obtain ⟨f, hdone, hexec, hkept⟩ := sampleMirrored_exec
  have hphase : phase = (Phase.mirroring ⟨f, sampleLeaving⟩).exec sampleProxy sampleMirrored.dials more := by
    rw [← hexec]
    exact List.foldl_append
  refine ⟨by decide +kernel, hphase ▸ sampleClose_returned hdone hkept, ?_⟩
  apply mirrored_connection_ends
  · simp [hexec, loopEnded, hdone]
  · rw [hexec]
    exact sampleClose_busy hdone hkept

end Sample

section Held
variable {cfg : MySQLMirrorSession.Config} {s : MySQLMirrorSession.Session} {mode : Mode} {req : QueryRequest}

lemma exec_working (h : Kept cfg s) (hw : s.back.service.worker.stage = .working mode req)
    {acts : List MySQLMirrorSession.Action} (hacts : ∀ act ∈ acts, ∀ pick, act ≠ .worker pick) :
    (s.exec cfg acts).back.service.worker.stage = .working mode req ∧
      (s.exec cfg acts).back.service.phase ≠ .closed := by
  obtain ⟨primary, shadow, hb⟩ := h.booked
  have hopen : s.back.service.phase ≠ .closed := fun hp => by simp [hb.queue.joined hp] at hw
  induction acts generalizing s with
  | nil => exact ⟨hw, hopen⟩
  | cons act acts ih =>
    have hstep : (s.act cfg act).back.service.worker.stage = .working mode req ∧
        (s.act cfg act).back.service.phase ≠ .closed := by
      cases act with
      | conn => exact h.tended.working hw hopen
      | timeout => exact Service.timeout_working hw hopen
      | worker pick => exact absurd rfl (hacts _ (.head _) pick)
    exact ih (h.act act) hstep.1 (fun a ha => hacts a (.tail _ ha)) (hb.act act) hstep.2

end Held

end MySQL

namespace Pg
open PgProtocol PgQueryLoop PgStartup PgShadowWorker PgMirrorSession PgConnection PgShadowStart PgServer
open WorkQueue hiding Phase Stage

/-- A step of the connection's goroutine, of its timer or of the worker. The goroutines of
`copyFallback` are not waited for. -/
def own : Action → Bool
  | .copy _ _ => false
  | .conn | .timeout | .worker _ => true

def loopEnded : Stage → Bool
  | .connected _ _ ⟨.looping _ s, _, _⟩ => s.front.point = .done
  | _ => false

/-- How much is left to do for the worker and for `Close`. -/
def left : Stage → ℕ
  | .connected _ _ ⟨.looping _ s, _, _⟩ => s.back.mirror.service.rank + 1
  | _ => 0

def Ends (p : PgProxy) : Stage → Prop
  | .connected _ _ ⟨.looping cfg s, _, _⟩ =>
    cfg.shadowQueueSize = p.shadowQueueSize ∧ Kept cfg s ∧ s.front.point = .done
  | .ended _ _ _ => True
  | _ => False

def isEnded : Stage → Bool
  | .ended _ _ _ => true
  | _ => false

section Ending
variable {p : PgProxy} {a : Arrival} {stage : Stage}

lemma act_done (cfg : Config) {s : Session} (hdone : s.front.point = .done) {act : Action}
    (hown : own act = true) :
    ∃ m, s.act cfg act = { s with back := { s.back with mirror := { s.back.mirror with
      service := s.back.mirror.service.move processFrame m } } } := by
  cases act with
  | conn => exact ⟨.close, by simp [Session.act, Session.conn, hdone, Back.close, Mirror.close, Service.move]⟩
  | copy dir n => simp [own] at hown
  | timeout => exact ⟨.timeout, rfl⟩
  | worker pick => exact ⟨.step pick, rfl⟩

lemma act_looping (raw : Conn) (initErr : Option Err) (cfg : Config) (s : Session) (tlsFailures authFailures : ℕ)
    (act : Action) :
    let k : Connection := ⟨.looping cfg s, tlsFailures, authFailures⟩
    (act = .conn ∧ returns k = true ∧
        (Stage.connected raw initErr k).act p a act = .ended raw.close initErr (hangUp k)) ∨
      (Stage.connected raw initErr k).act p a act =
        .connected raw initErr ⟨.looping cfg (s.act cfg act), tlsFailures, authFailures⟩ := by
  intro k
  cases act with
  | conn =>
    by_cases hret : returns k = true
    · exact .inl ⟨rfl, hret, by simp [Stage.act, hret]⟩
    · exact .inr (by simp [Stage.act, hret, noted, k, Connection.act])
  | _ => exact .inr rfl

lemma Ends.act (h : Ends p stage) (a : Arrival) (act : Action) :
    Ends p (stage.act p a act) ∧ left (stage.act p a act) ≤ left stage ∧
      (own act = true → stage.act p a act = stage ∨ left (stage.act p a act) < left stage) := by
  cases stage with
  | connected raw initErr k =>
    obtain ⟨phase, tlsFailures, authFailures⟩ := k
    cases phase with
    | looping cfg s =>
      obtain ⟨hsize, hkept, hdone⟩ := h
      obtain ⟨-, -, hact⟩ | hact := act_looping raw initErr cfg s tlsFailures authFailures act <;> rw [hact]
      · exact ⟨trivial, Nat.zero_le _, fun _ => .inr (Nat.succ_pos _)⟩
      · cases hown : own act with
        | true =>
          obtain ⟨m, hm⟩ := act_done cfg hdone hown
          have hkept' := hkept.act act
          rw [hm] at hkept' ⊢
          refine ⟨⟨hsize, hkept', hdone⟩, ?_⟩
          obtain hsame | hlt := s.back.mirror.service.move_rank processFrame m
          · rw [hsame]
            exact ⟨Nat.le_refl _, fun _ => .inl rfl⟩
          · exact ⟨Nat.succ_le_succ hlt.le, fun _ => .inr (Nat.succ_lt_succ hlt)⟩
        | false =>
          cases act with
          | copy dir n =>
            refine ⟨⟨hsize, hkept.act _, ?_⟩, Nat.le_refl _, by simp⟩
            simpa [Session.act] using hdone
          | _ => simp [own] at hown
    | _ => exact h.elim
  | ended raw initErr k => exact ⟨trivial, Nat.le_refl _, fun _ => .inl rfl⟩
  | _ => exact h.elim

lemma Ends.busy_length (h : Ends p stage) {acts : List Action}
    (hb : Busy (Stage.act p a) own stage acts) :
    acts.countP own ≤ left stage ∧ Ends p (stage.exec p a acts) := by
  obtain ⟨hlast, hle⟩ := hb.count_le (Ends p) left (fun _ => 0) (fun stage act h hne => by
    obtain ⟨hends, hle, hlt⟩ := h.act a act
    refine ⟨hends, ?_⟩
    cases hown : own act with
    | true => exact (hlt hown).resolve_left (hne hown)
    | false => exact hle) h
  rw [List.map_const', List.sum_replicate, smul_zero] at hle
  exact ⟨by omega, hlast⟩

lemma Ends.exists_act (h : Ends p stage) (a : Arrival) :
    isEnded stage = true ∨ ∃ act, own act = true ∧ stage.act p a act ≠ stage := by
  cases stage with
  | connected raw initErr k =>
    obtain ⟨phase, tlsFailures, authFailures⟩ := k
    cases phase with
    | looping cfg s =>
      obtain ⟨-, hkept, hdone⟩ := h
      obtain ⟨w₀, hb⟩ := hkept.booked
      refine .inr ?_
      by_cases hret : returns ⟨.looping cfg s, tlsFailures, authFailures⟩ = true
      · exact ⟨.conn, rfl, by simp [Stage.act, hret]⟩
      · have hleft : s.back.mirror.service.phase ≠ .serving := by simp [hb.serving, hdone]
        have hopen : s.back.mirror.service.phase ≠ .closed := by
          intro hclosed
          simp [returns, hdone, hclosed] at hret
        obtain ⟨m, hm⟩ := hb.mirror.queue.exists_move hleft hopen
        have hact (act : Action) (hown : own act = true)
            (heq : (s.act cfg act).back.mirror.service = s.back.mirror.service.move processFrame m) :
            ∃ act, own act = true ∧ (Stage.connected raw initErr
              ⟨.looping cfg s, tlsFailures, authFailures⟩).act p a act ≠ .connected raw initErr
                ⟨.looping cfg s, tlsFailures, authFailures⟩ := by
          refine ⟨act, hown, fun hsame => hm ?_⟩
          obtain ⟨-, hret', -⟩ | hact :=
            act_looping (p := p) (a := a) raw initErr cfg s tlsFailures authFailures act
          · exact absurd hret' hret
          · rw [hact] at hsame
            have hsession : s.act cfg act = s := by
              simpa only [Stage.connected.injEq, Connection.mk.injEq, Phase.looping.injEq, true_and,
                and_true] using hsame
            rw [← heq, hsession]
        cases m with
        | close =>
          exact hact .conn rfl (by simp [Session.act, Session.conn, hdone, Back.close, Mirror.close, Service.move])
        | timeout => exact hact .timeout rfl rfl
        | step pick => exact hact (.worker pick) rfl rfl
    | _ => exact h.elim
  | ended raw initErr k => exact .inl rfl
  | _ => exact h.elim

/-- When the query loop has returned, so does the connection: as on the MySQL path, the steps of its
goroutine, of the timer and of the worker are bounded, and one is always possible until then. A frame is
one step of the worker: its read has a deadline, and its write returns, which nothing but the shadow
sees to. -/
theorem pg_connection_ends (p : PgProxy) (a : Arrival) (acts more : List Action)
    (hended : loopEnded ((Stage.accepted a.client).exec p a acts) = true)
    (hbusy : Busy (Stage.act p a) own ((Stage.accepted a.client).exec p a acts) more) :
    let stage := (Stage.accepted a.client).exec p a (acts ++ more)
    more.countP own ≤ 4 * p.shadowQueueSize + 9 ∧
      (isEnded stage = true ∨ ∃ act, own act = true ∧ stage.act p a act ≠ stage) := by
  have hsane : Sane p ((Stage.accepted a.client).exec p a acts) := reachable_sane (a := a) ⟨acts, rfl⟩
  intro stage
  have hstage : stage = ((Stage.accepted a.client).exec p a acts).exec p a more := List.foldl_append
  rw [hstage]
  generalize (Stage.accepted a.client).exec p a acts = before at *
  cases before with
  | connected raw initErr k =>
    obtain ⟨phase, tlsFailures, authFailures⟩ := k
    cases phase with
    | looping cfg s =>
      obtain ⟨hsize, hkept⟩ : cfg.shadowQueueSize = p.shadowQueueSize ∧ Kept cfg s := hsane
      have hdone : s.front.point = .done := by simpa [loopEnded] using hended
      have hends : Ends p (.connected raw initErr ⟨.looping cfg s, tlsFailures, authFailures⟩) :=
        ⟨hsize, hkept, hdone⟩
      have hleft : s.back.mirror.service.phase ≠ .serving := by simp [hkept.serving, hdone]
      have hrank := hkept.bounds.rank_le hleft
      obtain ⟨hle, hlast⟩ := hends.busy_length hbusy
      rw [hsize] at hrank
      exact ⟨hle.trans (Nat.succ_le_succ hrank), hlast.exists_act a⟩
    | _ => simp [loopEnded] at hended
  | _ => simp [loopEnded] at hended

end Ending

def samplePlain : PgProxy := ⟨none, none, sampleConfig, none, 8, none⟩

/-- A client that logs in, prepares and binds a statement, and terminates. -/
def sampleLeaving : Arrival :=
  ⟨.script [⟨sampleStartup ++ wire [frame 0x70 [65], frame pgMsgParse [0, 65, 0, 0, 0],
      frame pgMsgBind [0, 0, 0, 0, 0, 0, 0, 0], frame pgMsgTerminate []], none⟩],
    .ok samplePrimary, false, samplePgconn⟩

/-- `Close`, with a worker that finds both messages in its queue. -/
def sampleClose : List Action :=
  [.conn, .worker .drain, .worker .queue, .worker .idle, .worker .idle, .worker .queue, .worker .idle,
    .worker .idle, .worker .idle, .conn, .conn, .conn]

def sampleStage (acts : List Action) : Stage :=
  (Stage.accepted sampleLeaving.client).exec samplePlain sampleLeaving acts

theorem pg_connection_ends_sampleLeaving :
    let stage := sampleStage (List.replicate 21 .conn ++ sampleClose)
    left (sampleStage (List.replicate 21 .conn)) = 15 ∧ isEnded stage = true ∧
      sampleClose.countP own ≤ 4 * samplePlain.shadowQueueSize + 9 ∧
      (isEnded stage = true ∨ ∃ act, own act = true ∧ stage.act samplePlain sampleLeaving act ≠ stage) := by
  have hleft : ∀ k < sampleClose.length,
      left ((sampleClose.take (k + 1)).foldl (Stage.act samplePlain sampleLeaving)
          (sampleStage (List.replicate 21 .conn))) ≠
        left ((sampleClose.take k).foldl (Stage.act samplePlain sampleLeaving)
          (sampleStage (List.replicate 21 .conn))) := by
    decide +kernel
  exact ⟨by decide +kernel, by decide +kernel,
    pg_connection_ends samplePlain sampleLeaving (List.replicate 21 .conn) sampleClose (by decide +kernel)
      (Busy.of_image left own hleft)⟩

section Held
variable {cfg : Config} {s : Session} {mode : Mode} {item : QueuedFrame}

lemma kept_exec (h : Kept cfg s) (acts : List Action) : Kept cfg (s.exec cfg acts) := by
  induction acts generalizing s with
  | nil => exact h
  | cons act acts ih => exact ih (h.act act)

lemma exec_working (h : Kept cfg s) (hw : s.back.mirror.service.worker.stage = .working mode item)
    {acts : List Action} (hacts : ∀ act ∈ acts, ∀ pick, act ≠ .worker pick) :
    (s.exec cfg acts).back.mirror.service.worker.stage = .working mode item ∧
      (s.exec cfg acts).back.mirror.service.phase ≠ .closed := by
  obtain ⟨w₀, hb⟩ := h.booked
  have hopen : s.back.mirror.service.phase ≠ .closed := fun hp => by simp [hb.mirror.queue.joined hp] at hw
  induction acts generalizing s with
  | nil => exact ⟨hw, hopen⟩
  | cons act acts ih =>
    have hstep : (s.act cfg act).back.mirror.service.worker.stage = .working mode item ∧
        (s.act cfg act).back.mirror.service.phase ≠ .closed := by
      cases act with
      | conn => exact (moves_tended (conn_moves cfg s)).working hw hopen
      | copy dir n => exact ⟨hw, hopen⟩
      | timeout => exact Service.timeout_working hw hopen
      | worker pick => exact absurd rfl (hacts _ (.head _) pick)
    exact ih (h.act act) hstep.1 (fun a ha => hacts a (.tail _ ha)) (hb.act act) hstep.2

end Held

end Pg

open WorkQueue (Mode) in
/-- A request that the worker is at holds `Close`, on both paths: `ShadowDrainTimeout` bounds the wait for
the drain, and `closeCh` is looked at between requests, but `wg.Wait` comes after both. Until the worker
has taken its next step nothing else makes `Close` return. -/
theorem request_outlasts_drain :
    (∀ (cfg : MySQLMirrorSession.Config) (client primary shadow : Conn) (logger : QueryLogger)
      (acts more : List MySQLMirrorSession.Action) (mode : Mode) (req : QueryRequest),
      let start := MySQLMirrorSession.Session.start client primary shadow logger
      (start.exec cfg acts).back.service.worker.stage = .working mode req →
      (∀ act ∈ more, ∀ pick, act ≠ .worker pick) →
      (start.exec cfg (acts ++ more)).back.service.worker.stage = .working mode req ∧
        (start.exec cfg (acts ++ more)).back.service.phase ≠ .closed) ∧
    (∀ (cfg : PgMirrorSession.Config) (client primary shadow : Conn) (logger : QueryLogger)
      (acts more : List PgMirrorSession.Action) (mode : Mode) (item : PgShadowWorker.QueuedFrame),
      let start := PgMirrorSession.Session.start client primary shadow logger
      (start.exec cfg acts).back.mirror.service.worker.stage = .working mode item →
      (∀ act ∈ more, ∀ pick, act ≠ .worker pick) →
      (start.exec cfg (acts ++ more)).back.mirror.service.worker.stage = .working mode item ∧
        (start.exec cfg (acts ++ more)).back.mirror.service.phase ≠ .closed) := by
  constructor
  · intro cfg client primary shadow logger acts more mode req start hw hmore
    rw [MySQLMirrorServe.exec_append]
    exact MySQL.exec_working (MySQL.kept_exec (MySQLServer.kept_start cfg client primary shadow logger) acts)
      hw hmore
  · intro cfg client primary shadow logger acts more mode item start hw hmore
    have hexec : start.exec cfg (acts ++ more) = (start.exec cfg acts).exec cfg more := List.foldl_append
    rw [hexec]
    exact Pg.exec_working (Pg.kept_exec (PgServer.kept_start cfg client primary shadow logger) acts) hw hmore

/-- A COM_PING that the worker is at when the client leaves. -/
def slowPing : MySQLMirrorServe.Script := [(⟨0, [MySQLPacket.comPing], by decide⟩, [.queue, .idle])]

/-- The loop has sent two Syncs, and the worker is at the first. -/
def slowSync : List PgMirrorSession.Action := List.replicate 10 .conn ++ [.worker .queue, .worker .idle]

def slowPingRun (acts : List MySQLMirrorSession.Action) : MySQLMirrorSession.Session :=
  (slowPing.session (MySQLMirrorServe.scriptServer MySQLMirrorServe.okReply) none).exec
    ⟨none, fun _ => false, 8⟩ (slowPing.whole [] ++ acts)

/-- `Close` has begun, its timer has fired, and it waits for the worker. -/
theorem request_outlasts_drain_sample :
    (slowPingRun [.conn, .timeout, .conn]).back.service.phase ≠ .closed ∧
    (PgMirrorAccounts.syncRun 8 (slowSync ++ [.conn, .conn, .timeout, .conn])).back.mirror.service.phase ≠
      .closed := by
  have hping : (slowPingRun []).back.service.worker.stage =
      .working .serving (MySQLShadowWorker.newQueryRequest 0 [1, 0, 0, 0, 14]) := by
    have hback := (MySQLMirrorServe.Script.exec_whole ⟨none, fun _ => false, 8⟩
      (MySQLMirrorServe.script_servable slowPing (by decide))
      (MySQLMirrorServe.scriptServer MySQLMirrorServe.okReply) none []).2
    rw [slowPingRun, List.append_nil, hback]
    rfl
  have hsync : (PgMirrorAccounts.syncRun 8 slowSync).back.mirror.service.worker.stage =
      .working .serving (PgShadowWorker.shadowFrame (PgShadowWorker.newPgRequest 0 PgProtocol.syncMessage)
        PgProtocol.syncMessage) := by
    decide +kernel
  rw [slowPingRun, List.append_nil, MySQLMirrorServe.Script.session] at hping
  rw [slowPingRun, MySQLMirrorServe.Script.session]
  exact ⟨(request_outlasts_drain.1 _ _ _ _ _ _ [.conn, .timeout, .conn] _ _ hping (by simp)).2,
    (request_outlasts_drain.2 _ _ _ _ _ _ [.conn, .conn, .timeout, .conn] _ _ hsync (by simp)).2⟩

end ShadowProxy.Teardown
