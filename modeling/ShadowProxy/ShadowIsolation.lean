import ShadowProxy.Noninterference
import ShadowProxy.PgMirrorAccounts

/-! What the client and the primary are sent does not depend on the shadow: neither on what the shadow
does nor on the queue, the filter, the sampling, the log or the pace of the worker. -/
namespace ShadowProxy.ShadowIsolation
open WordBytes NetConn StreamCopy Noninterference QueryLog

namespace MySQL
open MySQLPacketReader MySQLPacket MySQLResponse MySQLProxyLoop MySQLMirrorSession

def visible (act : Action) : Bool := decide (act = .conn)

lemma conn_front (cfg₁ cfg₂ : Config) (f : Front) (b₁ b₂ : Back) :
    (Session.conn cfg₁ ⟨f, b₁⟩).front = (Session.conn cfg₂ ⟨f, b₂⟩).front := by
  unfold Session.conn
  cases f.point with
  | reading =>
    simp only [Session.receive]
    rcases readMultiPacket f.clientReader f.client with ⟨e | packet, r, client⟩ <;> rfl
  | writing req =>
    simp only [Session.writePrimary]
    rcases f.primary.write req.packet with ⟨_ | e, primary⟩ <;> rfl
  | mirroring req => rfl
  | replying req =>
    simp only [Session.relayReply]
    split_ifs
    · rfl
    · rfl
    · rcases forwardReply (getMySQLCommand req.packet).1 f.primaryReader f.primary f.client with
        ⟨n, _ | e, ⟨r, primary⟩, client⟩ <;> rfl
  | done => rfl

lemma hidden_front (cfg : Config) (s : Session) {act : Action} (hact : visible act = false) :
    (s.act cfg act).front = s.front := by
  cases act with
  | conn => simp [visible] at hact
  | timeout => rfl
  | worker pick => rfl

lemma unwinds (cfg₁ cfg₂ : Config) :
    Unwinds visible Session.front (Session.act cfg₁) Session.front (Session.act cfg₂) where
  consistent := by
    rintro ⟨f, b₁⟩ ⟨f', b₂⟩ act hact rfl
    obtain rfl := of_decide_eq_true hact
    exact conn_front cfg₁ cfg₂ f b₁ b₂
  hidden₁ := fun s _ hact => hidden_front cfg₁ s hact
  hidden₂ := fun s _ hact => hidden_front cfg₂ s hact

lemma forwardRelay_grows (p d : Conn) :
    Guards forwardRelay (fun s => p.sent <+: s.1.2.sent ∧ d.sent <+: s.2.sent)
      (fun s => p.sent <+: s.1.2.sent ∧ d.sent <+: s.2.sent) := by
  have hstep : ∀ what (s : (Reader × Conn) × Conn),
      s.1.2.sent <+: (forwardRelay what s).2.1.2.sent ∧
        s.2.sent <+: (forwardRelay what s).2.2.sent := by
    intro what s
    unfold forwardRelay
    have hgrows := (readPacket_reads s.1.1 s.1.2).grows
    rcases hp : readPacket s.1.1 s.1.2 with ⟨e | packet, r, c⟩ <;> rw [hp] at hgrows
    · exact ⟨hgrows, List.prefix_rfl⟩
    · dsimp only
      have hwrite := write_grows s.2 packet
      rcases hw : s.2.write packet with ⟨_ | e, dest⟩ <;> rw [hw] at hwrite
      · exact ⟨hgrows, hwrite⟩
      · exact ⟨hgrows, hwrite⟩
  refine ⟨?_, ?_, id⟩
  · intro what s q s' h hq
    obtain ⟨hp, hd⟩ := hq ▸ hstep what s
    exact ⟨h.1.trans hp, h.2.trans hd⟩
  · intro what s e s' h hq
    obtain ⟨hp, hd⟩ := hq ▸ hstep what s
    exact ⟨h.1.trans hp, h.2.trans hd⟩

lemma act_grows (cfg : Config) (s : Session) (act : Action) :
    s.front.primary.sent <+: (s.act cfg act).front.primary.sent ∧
      s.front.client.sent <+: (s.act cfg act).front.client.sent := by
  cases hact : visible act with
  | false =>
    rw [hidden_front cfg s hact]
    exact ⟨List.prefix_rfl, List.prefix_rfl⟩
  | true =>
    obtain rfl := of_decide_eq_true hact
    change _ <+: (s.conn cfg).front.primary.sent ∧ _ <+: (s.conn cfg).front.client.sent
    unfold Session.conn
    cases s.front.point with
    | reading =>
      simp only [Session.receive]
      have hgrows := (readMultiPacketLoop_reads (available s.front.clientReader s.front.client + 1)
        s.front.clientReader s.front.client []).grows
      rw [← readMultiPacket] at hgrows
      rcases hr : readMultiPacket s.front.clientReader s.front.client with ⟨e | packet, r, client⟩ <;>
        rw [hr] at hgrows <;> exact ⟨List.prefix_rfl, hgrows⟩
    | writing req =>
      simp only [Session.writePrimary]
      have hgrows := write_grows s.front.primary req.packet
      rcases hw : s.front.primary.write req.packet with ⟨_ | e, primary⟩ <;> rw [hw] at hgrows <;>
        exact ⟨hgrows, List.prefix_rfl⟩
    | mirroring req => exact ⟨List.prefix_rfl, List.prefix_rfl⟩
    | replying req =>
      simp only [Session.relayReply]
      split_ifs
      · exact ⟨List.prefix_rfl, List.prefix_rfl⟩
      · exact ⟨List.prefix_rfl, List.prefix_rfl⟩
      · have hgrows := (forwardReply_guarded (forwardRelay_grows s.front.primary s.front.client)
          (getMySQLCommand req.packet).1 (r := s.front.primaryReader)
          ⟨List.prefix_rfl, List.prefix_rfl⟩).1
        rcases hf : forwardReply (getMySQLCommand req.packet).1 s.front.primaryReader s.front.primary
          s.front.client with ⟨n, _ | e, ⟨r, primary⟩, client⟩ <;> rw [hf] at hgrows <;>
          exact hgrows
    | done => exact ⟨List.prefix_rfl, List.prefix_rfl⟩

lemma act_done (cfg : Config) (s : Session) (act : Action) (h : s.front.point = .done) :
    (s.act cfg act).front = s.front := by
  cases act with
  | conn => simp [Session.act, Session.conn, h]
  | timeout => rfl
  | worker pick => rfl

lemma visible_isPrefix {acts₁ acts₂ : List Action} (h : acts₁.count .conn ≤ acts₂.count .conn) :
    acts₁.filter visible <+: acts₂.filter visible := by
  have hfilter : ∀ acts : List Action,
      acts.filter visible = List.replicate (acts.count .conn) .conn := fun acts => List.filter_beq _
  obtain ⟨k, hk⟩ := Nat.exists_eq_add_of_le h
  rw [hfilter, hfilter, hk, List.replicate_add]
  exact List.prefix_append _ _

section Runs
variable (cfg₁ cfg₂ : Config) (client primary shadow₁ shadow₂ : Conn)
  (logger₁ logger₂ : QueryLogger) {acts₁ acts₂ : List Action}

/-- Two runs with the same client and the same primary. -/
theorem isolation (hle : acts₁.count .conn ≤ acts₂.count .conn) :
    let s := (Session.start client primary shadow₁ logger₁).exec cfg₁ acts₁
    let t := (Session.start client primary shadow₂ logger₂).exec cfg₂ acts₂
    s.front.primary.sent <+: t.front.primary.sent ∧ s.front.client.sent <+: t.front.client.sent ∧
      (acts₁.count .conn = acts₂.count .conn ∨ s.front.point = .done → s.front = t.front) := by
  have hu := unwinds cfg₁ cfg₂
  have hst : (Session.start client primary shadow₁ logger₁).front =
      (Session.start client primary shadow₂ logger₂).front := rfl
  have hacts := visible_isPrefix hle
  refine ⟨?_, ?_, ?_⟩
  · exact hu.output_isPrefix hst hacts (fun f => f.primary.sent) fun s act => (act_grows cfg₂ s act).1
  · exact hu.output_isPrefix hst hacts (fun f => f.client.sent) fun s act => (act_grows cfg₂ s act).2
  · rintro (heq | hdone)
    · exact hu.view_eq hst ((hacts.eq_of_length_le (visible_isPrefix heq.ge).length_le))
    · exact hu.final_output_eq hst hacts id (fun f => f.point = .done)
        (fun s act h => ⟨by rw [act_done cfg₂ s act h]; exact h, act_done cfg₂ s act h⟩) hdone

end Runs

end MySQL

namespace Pg
open PgProtocol PgQueryLoop PgMirrorSession PgMirrorAccounts

def visible : Action → Bool
  | .conn | .copy _ _ => true
  | .timeout | .worker _ => false

lemma conn_front (cfg₁ cfg₂ : Config) (f : Front) (b₁ b₂ : Back) :
    (Session.conn cfg₁ ⟨f, b₁⟩).front = (Session.conn cfg₂ ⟨f, b₂⟩).front := by
  unfold Session.conn
  cases f.point with
  | reading =>
    simp only [Session.receive]
    rcases readMessage f.client with ⟨e | msg, client⟩ <;> rfl
  | writing req msg =>
    simp only [Session.writePrimary]
    rcases f.primary.write msg.bytes with ⟨_ | e, primary⟩ <;> rfl
  | replying req msg =>
    simp only [Session.relayReply]
    split_ifs
    · rfl
    · rcases forwardResponseUntilReady f.primary f.client with
        ⟨⟨n, _ | _, _ | e⟩, primary, client⟩ <;> rfl
    · rfl
  | copying =>
    simp only [Session.awaitCopy]
    split_ifs <;> rfl
  | _ => rfl

lemma hidden_front (cfg : Config) (s : Session) {act : Action} (hact : visible act = false) :
    (s.act cfg act).front = s.front := by
  cases act with
  | conn => simp [visible] at hact
  | copy dir n => simp [visible] at hact
  | timeout => rfl
  | worker pick => rfl

lemma unwinds (cfg₁ cfg₂ : Config) :
    Unwinds visible Session.front (Session.act cfg₁) Session.front (Session.act cfg₂) where
  consistent := by
    rintro ⟨f, b₁⟩ ⟨f', b₂⟩ act hact rfl
    cases act with
    | conn => exact conn_front cfg₁ cfg₂ f b₁ b₂
    | copy dir n => rfl
    | timeout => simp [visible] at hact
    | worker pick => simp [visible] at hact
  hidden₁ := fun s _ hact => hidden_front cfg₁ s hact
  hidden₂ := fun s _ hact => hidden_front cfg₂ s hact

lemma conn_grows (cfg : Config) (s : Session) :
    s.front.primary.sent <+: (s.conn cfg).front.primary.sent ∧
      s.front.client.sent <+: (s.conn cfg).front.client.sent := by
  unfold Session.conn
  cases s.front.point with
  | reading =>
    simp only [Session.receive]
    rcases hr : readMessage s.front.client with ⟨e | msg, client⟩
    · obtain ⟨new, -, hreads⟩ := readMessage_error hr
      exact ⟨List.prefix_rfl, hreads.grows⟩
    · exact ⟨List.prefix_rfl, (readMessage_ok hr).2.2.grows⟩
  | writing req msg =>
    simp only [Session.writePrimary]
    have hgrows := write_grows s.front.primary msg.bytes
    rcases hw : s.front.primary.write msg.bytes with ⟨_ | e, primary⟩ <;> rw [hw] at hgrows <;>
      exact ⟨hgrows, List.prefix_rfl⟩
  | replying req msg =>
    simp only [Session.relayReply]
    split_ifs
    · exact ⟨List.prefix_rfl, List.prefix_rfl⟩
    · obtain ⟨msgs, -, -, hsent, -, -, hreads, -⟩ := forwardResponseUntilReadyLoop_relays
        ((s.front.primary.pending.flatMap Segment.bytes).length + 1) 0 s.front.primary s.front.client
      have hgrows := hreads.grows
      rw [← forwardResponseUntilReady] at hsent hgrows
      rcases hf : forwardResponseUntilReady s.front.primary s.front.client with
        ⟨⟨n, _ | _, _ | e⟩, primary, client⟩ <;> rw [hf] at hsent hgrows <;>
        exact ⟨hgrows, ⟨_, hsent.symm⟩⟩
    · exact ⟨List.prefix_rfl, List.prefix_rfl⟩
  | copying =>
    simp only [Session.awaitCopy]
    split_ifs <;> exact ⟨List.prefix_rfl, List.prefix_rfl⟩
  | _ => exact ⟨List.prefix_rfl, List.prefix_rfl⟩

lemma act_grows (cfg : Config) (s : Session) (act : Action) :
    s.front.primary.sent <+: (s.act cfg act).front.primary.sent ∧
      s.front.client.sent <+: (s.act cfg act).front.client.sent := by
  cases act with
  | conn => exact conn_grows cfg s
  | copy dir n =>
    cases dir with
    | up =>
      obtain ⟨-, out, -, hsrc, -, hdst, -⟩ := s.front.up.step_spec n s.front.client s.front.primary
      exact ⟨⟨out, hdst.symm⟩, by simp [Session.act, Front.copy, hsrc]⟩
    | down =>
      obtain ⟨-, out, -, hsrc, -, hdst, -⟩ := s.front.down.step_spec n s.front.primary s.front.client
      exact ⟨by simp [Session.act, Front.copy, hsrc], ⟨out, hdst.symm⟩⟩
  | timeout => exact ⟨List.prefix_rfl, List.prefix_rfl⟩
  | worker pick => exact ⟨List.prefix_rfl, List.prefix_rfl⟩

/-- Nothing is copied any more, or both connections are closed. -/
def Quiet (f : Front) : Prop :=
  f.Ended ∨ (f.client.writable = some 0 ∧ f.primary.writable = some 0)

/-- The copying goroutines run only once the loop has come to `copyFallback`, which closes both
connections. -/
structure Settled (f : Front) : Prop where
  ended : f.point ≠ .copying → f.point ≠ .hangup → f.point ≠ .done → f.Ended
  hangup : f.point = .hangup → f.primary.writable = some 0
  done : f.point = .done → Quiet f

section Settled
variable {cfg : Config} {s : Session} {f : Front}

lemma copy_primary_closed (h : f.primary.writable = some 0) (n : ℕ) (dir : Direction) :
    (f.copy n dir).primary.writable = some 0 ∧ (f.copy n dir).primary.sent = f.primary.sent := by
  cases dir with
  | up =>
    have hsame : (f.copy n .up).primary = f.primary := f.up.step_dst_closed n f.client h
    rw [hsame]
    exact ⟨h, rfl⟩
  | down =>
    obtain ⟨-, -, -, hsrc, -⟩ := f.down.step_spec n f.primary f.client
    exact ⟨(f.down.step_src_writable n f.primary f.client).trans h, hsrc⟩

lemma copy_client_closed (h : f.client.writable = some 0) (n : ℕ) (dir : Direction) :
    (f.copy n dir).client.writable = some 0 ∧ (f.copy n dir).client.sent = f.client.sent := by
  cases dir with
  | up =>
    obtain ⟨-, -, -, hsrc, -⟩ := f.up.step_spec n f.client f.primary
    exact ⟨(f.up.step_src_writable n f.client f.primary).trans h, hsrc⟩
  | down =>
    have hsame : (f.copy n .down).client = f.client := f.down.step_dst_closed n f.primary h
    rw [hsame]
    exact ⟨h, rfl⟩

lemma Quiet.copy (h : Quiet f) (n : ℕ) (dir : Direction) :
    Quiet (f.copy n dir) ∧ (f.copy n dir).primary.sent = f.primary.sent ∧
      (f.copy n dir).client.sent = f.client.sent := by
  rcases h with h | ⟨hclient, hprimary⟩
  · rw [h.copy n dir]
    exact ⟨.inl h, rfl, rfl⟩
  · obtain ⟨hc, hcsent⟩ := copy_client_closed hclient n dir
    obtain ⟨hp, hpsent⟩ := copy_primary_closed hprimary n dir
    exact ⟨.inr ⟨hc, hp⟩, hpsent, hcsent⟩

lemma Settled.conn (h : Settled s.front) : Settled (s.conn cfg).front := by
  by_cases hcopy : s.front.point = .copying
  · unfold Session.conn
    simp only [hcopy, Session.awaitCopy]
    split_ifs
    · exact ⟨by simp, fun _ => rfl, by simp⟩
    · exact h
  · by_cases hhangup : s.front.point = .hangup
    · unfold Session.conn
      simp only [hhangup]
      exact ⟨by simp, by simp, fun _ => .inr ⟨rfl, h.hangup hhangup⟩⟩
    · by_cases hdone : s.front.point = .done
      · unfold Session.conn
        simp only [hdone]
        exact h
      · have hended := h.ended hcopy hhangup hdone
        refine ⟨fun hp _ _ => hended.conn hp, ?_, fun hp => .inl (hended.conn (by simp [hp]))⟩
        intro hp
        generalize hs : s.conn cfg = s' at hp
        have hm := conn_moves cfg s
        rw [hs] at hm
        cases hm <;> simp_all

lemma Settled.act (h : Settled s.front) (act : Action) : Settled (s.act cfg act).front := by
  cases act with
  | conn => exact h.conn
  | copy dir n =>
    refine ⟨?_, ?_, ?_⟩
    · intro hc hh hd
      have hended := h.ended (by simpa [Session.act] using hc) (by simpa [Session.act] using hh)
        (by simpa [Session.act] using hd)
      simpa [Session.act, hended.copy n dir] using hended
    · intro hp
      exact (copy_primary_closed (h.hangup (by simpa [Session.act] using hp)) n dir).1
    · intro hp
      exact ((h.done (by simpa [Session.act] using hp)).copy n dir).1
  | timeout => exact h
  | worker pick => exact h

end Settled

section Runs
variable (cfg₁ cfg₂ : Config) (client primary shadow₁ shadow₂ : Conn)
  (logger₁ logger₂ : QueryLogger) {acts₁ acts₂ : List Action}

lemma exec_settled (cfg : Config) (client primary shadow : Conn) (logger : QueryLogger)
    (acts : List Action) :
    Settled ((Session.start client primary shadow logger).exec cfg acts).front := by
  induction acts using List.reverseRecOn with
  | nil => exact ⟨fun _ _ _ => ⟨rfl, rfl⟩, by simp [Session.start], by simp [Session.start]⟩
  | append_singleton acts act ih =>
    rw [exec_concat]
    exact ih.act act

lemma act_done (cfg : Config) (s : Session) (act : Action)
    (h : s.front.point = .done ∧ Quiet s.front) :
    ((s.act cfg act).front.point = .done ∧ Quiet (s.act cfg act).front) ∧
      ((s.act cfg act).front.primary.sent, (s.act cfg act).front.client.sent) =
        (s.front.primary.sent, s.front.client.sent) := by
  cases act with
  | conn =>
    have hsame : (s.act cfg .conn).front = s.front := by simp [Session.act, Session.conn, h.1]
    rw [hsame]
    exact ⟨h, rfl⟩
  | copy dir n =>
    obtain ⟨hquiet, hprimary, hclient⟩ := h.2.copy n dir
    exact ⟨⟨by simpa [Session.act] using h.1, hquiet⟩, Prod.ext hprimary hclient⟩
  | timeout => exact ⟨h, rfl⟩
  | worker pick => exact ⟨h, rfl⟩

/-- Two runs with the same client and the same primary, in which the goroutines that serve them go on
in the same way. -/
theorem isolation (hacts : acts₁.filter visible <+: acts₂.filter visible) :
    let s := (Session.start client primary shadow₁ logger₁).exec cfg₁ acts₁
    let t := (Session.start client primary shadow₂ logger₂).exec cfg₂ acts₂
    s.front.primary.sent <+: t.front.primary.sent ∧ s.front.client.sent <+: t.front.client.sent ∧
      (acts₁.filter visible = acts₂.filter visible ∨ s.front.point = .done →
        s.front.primary.sent = t.front.primary.sent ∧ s.front.client.sent = t.front.client.sent) := by
  intro s t
  have hu := unwinds cfg₁ cfg₂
  have hst : (Session.start client primary shadow₁ logger₁).front =
      (Session.start client primary shadow₂ logger₂).front := rfl
  refine ⟨?_, ?_, ?_⟩
  · exact hu.output_isPrefix hst hacts (fun f => f.primary.sent) fun s act => (act_grows cfg₂ s act).1
  · exact hu.output_isPrefix hst hacts (fun f => f.client.sent) fun s act => (act_grows cfg₂ s act).2
  · rintro (heq | hdone)
    · have hfront : s.front = t.front := hu.view_eq hst heq
      rw [hfront]
      exact ⟨rfl, rfl⟩
    · have hquiet := (exec_settled cfg₁ client primary shadow₁ logger₁ acts₁).done hdone
      have hsame := hu.final_output_eq hst hacts (fun f => (f.primary.sent, f.client.sent))
        (fun f => f.point = .done ∧ Quiet f) (act_done cfg₂) ⟨hdone, hquiet⟩
      exact Prod.ext_iff.mp hsame

end Runs

end Pg

open PgProtocol (syncMessage)
open MySQLMirrorServe (Script script_servable)
open MySQLMirrorAccounts (pingScript pingRun)
open PgMirrorAccounts (sampleClient sampleServer syncActs syncRun)

/-- Two sessions with the same client and the same primary write the same to both, whatever the
shadows, the configurations, the logs and the steps of the workers are: as long as one of them has
taken fewer steps it has written a beginning of what the other has, and when it has ended the whole. -/
theorem shadow_noninterference :
    (∀ (client primary : Conn) (cfg₁ cfg₂ : MySQLMirrorSession.Config) (shadow₁ shadow₂ : Conn)
      (logger₁ logger₂ : QueryLogger) (acts₁ acts₂ : List MySQLMirrorSession.Action),
      let s := (MySQLMirrorSession.Session.start client primary shadow₁ logger₁).exec cfg₁ acts₁
      let t := (MySQLMirrorSession.Session.start client primary shadow₂ logger₂).exec cfg₂ acts₂
      acts₁.count .conn ≤ acts₂.count .conn →
        s.front.primary.sent <+: t.front.primary.sent ∧
        s.front.client.sent <+: t.front.client.sent ∧
        (acts₁.count .conn = acts₂.count .conn ∨ s.front.point = .done →
          s.front.primary.sent = t.front.primary.sent ∧ s.front.client.sent = t.front.client.sent)) ∧
    ∀ (client primary : Conn) (cfg₁ cfg₂ : PgMirrorSession.Config) (shadow₁ shadow₂ : Conn)
      (logger₁ logger₂ : QueryLogger) (acts₁ acts₂ : List PgMirrorSession.Action),
      let s := (PgMirrorSession.Session.start client primary shadow₁ logger₁).exec cfg₁ acts₁
      let t := (PgMirrorSession.Session.start client primary shadow₂ logger₂).exec cfg₂ acts₂
      acts₁.filter Pg.visible <+: acts₂.filter Pg.visible →
        s.front.primary.sent <+: t.front.primary.sent ∧
        s.front.client.sent <+: t.front.client.sent ∧
        (acts₁.filter Pg.visible = acts₂.filter Pg.visible ∨ s.front.point = .done →
          s.front.primary.sent = t.front.primary.sent ∧ s.front.client.sent = t.front.client.sent) := by
  constructor
  · intro client primary cfg₁ cfg₂ shadow₁ shadow₂ logger₁ logger₂ acts₁ acts₂ s t hle
    obtain ⟨hprimary, hclient, hsame⟩ :=
      MySQL.isolation cfg₁ cfg₂ client primary shadow₁ shadow₂ logger₁ logger₂ hle
    refine ⟨hprimary, hclient, fun hend => ?_⟩
    have hfront : s.front = t.front := hsame hend
    rw [hfront]
    exact ⟨rfl, rfl⟩
  · intro client primary cfg₁ cfg₂ shadow₁ shadow₂ logger₁ logger₂ acts₁ acts₂ s t hacts
    exact Pg.isolation cfg₁ cfg₂ client primary shadow₁ shadow₂ logger₁ logger₂ hacts

/-- A shadow that says nothing makes no difference. -/
theorem shadow_noninterference_pingRun_syncRun :
    ((pingScript.session (.script []) (some [])).exec ⟨none, fun _ => true, 1⟩
        (pingScript.whole [])).front.primary.sent = (pingRun 100 none).front.primary.sent ∧
      ((PgMirrorSession.Session.start (sampleClient [syncMessage, syncMessage])
        sampleServer (.script []) none).exec ⟨none, true, 1⟩ (List.replicate 11 .conn)).front.client.sent =
        (syncRun 8 syncActs).front.client.sent := by
  obtain ⟨hmysql, hpg⟩ := shadow_noninterference
  constructor
  · have hdone := (Script.exec_whole ⟨none, fun _ => true, 1⟩
      (script_servable pingScript (by decide)) (.script []) (some []) []).1
    unfold pingRun
    unfold Script.session at hdone ⊢
    exact ((hmysql _ _ _ _ _ _ _ _ _ _ (by decide)).2.2 (.inr hdone)).1
  · exact ((hpg (sampleClient [syncMessage, syncMessage]) sampleServer
      ⟨none, true, 1⟩ ⟨none, true, 8⟩ (.script []) sampleServer none (some []) (List.replicate 11 .conn)
      syncActs (by decide)).2.2 (.inr rfl)).2

end ShadowProxy.ShadowIsolation
