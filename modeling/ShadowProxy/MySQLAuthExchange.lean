import ShadowProxy.MySQLNegotiation

/-! An authentication that client and primary carry on between them, however many rounds it
takes, and how much of it the proxy sits through before it starts the command loop. -/
namespace ShadowProxy.MySQLAuthExchange
open WordBytes NetConn MySQLPacket MySQLAuth MySQLHandshake MySQLNegotiation

def IsVerdict (packet : Bytes) : Prop := packet[4]? = some 0x00 ∨ packet[4]? = some 0xFF

def IsChallenge (packet : Bytes) : Prop := packet[4]? = some 0xFE ∨ packet[4]? = some 0x01

/-- `AuthExchange s ps s'`: after the login the primary sends the packets `ps`, each of which
the client receives; the client answers every AuthSwitch and some AuthMoreData packets, and
the primary receives the answers; the last packet is the verdict. -/
inductive AuthExchange : Session → List Bytes → Session → Prop
  | verdict {s : Session} {packet : Bytes} {client primary : Conn}
      (hread : readMySQLPacket s.primary = (.ok packet, primary)) (hkind : IsVerdict packet)
      (hwrite : s.client.write packet = (none, client)) :
      AuthExchange s [packet] ⟨client, primary⟩
  | round {s s' : Session} {packet answer : Bytes} {client client' primary primary' : Conn}
      {ps : List Bytes} (hread : readMySQLPacket s.primary = (.ok packet, primary))
      (hkind : IsChallenge packet) (hwrite : s.client.write packet = (none, client))
      (hanswer : readMySQLPacket client = (.ok answer, client'))
      (hforward : primary.write answer = (none, primary'))
      (hrest : AuthExchange ⟨client', primary'⟩ ps s') : AuthExchange s (packet :: ps) s'
  | notice {s s' : Session} {packet : Bytes} {client primary : Conn} {ps : List Bytes}
      (hread : readMySQLPacket s.primary = (.ok packet, primary))
      (hkind : packet[4]? = some 0x01) (hwrite : s.client.write packet = (none, client))
      (hrest : AuthExchange ⟨client, primary⟩ ps s') : AuthExchange s (packet :: ps) s'

/-- The exchange is over with the first packet, an OK. -/
def OKAtOnce (ps : List Bytes) : Prop := ∃ verdict, ps = [verdict] ∧ verdict[4]? = some 0x00

/-- The verdict comes at once or behind a single AuthSwitch. -/
def OneSwitch (ps : List Bytes) : Prop :=
  (∃ verdict, ps = [verdict]) ∨
    ∃ challenge verdict, ps = [challenge, verdict] ∧ challenge[4]? = some 0xFE

/-- The last of the packets received from the primary is an OK packet, and the proxy has read
off the client exactly what the client sends up to the end of the exchange. -/
def Completed (packets : List Bytes) (client client' : Conn) : Prop :=
  (∃ verdict, packets.getLast? = some verdict ∧ verdict[4]? = some 0x00) ∧
    client.received = client'.received

section Steps
variable {s s' : Session} {packet : Bytes} {c client primary : Conn} {ps : List Bytes}

lemma write_other (packet' : Bytes) (h : client.write packet = (none, primary)) :
    ∃ c, client.write packet' = (none, c) ∧ c.received = client.received := by
  unfold Conn.write at *
  split at h
  · simp at h
  · exact ⟨_, rfl, rfl⟩

lemma AuthExchange.ne_nil (h : AuthExchange s ps s') : ps ≠ [] := by
  cases h <;> simp

lemma AuthExchange.first (h : AuthExchange s ps s') :
    ∃ packet ps' client primary, ps = packet :: ps' ∧
      readMySQLPacket s.primary = (.ok packet, primary) ∧
      s.client.write packet = (none, client) ∧
      (ps' = [] ∧ IsVerdict packet ∧ s' = ⟨client, primary⟩ ∨ ps' ≠ [] ∧ IsChallenge packet) := by
  cases h with
  | verdict hread hkind hwrite => exact ⟨_, _, _, _, rfl, hread, hwrite, Or.inl ⟨rfl, hkind, rfl⟩⟩
  | round hread hkind hwrite hanswer hforward hrest =>
    exact ⟨_, _, _, _, rfl, hread, hwrite, Or.inr ⟨hrest.ne_nil, hkind⟩⟩
  | notice hread hkind hwrite hrest =>
    exact ⟨_, _, _, _, rfl, hread, hwrite, Or.inr ⟨hrest.ne_nil, Or.inr hkind⟩⟩

lemma AuthExchange.switch (h : AuthExchange s (packet :: ps) s') (hk : packet[4]? = some 0xFE) :
    ∃ answer client client' primary primary', s.client.write packet = (none, client) ∧
      readMySQLPacket client = (.ok answer, client') ∧
      readMySQLPacket s.primary = (.ok packet, primary) ∧
      primary.write answer = (none, primary') ∧ AuthExchange ⟨client', primary'⟩ ps s' := by
  cases h with
  | verdict hread hkind hwrite =>
    rw [IsVerdict, hk] at hkind
    simp at hkind
  | round hread hkind hwrite hanswer hforward hrest =>
    exact ⟨_, _, _, _, _, hwrite, hanswer, hread, hforward, hrest⟩
  | notice hread hkind hwrite hrest =>
    rw [hk] at hkind
    simp at hkind

lemma IsChallenge.not_ok (h : IsChallenge packet) : ¬ packet[4]? = some 0x00 := by
  rcases h with h | h <;> simp [h]

lemma IsChallenge.not_err (h : IsChallenge packet) : ¬ packet[4]? = some 0xFF := by
  rcases h with h | h <;> simp [h]

lemma IsVerdict.not_switch (h : IsVerdict packet) : ¬ packet[4]? = some 0xFE := by
  rcases h with h | h <;> simp [h]

lemma deliverVerdict_run (suffix : String) (before : List Bytes)
    (h : c.write packet = (none, client)) :
    deliverVerdict suffix before packet ⟨c, primary⟩ =
      if packet[4]? = some 0xFF then
        (.error (.errorf ("primary authentication failed" ++ suffix)), ⟨client, primary⟩)
      else (.ok (before ++ [packet]), ⟨client, primary⟩) := by
  unfold deliverVerdict
  rw [bind_of_ok (a := ()) _ (writeClient_ok.mpr ⟨client, h, rfl⟩)]
  split_ifs <;> rfl

lemma completed_of_verdict (suffix : String) (before : List Bytes)
    (h : c.write packet = (none, client)) (hk : IsVerdict packet) (packets : List Bytes)
    (t : Session) (hr : deliverVerdict suffix before packet ⟨c, primary⟩ = (.ok packets, t)) :
    Completed packets t.client client := by
  rw [deliverVerdict_run suffix before h] at hr
  split_ifs at hr with he
  · simp at hr
  · simp only [Prod.mk.injEq, Except.ok.injEq] at hr
    obtain ⟨rfl, rfl⟩ := hr
    exact ⟨⟨packet, List.getLast?_concat, hk.resolve_right he⟩, rfl⟩

/-- A challenge that is taken for the verdict lets the connection through. -/
lemma not_completed_of_challenge (suffix : String) (before : List Bytes) (c' : Conn)
    (h : c.write packet = (none, client)) (hk : IsChallenge packet) :
    ¬ ∀ packets t, deliverVerdict suffix before packet ⟨c, primary⟩ = (.ok packets, t) →
      Completed packets t.client c' := by
  intro hall
  rw [deliverVerdict_run suffix before h, if_neg hk.not_err] at hall
  obtain ⟨⟨verdict, hlast, hok⟩, -⟩ := hall _ _ rfl
  rw [List.getLast?_concat, Option.some.injEq] at hlast
  subst hlast
  exact hk.not_ok hok

end Steps

section Paths
variable {s s' : Session} {ps : List Bytes}

lemma relayUpgradedAuth_completed_iff (h : AuthExchange s ps s') :
    (∀ packets t, relayUpgradedAuth s = (.ok packets, t) →
      Completed packets t.client s'.client) ↔ OKAtOnce ps := by
  obtain ⟨packet, ps', client, primary, rfl, hread, hwrite, hkind⟩ := h.first
  obtain ⟨client', hwrite', hrec⟩ := write_other (packet.set 3 3) hwrite
  have hrun : relayUpgradedAuth s = (.ok [packet], ⟨client', primary⟩) :=
    bind_ok.mpr ⟨packet, _, readPrimary_ok.mpr ⟨primary, hread, rfl⟩,
      bind_ok.mpr ⟨(), _, writeClient_ok.mpr ⟨client', hwrite', rfl⟩, rfl⟩⟩
  rw [hrun]
  constructor
  · intro hc
    obtain ⟨⟨verdict, hlast, hok⟩, -⟩ := hc _ _ rfl
    simp only [List.getLast?_singleton, Option.some.injEq] at hlast
    subst hlast
    rcases hkind with ⟨rfl, -, -⟩ | ⟨-, hch⟩
    · exact ⟨packet, rfl, hok⟩
    · exact absurd hok hch.not_ok
  · rintro ⟨verdict, hps, hok⟩ packets t ht
    simp only [List.cons.injEq] at hps
    obtain ⟨rfl, rfl⟩ := hps
    simp only [Prod.mk.injEq, Except.ok.injEq] at ht
    obtain ⟨rfl, rfl⟩ := ht
    rcases hkind with ⟨-, -, rfl⟩ | ⟨hne, -⟩
    · exact ⟨⟨packet, rfl, hok⟩, hrec.trans (write_ok hwrite).2.symm⟩
    · exact absurd rfl hne

lemma relayAuth_direct {packet : Bytes} {primary : Conn} (suffix : String)
    (hread : readMySQLPacket s.primary = (.ok packet, primary))
    (hk : ¬ packet[4]? = some 0xFE) :
    relayAuth suffix s = deliverVerdict suffix [] packet ⟨s.client, primary⟩ := by
  unfold relayAuth
  rw [bind_of_ok _ (readPrimary_ok.mpr ⟨primary, hread, rfl⟩), if_neg hk]

lemma relayAuth_switch {packet answer final : Bytes} {client client' primary primary' primary'' : Conn}
    (suffix : String) (hk : packet[4]? = some 0xFE)
    (hread : readMySQLPacket s.primary = (.ok packet, primary))
    (hwrite : s.client.write packet = (none, client))
    (hanswer : readMySQLPacket client = (.ok answer, client'))
    (hforward : primary.write answer = (none, primary'))
    (hfinal : readMySQLPacket primary' = (.ok final, primary'')) :
    relayAuth suffix s = deliverVerdict suffix [packet] final ⟨client', primary''⟩ := by
  have hswitch : relaySwitch packet ⟨s.client, primary⟩ = (.ok final, ⟨client', primary''⟩) :=
    bind_ok.mpr ⟨(), _, writeClient_ok.mpr ⟨client, hwrite, rfl⟩,
      bind_ok.mpr ⟨answer, _, readClient_ok.mpr ⟨client', hanswer, rfl⟩,
        bind_ok.mpr ⟨(), _, writePrimary_ok.mpr ⟨primary', hforward, rfl⟩,
          readPrimary_ok.mpr ⟨primary'', hfinal, rfl⟩⟩⟩⟩
  unfold relayAuth
  rw [bind_of_ok _ (readPrimary_ok.mpr ⟨primary, hread, rfl⟩), if_pos hk, bind_of_ok _ hswitch]

lemma relayAuth_completed_iff (suffix : String) (h : AuthExchange s ps s') :
    (∀ packets t, relayAuth suffix s = (.ok packets, t) → Completed packets t.client s'.client) ↔
      OneSwitch ps := by
  obtain ⟨packet, ps', client, primary, rfl, hread, hwrite, hkind⟩ := h.first
  rcases hkind with ⟨rfl, hk, rfl⟩ | ⟨hne, hk⟩
  · rw [relayAuth_direct suffix hread hk.not_switch]
    exact iff_of_true (completed_of_verdict suffix [] hwrite hk) (Or.inl ⟨packet, rfl⟩)
  · by_cases hs : packet[4]? = some 0xFE
    · obtain ⟨answer, client₁, client₂, primary₁, primary₂, hw, ha, hr, hf, hrest⟩ := h.switch hs
      obtain ⟨final, ps'', client₃, primary₃, rfl, hread', hwrite', hkind'⟩ := hrest.first
      rw [relayAuth_switch suffix hs hr hw ha hf hread']
      rcases hkind' with ⟨rfl, hk', rfl⟩ | ⟨hne', hk'⟩
      · exact iff_of_true (completed_of_verdict suffix [packet] hwrite' hk')
          (Or.inr ⟨packet, final, rfl, hs⟩)
      · apply iff_of_false (not_completed_of_challenge suffix [packet] _ hwrite' hk')
        rintro (⟨v, hv⟩ | ⟨ch, v, hv, -⟩)
        · simp at hv
        · simp [hne'] at hv
    · rw [relayAuth_direct suffix hread hs]
      apply iff_of_false (not_completed_of_challenge suffix [] _ hwrite hk)
      rintro (⟨v, hv⟩ | ⟨ch, v, hv, hch⟩)
      · simp [hne] at hv
      · simp only [List.cons.injEq] at hv
        rw [← hv.1] at hch
        exact hs hch

lemma finishAuth_completed_iff (path : Path) (h : AuthExchange s ps s') :
    (∀ packets t, finishAuth path s = (.ok packets, t) → Completed packets t.client s'.client) ↔
      if path = .upgraded then OKAtOnce ps else OneSwitch ps := by
  cases path with
  | plain => exact relayAuth_completed_iff "" h
  | upgraded => exact relayUpgradedAuth_completed_iff h
  | declined => exact relayAuth_completed_iff " (non-SSL)" h

end Paths

section Handshake
variable {p : TCPProxy} {s s₁ s₂ : Session} {x : Login} {ps : List Bytes}

/-- The proxy waits for the primary's OK in those exchanges it was written for, and in no others:
over TLS an OK at once, without TLS a verdict behind at most one AuthSwitch. -/
theorem auth_completed_iff (hl : p.login s = (.ok x, s₁)) (he : AuthExchange s₁ ps s₂) :
    (∀ y packets s', p.handshake s = (.ok (y, packets), s') →
      Completed packets s'.client s₂.client) ↔
        (p.Upgrades s ∧ OKAtOnce ps ∨ ¬ p.Upgrades s ∧ OneSwitch ps) := by
  rw [← path_upgraded_iff hl, ← ite_prop_iff_or, ← finishAuth_completed_iff x.path he]
  constructor
  · intro h packets t ht
    exact h x packets t (handshake_ok.mpr ⟨s₁, hl, ht⟩)
  · intro h y packets s' hs'
    obtain ⟨t, hlogin, hfinish⟩ := handshake_ok.mp hs'
    rw [hl] at hlogin
    simp only [Prod.mk.injEq, Except.ok.injEq] at hlogin
    obtain ⟨rfl, rfl⟩ := hlogin
    exact h packets s' hfinish

/-- A request for TLS, in front of a login that then comes over TLS. -/
def sampleSSLRequest : Bytes :=
  [32, 0, 0, 1, 0x85, 0xAE, 0xFF, 0, 0, 0, 0, 1, 33] ++ List.replicate 23 0

def upgradingProxy : TCPProxy := ⟨some fun _ => .ok (Conn.script [⟨sampleLogin 0, none⟩])⟩

def sampleDenial : Bytes := [3, 0, 0, 2, 0xFF, 0x15, 0x04]

def upgradingSession : Session :=
  ⟨Conn.script [⟨sampleSSLRequest, none⟩], Conn.script [⟨sampleGreeting ++ sampleDenial, none⟩]⟩

/-- An AuthSwitch to a plugin `m`, the client's answer and the OK behind it. -/
def sampleSwitch : Bytes := [3, 0, 0, 2, 0xFE, 109, 0]

def sampleAnswer : Bytes := [1, 0, 0, 3, 7]

def sampleFinal : Bytes := [7, 0, 0, 4, 0, 0, 0, 2, 0, 0, 0]

def switchingSession : Session :=
  ⟨Conn.script [⟨sampleLogin 1 ++ sampleAnswer, none⟩],
    Conn.script [⟨sampleGreeting ++ sampleSwitch, none⟩, ⟨sampleFinal, none⟩]⟩

lemma switchingSession_login : plainProxy.login switchingSession =
    (.ok (samplePlain 1), (plainProxy.login switchingSession).2) :=
  Prod.ext rfl rfl

lemma switchingSession_handshake : plainProxy.handshake switchingSession =
    (.ok (samplePlain 1, [sampleSwitch, sampleFinal]), (plainProxy.handshake switchingSession).2) :=
  Prod.ext rfl rfl

lemma switchingSession_exchange : AuthExchange (plainProxy.login switchingSession).2
    [sampleSwitch, sampleFinal] (plainProxy.handshake switchingSession).2 :=
  .round (Prod.ext rfl rfl) (Or.inl rfl) (Prod.ext rfl rfl) (Prod.ext rfl rfl)
    (Prod.ext rfl rfl) (.verdict (Prod.ext rfl rfl) (Or.inl rfl) (Prod.ext rfl rfl))

theorem auth_completed_switchingSession :
    AuthExchange (plainProxy.login switchingSession).2 [sampleSwitch, sampleFinal]
        (plainProxy.handshake switchingSession).2 ∧
      Completed [sampleSwitch, sampleFinal] (plainProxy.handshake switchingSession).2.client
        (plainProxy.handshake switchingSession).2.client ∧
      (plainProxy.handshake switchingSession).2.client.received = sampleLogin 1 ++ sampleAnswer :=
  ⟨switchingSession_exchange,
    (auth_completed_iff switchingSession_login switchingSession_exchange).mpr
      (Or.inr ⟨fun hu => Bool.false_ne_true hu.1, Or.inr ⟨_, _, rfl, rfl⟩⟩)
      _ _ _ switchingSession_handshake, rfl⟩

/-- Over TLS the command loop starts although the primary refused the login. -/
theorem auth_not_completed_sampleDenial :
    ∃ x s', upgradingProxy.handshake upgradingSession = (.ok (x, [sampleDenial]), s') ∧
      sampleDenial[4]? = some 0xFF :=
  ⟨_, _, Prod.ext rfl rfl, rfl⟩

end Handshake
end ShadowProxy.MySQLAuthExchange
