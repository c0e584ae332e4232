import ShadowProxy.MySQLHandshake

/-! What client and primary conclude from the edited handshake messages. -/
namespace ShadowProxy.MySQLNegotiation
open WordBytes NetConn MySQLPacket MySQLAuth MySQLHandshake

/-- The client takes `CLIENT_DEPRECATE_EOF` as agreed if it was offered and it asked for it. -/
def clientNegotiates (x : Login) : Bool :=
  handshakeDeprecateEOF x.clientHandshake && payloadBit x.clientLogin deprecateEOFBit

/-- The primary goes by the greeting it sent and the login it received. -/
def serverNegotiates (x : Login) : Bool :=
  handshakeDeprecateEOF x.serverHandshake && payloadBit x.serverLogin deprecateEOFBit

/-- `server` is `client` with the two flags cleared and no other payload bit changed. -/
structure Stripped (client server : Bytes) : Prop where
  length : server.length = client.length
  ssl : payloadBit server sslBit = false
  deprecateEOF : payloadBit server deprecateEOFBit = false
  others : ∀ n, n ≠ sslBit → n ≠ deprecateEOFBit → payloadBit server n = payloadBit client n

lemma clientNegotiates_eq {x : Login} (h : x.Edited) :
    clientNegotiates x =
      (handshakeDeprecateEOF x.serverHandshake && payloadBit x.clientLogin deprecateEOFBit) := by
  unfold clientNegotiates
  cases h with
  | plain path handshake login => rw [handshake]
  | upgraded path handshake login => rw [handshake, modifyHandshakeForSSL_deprecateEOF]
  | declined path handshake login _ => rw [handshake, modifyHandshakeForSSL_deprecateEOF]

/-- The primary never agrees, except with a login it got as the client sent it. -/
lemma serverNegotiates_eq {x : Login} (h : x.Edited) :
    serverNegotiates x = (clientNegotiates x && x.path = .declined) := by
  rw [clientNegotiates_eq h]
  unfold serverNegotiates
  cases h with
  | plain path handshake login =>
    rw [login, removeUnsupportedCapabilities_deprecateEOF, path]
    simp
  | upgraded path handshake login =>
    rw [login, payloadBit_set_seq, removeUnsupportedCapabilities_deprecateEOF, path]
    simp
  | declined path handshake login _ =>
    rw [login, path]
    simp

lemma stripped_remove {packet : Bytes} (h : 8 ≤ packet.length) :
    Stripped packet (removeUnsupportedCapabilities packet) where
  length := removeUnsupportedCapabilities_length
  ssl := by simp [removeUnsupportedCapabilities_bit h]
  deprecateEOF := removeUnsupportedCapabilities_deprecateEOF
  others n h₁ h₂ := by simp [removeUnsupportedCapabilities_bit h, h₁, h₂]

lemma Stripped.set_seq {client server : Bytes} (h : Stripped client server) (b : UInt8) :
    Stripped client (server.set 3 b) where
  length := by rw [List.length_set, h.length]
  ssl := by rw [payloadBit_set_seq, h.ssl]
  deprecateEOF := by rw [payloadBit_set_seq, h.deprecateEOF]
  others n h₁ h₂ := by rw [payloadBit_set_seq, h.others n h₁ h₂]

/-- A greeting that offers every flag but `CLIENT_SSL`. -/
def sampleGreeting : Bytes :=
  [23, 0, 0, 0, 10, 56, 0, 1, 0, 0, 0, 1, 2, 3, 4, 5, 6, 7, 8, 0, 0xFF, 0xF7, 33, 2, 0, 0xFF, 0xC1]

/-- A login of user `u`; `flags` are the highest capability bits. -/
def sampleLogin (flags : UInt8) : Bytes :=
  [35, 0, 0, 1, 0x85, 0xA6, 0xFF, flags, 0, 0, 0, 1, 33] ++ List.replicate 23 0 ++ [117, 0, 0]

def sampleSession (flags : UInt8) (verdict : Bytes) : Session :=
  ⟨Conn.script [⟨sampleLogin flags, none⟩], Conn.script [⟨sampleGreeting ++ verdict, none⟩]⟩

def plainProxy : TCPProxy := ⟨none⟩

def tlsProxy : TCPProxy := ⟨some .ok⟩

def samplePlain (flags : UInt8) : Login :=
  ⟨.plain, sampleGreeting, sampleGreeting, sampleLogin flags,
    removeUnsupportedCapabilities (sampleLogin flags)⟩

def sampleDeclined (flags : UInt8) : Login :=
  ⟨.declined, sampleGreeting, modifyHandshakeForSSL sampleGreeting, sampleLogin flags,
    sampleLogin flags⟩

lemma plainProxy_login :
    plainProxy.login (sampleSession 1 []) =
      (.ok (samplePlain 1), (plainProxy.login (sampleSession 1 [])).2) :=
  Prod.ext rfl rfl

lemma tlsProxy_login :
    tlsProxy.login (sampleSession 1 []) =
      (.ok (sampleDeclined 1), (tlsProxy.login (sampleSession 1 [])).2) :=
  Prod.ext rfl rfl

lemma tlsProxy_declines : tlsProxy.Declines (sampleSession 1 []) :=
  ⟨rfl, sampleLogin 1, rfl, by decide⟩

def sampleVerdict : Bytes := [7, 0, 0, 2, 0, 0, 0, 2, 0, 0, 0]

lemma plainProxy_handshake :
    plainProxy.handshake (sampleSession 1 sampleVerdict) = (.ok (samplePlain 1, [sampleVerdict]),
      (plainProxy.handshake (sampleSession 1 sampleVerdict)).2) :=
  Prod.ext rfl rfl

lemma tlsProxy_handshake :
    tlsProxy.handshake (sampleSession 1 sampleVerdict) = (.ok (sampleDeclined 1, [sampleVerdict]),
      (tlsProxy.handshake (sampleSession 1 sampleVerdict)).2) :=
  Prod.ext rfl rfl

section Login
variable {p : TCPProxy} {s s' : Session} {x : Login}

/-- Client and primary disagree whenever the flag is on both sides and the proxy strips it from
the login, since the client is never told. It strips the login unless the client declines TLS. -/
theorem deprecateEOF_agreed_iff (h : p.login s = (.ok x, s')) :
    (∃ c d, x.Delivered p s s' c d) ∧
      (clientNegotiates x = serverNegotiates x ↔
        p.Declines s ∨ ¬ (handshakeDeprecateEOF x.serverHandshake = true ∧
          payloadBit x.clientLogin deprecateEOFBit = true)) := by
  obtain ⟨he, hd⟩ := login_ok h
  refine ⟨hd, ?_⟩
  rw [← path_declined_iff h, serverNegotiates_eq he, clientNegotiates_eq he]
  by_cases hd : x.path = .declined
  · simp [hd]
  · simp [hd]

theorem deprecateEOF_agreed_sampleDeclined :
    (∃ s', tlsProxy.login (sampleSession 1 []) = (.ok (sampleDeclined 1), s')) ∧
      clientNegotiates (sampleDeclined 1) = true ∧
      clientNegotiates (sampleDeclined 1) = serverNegotiates (sampleDeclined 1) :=
  ⟨⟨_, tlsProxy_login⟩, by decide,
    (deprecateEOF_agreed_iff tlsProxy_login).2.mpr (Or.inl tlsProxy_declines)⟩

/-- Without TLS on the proxy the client is left with a flag the primary knows nothing of. -/
theorem deprecateEOF_disagreed_samplePlain :
    ∃ x s', plainProxy.login (sampleSession 1 []) = (.ok x, s') ∧
      clientNegotiates x = true ∧ serverNegotiates x = false :=
  ⟨samplePlain 1, _, plainProxy_login, by decide, by decide⟩

/-- The login of a client that declines an offer of TLS is forwarded as it is. -/
theorem login_stripped_iff {packets : List Bytes} (h : p.handshake s = (.ok (x, packets), s'))
    (hlen : 8 ≤ x.clientLogin.length) :
    (∃ s₁ c d, p.login s = (.ok x, s₁) ∧ x.Delivered p s s₁ c d) ∧
      (Stripped x.clientLogin x.serverLogin ↔
        ¬ p.Declines s ∨ (payloadBit x.clientLogin sslBit = false ∧
          payloadBit x.clientLogin deprecateEOFBit = false)) := by
  obtain ⟨s₁, hl, -⟩ := handshake_ok.mp h
  obtain ⟨he, c, d, hd⟩ := login_ok hl
  refine ⟨⟨s₁, c, d, hl, hd⟩, ?_⟩
  rw [← path_declined_iff hl]
  cases he with
  | plain path handshake login =>
    rw [login, path]
    exact iff_of_true (stripped_remove hlen) (Or.inl (by decide))
  | upgraded path handshake login =>
    rw [login, path]
    exact iff_of_true ((stripped_remove hlen).set_seq 1) (Or.inl (by decide))
  | declined path handshake login _ =>
    rw [login, path]
    constructor
    · intro hs
      exact Or.inr ⟨hs.ssl, hs.deprecateEOF⟩
    · rintro (hne | ⟨hssl, heof⟩)
      · exact absurd rfl hne
      · exact ⟨rfl, hssl, heof, fun _ _ _ => rfl⟩

theorem login_stripped_samplePlain :
    (∃ s', plainProxy.handshake (sampleSession 1 sampleVerdict) =
        (.ok (samplePlain 1, [sampleVerdict]), s')) ∧
      payloadBit (samplePlain 1).clientLogin deprecateEOFBit = true ∧
      Stripped (samplePlain 1).clientLogin (samplePlain 1).serverLogin :=
  ⟨⟨_, plainProxy_handshake⟩, by decide,
    (login_stripped_iff plainProxy_handshake (by decide)).2.mpr
      (Or.inl fun hd => Bool.false_ne_true hd.1)⟩

/-- A client that declines TLS and asks for `CLIENT_DEPRECATE_EOF` gets it from the primary. -/
theorem login_not_stripped_sampleDeclined :
    ∃ x packets s', tlsProxy.handshake (sampleSession 1 sampleVerdict) = (.ok (x, packets), s') ∧
      8 ≤ x.clientLogin.length ∧ payloadBit x.serverLogin deprecateEOFBit = true ∧
      ¬ Stripped x.clientLogin x.serverLogin := by
  have hset : payloadBit (sampleDeclined 1).serverLogin deprecateEOFBit = true := by decide
  refine ⟨sampleDeclined 1, _, _, tlsProxy_handshake, by decide, hset, ?_⟩
  intro hs
  rw [hs.deprecateEOF] at hset
  exact Bool.false_ne_true hset

end Login
end ShadowProxy.MySQLNegotiation
