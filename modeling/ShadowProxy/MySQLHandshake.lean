import ShadowProxy.MySQLAuth

/-! The handshake the proxy conducts between a client and the primary before the first
command: the server's greeting, the client's login, and the primary's verdict. Each of the
two functions of the source is a program over the pair of connections; besides what it does
to them it returns the messages that went to and fro. -/
namespace ShadowProxy.MySQLHandshake
open WordBytes NetConn MySQLPacket MySQLAuth

structure Session where
  client : Conn
  primary : Conn

def Proxy (α : Type) : Type := Session → Except Err α × Session

instance : Monad Proxy where
  pure a := fun s => (.ok a, s)
  bind x f := fun s =>
    match x s with
    | (.ok a, s) => f a s
    | (.error e, s) => (.error e, s)

def fail {α : Type} (msg : String) : Proxy α := fun s => (.error (.errorf msg), s)

def readPrimary (msg : String) : Proxy Bytes := fun s =>
  match readMySQLPacket s.primary with
  | (.ok packet, primary) => (.ok packet, { s with primary := primary })
  | (.error e, primary) => (.error (.wrap msg e), { s with primary := primary })

def readClient (msg : String) : Proxy Bytes := fun s =>
  match readMySQLPacket s.client with
  | (.ok packet, client) => (.ok packet, { s with client := client })
  | (.error e, client) => (.error (.wrap msg e), { s with client := client })

def writePrimary (msg : String) (packet : Bytes) : Proxy Unit := fun s =>
  match s.primary.write packet with
  | (none, primary) => (.ok (), { s with primary := primary })
  | (some e, primary) => (.error (.wrap msg e), { s with primary := primary })

def writeClient (msg : String) (packet : Bytes) : Proxy Unit := fun s =>
  match s.client.write packet with
  | (none, client) => (.ok (), { s with client := client })
  | (some e, client) => (.error (.wrap msg e), { s with client := client })

/-- `tls.Server(clientConn, config)` and its `Handshake`: from then on the client is read
and written through the connection `tls` returns. -/
def startTLS (tls : Conn → Except Err Conn) (msg : String) : Proxy Unit := fun s =>
  match tls s.client with
  | .ok client => (.ok (), { s with client := client })
  | .error e => (.error (.wrap msg e), s)

/-- How the client got through: without TLS on the proxy, over TLS, or past an offer of TLS. -/
inductive Path
  | plain
  | upgraded
  | declined
  deriving DecidableEq, Repr

/-- The greeting and the login, each as it was sent and as it was delivered. -/
structure Login where
  path : Path
  serverHandshake : Bytes
  clientHandshake : Bytes
  clientLogin : Bytes
  serverLogin : Bytes
  deriving DecidableEq, Repr

/-- Steps 1 to 4 of `forwardMySQLHandshake`. -/
def forwardLogin : Proxy Login := do
  let handshake ← readPrimary "failed to read handshake from primary"
  writeClient "failed to send handshake to client" handshake
  let authPacket ← readClient "failed to read auth from client"
  let stripped := removeUnsupportedCapabilities authPacket
  writePrimary "failed to forward auth to primary" stripped
  return ⟨.plain, handshake, handshake, authPacket, stripped⟩

/-- `handleMySQLSSLUpgrade` up to the login on the primary's side. Only the login that
arrives over TLS is stripped, and renumbered since the primary never saw the SSL request. -/
def upgradeLogin (tls : Conn → Except Err Conn) : Proxy Login := do
  let handshake ← readPrimary "failed to read handshake from primary"
  let modified := modifyHandshakeForSSL handshake
  writeClient "failed to send handshake to client" modified
  let clientResponse ← readClient "failed to read client response"
  if isSSLRequest clientResponse then
    startTLS tls "TLS handshake failed"
    let authPacket ← readClient "failed to read auth packet after TLS upgrade"
    let stripped := (removeUnsupportedCapabilities authPacket).set 3 1
    writePrimary "failed to forward auth to primary" stripped
    return ⟨.upgraded, handshake, modified, authPacket, stripped⟩
  else
    writePrimary "failed to forward auth to primary" clientResponse
    return ⟨.declined, handshake, modified, clientResponse, clientResponse⟩

/-- One round of AuthSwitch, then the next packet of the primary. -/
def relaySwitch (authResponse : Bytes) : Proxy Bytes := do
  writeClient "failed to forward auth switch to client" authResponse
  let switchResponse ← readClient "failed to read auth switch response"
  writePrimary "failed to forward auth switch response" switchResponse
  readPrimary "failed to read final auth response"

/-- The last step: the packet is passed on whatever it is, and only an ERR packet stops the
connection. Returns the packets received from the primary, this one after those `before`. -/
def deliverVerdict (suffix : String) (before : List Bytes) (authResponse : Bytes) :
    Proxy (List Bytes) := do
  writeClient ("failed to forward auth response to client" ++ suffix) authResponse
  if authResponse[4]? = some 0xFF then fail ("primary authentication failed" ++ suffix)
  else return before ++ [authResponse]

/-- The primary's answer to the login, on the two paths without TLS. -/
def relayAuth (suffix : String) : Proxy (List Bytes) := do
  let authResponse ← readPrimary ("failed to read auth response from primary" ++ suffix)
  if authResponse[4]? = some 0xFE then
    let final ← relaySwitch authResponse
    deliverVerdict suffix [authResponse] final
  else deliverVerdict suffix [] authResponse

/-- The primary's answer to the login over TLS: one packet, renumbered and passed on. -/
def relayUpgradedAuth : Proxy (List Bytes) := do
  let authResponse ← readPrimary "failed to read auth response from primary"
  writeClient "failed to forward auth response to client" (authResponse.set 3 3)
  return [authResponse]

def finishAuth : Path → Proxy (List Bytes)
  | .plain => relayAuth ""
  | .upgraded => relayUpgradedAuth
  | .declined => relayAuth " (non-SSL)"

/-- The proxy terminates TLS exactly if it has a TLS configuration. -/
structure TCPProxy where
  tlsConfig : Option (Conn → Except Err Conn)

def TCPProxy.login (p : TCPProxy) : Proxy Login :=
  match p.tlsConfig with
  | none => forwardLogin
  | some tls => upgradeLogin tls

def forwardMySQLHandshake : Proxy (Login × List Bytes) := do
  let login ← forwardLogin
  let packets ← finishAuth login.path
  return (login, packets)

def handleMySQLSSLUpgrade (tls : Conn → Except Err Conn) : Proxy (Login × List Bytes) := do
  let login ← upgradeLogin tls
  let packets ← finishAuth login.path
  return (login, packets)

/-- The handshake phase of `handleConnection`; the command loop starts when it succeeds. -/
def TCPProxy.handshake (p : TCPProxy) : Proxy (Login × List Bytes) :=
  match p.tlsConfig with
  | none => forwardMySQLHandshake
  | some tls => handleMySQLSSLUpgrade tls

def TCPProxy.greeting (p : TCPProxy) (handshake : Bytes) : Bytes :=
  if p.tlsConfig.isSome then modifyHandshakeForSSL handshake else handshake

/-- The first packet the client sends once it has the greeting. -/
def TCPProxy.firstPacket (p : TCPProxy) (s : Session) : Option Bytes :=
  match readMySQLPacket s.primary with
  | (.error _, _) => none
  | (.ok handshake, _) =>
    match s.client.write (p.greeting handshake) with
    | (some _, _) => none
    | (none, client) =>
      match readMySQLPacket client with
      | (.error _, _) => none
      | (.ok packet, _) => some packet

/-- The proxy offers TLS and the client takes the offer. -/
def TCPProxy.Upgrades (p : TCPProxy) (s : Session) : Prop :=
  p.tlsConfig.isSome ∧ ∃ first ∈ p.firstPacket s, AsksForTLS first

/-- The proxy offers TLS and the client's first packet is something else than an SSL request. -/
def TCPProxy.Declines (p : TCPProxy) (s : Session) : Prop :=
  p.tlsConfig.isSome ∧ ∃ first ∈ p.firstPacket s, ¬ AsksForTLS first

section Inversion
variable {α β : Type} {s s' : Session}

lemma bind_ok {x : Proxy α} {f : α → Proxy β} {b : β} :
    (x >>= f) s = (.ok b, s') ↔ ∃ a s₁, x s = (.ok a, s₁) ∧ f a s₁ = (.ok b, s') := by
  change (match x s with | (.ok a, s) => f a s | (.error e, s) => (.error e, s)) = _ ↔ _
  rcases x s with ⟨e | a, s₁⟩
  · simp
  · simp

lemma pure_ok {a b : α} : (pure a : Proxy α) s = (.ok b, s') ↔ a = b ∧ s = s' := by
  change ((Except.ok a : Except Err α), s) = _ ↔ _
  simp

lemma fail_ok {msg : String} {a : α} : ¬ (fail msg : Proxy α) s = (.ok a, s') := by
  simp [fail]

lemma readPrimary_ok {msg : String} {packet : Bytes} :
    readPrimary msg s = (.ok packet, s') ↔
      ∃ primary, readMySQLPacket s.primary = (.ok packet, primary) ∧
        s' = { s with primary := primary } := by
  unfold readPrimary
  rcases readMySQLPacket s.primary with ⟨e | p, primary⟩
  · simp
  · simp [eq_comm]

lemma readClient_ok {msg : String} {packet : Bytes} :
    readClient msg s = (.ok packet, s') ↔
      ∃ client, readMySQLPacket s.client = (.ok packet, client) ∧
        s' = { s with client := client } := by
  unfold readClient
  rcases readMySQLPacket s.client with ⟨e | p, client⟩
  · simp
  · simp [eq_comm]

lemma writePrimary_ok {msg : String} {packet : Bytes} {u : Unit} :
    writePrimary msg packet s = (.ok u, s') ↔
      ∃ primary, s.primary.write packet = (none, primary) ∧
        s' = { s with primary := primary } := by
  unfold writePrimary
  rcases s.primary.write packet with ⟨_ | e, primary⟩
  · simp [eq_comm]
  · simp

lemma writeClient_ok {msg : String} {packet : Bytes} {u : Unit} :
    writeClient msg packet s = (.ok u, s') ↔
      ∃ client, s.client.write packet = (none, client) ∧ s' = { s with client := client } := by
  unfold writeClient
  rcases s.client.write packet with ⟨_ | e, client⟩
  · simp [eq_comm]
  · simp

lemma bind_of_ok {x : Proxy α} {a : α} (f : α → Proxy β) (h : x s = (.ok a, s')) :
    (x >>= f) s = f a s' := by
  change (match x s with | (.ok a, s) => f a s | (.error e, s) => (.error e, s)) = _
  rw [h]

lemma startTLS_ok {tls : Conn → Except Err Conn} {msg : String} {u : Unit} :
    startTLS tls msg s = (.ok u, s') ↔
      ∃ client, tls s.client = .ok client ∧ s' = { s with client := client } := by
  unfold startTLS
  rcases tls s.client with e | client
  · simp
  · simp [eq_comm]

end Inversion

/-- The messages of a login are what the connections carried. `c` is the client's connection
when the greeting had been sent, `d` the one its login was read from. -/
structure Login.Delivered (p : TCPProxy) (x : Login) (s s' : Session) (c d : Conn) : Prop where
  greeting : s'.primary.received = s.primary.received ++ x.serverHandshake
  greeted : c.sent = s.client.sent ++ [x.clientHandshake]
  unread : c.received = s.client.received
  login : s'.client.received = d.received ++ x.clientLogin
  sent : s'.client.sent = d.sent
  loggedIn : s'.primary.sent = s.primary.sent ++ [x.serverLogin]
  secured : d = c ∨ ∃ tls ∈ p.tlsConfig, ∃ c', Reads c c' ∧ tls c' = .ok d
  whole : WellFramed x.serverHandshake ∧ WellFramed x.clientLogin

/-- What the proxy does to the two messages on each path. -/
inductive Login.Edited (x : Login) : Prop
  | plain (path : x.path = .plain) (handshake : x.clientHandshake = x.serverHandshake)
      (login : x.serverLogin = removeUnsupportedCapabilities x.clientLogin)
  | upgraded (path : x.path = .upgraded)
      (handshake : x.clientHandshake = modifyHandshakeForSSL x.serverHandshake)
      (login : x.serverLogin = (removeUnsupportedCapabilities x.clientLogin).set 3 1)
  | declined (path : x.path = .declined)
      (handshake : x.clientHandshake = modifyHandshakeForSSL x.serverHandshake)
      (login : x.serverLogin = x.clientLogin) (plain : isSSLRequest x.clientLogin = false)

section Login
variable {p : TCPProxy} {s s' : Session} {x : Login}

lemma forwardLogin_ok (h : forwardLogin s = (.ok x, s')) :
    x.Edited ∧ ∃ c, x.Delivered p s s' c c := by
  unfold forwardLogin at h
  simp only [bind_ok, pure_ok, readPrimary_ok, writeClient_ok, readClient_ok, writePrimary_ok] at h
  obtain ⟨handshake, s₁, ⟨primary, hread, rfl⟩, -, s₂, ⟨client, hgreet, rfl⟩, auth, s₃,
    ⟨client', hauth, rfl⟩, -, s₄, ⟨primary', hlogin, rfl⟩, rfl, rfl⟩ := h
  obtain ⟨hw₁, hr₁, hs₁⟩ := readMySQLPacket_ok hread
  obtain ⟨hw₂, hr₂, hs₂⟩ := readMySQLPacket_ok hauth
  obtain ⟨hg, hgr⟩ := write_ok hgreet
  obtain ⟨hl, hlr⟩ := write_ok hlogin
  refine ⟨.plain rfl rfl rfl, client, ?_, hg, hgr, hr₂, hs₂.sent, ?_, Or.inl rfl, hw₁, hw₂⟩
  · exact hlr.trans hr₁
  · rw [← hs₁.sent]
    exact hl

lemma upgradeLogin_ok {tls : Conn → Except Err Conn} (hp : p.tlsConfig = some tls)
    (h : upgradeLogin tls s = (.ok x, s')) : x.Edited ∧ ∃ c d, x.Delivered p s s' c d := by
  unfold upgradeLogin at h
  simp only [bind_ok, readPrimary_ok, writeClient_ok, readClient_ok] at h
  obtain ⟨handshake, s₁, ⟨primary, hread, rfl⟩, -, s₂, ⟨client, hgreet, rfl⟩, response, s₃,
    ⟨client', hresponse, rfl⟩, h⟩ := h
  obtain ⟨hw₁, hr₁, hs₁⟩ := readMySQLPacket_ok hread
  obtain ⟨hw₂, hr₂, hs₂⟩ := readMySQLPacket_ok hresponse
  obtain ⟨hg, hgr⟩ := write_ok hgreet
  split_ifs at h with hssl
  · simp only [bind_ok, pure_ok, startTLS_ok, readClient_ok, writePrimary_ok] at h
    obtain ⟨-, s₄, ⟨secure, htls, rfl⟩, auth, s₅, ⟨secure', hauth, rfl⟩, -, s₆,
      ⟨primary', hlogin, rfl⟩, rfl, rfl⟩ := h
    obtain ⟨hw₃, hr₃, hs₃⟩ := readMySQLPacket_ok hauth
    obtain ⟨hl, hlr⟩ := write_ok hlogin
    refine ⟨.upgraded rfl rfl rfl, client, secure, ?_, hg, hgr, hr₃, hs₃.sent, ?_,
      Or.inr ⟨tls, hp, client', hs₂, htls⟩, hw₁, hw₃⟩
    · exact hlr.trans hr₁
    · rw [← hs₁.sent]
      exact hl
  · simp only [bind_ok, pure_ok, writePrimary_ok] at h
    obtain ⟨-, s₄, ⟨primary', hlogin, rfl⟩, rfl, rfl⟩ := h
    obtain ⟨hl, hlr⟩ := write_ok hlogin
    refine ⟨.declined rfl rfl rfl (by simpa using hssl), client, client, ?_, hg, hgr, hr₂, hs₂.sent,
      ?_, Or.inl rfl, hw₁, hw₂⟩
    · exact hlr.trans hr₁
    · rw [← hs₁.sent]
      exact hl

theorem login_ok (h : p.login s = (.ok x, s')) : x.Edited ∧ ∃ c d, x.Delivered p s s' c d := by
  unfold TCPProxy.login at h
  cases hp : p.tlsConfig with
  | none =>
    rw [hp] at h
    obtain ⟨he, c, hd⟩ := forwardLogin_ok h
    exact ⟨he, c, c, hd⟩
  | some tls =>
    rw [hp] at h
    exact upgradeLogin_ok hp h

lemma not_declines_of_upgrades (h : p.Upgrades s) : ¬ p.Declines s := by
  rintro ⟨-, first, hfirst, hno⟩
  obtain ⟨-, first', hfirst', hyes⟩ := h
  rw [Option.mem_def] at hfirst hfirst'
  rw [hfirst, Option.some.injEq] at hfirst'
  exact hno (hfirst' ▸ hyes)

lemma upgradeLogin_path {tls : Conn → Except Err Conn} (hp : p.tlsConfig = some tls)
    (h : upgradeLogin tls s = (.ok x, s')) :
    x.path = .upgraded ∧ p.Upgrades s ∨ x.path = .declined ∧ p.Declines s := by
  unfold upgradeLogin at h
  simp only [bind_ok, readPrimary_ok, writeClient_ok, readClient_ok] at h
  obtain ⟨handshake, s₁, ⟨primary, hread, rfl⟩, -, s₂, ⟨client, hgreet, rfl⟩, response, s₃,
    ⟨client', hresponse, rfl⟩, h⟩ := h
  have hoffer : p.tlsConfig.isSome = true := by rw [hp]; rfl
  have hfirst : p.firstPacket s = some response := by
    simp [TCPProxy.firstPacket, TCPProxy.greeting, hoffer, hread, hgreet, hresponse]
  split_ifs at h with hssl
  · simp only [bind_ok, pure_ok] at h
    obtain ⟨-, _, -, _, _, -, -, _, -, rfl, -⟩ := h
    exact .inl ⟨rfl, hoffer, response, hfirst, isSSLRequest_iff.mp hssl⟩
  · simp only [bind_ok, pure_ok] at h
    obtain ⟨-, _, -, rfl, -⟩ := h
    exact .inr ⟨rfl, hoffer, response, hfirst, fun hasks => hssl (isSSLRequest_iff.mpr hasks)⟩

lemma forwardLogin_path (h : forwardLogin s = (.ok x, s')) : x.path = .plain := by
  unfold forwardLogin at h
  simp only [bind_ok, pure_ok] at h
  obtain ⟨_, _, -, -, _, -, _, _, -, -, _, -, rfl, -⟩ := h
  rfl

/-- The path of a login is decided by the configuration and the client's first packet. -/
theorem login_path (h : p.login s = (.ok x, s')) :
    x.path = .plain ∧ p.tlsConfig = none ∨ x.path = .upgraded ∧ p.Upgrades s ∨
      x.path = .declined ∧ p.Declines s := by
  unfold TCPProxy.login at h
  cases hp : p.tlsConfig with
  | none =>
    rw [hp] at h
    exact .inl ⟨forwardLogin_path h, rfl⟩
  | some tls =>
    rw [hp] at h
    exact .inr (upgradeLogin_path hp h)

lemma path_declined_iff (h : p.login s = (.ok x, s')) : x.path = .declined ↔ p.Declines s := by
  rcases login_path h with ⟨hpath, hnone⟩ | ⟨hpath, hup⟩ | ⟨hpath, hdec⟩
  · simp [hpath, TCPProxy.Declines, hnone]
  · simp [hpath, not_declines_of_upgrades hup]
  · simp [hpath, hdec]

lemma path_upgraded_iff (h : p.login s = (.ok x, s')) : x.path = .upgraded ↔ p.Upgrades s := by
  rcases login_path h with ⟨hpath, hnone⟩ | ⟨hpath, hup⟩ | ⟨hpath, hdec⟩
  · simp [hpath, TCPProxy.Upgrades, hnone]
  · simp [hpath, hup]
  · have hno : ¬ p.Upgrades s := fun hup => not_declines_of_upgrades hup hdec
    simp [hpath, hno]

lemma handshake_eq (p : TCPProxy) :
    p.handshake = (do
      let login ← p.login
      let packets ← finishAuth login.path
      return (login, packets)) := by
  unfold TCPProxy.handshake TCPProxy.login
  cases p.tlsConfig <;> rfl

theorem handshake_ok {packets : List Bytes} :
    p.handshake s = (.ok (x, packets), s') ↔
      ∃ s₁, p.login s = (.ok x, s₁) ∧ finishAuth x.path s₁ = (.ok packets, s') := by
  rw [handshake_eq]
  simp only [bind_ok, pure_ok, Prod.mk.injEq]
  constructor
  · rintro ⟨login, s₁, hl, packets', s₂, hf, ⟨rfl, rfl⟩, rfl⟩
    exact ⟨s₁, hl, hf⟩
  · rintro ⟨s₁, hl, hf⟩
    exact ⟨x, s₁, hl, packets, s', hf, ⟨rfl, rfl⟩, rfl⟩

end Login

/-- Between the two states exactly the given packets were read from the two peers. -/
structure Takes (s : Session) (fromClient fromPrimary : List Bytes) (s' : Session) : Prop where
  client : s'.client.received = s.client.received ++ fromClient.flatten
  primary : s'.primary.received = s.primary.received ++ fromPrimary.flatten
  whole : ∀ packet ∈ fromClient ++ fromPrimary, WellFramed packet

section Takes
variable {s s₁ s' : Session} {packet : Bytes} {msg : String}

lemma Takes.trans {a a' b b' : List Bytes} (h : Takes s a b s₁) (h' : Takes s₁ a' b' s') :
    Takes s (a ++ a') (b ++ b') s' := by
  refine ⟨?_, ?_, ?_⟩
  · rw [h'.client, h.client, List.flatten_append, List.append_assoc]
  · rw [h'.primary, h.primary, List.flatten_append, List.append_assoc]
  · intro packet hp
    simp only [List.mem_append] at hp
    have hw := h.whole packet
    have hw' := h'.whole packet
    simp only [List.mem_append] at hw hw'
    tauto

lemma readPrimary_takes (h : readPrimary msg s = (.ok packet, s')) : Takes s [] [packet] s' := by
  obtain ⟨primary, hread, rfl⟩ := readPrimary_ok.mp h
  obtain ⟨hw, hr, -⟩ := readMySQLPacket_ok hread
  exact ⟨by simp, by simpa using hr, by simpa using hw⟩

lemma readClient_takes (h : readClient msg s = (.ok packet, s')) : Takes s [packet] [] s' := by
  obtain ⟨client, hread, rfl⟩ := readClient_ok.mp h
  obtain ⟨hw, hr, -⟩ := readMySQLPacket_ok hread
  exact ⟨by simpa using hr, by simp, by simpa using hw⟩

lemma writePrimary_takes {u : Unit} (h : writePrimary msg packet s = (.ok u, s')) :
    Takes s [] [] s' := by
  obtain ⟨primary, hwrite, rfl⟩ := writePrimary_ok.mp h
  exact ⟨by simp, by simpa using (write_ok hwrite).2, by simp⟩

lemma writeClient_takes {u : Unit} (h : writeClient msg packet s = (.ok u, s')) :
    Takes s [] [] s' := by
  obtain ⟨client, hwrite, rfl⟩ := writeClient_ok.mp h
  exact ⟨by simpa using (write_ok hwrite).2, by simp, by simp⟩

lemma relaySwitch_takes {final : Bytes} (h : relaySwitch packet s = (.ok final, s')) :
    ∃ answer, Takes s [answer] [final] s' := by
  unfold relaySwitch at h
  simp only [bind_ok] at h
  obtain ⟨_, s₁, hwrite, answer, s₂, hanswer, _, s₃, hwrite', hfinal⟩ := h
  exact ⟨answer, (writeClient_takes hwrite).trans ((readClient_takes hanswer).trans
    ((writePrimary_takes hwrite').trans (readPrimary_takes hfinal)))⟩

lemma deliverVerdict_takes {suffix : String} {before packets : List Bytes}
    (h : deliverVerdict suffix before packet s = (.ok packets, s')) :
    packets = before ++ [packet] ∧ Takes s [] [] s' := by
  unfold deliverVerdict at h
  simp only [bind_ok] at h
  obtain ⟨_, s₁, hwrite, h⟩ := h
  split_ifs at h with herr
  · exact absurd h fail_ok
  · obtain ⟨rfl, rfl⟩ := pure_ok.mp h
    exact ⟨rfl, writeClient_takes hwrite⟩

lemma relayAuth_takes {suffix : String} {packets : List Bytes}
    (h : relayAuth suffix s = (.ok packets, s')) : ∃ answers, Takes s answers packets s' := by
  unfold relayAuth at h
  simp only [bind_ok] at h
  obtain ⟨response, s₁, hread, h⟩ := h
  split_ifs at h with hswitch
  · simp only [bind_ok] at h
    obtain ⟨final, s₂, hrelay, hdeliver⟩ := h
    obtain ⟨answer, htakes⟩ := relaySwitch_takes hrelay
    obtain ⟨rfl, hend⟩ := deliverVerdict_takes hdeliver
    exact ⟨[answer], (readPrimary_takes hread).trans (by simpa using htakes.trans hend)⟩
  · obtain ⟨rfl, hend⟩ := deliverVerdict_takes h
    exact ⟨[], by simpa using (readPrimary_takes hread).trans hend⟩

lemma finishAuth_takes {path : Path} {packets : List Bytes}
    (h : finishAuth path s = (.ok packets, s')) : ∃ answers, Takes s answers packets s' := by
  cases path with
  | plain => exact relayAuth_takes h
  | declined => exact relayAuth_takes h
  | upgraded =>
    unfold finishAuth relayUpgradedAuth at h
    simp only [bind_ok] at h
    obtain ⟨response, s₁, hread, _, s₂, hwrite, hpure⟩ := h
    obtain ⟨rfl, rfl⟩ := pure_ok.mp hpure
    exact ⟨[], by simpa using (readPrimary_takes hread).trans (writeClient_takes hwrite)⟩

end Takes

/-- The connections after a successful handshake: exactly the packets of the handshake have been
read from them, those of the client since TLS was started if it was. -/
structure HandedOver (p : TCPProxy) (s : Session) (x : Login) (answers packets : List Bytes)
    (s' : Session) : Prop where
  primary : s'.primary.received = s.primary.received ++ (x.serverHandshake :: packets).flatten
  client : s'.client.received = s.client.received ++ (x.clientLogin :: answers).flatten ∨
    ∃ tls ∈ p.tlsConfig, ∃ c d, tls c = .ok d ∧
      s'.client.received = d.received ++ (x.clientLogin :: answers).flatten
  whole : ∀ packet ∈ (x.clientLogin :: answers) ++ (x.serverHandshake :: packets), WellFramed packet

theorem handshake_handedOver {p : TCPProxy} {s s' : Session} {x : Login} {packets : List Bytes}
    (h : p.handshake s = (.ok (x, packets), s')) :
    ∃ answers, HandedOver p s x answers packets s' := by
  obtain ⟨s₁, hlogin, hfinish⟩ := handshake_ok.mp h
  obtain ⟨-, c, d, hd⟩ := login_ok hlogin
  obtain ⟨answers, htakes⟩ := finishAuth_takes hfinish
  have hclient : s'.client.received = d.received ++ (x.clientLogin :: answers).flatten := by
    rw [htakes.client, hd.login, List.flatten_cons, List.append_assoc]
  refine ⟨answers, ?_, ?_, ?_⟩
  · rw [htakes.primary, hd.greeting, List.flatten_cons, List.append_assoc]
  · obtain rfl | ⟨tls, htls, c', -, hd'⟩ := hd.secured
    · exact .inl (hd.unread ▸ hclient)
    · exact .inr ⟨tls, htls, c', d, hd', hclient⟩
  · intro packet hp
    have hw := htakes.whole packet
    simp only [List.mem_append, List.mem_cons] at hp hw
    obtain (rfl | hp) | (rfl | hp) := hp
    · exact hd.whole.2
    · exact hw (.inl hp)
    · exact hd.whole.1
    · exact hw (.inr hp)

end ShadowProxy.MySQLHandshake
