import ShadowProxy.PgQueryLoop

/-! The phases of a PostgreSQL connection before the query loop: the probes and the first packet of
the client, and the authentication, which is relayed. -/
namespace ShadowProxy.PgStartup
open WordBytes NetConn PgProtocol PgQueryLoop

def pgMagicSSLRequest : ℕ := 80877103

def pgMagicCancelRequest : ℕ := 80877102

def pgMagicGSSENCRequest : ℕ := 80877104

/-- `fmt.Errorf("invalid startup length: %d", length)`. -/
def invalidStartupLength (length : ℕ) : Err :=
  .errorf ("invalid startup length: " ++ toString length)

def readStartupMessage (conn : Conn) : Except Err PgPacket × Conn :=
  match conn.readFull 4 with
  | (.error e, conn) => (.error e, conn)
  | (.ok header, conn) =>
    let length := beNat header
    if length < 8 ∨ pgMaxMessageSize < length then (.error (invalidStartupLength length), conn)
    else
      match conn.readFull (length - 4) with
      | (.error e, conn) => (.error e, conn)
      | (.ok body, conn) => (.ok ⟨0, header ++ body⟩, conn)

/-- A startup packet of the given length with the given magic number. -/
def isStartupRequest (length magic : ℕ) (p : PgPacket) : Bool :=
  p.msgType = 0 ∧ p.payload.length = length ∧ beNat ((p.payload.drop 4).take 4) = magic

def isSSLRequest : PgPacket → Bool := isStartupRequest 8 pgMagicSSLRequest

def isGSSENCRequest : PgPacket → Bool := isStartupRequest 8 pgMagicGSSENCRequest

def isCancelRequest : PgPacket → Bool := isStartupRequest 16 pgMagicCancelRequest

/-- The outcome of the TLS handshake is that of `handshake`. The connection stands for the byte stream
that it carries, before and after the upgrade. -/
def upgradeClientTLS (handshake : Conn → Option Err) (client : Conn) : Option Err × Conn :=
  match client.write [0x53] with
  | (some e, client) => (some (.wrap "write SSLRequest 'S' ack to client" e), client)
  | (none, client) => ((handshake client).map (.wrap "client TLS handshake"), client)

/-- Where an iteration of `forwardStartup` leads. -/
inductive StartupNext
  | again
  | cancelled
  | started (startup : PgPacket)
  | upgradeFailed (e : Err)
  | failed (e : Err)

def rejectProbe (what : String) (client primary : Conn) : StartupNext × Conn × Conn :=
  match client.write [0x4E] with
  | (some e, client) => (.failed (.wrap what e), client, primary)
  | (none, client) => (.again, client, primary)

/-- One iteration of the loop of `forwardStartup`. -/
def forwardStartupTurn (listenerTLS : Option (Conn → Option Err)) (client primary : Conn) :
    StartupNext × Conn × Conn :=
  match readStartupMessage client with
  | (.error e, client) => (.failed (.wrap "read startup from client" e), client, primary)
  | (.ok startup, client) =>
    if isSSLRequest startup then
      match listenerTLS with
      | some handshake =>
        match upgradeClientTLS handshake client with
        | (some e, client) => (.upgradeFailed e, client, primary)
        | (none, client) => (.again, client, primary)
      | none => rejectProbe "write 'N' SSL reject to client" client primary
    else if isGSSENCRequest startup then
      rejectProbe "write 'N' GSSENC reject to client" client primary
    else if isCancelRequest startup then
      match primary.write startup.payload with
      | (some e, primary) => (.failed (.wrap "forward cancel to primary" e), client, primary)
      | (none, primary) => (.cancelled, client, primary)
    else
      match primary.write startup.payload with
      | (some e, primary) => (.failed (.wrap "forward startup to primary" e), client, primary)
      | (none, primary) => (.started startup, client, primary)

/-- Where an iteration of `forwardAuthPhase` leads; `rejected` is an ErrorResponse. -/
inductive AuthNext
  | again
  | ready
  | rejected
  | failed (e : Err)

def forwardPassword (code : ℕ) (client primary : Conn) : AuthNext × Conn × Conn :=
  let inCode := " (auth code " ++ toString code ++ ")"
  match readMessage client with
  | (.error e, client) =>
    (.failed (.wrap ("read password msg from client" ++ inCode) e), client, primary)
  | (.ok pwMsg, client) =>
    match primary.write pwMsg.bytes with
    | (some e, primary) =>
      (.failed (.wrap ("forward password to primary" ++ inCode) e), client, primary)
    | (none, primary) => (.again, client, primary)

/-- One iteration of the loop of `forwardAuthPhase`. -/
def forwardAuthTurn (client primary : Conn) : AuthNext × Conn × Conn :=
  match readMessage primary with
  | (.error e, primary) => (.failed (.wrap "read auth msg from primary" e), client, primary)
  | (.ok msg, primary) =>
    match client.write msg.bytes with
    | (some e, client) => (.failed (.wrap "forward auth msg to client" e), client, primary)
    | (none, client) =>
      if msg.msgType = pgBackendAuthRequest then
        if msg.payload.length < 8 then
          (.failed (.errorf "malformed AuthenticationRequest"), client, primary)
        else
          let code := beNat ((msg.payload.drop 4).take 4)
          if code = 0 ∨ code = 12 then (.again, client, primary)
          else forwardPassword code client primary
      else if msg.msgType = pgBackendReadyForQuery then (.ready, client, primary)
      else if msg.msgType = pgBackendErrorResponse then (.rejected, client, primary)
      else (.again, client, primary)

/-- A startup packet with a right length field. -/
structure StartupPacket (packet : Bytes) : Prop where
  header : 8 ≤ packet.length
  bounded : packet.length ≤ pgMaxMessageSize
  length : beNat (packet.take 4) = packet.length

lemma readStartupMessage_ok {c c' : Conn} {p : PgPacket} (h : readStartupMessage c = (.ok p, c')) :
    p.msgType = 0 ∧ StartupPacket p.payload ∧ c'.received = c.received ++ p.payload ∧ Reads c c' := by
  unfold readStartupMessage at h
  rcases hh : c.readFull 4 with ⟨e | header, c₁⟩
  · simp [hh] at h
  · obtain ⟨hl, hr, hs⟩ := readFull_ok hh
    simp only [hh] at h
    split_ifs at h with hbad
    · simp at h
    · push Not at hbad
      rcases hb : c₁.readFull (beNat header - 4) with ⟨e | body, c₂⟩
      · simp [hb] at h
      · obtain ⟨hl', hr', hs'⟩ := readFull_ok hb
        simp only [hb, Prod.mk.injEq, Except.ok.injEq] at h
        obtain ⟨rfl, rfl⟩ := h
        have hlen : (header ++ body).length = beNat header := by
          rw [List.length_append, hl, hl']
          omega
        have htake : (header ++ body).take 4 = header := by rw [← hl, List.take_left]
        refine ⟨rfl, ⟨hlen ▸ hbad.1, hlen ▸ hbad.2, by rw [htake, hlen]⟩, ?_, hs.trans hs'⟩
        rw [hr', hr, List.append_assoc]

lemma readStartupMessage_error {c c' : Conn} {e : Err} (h : readStartupMessage c = (.error e, c')) :
    ∃ new, c'.received = c.received ++ new ∧ Reads c c' := by
  unfold readStartupMessage at h
  rcases hh : c.readFull 4 with ⟨e' | header, c₁⟩
  · simp only [hh, Prod.mk.injEq] at h
    obtain ⟨-, rfl⟩ := h
    exact readFull_error hh
  · obtain ⟨-, hr, hs⟩ := readFull_ok hh
    simp only [hh] at h
    split_ifs at h with hbad
    · obtain ⟨-, rfl⟩ := Prod.mk.inj h
      exact ⟨_, hr, hs⟩
    · rcases hb : c₁.readFull (beNat header - 4) with ⟨e' | body, c₂⟩
      · simp only [hb, Prod.mk.injEq] at h
        obtain ⟨-, rfl⟩ := h
        obtain ⟨new, hr', hs'⟩ := readFull_error hb
        exact ⟨header ++ new, by rw [hr', hr, List.append_assoc], hs.trans hs'⟩
      · rw [hb] at h
        simp at h

def isProbe (packet : Bytes) : Bool :=
  beNat (packet.take 4) = 8 ∧ (isSSLRequest ⟨0, packet⟩ = true ∨ isGSSENCRequest ⟨0, packet⟩ = true)

def probeAnswer (listenerTLS : Option (Conn → Option Err)) (packet : Bytes) : Bytes :=
  if listenerTLS.isSome ∧ isSSLRequest ⟨0, packet⟩ = true then [0x53] else [0x4E]

/-- The probe packets at the beginning of a stream, and what follows them. -/
def splitProbes : Bytes → List Bytes × Bytes
  | a :: b :: c :: d :: e :: f :: g :: h :: rest =>
    if isProbe [a, b, c, d, e, f, g, h] then
      ([a, b, c, d, e, f, g, h] :: (splitProbes rest).1, (splitProbes rest).2)
    else ([], a :: b :: c :: d :: e :: f :: g :: h :: rest)
  | bs => ([], bs)

def probes (bs : Bytes) : List Bytes := (splitProbes bs).1

def skipProbes (bs : Bytes) : Bytes := (splitProbes bs).2

lemma isProbe_length {packet : Bytes} (h : isProbe packet = true) : packet.length = 8 := by
  simp only [isProbe, isSSLRequest, isGSSENCRequest, isStartupRequest, decide_eq_true_eq] at h
  rcases h.2 with h | h <;> exact h.2.1

lemma splitProbes_probe {packet : Bytes} (h : isProbe packet = true) (rest : Bytes) :
    splitProbes (packet ++ rest) = (packet :: (splitProbes rest).1, (splitProbes rest).2) := by
  match packet, isProbe_length h with
  | [a, b, c, d, e, f, g, i], _ => simp [splitProbes, h]

lemma splitProbes_probes {packets : List Bytes} (h : ∀ p ∈ packets, isProbe p = true) (rest : Bytes) :
    splitProbes (packets.flatten ++ rest) = (packets ++ (splitProbes rest).1, (splitProbes rest).2) := by
  induction packets with
  | nil => rfl
  | cons p packets ih =>
    obtain ⟨hp, hpackets⟩ := List.forall_mem_cons.mp h
    rw [List.flatten_cons, List.append_assoc, splitProbes_probe hp, ih hpackets]
    rfl

lemma splitProbes_startup {packet : Bytes} (h : StartupPacket packet) (hp : isProbe packet = false)
    (rest : Bytes) : splitProbes (packet ++ rest) = ([], packet ++ rest) := by
  match packet, h.header with
  | a :: b :: c :: d :: e :: f :: g :: i :: more, _ =>
    have hnot : isProbe [a, b, c, d, e, f, g, i] = false := by
      by_contra hprobe
      have hlen : beNat [a, b, c, d] = 8 := by
        simp only [isProbe, Bool.not_eq_false, decide_eq_true_eq] at hprobe
        exact hprobe.1
      have hlength := h.length
      simp only [List.take_succ_cons, List.take_zero, hlen] at hlength
      obtain rfl : more = [] := by
        rw [← List.length_eq_zero_iff]
        simp only [List.length_cons] at hlength
        omega
      exact hprobe hp
    simp [splitProbes, hnot]

section Turn
variable {listenerTLS : Option (Conn → Option Err)} {client primary : Conn}

/-- A probe was read and answered. -/
structure Probed (listenerTLS : Option (Conn → Option Err)) (client client' : Conn) (packet : Bytes) :
    Prop where
  probe : isProbe packet = true
  received : client'.received = client.received ++ packet
  sent : client'.sent = client.sent ++ [probeAnswer listenerTLS packet]

def Stopped (client client' : Conn) : Prop :=
  ∃ new, client'.received = client.received ++ new ∧ client'.sent = client.sent

/-- The first packet was read and passed on. -/
structure PassedOn (client primary client' primary' : Conn) (packet : Bytes) : Prop where
  startup : StartupPacket packet
  notProbe : isProbe packet = false
  received : client'.received = client.received ++ packet
  sent : client'.sent = client.sent
  toPrimary : primary'.sent = primary.sent ++ [packet]
  fromPrimary : primary'.received = primary.received

/-- What an iteration of `forwardStartup` has done. -/
def TurnDone (listenerTLS : Option (Conn → Option Err)) (client primary client' primary' : Conn) :
    StartupNext → Prop
  | .again => primary' = primary ∧ ∃ packet, Probed listenerTLS client client' packet
  | .cancelled => ∃ packet, isCancelRequest ⟨0, packet⟩ = true ∧
      PassedOn client primary client' primary' packet
  | .started startup => isCancelRequest ⟨0, startup.payload⟩ = false ∧
      PassedOn client primary client' primary' startup.payload
  | .upgradeFailed _ => primary' = primary ∧
      (Stopped client client' ∨ ∃ packet, Probed listenerTLS client client' packet)
  | .failed _ => primary' = primary ∧ Stopped client client'

lemma isProbe_of_request {packet : Bytes} (hpacket : StartupPacket packet)
    (h : isSSLRequest ⟨0, packet⟩ = true ∨ isGSSENCRequest ⟨0, packet⟩ = true) :
    isProbe packet = true := by
  have hlen : packet.length = 8 := by
    simp only [isSSLRequest, isGSSENCRequest, isStartupRequest, decide_eq_true_eq] at h
    rcases h with h | h <;> exact h.2.1
  simp [isProbe, hpacket.length, hlen, h]

lemma rejectProbe_spec (what : String) {c : Conn} {packet : Bytes} (hreads : Reads client c)
    (hrec : c.received = client.received ++ packet) (hprobe : isProbe packet = true)
    (hanswer : probeAnswer listenerTLS packet = [0x4E]) :
    let r := rejectProbe what c primary
    TurnDone listenerTLS client primary r.2.1 r.2.2 r.1 := by
  unfold rejectProbe
  rcases hw : c.write [0x4E] with ⟨_ | e, c'⟩
  · obtain ⟨hsent, hrec'⟩ := write_ok hw
    exact ⟨rfl, packet, hprobe, hrec'.trans hrec, by rw [hanswer, hsent, hreads.sent]⟩
  · obtain rfl := write_error hw
    exact ⟨rfl, packet, hrec, hreads.sent⟩

lemma forwardStartupTurn_spec (listenerTLS : Option (Conn → Option Err)) (client primary : Conn) :
    let r := forwardStartupTurn listenerTLS client primary
    TurnDone listenerTLS client primary r.2.1 r.2.2 r.1 := by
  unfold forwardStartupTurn
  rcases hr : readStartupMessage client with ⟨e | startup, c⟩
  · obtain ⟨new, hrec, hreads⟩ := readStartupMessage_error hr
    exact ⟨rfl, new, hrec, hreads.sent⟩
  · obtain ⟨htype, hpacket, hrec, hreads⟩ := readStartupMessage_ok hr
    obtain ⟨t, payload⟩ := startup
    obtain rfl : t = 0 := htype
    dsimp only at hpacket hrec ⊢
    split_ifs with hssl hgss hcancel
    · have hprobe := isProbe_of_request hpacket (.inl hssl)
      cases listenerTLS with
      | none => exact rejectProbe_spec _ hreads hrec hprobe (by simp [probeAnswer])
      | some handshake =>
        dsimp only [upgradeClientTLS]
        have hanswer : probeAnswer (some handshake) payload = [0x53] := by simp [probeAnswer, hssl]
        rcases hw : c.write [0x53] with ⟨_ | e, c'⟩
        · obtain ⟨hsent, hrec'⟩ := write_ok hw
          have hdone : Probed (some handshake) client c' payload :=
            ⟨hprobe, hrec'.trans hrec, by rw [hanswer, hsent, hreads.sent]⟩
          cases hh : handshake c' with
          | none => simpa [hh] using ⟨rfl, payload, hdone⟩
          | some e => simpa [hh] using ⟨rfl, .inr ⟨payload, hdone⟩⟩
        · obtain rfl := write_error hw
          exact ⟨rfl, .inl ⟨payload, hrec, hreads.sent⟩⟩
    · have hprobe := isProbe_of_request hpacket (.inr hgss)
      exact rejectProbe_spec _ hreads hrec hprobe (by simp [probeAnswer, hssl])
    · have hnot : isProbe payload = false := by simp [isProbe, hssl, hgss]
      rcases hw : primary.write payload with ⟨_ | e, p⟩
      · obtain ⟨hsent, hrec'⟩ := write_ok hw
        exact ⟨payload, hcancel, hpacket, hnot, hrec, hreads.sent, hsent, hrec'⟩
      · exact ⟨write_error hw, payload, hrec, hreads.sent⟩
    · have hnot : isProbe payload = false := by simp [isProbe, hssl, hgss]
      rcases hw : primary.write payload with ⟨_ | e, p⟩
      · obtain ⟨hsent, hrec'⟩ := write_ok hw
        exact ⟨by simpa using hcancel, hpacket, hnot, hrec, hreads.sent, hsent, hrec'⟩
      · exact ⟨write_error hw, payload, hrec, hreads.sent⟩

end Turn

end ShadowProxy.PgStartup
