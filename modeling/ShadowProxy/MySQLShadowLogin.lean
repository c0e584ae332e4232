import ShadowProxy.CheckedSlice
import ShadowProxy.MySQLAuth

/-! The login of the proxy at the shadow: the scramble is taken from the shadow's handshake, and the
password is proved against it. An index or slice out of bounds on the way is a panic, which nothing in
the proxy recovers from. -/
namespace ShadowProxy.MySQLShadowLogin
open WordBytes NetConn MySQLPacket MySQLAuth CheckedSlice

/-- The second part of a scramble is appended without its null bytes, up to a length of twenty. -/
def appendScramble : Bytes → Bytes → Bytes
  | scramble, [] => scramble
  | scramble, b :: scramble2 =>
    if scramble.length < 20 then
      appendScramble (if b ≠ 0 then scramble ++ [b] else scramble) scramble2
    else scramble

def extractScrambleFromHandshake (packet : Bytes) : Checked (Option Bytes) :=
  if packet.length < 5 then .ok none
  else do
    let pos ← scan (· ≠ 0) packet 5
    let pos := pos + 1
    if packet.length < pos + 4 then .ok none
    else
      let pos := pos + 4
      if packet.length < pos + 8 then .ok none
      else do
        let scramble1 ← slice packet pos (pos + 8 : ℕ)
        let pos := pos + 8 + 1 + 2 + 1 + 2 + 2
        if packet.length ≤ pos then .ok (some scramble1)
        else do
          let authPluginDataLen ← index packet pos
          let pos := pos + 1 + 10
          let scramble2Len : ℤ := authPluginDataLen.toNat - 8
          let scramble2Len := if scramble2Len < 12 then 12 else scramble2Len
          let scramble2Len : ℤ :=
            if packet.length < pos + scramble2Len then (packet.length : ℤ) - pos else scramble2Len
          let scramble2 ← slice packet pos (pos + scramble2Len)
          .ok (some (appendScramble scramble1 scramble2))

/-- SHA-1, of which only the length of its sums matters. -/
abbrev Sha1 := { f : Bytes → Bytes // ∀ x, (f x).length = 20 }

def xorBytes (x y : Bytes) : Bytes := List.zipWith (· ^^^ ·) x y

def mysqlNativePassword (sha1 : Sha1) (password scramble : Bytes) : Bytes :=
  if password = [] then []
  else
    let hash1 := sha1.1 password
    let hash2 := sha1.1 hash1
    let hash3 := sha1.1 (scramble ++ hash2)
    xorBytes hash1 hash3

structure LoginConfig where
  shadowUser : Bytes
  shadowPassword : Bytes
  shadowTLS : Option (Conn → Except Err Conn)

/-- What an SSL request and a login have in common: the flags, the maximal packet size, the charset
`utf8` and the reserved bytes. -/
def loginHead (caps : UInt32) : Bytes :=
  leBytes 4 caps.toNat ++ [0, 0, 0, 1] ++ [33] ++ List.replicate 23 0

def withHeader (seqNum : UInt8) (payload : Bytes) : Bytes :=
  leBytes 3 payload.length ++ seqNum :: payload

def sslRequest : Bytes := loginHead 0x00008A00

def loginCaps (cfg : LoginConfig) : UInt32 :=
  if cfg.shadowTLS.isSome then 0x00008200 ||| clientSSL else 0x00008200

/-- The length of the response to the scramble and the response; a zero without a password. -/
def authField (sha1 : Sha1) (cfg : LoginConfig) (scramble : Bytes) : Bytes :=
  let authResponse := mysqlNativePassword sha1 cfg.shadowPassword scramble
  if cfg.shadowPassword = [] then [0] else UInt8.ofNat authResponse.length :: authResponse

def authPacket (sha1 : Sha1) (cfg : LoginConfig) (scramble : Bytes) : Bytes :=
  loginHead (loginCaps cfg) ++ cfg.shadowUser ++ [0] ++ authField sha1 cfg scramble

/-- Step 2 of `authenticateWithShadow`: the sequence number of the login, or why there is none. -/
def upgradeShadow (cfg : LoginConfig) (conn : Conn) : Except Err UInt8 × Conn :=
  match cfg.shadowTLS with
  | none => (.ok 1, conn)
  | some tls =>
    match conn.write (withHeader 1 sslRequest) with
    | (some e, conn) => (.error (.wrap "failed to send SSL request to shadow" e), conn)
    | (none, conn) =>
      match tls conn with
      | .error e => (.error (.wrap "TLS handshake with shadow failed" e), conn)
      | .ok tlsConn => (.ok 2, tlsConn)

/-- Steps 4 and 5: the login is sent, and the shadow's verdict read. -/
def sendLogin (fullPacket : Bytes) (conn : Conn) : Option Err × Conn :=
  match conn.write fullPacket with
  | (some e, conn) => (some (.wrap "failed to send auth to shadow" e), conn)
  | (none, conn) =>
    match readMySQLPacket conn with
    | (.error e, conn) => (some (.wrap "failed to read auth response from shadow" e), conn)
    | (.ok response, conn) =>
      if response[4]? = some 0xFF then
        let errMsg :=
          if 13 < response.length then
            String.ofList ((response.drop 13).map fun b => Char.ofNat b.toNat)
          else "unknown error"
        (some (.errorf ("shadow auth failed: " ++ errMsg)), conn)
      else if response[4]? = some 0xFE then
        (some (.errorf "shadow requested auth switch, not supported"), conn)
      else (none, conn)

/-- The connection the worker goes on with, or the error and the connection as it was left. -/
def authenticateWithShadow (sha1 : Sha1) (cfg : LoginConfig) (conn : Conn) :
    Checked (Option Err × Conn) :=
  match readMySQLPacket conn with
  | (.error e, conn) => .ok (some (.wrap "failed to read handshake from shadow" e), conn)
  | (.ok handshake, conn) => do
    match ← extractScrambleFromHandshake handshake with
    | none => .ok (some (.errorf "failed to extract scramble from handshake"), conn)
    | some scramble =>
      match upgradeShadow cfg conn with
      | (.error e, conn) => .ok (some e, conn)
      | (.ok seqNum, conn) => .ok (sendLogin (withHeader seqNum (authPacket sha1 cfg scramble)) conn)

section Scramble
variable {packet : Bytes}

/-- Where the length of the auth plugin data stands in a server handshake. -/
def authDataLenPos (packet : Bytes) : ℕ := capabilityPos packet + 7

/-- The handshake ends behind that byte, but before the end of the reserved bytes. -/
def EndsInReserved (packet : Bytes) : Prop :=
  authDataLenPos packet < packet.length ∧ packet.length < authDataLenPos packet + 11

instance (packet : Bytes) : Decidable (EndsInReserved packet) := inferInstanceAs (Decidable (_ ∧ _))

lemma appendScramble_length {x : Bytes} (y : Bytes) (hx : x.length ≤ 20) :
    x.length ≤ (appendScramble x y).length ∧ (appendScramble x y).length ≤ 20 := by
  induction y generalizing x with
  | nil => exact ⟨le_rfl, hx⟩
  | cons b y ih =>
    rw [appendScramble]
    split_ifs with hlt hb
    · have hxb : (x ++ [b]).length = x.length + 1 := by simp
      have hi := ih (show (x ++ [b]).length ≤ 20 by omega)
      omega
    · exact ih hx
    · exact ⟨le_rfl, hx⟩

/-- The part of the scramble in front of the capability flags. -/
def firstScramble (packet : Bytes) : Bytes := (packet.drop (authDataLenPos packet - 16)).take 8

lemma firstScramble_length (h : authDataLenPos packet ≤ packet.length + 8) :
    (firstScramble packet).length = 8 := by
  have hpos : 26 ≤ authDataLenPos packet := by
    unfold authDataLenPos capabilityPos
    omega
  rw [firstScramble, List.length_take, List.length_drop]
  omega

lemma authDataLenPos_eq (packet : Bytes) :
    authDataLenPos packet = 5 + ((packet.drop 5).takeWhile (· ≠ 0)).length + 21 := by
  unfold authDataLenPos capabilityPos
  omega

lemma extractScramble_short (h : packet.length + 8 < authDataLenPos packet) :
    extractScrambleFromHandshake packet = .ok none := by
  rw [authDataLenPos_eq] at h
  unfold extractScrambleFromHandshake
  by_cases hlen : packet.length < 5
  · rw [if_pos hlen]
  · rw [if_neg hlen, scan_eq, ok_bind]
    dsimp only
    by_cases hid : packet.length < 5 + ((packet.drop 5).takeWhile (· ≠ 0)).length + 1 + 4
    · rw [if_pos hid]
    · rw [if_neg hid, if_pos (by omega)]

lemma extractScramble_first (h : authDataLenPos packet ≤ packet.length + 8) :
    extractScrambleFromHandshake packet =
      if packet.length ≤ authDataLenPos packet then .ok (some (firstScramble packet))
      else (do
        let authPluginDataLen ← index packet (authDataLenPos packet)
        let pos := authDataLenPos packet + 11
        let scramble2Len : ℤ := authPluginDataLen.toNat - 8
        let scramble2Len := if scramble2Len < 12 then 12 else scramble2Len
        let scramble2Len : ℤ :=
          if packet.length < pos + scramble2Len then (packet.length : ℤ) - pos else scramble2Len
        let scramble2 ← slice packet pos (pos + scramble2Len)
        .ok (some (appendScramble (firstScramble packet) scramble2))) := by
  have hpos := authDataLenPos_eq packet
  have hslice : ∀ n, n = authDataLenPos packet - 16 →
      slice packet (n : ℕ) (n + 8 : ℕ) = .ok (firstScramble packet) := by
    rintro n rfl
    rw [slice_ok (by omega) (by omega) (by omega), Int.toNat_natCast, Int.toNat_natCast,
      List.drop_take, firstScramble]
    congr
    omega
  unfold extractScrambleFromHandshake
  rw [if_neg (by omega), scan_eq, ok_bind]
  dsimp only
  rw [if_neg (by omega), if_neg (by omega), hslice _ (by omega), ok_bind]
  rw [hpos]

lemma extractScramble_second (h : authDataLenPos packet < packet.length) :
    ∃ k : ℤ, 12 ≤ k ∧ extractScrambleFromHandshake packet = (do
      let scramble2 ← slice packet (authDataLenPos packet + 11 : ℕ)
        ((authDataLenPos packet + 11 : ℕ) +
          if (packet.length : ℤ) < (authDataLenPos packet + 11 : ℕ) + k then
            (packet.length : ℤ) - (authDataLenPos packet + 11 : ℕ)
          else k)
      .ok (some (appendScramble (firstScramble packet) scramble2))) := by
  refine ⟨if ((packet[authDataLenPos packet].toNat : ℤ) - 8 < 12) then 12
    else (packet[authDataLenPos packet].toNat : ℤ) - 8, by split_ifs <;> omega, ?_⟩
  rw [extractScramble_first (by omega), if_neg (by omega), index_ok (List.getElem?_eq_getElem h),
    ok_bind]

/-- The length is computed as that of what is left, which is negative. -/
lemma extractScramble_endsInReserved (h : EndsInReserved packet) :
    extractScrambleFromHandshake packet = .error .inverted := by
  obtain ⟨hlt, hend⟩ := h
  obtain ⟨k, hk, heq⟩ := extractScramble_second hlt
  rw [heq, if_pos (by omega), slice_inverted (by omega), error_bind]

lemma extractScramble_whole (h : authDataLenPos packet + 11 ≤ packet.length) :
    ∃ k : ℕ, (12 ≤ k ∨ packet.length ≤ authDataLenPos packet + 11 + k) ∧
      extractScrambleFromHandshake packet = .ok (some (appendScramble (firstScramble packet)
        ((packet.drop (authDataLenPos packet + 11)).take k))) := by
  have hslice : ∀ k : ℕ, authDataLenPos packet + 11 + k ≤ packet.length →
      slice packet (authDataLenPos packet + 11 : ℕ) ((authDataLenPos packet + 11 : ℕ) + k) =
        .ok ((packet.drop (authDataLenPos packet + 11)).take k) := by
    intro k hk
    rw [slice_ok (by omega) (by omega) (by omega), Int.toNat_natCast, List.drop_take]
    congr
    omega
  have hlt : authDataLenPos packet < packet.length := by omega
  obtain ⟨k, hk, heq⟩ := extractScramble_second hlt
  by_cases hmore : (packet.length : ℤ) < (authDataLenPos packet + 11 : ℕ) + k
  · have hrest : (packet.length : ℤ) - (authDataLenPos packet + 11 : ℕ) =
        (packet.length - (authDataLenPos packet + 11) : ℕ) := by omega
    refine ⟨packet.length - (authDataLenPos packet + 11), .inr (by omega), ?_⟩
    rw [heq, if_pos hmore, hrest, hslice _ (by omega), ok_bind]
  · obtain ⟨n, rfl⟩ := Int.eq_ofNat_of_zero_le (by omega : 0 ≤ k)
    refine ⟨n, .inl (by omega), ?_⟩
    rw [heq, if_neg hmore, hslice _ (by omega), ok_bind]

lemma extractScramble_ok (h : ¬ EndsInReserved packet) :
    ∃ s, extractScrambleFromHandshake packet = .ok s ∧
      ∀ scramble ∈ s, 8 ≤ scramble.length ∧ scramble.length ≤ 20 := by
  by_cases hshort : packet.length + 8 < authDataLenPos packet
  · exact ⟨none, extractScramble_short hshort, by simp⟩
  · have hfirst := firstScramble_length (Nat.le_of_not_lt hshort)
    by_cases hend : packet.length ≤ authDataLenPos packet
    · refine ⟨some (firstScramble packet), ?_, ?_⟩
      · rw [extractScramble_first (by omega), if_pos hend]
      · rintro scramble ⟨⟩
        omega
    · have hlong : authDataLenPos packet + 11 ≤ packet.length := by
        unfold EndsInReserved at h
        omega
      obtain ⟨k, -, hwhole⟩ := extractScramble_whole hlong
      refine ⟨_, hwhole, ?_⟩
      rintro scramble ⟨⟩
      have := appendScramble_length ((packet.drop (authDataLenPos packet + 11)).take k)
        (show (firstScramble packet).length ≤ 20 by omega)
      omega

/-- The handshakes the extraction survives. Of the others it takes the whole proxy down. -/
theorem scramble_in_bounds_iff (packet : Bytes) (sha1 : Sha1) (cfg : LoginConfig) :
    ((∃ s, extractScrambleFromHandshake packet = .ok s ∧
      ∀ scramble ∈ s, 8 ≤ scramble.length ∧ scramble.length ≤ 20) ↔ ¬ EndsInReserved packet) ∧
    ∀ c c', readMySQLPacket c = (.ok packet, c') →
      ((∃ r, authenticateWithShadow sha1 cfg c = .ok r) ↔ ¬ EndsInReserved packet) := by
  refine ⟨⟨?_, extractScramble_ok⟩, fun c c' hread => ⟨?_, fun hok => ?_⟩⟩
  · rintro ⟨s, hs, -⟩ hend
    rw [extractScramble_endsInReserved hend] at hs
    cases hs
  · rintro ⟨r, hr⟩ hend
    simp only [authenticateWithShadow, hread, extractScramble_endsInReserved hend, error_bind] at hr
    cases hr
  · obtain ⟨s, hs, -⟩ := extractScramble_ok hok
    simp only [authenticateWithShadow, hread, hs, ok_bind]
    cases s with
    | none => exact ⟨_, rfl⟩
    | some scramble =>
      dsimp only
      rcases upgradeShadow cfg c' with ⟨e | seqNum, conn⟩
      · exact ⟨_, rfl⟩
      · exact ⟨_, rfl⟩

def sampleSha1 : Sha1 := ⟨fun _ => List.replicate 20 7, fun _ => List.length_replicate⟩

theorem scramble_in_bounds_short :
    ((∃ s, extractScrambleFromHandshake [5, 0, 0, 0, 10, 0, 1, 2, 3] = .ok s ∧
      ∀ scramble ∈ s, 8 ≤ scramble.length ∧ scramble.length ≤ 20) ↔
        ¬ EndsInReserved [5, 0, 0, 0, 10, 0, 1, 2, 3]) ∧
    ∀ c c', readMySQLPacket c = (.ok [5, 0, 0, 0, 10, 0, 1, 2, 3], c') →
      ((∃ r, authenticateWithShadow sampleSha1 ⟨[], [], none⟩ c = .ok r) ↔
        ¬ EndsInReserved [5, 0, 0, 0, 10, 0, 1, 2, 3]) :=
  scramble_in_bounds_iff _ _ _

/-- A handshake that ends with the length of the auth plugin data. -/
def cutHandshake : Bytes :=
  [23, 0, 0, 0, 10, 0, 1, 0, 0, 0, 1, 2, 3, 4, 5, 6, 7, 8, 0, 0, 0x82, 33, 2, 0, 0, 0, 21]

theorem handshake_ends_in_reserved :
    extractScrambleFromHandshake cutHandshake = .error .inverted ∧
    ∀ sha1 cfg, authenticateWithShadow sha1 cfg (.script [⟨cutHandshake, none⟩]) =
      .error .inverted := by
  have hend : EndsInReserved cutHandshake := by decide
  have hcut := extractScramble_endsInReserved hend
  refine ⟨hcut, fun sha1 cfg => ?_⟩
  obtain ⟨c', hread⟩ : ∃ c', readMySQLPacket (.script [⟨cutHandshake, none⟩]) =
      (.ok cutHandshake, c') := ⟨_, rfl⟩
  simp only [authenticateWithShadow, hread, hcut, error_bind]

end Scramble

/-- The initial handshake of a server: the packet header, the protocol version `10`, and the fields
behind it up to the second part of the scramble. What follows, the null byte and the name of the auth
plugin as a rule, is `tail`. `flags` are the two halves of the capability flags with the charset and
the status between them. -/
structure HandshakeV10 where
  header : Bytes
  version : Bytes
  connectionId : Bytes
  scramble1 : Bytes
  filler : UInt8
  flags : Bytes
  authDataLen : UInt8
  reserved : Bytes
  scramble2 : Bytes
  tail : Bytes
  header_length : header.length = 4
  version_nullFree : (0 : UInt8) ∉ version
  connectionId_length : connectionId.length = 4
  scramble1_length : scramble1.length = 8
  flags_length : flags.length = 7
  reserved_length : reserved.length = 10
  scramble2_length : scramble2.length = 12
  scramble2_nullFree : (0 : UInt8) ∉ scramble2

lemma takeWhile_nullFree {x : Bytes} (hx : (0 : UInt8) ∉ x) (y : Bytes) :
    (x ++ 0 :: y).takeWhile (· ≠ 0) = x := by
  have hall : ∀ b ∈ x, decide (b ≠ 0) = true := by
    intro b hb
    have hne : b ≠ 0 := by
      rintro rfl
      exact hx hb
    simpa using hne
  rw [List.takeWhile_append_of_pos hall]
  simp

namespace HandshakeV10
variable (h : HandshakeV10)

def scramble : Bytes := h.scramble1 ++ h.scramble2

def front : Bytes := h.header ++ 10 :: (h.version ++ 0 :: h.connectionId)

def middle : Bytes := h.filler :: (h.flags ++ h.authDataLen :: h.reserved)

def bytes : Bytes := h.front ++ (h.scramble1 ++ (h.middle ++ (h.scramble2 ++ h.tail)))

lemma front_length : h.front.length = h.version.length + 10 := by
  simp only [front, List.length_append, List.length_cons, h.header_length, h.connectionId_length]
  omega

lemma middle_length : h.middle.length = 19 := by
  simp only [middle, List.length_append, List.length_cons, h.flags_length, h.reserved_length]

lemma authDataLenPos_bytes : authDataLenPos h.bytes = h.version.length + 26 := by
  have hdrop : h.bytes.drop 5 =
      h.version ++ 0 :: (h.connectionId ++ (h.scramble1 ++ (h.middle ++ (h.scramble2 ++ h.tail)))) := by
    have hfive : (h.header ++ [10]).length = 5 := by simp [h.header_length]
    have hbytes : h.bytes = (h.header ++ [10]) ++ (h.version ++ 0 :: (h.connectionId ++
        (h.scramble1 ++ (h.middle ++ (h.scramble2 ++ h.tail))))) := by
      simp [bytes, front]
    rw [hbytes, ← hfive, List.drop_left]
  rw [authDataLenPos_eq, hdrop, takeWhile_nullFree h.version_nullFree]
  omega

lemma firstScramble_bytes : firstScramble h.bytes = h.scramble1 := by
  have hpos : authDataLenPos h.bytes - 16 = h.front.length := by
    rw [h.authDataLenPos_bytes, h.front_length]
    omega
  rw [firstScramble, hpos, bytes, List.drop_left, ← h.scramble1_length, List.take_left]

lemma drop_bytes : h.bytes.drop (authDataLenPos h.bytes + 11) = h.scramble2 ++ h.tail := by
  have hpos : authDataLenPos h.bytes + 11 = (h.front ++ (h.scramble1 ++ h.middle)).length := by
    simp only [h.authDataLenPos_bytes, List.length_append, h.front_length, h.scramble1_length,
      h.middle_length]
  have hbytes : h.bytes = (h.front ++ (h.scramble1 ++ h.middle)) ++ (h.scramble2 ++ h.tail) := by
    simp [bytes]
  rw [hpos, hbytes, List.drop_left]

end HandshakeV10

lemma appendScramble_full {x : Bytes} (y : Bytes) (hx : 20 ≤ x.length) : appendScramble x y = x := by
  cases y with
  | nil => rfl
  | cons b y => rw [appendScramble, if_neg (by omega)]

lemma appendScramble_append {x y : Bytes} (z : Bytes) (hy : (0 : UInt8) ∉ y)
    (hlen : x.length + y.length = 20) : appendScramble x (y ++ z) = x ++ y := by
  induction y generalizing x with
  | nil =>
    have hx : x.length = 20 := by simpa using hlen
    rw [List.nil_append, List.append_nil, appendScramble_full z hx.ge]
  | cons b y ih =>
    obtain ⟨hb, hy⟩ := not_or.mp (mt List.mem_cons.mpr hy)
    rw [List.length_cons] at hlen
    rw [List.cons_append, appendScramble, if_pos (by omega), if_pos (Ne.symm hb),
      ih hy (by rw [List.length_append, List.length_singleton]; omega), List.append_assoc,
      List.singleton_append]

/-- A complete handshake gives its scramble. -/
theorem extractScramble_handshake (h : HandshakeV10) :
    extractScrambleFromHandshake h.bytes = .ok (some h.scramble) := by
  have hlen : (h.bytes.drop (authDataLenPos h.bytes + 11)).length = 12 + h.tail.length := by
    rw [h.drop_bytes, List.length_append, h.scramble2_length]
  rw [List.length_drop] at hlen
  obtain ⟨k, hk, hwhole⟩ := extractScramble_whole (show authDataLenPos h.bytes + 11 ≤ h.bytes.length by omega)
  have h12 : 12 ≤ k := by omega
  rw [hwhole, h.firstScramble_bytes, h.drop_bytes, List.take_append, h.scramble2_length,
    List.take_of_length_le (by rw [h.scramble2_length]; exact h12),
    appendScramble_append _ h.scramble2_nullFree (by rw [h.scramble1_length, h.scramble2_length])]
  rfl

/-- A login as a server decodes it. -/
structure HandshakeResponse41 where
  capabilities : UInt32
  maxPacketSize : ℕ
  charset : UInt8
  user : Bytes
  authResponse : Bytes
  deriving DecidableEq, Repr

/-- `CLIENT_PROTOCOL_41` and `CLIENT_SECURE_CONNECTION`, under which the auth response comes behind
one byte with its length. -/
def secureLogin : UInt32 := 0x00008200

/-- The flags that change the layout or add fields: `CLIENT_CONNECT_WITH_DB`, `CLIENT_PLUGIN_AUTH`,
`CLIENT_CONNECT_ATTRS` and `CLIENT_PLUGIN_AUTH_LENENC_CLIENT_DATA`. -/
def extendedLogin : UInt32 := 0x00380008

def decodeLogin (packet : Bytes) : Option HandshakeResponse41 :=
  let body := packet.drop 36
  let user := body.takeWhile (· ≠ 0)
  match body.drop user.length with
  | 0 :: n :: authResponse =>
    if capabilities packet &&& secureLogin = secureLogin ∧ capabilities packet &&& extendedLogin = 0 ∧
        authResponse.length = n.toNat then
      some ⟨capabilities packet, leNat ((packet.drop 8).take 4), packet.getD 12 0, user, authResponse⟩
    else none
  | _ => none

def storedPassword (sha1 : Sha1) (password : Bytes) : Option Bytes :=
  if password = [] then none else some (sha1.1 (sha1.1 password))

/-- The check of `mysql_native_password`; an account without a password takes no response. -/
def Accepts (sha1 : Sha1) (scramble : Bytes) : Option Bytes → Bytes → Prop
  | none, response => response = []
  | some stored, response =>
    response.length = 20 ∧ sha1.1 (xorBytes response (sha1.1 (scramble ++ stored))) = stored

section Login
variable (sha1 : Sha1) (cfg : LoginConfig) (scramble : Bytes)

lemma xorBytes_cancel {x y : Bytes} (h : x.length = y.length) : xorBytes (xorBytes x y) y = x := by
  induction x generalizing y with
  | nil => rfl
  | cons a x ih =>
    cases y with
    | nil => cases h
    | cons b y =>
      have hab : a ^^^ b ^^^ b = a := by rw [UInt8.xor_assoc, UInt8.xor_self, UInt8.xor_zero]
      have hi := ih (Nat.succ.inj h)
      simp only [xorBytes, List.zipWith_cons_cons, List.cons.injEq] at hi ⊢
      exact ⟨hab, hi⟩

lemma mysqlNativePassword_length {password : Bytes} (h : password ≠ []) :
    (mysqlNativePassword sha1 password scramble).length = 20 := by
  simp [mysqlNativePassword, h, xorBytes, sha1.2]

lemma mysqlNativePassword_accepted (password : Bytes) :
    Accepts sha1 scramble (storedPassword sha1 password)
      (mysqlNativePassword sha1 password scramble) := by
  by_cases h : password = []
  · simp [storedPassword, mysqlNativePassword, h, Accepts]
  · rw [storedPassword, if_neg h]
    refine ⟨mysqlNativePassword_length sha1 scramble h, ?_⟩
    rw [mysqlNativePassword, if_neg h, xorBytes_cancel (by rw [sha1.2, sha1.2])]

lemma loginHead_length (caps : UInt32) : (loginHead caps).length = 32 := by
  simp [loginHead]

lemma withHeader_wellFramed (seqNum : UInt8) (payload : Bytes) :
    WellFramed (withHeader seqNum payload) ↔ payload.length < 2 ^ 24 := by
  have htake : (withHeader seqNum payload).take 3 = leBytes 3 payload.length := by
    simp [withHeader]
  have hlen : (withHeader seqNum payload).length = 4 + payload.length := by
    simp [withHeader]
    omega
  rw [WellFramed, payloadLen, htake, hlen, leNat_leBytes]
  omega

lemma authField_eq :
    authField sha1 cfg scramble = UInt8.ofNat (mysqlNativePassword sha1 cfg.shadowPassword scramble).length ::
      mysqlNativePassword sha1 cfg.shadowPassword scramble := by
  by_cases h : cfg.shadowPassword = []
  · simp [authField, h, mysqlNativePassword]
  · simp [authField, h]

lemma authPacket_eq :
    authPacket sha1 cfg scramble =
      loginHead (loginCaps cfg) ++ (cfg.shadowUser ++ 0 :: authField sha1 cfg scramble) := by
  simp [authPacket]

lemma authPacket_length :
    (authPacket sha1 cfg scramble).length =
      34 + cfg.shadowUser.length + if cfg.shadowPassword = [] then 0 else 20 := by
  have hfield : (authField sha1 cfg scramble).length =
      1 + if cfg.shadowPassword = [] then 0 else 20 := by
    split_ifs with h
    · simp [authField, h]
    · rw [authField_eq, List.length_cons, mysqlNativePassword_length sha1 scramble h]
  rw [authPacket_eq, List.length_append, List.length_append, List.length_cons, loginHead_length, hfield]
  omega

lemma capabilities_login (seqNum : UInt8) (payload : Bytes) :
    capabilities (withHeader seqNum (loginHead (loginCaps cfg) ++ payload)) = loginCaps cfg := by
  cases h : cfg.shadowTLS with
  | none => simp [capabilities, withHeader, loginHead, loginCaps, h, leBytes]; decide
  | some tls => simp [capabilities, withHeader, loginHead, loginCaps, h, leBytes]; decide

lemma decodeLogin_authPacket (seqNum : UInt8) (hu : (0 : UInt8) ∉ cfg.shadowUser) :
    decodeLogin (withHeader seqNum (authPacket sha1 cfg scramble)) =
      some ⟨loginCaps cfg, 2 ^ 24, 33, cfg.shadowUser,
        mysqlNativePassword sha1 cfg.shadowPassword scramble⟩ := by
  have hbody : (withHeader seqNum (authPacket sha1 cfg scramble)).drop 36 =
      cfg.shadowUser ++ 0 :: authField sha1 cfg scramble := by
    rw [authPacket_eq]
    simp [withHeader, loginHead, leBytes]
  have hcaps : capabilities (withHeader seqNum (authPacket sha1 cfg scramble)) = loginCaps cfg := by
    rw [authPacket_eq, capabilities_login]
  have hmax : leNat (((withHeader seqNum (authPacket sha1 cfg scramble)).drop 8).take 4) = 2 ^ 24 := by
    rw [authPacket_eq]
    simp [withHeader, loginHead, leBytes]
    decide
  have hcharset : (withHeader seqNum (authPacket sha1 cfg scramble)).getD 12 0 = 33 := by
    rw [authPacket_eq]
    simp [withHeader, loginHead, leBytes]
  have hsecure : loginCaps cfg &&& secureLogin = secureLogin ∧ loginCaps cfg &&& extendedLogin = 0 := by
    unfold loginCaps
    split_ifs <;> decide
  have hlen : (mysqlNativePassword sha1 cfg.shadowPassword scramble).length =
      (UInt8.ofNat (mysqlNativePassword sha1 cfg.shadowPassword scramble).length).toNat := by
    by_cases h : cfg.shadowPassword = []
    · simp [mysqlNativePassword, h]
    · rw [mysqlNativePassword_length sha1 scramble h]
      rfl
  simp only [decodeLogin, hbody, takeWhile_nullFree hu, List.drop_left, hcaps, hmax, hcharset,
    authField_eq]
  rw [if_pos ⟨hsecure.1, hsecure.2, hlen⟩]

end Login

section Run
variable {c c' conn : Conn}

lemma readMySQLPacket_sent (c : Conn) : (readMySQLPacket c).2.sent = c.sent := by
  unfold readMySQLPacket
  rcases hh : c.readFull 4 with ⟨e | header, c₁⟩
  · obtain ⟨-, -, hreads⟩ := readFull_error hh
    exact hreads.sent
  · obtain ⟨-, -, hreads⟩ := readFull_ok hh
    rcases hb : c₁.readFull (payloadLen header) with ⟨e | body, c₂⟩
    · obtain ⟨-, -, hreads'⟩ := readFull_error hb
      simp only [hb]
      exact hreads'.sent.trans hreads.sent
    · obtain ⟨-, -, hreads'⟩ := readFull_ok hb
      simp only [hb]
      exact hreads'.sent.trans hreads.sent

lemma sendLogin_sent {fullPacket : Bytes} (h : conn.writable ≠ some 0) :
    (sendLogin fullPacket conn).2.sent = conn.sent ++ [fullPacket] := by
  obtain ⟨conn', hwrite⟩ : ∃ conn', conn.write fullPacket = (none, conn') := by
    unfold Conn.write
    split
    · contradiction
    · exact ⟨_, rfl⟩
  rw [← (write_ok hwrite).1, ← readMySQLPacket_sent conn']
  simp only [sendLogin, hwrite]
  rcases readMySQLPacket conn' with ⟨e | response, d⟩
  · rfl
  · dsimp only
    split_ifs <;> rfl

end Run

/-- From a complete handshake the proxy takes the scramble, and the login it then sends has the user
name and a response the server accepts. Its header has the right length if and only if three bytes
are enough for it. -/
theorem shadow_login_accepted (sha1 : Sha1) (h : HandshakeV10) (cfg : LoginConfig)
    (hu : (0 : UInt8) ∉ cfg.shadowUser) {c c' conn : Conn} {seqNum : UInt8}
    (hread : readMySQLPacket c = (.ok h.bytes, c'))
    (hup : upgradeShadow cfg c' = (.ok seqNum, conn)) (hw : conn.writable ≠ some 0) :
    extractScrambleFromHandshake h.bytes = .ok (some h.scramble) ∧
    ∃ err d packet login, authenticateWithShadow sha1 cfg c = .ok (err, d) ∧
      d.sent = conn.sent ++ [packet] ∧ decodeLogin packet = some login ∧
      login.user = cfg.shadowUser ∧
      Accepts sha1 h.scramble (storedPassword sha1 cfg.shadowPassword) login.authResponse ∧
      (WellFramed packet ↔
        34 + cfg.shadowUser.length + (if cfg.shadowPassword = [] then 0 else 20) < 2 ^ 24) := by
  have hscramble := extractScramble_handshake h
  refine ⟨hscramble, (sendLogin (withHeader seqNum (authPacket sha1 cfg h.scramble)) conn).1, _, _, _,
    ?_, sendLogin_sent hw, decodeLogin_authPacket sha1 cfg h.scramble seqNum hu, rfl,
    mysqlNativePassword_accepted sha1 h.scramble _, ?_⟩
  · simp only [authenticateWithShadow, hread, hscramble, ok_bind, hup]
  · rw [withHeader_wellFramed, authPacket_length]

def sampleHandshake : HandshakeV10 where
  header := [47, 0, 0, 0]
  version := [56]
  connectionId := [1, 0, 0, 0]
  scramble1 := [1, 2, 3, 4, 5, 6, 7, 8]
  filler := 0
  flags := [0, 0x82, 33, 2, 0, 0, 0]
  authDataLen := 21
  reserved := [0, 0, 0, 0, 0, 0, 0, 0, 0, 0]
  scramble2 := [9, 10, 11, 12, 13, 14, 15, 16, 17, 18, 19, 20]
  tail := [0]
  header_length := rfl
  version_nullFree := by decide
  connectionId_length := rfl
  scramble1_length := rfl
  flags_length := rfl
  reserved_length := rfl
  scramble2_length := rfl
  scramble2_nullFree := by decide

theorem shadow_login_accepted_sample :
    extractScrambleFromHandshake sampleHandshake.bytes = .ok (some sampleHandshake.scramble) ∧
    ∃ err d packet login,
      authenticateWithShadow sampleSha1 ⟨[117], [112], none⟩
        (.script [⟨sampleHandshake.bytes, none⟩]) = .ok (err, d) ∧
      d.sent = [] ++ [packet] ∧ decodeLogin packet = some login ∧ login.user = [117] ∧
      Accepts sampleSha1 sampleHandshake.scramble (storedPassword sampleSha1 [112])
        login.authResponse ∧
      (WellFramed packet ↔
        34 + [(117 : UInt8)].length + (if [(112 : UInt8)] = [] then 0 else 20) < 2 ^ 24) := by
  have hread : readMySQLPacket (.script [⟨sampleHandshake.bytes, none⟩]) =
      (.ok sampleHandshake.bytes, ⟨[], sampleHandshake.bytes, [], fun _ => [], none⟩) := rfl
  exact shadow_login_accepted sampleSha1 sampleHandshake ⟨[117], [112], none⟩ (by decide) hread rfl
    (by simp)

lemma long_user_unframed (sha1 : Sha1) {user : Bytes} (hlen : user.length = 2 ^ 24) (scramble : Bytes)
    (seqNum : UInt8) : ¬ WellFramed (withHeader seqNum (authPacket sha1 ⟨user, [], none⟩ scramble)) := by
  rw [withHeader_wellFramed, authPacket_length, hlen]
  omega

/-- The name is `u`, 2 ^ 24 times. -/
theorem login_of_long_user :
    (0 : UInt8) ∉ List.replicate (2 ^ 24) (117 : UInt8) ∧
      ∀ sha1 scramble seqNum, ¬ WellFramed (withHeader seqNum
        (authPacket sha1 ⟨List.replicate (2 ^ 24) 117, [], none⟩ scramble)) :=
  ⟨fun h => absurd (List.eq_of_mem_replicate h) (by decide),
    fun sha1 => long_user_unframed sha1 List.length_replicate⟩

end ShadowProxy.MySQLShadowLogin
