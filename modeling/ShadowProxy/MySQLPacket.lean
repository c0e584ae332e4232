import ShadowProxy.NetConn

/-! MySQL command bytes, the packet frame (three length bytes, a sequence number, the
payload) and the unbuffered packet reader used during the handshake. -/
namespace ShadowProxy.MySQLPacket
open WordBytes NetConn

def comSleep : UInt8 := 0x00
def comQuit : UInt8 := 0x01
def comInitDB : UInt8 := 0x02
def comQuery : UInt8 := 0x03
def comFieldList : UInt8 := 0x04
def comCreateDB : UInt8 := 0x05
def comDropDB : UInt8 := 0x06
def comRefresh : UInt8 := 0x07
def comShutdown : UInt8 := 0x08
def comStatistics : UInt8 := 0x09
def comProcessInfo : UInt8 := 0x0A
def comConnect : UInt8 := 0x0B
def comProcessKill : UInt8 := 0x0C
def comDebug : UInt8 := 0x0D
def comPing : UInt8 := 0x0E
def comChangeUser : UInt8 := 0x11
def comStmtPrepare : UInt8 := 0x16
def comStmtExecute : UInt8 := 0x17
def comStmtSendLongData : UInt8 := 0x18
def comStmtClose : UInt8 := 0x19
def comStmtReset : UInt8 := 0x1A
def comSetOption : UInt8 := 0x1B
def comStmtFetch : UInt8 := 0x1C
def comResetConnection : UInt8 := 0x1F

def upperHexDigit (n : ℕ) : Char := "0123456789ABCDEF".toList.getD n '?'

/-- `fmt.Sprintf("COM_UNKNOWN(0x%02X)", cmd)`. -/
def unknownCommandName (cmd : UInt8) : String :=
  "COM_UNKNOWN(0x" ++ String.ofList [upperHexDigit (cmd.toNat / 16), upperHexDigit (cmd.toNat % 16)]
    ++ ")"

def commandNames : List (UInt8 × String) :=
  [(comSleep, "COM_SLEEP"), (comQuit, "COM_QUIT"), (comInitDB, "COM_INIT_DB"),
    (comQuery, "COM_QUERY"), (comFieldList, "COM_FIELD_LIST"), (comCreateDB, "COM_CREATE_DB"),
    (comDropDB, "COM_DROP_DB"), (comRefresh, "COM_REFRESH"), (comShutdown, "COM_SHUTDOWN"),
    (comStatistics, "COM_STATISTICS"), (comProcessInfo, "COM_PROCESS_INFO"),
    (comConnect, "COM_CONNECT"), (comProcessKill, "COM_PROCESS_KILL"), (comDebug, "COM_DEBUG"),
    (comPing, "COM_PING"), (comChangeUser, "COM_CHANGE_USER"),
    (comStmtPrepare, "COM_STMT_PREPARE"), (comStmtExecute, "COM_STMT_EXECUTE"),
    (comStmtSendLongData, "COM_STMT_SEND_LONG_DATA"), (comStmtClose, "COM_STMT_CLOSE"),
    (comStmtReset, "COM_STMT_RESET"), (comSetOption, "COM_SET_OPTION"),
    (comStmtFetch, "COM_STMT_FETCH"), (comResetConnection, "COM_RESET_CONNECTION")]

def getMySQLCommandName (cmd : UInt8) : String :=
  (commandNames.lookup cmd).getD (unknownCommandName cmd)

def isCountableCommand (cmd : UInt8) : Bool :=
  cmd = comQuery ∨ cmd = comStmtPrepare ∨ cmd = comStmtExecute

/-- Commands answered by a single OK or ERR packet, never a result set. -/
def isSimpleResponseCommand (cmd : UInt8) : Bool :=
  cmd = comInitDB ∨ cmd = comPing ∨ cmd = comStmtReset ∨ cmd = comResetConnection

def isNoResponseCommand (cmd : UInt8) : Bool :=
  cmd = comQuit ∨ cmd = comStmtClose ∨ cmd = comStmtSendLongData

/-- The command byte, or `0` and `false` for a packet with an empty payload. -/
def getMySQLCommand (packet : Bytes) : UInt8 × Bool :=
  if packet.length < 5 then (0, false) else (packet[4]?.getD 0, true)

/-- The three-byte little-endian length field. -/
def payloadLen (packet : Bytes) : ℕ := leNat (packet.take 3)

/-- A byte string that is one whole packet, header included. -/
def WellFramed (packet : Bytes) : Prop :=
  4 ≤ packet.length ∧ packet.length = 4 + payloadLen packet

instance (packet : Bytes) : Decidable (WellFramed packet) :=
  inferInstanceAs (Decidable (_ ∧ _))

/-- A packet by its content; the length field is determined by the payload. -/
structure Packet where
  seq : UInt8
  payload : Bytes
  payload_lt : payload.length < 2 ^ 24

def Packet.bytes (p : Packet) : Bytes := leBytes 3 p.payload.length ++ p.seq :: p.payload

def wire (ps : List Packet) : Bytes := ps.flatMap Packet.bytes

@[simp] theorem wire_nil : wire [] = [] := rfl

@[simp] theorem wire_cons (p : Packet) (ps : List Packet) : wire (p :: ps) = p.bytes ++ wire ps := by
  simp [wire]

@[simp] theorem wire_append (ps qs : List Packet) : wire (ps ++ qs) = wire ps ++ wire qs := by
  simp [wire]

@[simp] theorem bytes_length (p : Packet) : p.bytes.length = 4 + p.payload.length := by
  simp [Packet.bytes]
  omega

@[simp] theorem payloadLen_bytes_append (p : Packet) (rest : Bytes) :
    payloadLen (p.bytes ++ rest) = p.payload.length := by
  have ht : (p.bytes ++ rest).take 3 = leBytes 3 p.payload.length := by
    simp [Packet.bytes]
  rw [payloadLen, ht, leNat_leBytes_of_lt (by simpa using p.payload_lt)]

@[simp] theorem payloadLen_bytes (p : Packet) : payloadLen p.bytes = p.payload.length := by
  simpa using payloadLen_bytes_append p []

theorem bytes_drop_four (p : Packet) : p.bytes.drop 4 = p.payload := by
  simp [Packet.bytes, leBytes]

theorem payloadLen_take {bs : Bytes} {k : ℕ} (hk : 3 ≤ k) : payloadLen (bs.take k) = payloadLen bs := by
  simp [payloadLen, List.take_take, Nat.min_eq_left hk]

theorem payloadLen_lt (bs : Bytes) : payloadLen bs < 2 ^ 24 := by
  have h := leNat_lt (bs.take 3)
  have hl : (bs.take 3).length ≤ 3 := List.length_take_le 3 bs
  have hp : 256 ^ (bs.take 3).length ≤ 256 ^ 3 := Nat.pow_le_pow_right (by norm_num) hl
  unfold payloadLen
  omega

theorem WellFramed.exists_packet {bs : Bytes} (h : WellFramed bs) : ∃ p : Packet, p.bytes = bs := by
  obtain ⟨h4, hlen⟩ := h
  have htake : (bs.take 3).length = 3 := by simp only [List.length_take]; omega
  have hdrop : (bs.drop 4).length = payloadLen bs := by rw [List.length_drop]; omega
  obtain ⟨seq, rest, hrest⟩ : ∃ seq rest, bs.drop 3 = seq :: rest :=
    List.exists_cons_of_length_pos (by simp only [List.length_drop]; omega)
  have hpayload : rest = bs.drop 4 := by
    have := congrArg (List.drop 1) hrest
    simpa using this.symm
  refine ⟨⟨seq, bs.drop 4, hdrop ▸ payloadLen_lt bs⟩, ?_⟩
  have hround := leBytes_leNat (bs.take 3)
  rw [htake] at hround
  simp only [Packet.bytes, hdrop, payloadLen, hround]
  rw [← hpayload, ← hrest, List.take_append_drop]

/-- The unbuffered reader: the header, then exactly the payload it announces. -/
def readMySQLPacket (conn : Conn) : Except Err Bytes × Conn :=
  match conn.readFull 4 with
  | (.error e, conn) => (.error e, conn)
  | (.ok header, conn) =>
    match conn.readFull (payloadLen header) with
    | (.error e, conn) => (.error e, conn)
    | (.ok body, conn) => (.ok (header ++ body), conn)

/-- A packet that is returned is whole, and nothing beyond it was taken. -/
theorem readMySQLPacket_ok {c c' : Conn} {p : Bytes} (h : readMySQLPacket c = (.ok p, c')) :
    WellFramed p ∧ c'.received = c.received ++ p ∧ Reads c c' := by
  unfold readMySQLPacket at h
  rcases hh : c.readFull 4 with ⟨header | header, c₁⟩
  · simp [hh] at h
  · rcases hb : c₁.readFull (payloadLen header) with ⟨body | body, c₂⟩
    · simp [hh, hb] at h
    · simp only [hh, hb, Prod.mk.injEq, Except.ok.injEq] at h
      obtain ⟨rfl, rfl⟩ := h
      obtain ⟨hl, hr, hs⟩ := readFull_ok hh
      obtain ⟨hl', hr', hs'⟩ := readFull_ok hb
      have htake : payloadLen (header ++ body) = payloadLen header := by
        simp [payloadLen, List.take_append, hl]
      refine ⟨⟨?_, ?_⟩, ?_, hs.trans hs'⟩
      · simp [hl]
      · rw [htake, List.length_append, hl, hl']
      · rw [hr', hr, List.append_assoc]

/-- A packet that is ready is returned and the bytes after it stay ready. -/
theorem readMySQLPacket_ready {c : Conn} {p : Packet} {rest : Bytes}
    (h : c.ready = p.bytes ++ rest) :
    ∃ c', readMySQLPacket c = (.ok p.bytes, c') ∧ c'.ready = rest := by
  have hsplit : c.ready = p.bytes.take 4 ++ (p.payload ++ rest) := by
    rw [h, ← bytes_drop_four p, ← List.append_assoc, List.take_append_drop]
  obtain ⟨c₁, h₁, hr₁⟩ := readFull_ready hsplit
  obtain ⟨c₂, h₂, hr₂⟩ := readFull_ready hr₁
  have hl : (p.bytes.take 4).length = 4 := by simp
  rw [hl] at h₁
  refine ⟨c₂, ?_, hr₂⟩
  simp only [readMySQLPacket, h₁, payloadLen_take (Nat.le_succ 3), payloadLen_bytes, h₂]
  rw [← bytes_drop_four p, List.take_append_drop]

end ShadowProxy.MySQLPacket
