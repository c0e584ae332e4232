import ShadowProxy.MySQLPacket

/-! Capability flags in the two handshake messages: what the proxy reads from them and the
two edits it makes, one in each direction. -/
namespace ShadowProxy.MySQLAuth
open WordBytes MySQLPacket

def clientSSL : UInt32 := 0x00000800

def clientDeprecateEOF : UInt32 := 0x01000000

def capabilities (packet : Bytes) : UInt32 :=
  (uint16LE (packet.getD 4 0) (packet.getD 5 0)).toUInt32 |||
    (uint16LE (packet.getD 6 0) (packet.getD 7 0)).toUInt32 <<< 16

/-- A request to go on under TLS: the flag is set and there is no user name yet. -/
def isSSLRequest (packet : Bytes) : Bool :=
  if packet.length < 8 then false
  else
    let hasSSL := capabilities packet &&& clientSSL ≠ 0
    let isMinimalPacket := packet.length ≤ 40
    hasSSL ∧ isMinimalPacket

/-- Clear `CLIENT_SSL` and `CLIENT_DEPRECATE_EOF` in a login packet. -/
def removeUnsupportedCapabilities (packet : Bytes) : Bytes :=
  if packet.length < 8 then packet
  else
    let capLow := uint16LE (packet.getD 4 0) (packet.getD 5 0)
    let capHigh := uint16LE (packet.getD 6 0) (packet.getD 7 0)
    let capLow := capLow &&& ~~~(clientSSL &&& 0xFFFF).toUInt16
    let capHigh := capHigh &&& ~~~((clientDeprecateEOF >>> 16) &&& 0xFFFF).toUInt16
    putUint16LE (putUint16LE packet 4 capLow) 6 capHigh

/-- Where the lower capability flags of a server handshake are: behind the protocol version,
the server version up to its null byte, the connection id, the scramble and a filler. -/
def capabilityPos (packet : Bytes) : ℕ :=
  5 + ((packet.drop 5).takeWhile (· ≠ 0)).length + 1 + (4 + 8 + 1)

/-- Set `CLIENT_SSL` in a server handshake. -/
def modifyHandshakeForSSL (packet : Bytes) : Bytes :=
  let pos := capabilityPos packet
  if packet.length < pos + 2 then packet
  else
    let capLow := uint16LE (packet.getD pos 0) (packet.getD (pos + 1) 0)
    putUint16LE packet pos (capLow ||| (clientSSL &&& 0xFFFF).toUInt16)

/-- Bit `n` of a packet's payload, `false` beyond its end. In a login packet the first 32
bits are the capability flags. -/
def payloadBit (packet : Bytes) (n : ℕ) : Bool :=
  (packet.getD (4 + n / 8) 0).toNat.testBit (n % 8)

/-- The payload bits of `clientSSL` and `clientDeprecateEOF` in a login packet. -/
def sslBit : ℕ := 11
def deprecateEOFBit : ℕ := 24

example : clientSSL.toNat = 2 ^ sslBit ∧ clientDeprecateEOF.toNat = 2 ^ deprecateEOFBit := by decide

/-- Whether a server handshake offers `CLIENT_DEPRECATE_EOF`: the upper flags come three bytes
after the lower ones. -/
def handshakeDeprecateEOF (packet : Bytes) : Bool :=
  (packet.getD (capabilityPos packet + 6) 0).toNat.testBit 0

/-- What an SSL request is on the wire: a login cut off behind its fixed part, with `CLIENT_SSL`
set. -/
def AsksForTLS (packet : Bytes) : Prop :=
  8 ≤ packet.length ∧ packet.length ≤ 40 ∧ payloadBit packet sslBit = true

instance : DecidablePred AsksForTLS := fun packet =>
  inferInstanceAs (Decidable (8 ≤ packet.length ∧ packet.length ≤ 40 ∧ payloadBit packet sslBit = true))

section Login
variable {packet : Bytes}

lemma capabilities_ssl : capabilities packet &&& clientSSL ≠ 0 ↔ payloadBit packet sslBit = true := by
  have hand (x : UInt32) : x &&& clientSSL ≠ 0 ↔ x.toNat.testBit 11 = true := by
    rw [Ne, ← UInt32.toNat_inj, UInt32.toNat_and, show clientSSL.toNat = 2 ^ 11 by decide,
      Nat.and_two_pow]
    cases x.toNat.testBit 11 <;> simp
  have hhigh (v : UInt16) : (v.toUInt32 <<< 16).toNat.testBit 11 = false := by
    rw [UInt32.toNat_shiftLeft, Nat.testBit_mod_two_pow, show (16 : UInt32).toNat % 32 = 16 by rfl,
      Nat.testBit_shiftLeft]
    rfl
  rw [hand, capabilities, UInt32.toNat_or, Nat.testBit_or, hhigh, UInt16.toNat_toUInt32,
    uint16LE_testBit _ _ 3, Bool.or_false]
  rfl

theorem isSSLRequest_iff : isSSLRequest packet = true ↔ AsksForTLS packet := by
  unfold isSSLRequest AsksForTLS
  rw [← capabilities_ssl]
  split_ifs with h
  · simp [Nat.not_le.mpr h]
  · simp [Nat.not_lt.mp h, and_comm]

@[simp] lemma removeUnsupportedCapabilities_length :
    (removeUnsupportedCapabilities packet).length = packet.length := by
  unfold removeUnsupportedCapabilities
  split_ifs <;> simp

lemma removeUnsupportedCapabilities_eq (h : 8 ≤ packet.length) :
    removeUnsupportedCapabilities packet =
      (packet.set 5 (packet.getD 5 0 &&& 0xF7)).set 7 (packet.getD 7 0 &&& 0xFE) := by
  have hlow : ~~~(clientSSL &&& 0xFFFF).toUInt16 = 0xF7FF := by decide
  have hhigh : ~~~((clientDeprecateEOF >>> 16) &&& 0xFFFF).toUInt16 = 0xFEFF := by decide
  have h₄ : packet.set 4 (packet.getD 4 0) = packet := by
    rw [List.getD_eq_getElem _ _ (by omega), List.set_getElem_self]
  simp only [removeUnsupportedCapabilities, if_neg (Nat.not_lt.mpr h), hlow, hhigh,
    putUint16LE_and]
  rw [show (0xF7FF : UInt16).toUInt8 = 0xFF by decide,
    show ((0xF7FF : UInt16) >>> 8).toUInt8 = 0xF7 by decide,
    show (0xFEFF : UInt16).toUInt8 = 0xFF by decide,
    show ((0xFEFF : UInt16) >>> 8).toUInt8 = 0xFE by decide, and_allOnes, and_allOnes, h₄]
  have h₆ : (packet.set 5 (packet.getD 5 0 &&& 0xF7)).set 6 (packet.getD 6 0) =
      packet.set 5 (packet.getD 5 0 &&& 0xF7) := by
    rw [List.set_comm _ _ (by omega), List.getD_eq_getElem _ _ (by omega), List.set_getElem_self]
  rw [h₆]

/-- The edit clears the two flags and no other bit of the payload. -/
theorem removeUnsupportedCapabilities_bit (h : 8 ≤ packet.length) (n : ℕ) :
    payloadBit (removeUnsupportedCapabilities packet) n =
      (payloadBit packet n && (n ≠ sslBit ∧ n ≠ deprecateEOFBit)) := by
  have hj : n % 8 < 8 := Nat.mod_lt _ (by omega)
  rw [payloadBit, payloadBit, removeUnsupportedCapabilities_eq h]
  simp only [List.getD_eq_getElem?_getD, List.getElem?_set, List.length_set]
  by_cases h₇ : n / 8 = 3
  · have hn : n ≠ sslBit := by unfold sslBit; omega
    simp only [h₇, if_true, if_pos (show 7 < packet.length by omega), Option.getD_some,
      UInt8.toNat_and, Nat.testBit_and, hn, ne_eq, not_false_eq_true, true_and]
    congr 1
    have hn' : n = 24 + n % 8 := by omega
    rw [hn']
    generalize n % 8 = j at hj ⊢
    interval_cases j <;> decide
  · by_cases h₅ : n / 8 = 1
    · have hn : n ≠ deprecateEOFBit := by unfold deprecateEOFBit; omega
      simp only [h₅, show ¬ 7 = 4 + 1 by omega, if_true, if_false,
        if_pos (show 5 < packet.length by omega), Option.getD_some, UInt8.toNat_and,
        Nat.testBit_and, hn, ne_eq, not_false_eq_true, and_true]
      congr 1
      have hn' : n = 8 + n % 8 := by omega
      rw [hn']
      generalize n % 8 = j at hj ⊢
      interval_cases j <;> decide
    · have hn : n ≠ sslBit ∧ n ≠ deprecateEOFBit := by unfold sslBit deprecateEOFBit; omega
      rw [if_neg (by omega), if_neg (by omega), decide_eq_true hn, Bool.and_true]

lemma removeUnsupportedCapabilities_deprecateEOF :
    payloadBit (removeUnsupportedCapabilities packet) deprecateEOFBit = false := by
  by_cases h : 8 ≤ packet.length
  · simp [removeUnsupportedCapabilities_bit h]
  · have hlen : (removeUnsupportedCapabilities packet).length ≤ 7 := by
      rw [removeUnsupportedCapabilities_length]
      omega
    have hbyte : (removeUnsupportedCapabilities packet).getD 7 0 = 0 :=
      List.getD_eq_default _ _ hlen
    change ((removeUnsupportedCapabilities packet).getD 7 0).toNat.testBit 0 = false
    rw [hbyte]
    rfl

lemma payloadBit_set_seq (b : UInt8) (n : ℕ) : payloadBit (packet.set 3 b) n = payloadBit packet n := by
  rw [payloadBit, payloadBit, List.getD_eq_getElem?_getD, List.getElem?_set_ne (by omega),
    ← List.getD_eq_getElem?_getD]

end Login

section Handshake
variable {packet : Bytes}

lemma takeWhile_set {l : Bytes} {i : ℕ} (p : UInt8 → Bool) (b : UInt8)
    (h : (l.takeWhile p).length < i) : (l.set i b).takeWhile p = l.takeWhile p := by
  induction l generalizing i with
  | nil => rfl
  | cons a l ih =>
    cases i with
    | zero => omega
    | succ i =>
      rw [List.set_cons_succ, List.takeWhile_cons, List.takeWhile_cons] at *
      by_cases ha : p a = true
      · rw [if_pos ha, List.length_cons] at h
        rw [if_pos ha, if_pos ha, ih (by omega)]
      · rw [if_neg ha, if_neg ha]

lemma capabilityPos_set {i : ℕ} (b : UInt8) (h : capabilityPos packet ≤ i) :
    capabilityPos (packet.set i b) = capabilityPos packet := by
  unfold capabilityPos at *
  rw [List.drop_set, if_neg (by omega), takeWhile_set _ b (by omega)]

@[simp] lemma modifyHandshakeForSSL_length :
    (modifyHandshakeForSSL packet).length = packet.length := by
  unfold modifyHandshakeForSSL
  dsimp only
  split_ifs <;> simp

/-- What the server offers beyond the two lower flag bytes reaches the client unchanged. -/
lemma modifyHandshakeForSSL_deprecateEOF :
    handshakeDeprecateEOF (modifyHandshakeForSSL packet) = handshakeDeprecateEOF packet := by
  unfold modifyHandshakeForSSL
  dsimp only
  split_ifs with h
  · rfl
  · simp only [handshakeDeprecateEOF, putUint16LE]
    rw [capabilityPos_set _ (by rw [capabilityPos_set _ le_rfl]; omega), capabilityPos_set _ le_rfl]
    simp only [List.getD_eq_getElem?_getD]
    rw [List.getElem?_set_ne (by omega), List.getElem?_set_ne (by omega)]

end Handshake
end ShadowProxy.MySQLAuth
