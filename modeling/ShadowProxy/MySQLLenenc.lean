import ShadowProxy.CheckedSlice
import ShadowProxy.MySQLResponse

/-! Length-encoded integers, and the status flags that stand behind two of them in an OK packet. -/
namespace ShadowProxy.MySQLLenenc
open WordBytes CheckedSlice MySQLResponse

/-- The markers of the long forms and how many bytes follow each. -/
def lenencForms : List (UInt8 × ℕ) := [(0xFC, 2), (0xFD, 3), (0xFE, 8)]

def lenenc (n : ℕ) : Bytes :=
  if n < 251 then [UInt8.ofNat n]
  else if n < 2 ^ 16 then 0xFC :: leBytes 2 n
  else if n < 2 ^ 24 then 0xFD :: leBytes 3 n
  else 0xFE :: leBytes 8 n

section Integers
variable {n k : ℕ} {m : UInt8} {rest : Bytes}

lemma lenenc_cases (hn : n < 2 ^ 64) : (n < 251 ∧ lenenc n = [UInt8.ofNat n]) ∨
    ∃ m k, (m, k) ∈ lenencForms ∧ n < 256 ^ k ∧ lenenc n = m :: leBytes k n := by
  rw [lenenc]
  split_ifs with h₁ h₂ h₃
  · exact .inl ⟨h₁, rfl⟩
  · exact .inr ⟨0xFC, 2, by simp [lenencForms], h₂, rfl⟩
  · exact .inr ⟨0xFD, 3, by simp [lenencForms], h₃, rfl⟩
  · exact .inr ⟨0xFE, 8, by simp [lenencForms], hn, rfl⟩

lemma lenencIntSize_form (h : (m, k) ∈ lenencForms) (rest : Bytes) :
    lenencIntSize (m :: rest) = k + 1 := by
  simp only [lenencForms, List.mem_cons, Prod.mk.injEq, List.not_mem_nil, or_false] at h
  obtain ⟨rfl, rfl⟩ | ⟨rfl, rfl⟩ | ⟨rfl, rfl⟩ := h <;> rfl

lemma readLengthEncodedInt_form (h : (m, k) ∈ lenencForms) (hk : k ≤ rest.length) :
    readLengthEncodedInt (m :: rest) = leNat (rest.take k) := by
  simp only [lenencForms, List.mem_cons, Prod.mk.injEq, List.not_mem_nil, or_false] at h
  obtain ⟨rfl, rfl⟩ | ⟨rfl, rfl⟩ | ⟨rfl, rfl⟩ := h <;> simp [readLengthEncodedInt, hk]

lemma lenenc_byte (h : n < 251) : (UInt8.ofNat n).toNat = n ∧ UInt8.ofNat n ≠ 0xFC ∧
    UInt8.ofNat n ≠ 0xFD ∧ UInt8.ofNat n ≠ 0xFE := by
  have hb : (UInt8.ofNat n).toNat = n := by
    rw [UInt8.toNat_ofNat']
    omega
  refine ⟨hb, ?_, ?_, ?_⟩ <;>
  · intro heq
    rw [heq] at hb
    simp at hb
    omega

lemma readLengthEncodedInt_lenenc (hn : n < 2 ^ 64) (rest : Bytes) :
    readLengthEncodedInt (lenenc n ++ rest) = n := by
  obtain ⟨hlt, heq⟩ | ⟨m, k, hform, hlt, heq⟩ := lenenc_cases hn
  · obtain ⟨hb, h₁, h₂, h₃⟩ := lenenc_byte hlt
    simp [heq, readLengthEncodedInt, h₁, h₂, h₃, hb]
  · rw [heq, List.cons_append, readLengthEncodedInt_form hform (by simp),
      List.take_left' (leBytes_length k n), leNat_leBytes_of_lt hlt]

lemma lenencIntSize_lenenc (hn : n < 2 ^ 64) (rest : Bytes) :
    lenencIntSize (lenenc n ++ rest) = (lenenc n).length := by
  obtain ⟨hlt, heq⟩ | ⟨m, k, hform, hlt, heq⟩ := lenenc_cases hn
  · obtain ⟨-, h₁, h₂, h₃⟩ := lenenc_byte hlt
    simp [heq, lenencIntSize, h₁, h₂, h₃]
  · rw [heq, List.cons_append, lenencIntSize_form hform, List.length_cons, leBytes_length]

end Integers

section Status

/-- An OK packet: its header, the marker, the two integers and the status flags; what follows them
is not looked at. -/
def okPacket (sequenceID : UInt8) (affectedRows lastInsertID : ℕ) (status : UInt16) (tail : Bytes) : Bytes :=
  let payload : Bytes := 0x00 :: (lenenc affectedRows ++ (lenenc lastInsertID ++
    (status.toUInt8 :: (status >>> 8).toUInt8 :: tail)))
  leBytes 3 payload.length ++ sequenceID :: payload

lemma checkMoreResultsInOKPacket_okPacket {affectedRows lastInsertID : ℕ} (hrows : affectedRows < 2 ^ 64)
    (hid : lastInsertID < 2 ^ 64) (sequenceID : UInt8) (status : UInt16) (tail : Bytes) :
    checkMoreResultsInOKPacket (okPacket sequenceID affectedRows lastInsertID status tail) = true ↔
      status &&& 0x0008 ≠ 0 := by
  have hmore : moreResults status.toUInt8 (status >>> 8).toUInt8 = true ↔ status &&& 0x0008 ≠ 0 := by
    rw [moreResults, uint16LE_split, decide_eq_true_iff]
    rfl
  rw [← hmore, okPacket]
  generalize hhead : leBytes 3 _ = head
  have hlen : (head ++ [sequenceID, 0x00]).length = 5 := by simp [← hhead]
  rw [← checkMoreResultsInOKPacket_of_sizes tail hlen (lenencIntSize_lenenc hrows _)
    (lenencIntSize_lenenc hid _)]
  simp

end Status

/-! The checks with every access made through a bounds check. -/
namespace Checks

def lenencIntSize (buf : Bytes) : Checked ℕ :=
  if buf.length = 0 then .ok 0
  else do
    let marker ← index buf 0
    .ok (if marker = 0xFC then 3 else if marker = 0xFD then 4 else if marker = 0xFE then 9 else 1)

def checkMoreResultsInEOFPacket (pkt : Bytes) : Checked Bool :=
  if pkt.length < 9 then .ok false
  else do
    let lo ← index pkt 7
    let hi ← index pkt 8
    .ok (moreResults lo hi)

def checkMoreResultsInOKPacket (pkt : Bytes) : Checked Bool :=
  if pkt.length < 7 then .ok false
  else do
    let rows ← slice pkt 5 pkt.length
    let size ← lenencIntSize rows
    let pos := 5 + size
    if pkt.length ≤ pos then .ok false
    else do
      let id ← slice pkt pos pkt.length
      let size ← lenencIntSize id
      let pos := pos + size
      if pkt.length < pos + 2 then .ok false
      else do
        let lo ← index pkt pos
        let hi ← index pkt (pos + 1 : ℕ)
        .ok (moreResults lo hi)

lemma lenencIntSize_eq (buf : Bytes) : lenencIntSize buf = .ok (MySQLResponse.lenencIntSize buf) := by
  cases buf with
  | nil => rfl
  | cons b buf => rfl

lemma index_getElem {pkt : Bytes} {i : ℕ} (h : i < pkt.length) : index pkt i = .ok pkt[i] :=
  index_ok (List.getElem?_eq_getElem h)

lemma checkMoreResultsInEOFPacket_eq (pkt : Bytes) :
    checkMoreResultsInEOFPacket pkt = .ok (MySQLResponse.checkMoreResultsInEOFPacket pkt) := by
  rw [checkMoreResultsInEOFPacket, MySQLResponse.checkMoreResultsInEOFPacket]
  by_cases h : pkt.length < 9
  · rw [if_pos h, dif_pos h]
  · have hlo : index pkt 7 = .ok pkt[7] := index_getElem (i := 7) (by omega)
    have hhi : index pkt 8 = .ok pkt[8] := index_getElem (i := 8) (by omega)
    rw [if_neg h, dif_neg h, hlo, hhi]
    rfl

lemma flags_eq (pkt : Bytes) (pos : ℕ) :
    (if pkt.length < pos + 2 then .ok false
      else do
        let lo ← index pkt pos
        let hi ← index pkt (pos + 1 : ℕ)
        .ok (moreResults lo hi) : Checked Bool) =
      .ok (if h : pkt.length < pos + 2 then false else moreResults pkt[pos] pkt[pos + 1]) := by
  by_cases h : pkt.length < pos + 2
  · rw [if_pos h, dif_pos h]
  · rw [if_neg h, dif_neg h, index_getElem (by omega), ok_bind, index_getElem (by omega), ok_bind]

lemma checkMoreResultsInOKPacket_eq (pkt : Bytes) :
    checkMoreResultsInOKPacket pkt = .ok (MySQLResponse.checkMoreResultsInOKPacket pkt) := by
  rw [checkMoreResultsInOKPacket, MySQLResponse.checkMoreResultsInOKPacket]
  by_cases hshort : pkt.length < 7
  · rw [if_pos hshort, if_pos hshort]
  rw [if_neg hshort, if_neg hshort, slice_from (by omega) (by omega), ok_bind, lenencIntSize_eq, ok_bind]
  dsimp only
  rw [show Int.toNat 5 = 5 by rfl]
  by_cases hrows : pkt.length ≤ 5 + MySQLResponse.lenencIntSize (pkt.drop 5)
  · rw [if_pos hrows, if_pos hrows]
  · rw [if_neg hrows, if_neg hrows, slice_from (by omega) (by omega), ok_bind, lenencIntSize_eq, ok_bind,
      Int.toNat_natCast]
    exact flags_eq pkt _

end Checks

/-- What is written as a length-encoded integer is read back, so the status of an OK packet is found
behind any two of them; and no packet whatever leads the checks out of its bounds. -/
theorem ok_status_behind_integers (n affectedRows lastInsertID : ℕ) (hn : n < 2 ^ 64)
    (hrows : affectedRows < 2 ^ 64) (hid : lastInsertID < 2 ^ 64) (rest tail pkt : Bytes)
    (sequenceID : UInt8) (status : UInt16) :
    readLengthEncodedInt (lenenc n ++ rest) = n ∧
    lenencIntSize (lenenc n ++ rest) = (lenenc n).length ∧
    (checkMoreResultsInOKPacket (okPacket sequenceID affectedRows lastInsertID status tail) = true ↔
      status &&& 0x0008 ≠ 0) ∧
    Checks.checkMoreResultsInOKPacket pkt = .ok (checkMoreResultsInOKPacket pkt) ∧
    Checks.checkMoreResultsInEOFPacket pkt = .ok (checkMoreResultsInEOFPacket pkt) :=
  ⟨readLengthEncodedInt_lenenc hn rest, lenencIntSize_lenenc hn rest,
    checkMoreResultsInOKPacket_okPacket hrows hid sequenceID status tail,
    Checks.checkMoreResultsInOKPacket_eq pkt, Checks.checkMoreResultsInEOFPacket_eq pkt⟩

theorem ok_status_behind_long_integers :
    2 ^ 24 < 2 ^ 64 ∧ readLengthEncodedInt (lenenc (2 ^ 24) ++ [0x00]) = 2 ^ 24 ∧
    (checkMoreResultsInOKPacket (okPacket 1 251 (2 ^ 16) 0x000A []) = true ↔
      (0x000A : UInt16) &&& 0x0008 ≠ 0) :=
  have h := ok_status_behind_integers (2 ^ 24) 251 (2 ^ 16) (by decide) (by decide) (by decide)
    [0x00] [] [] 1 0x000A
  ⟨by decide, h.1, h.2.2.1⟩

end ShadowProxy.MySQLLenenc
