import ShadowProxy.MySQLPacketReader

/-! The buffered reader and the unbuffered one cut the same packets from a stream, however the
stream is delivered. A delivery may be interrupted by errors, after which the call is repeated. -/
namespace ShadowProxy.MySQLSegmentation
open WordBytes NetConn MySQLPacket MySQLPacketReader

/-- A `Read` that fails returns no byte, and one that succeeds returns at least one. -/
def Orderly (c : Conn) : Prop :=
  ∀ s ∈ c.pending, (s.bytes ≠ [] ∧ s.err = none) ∨ (s.bytes = [] ∧ s.err ≠ none)

instance (c : Conn) : Decidable (Orderly c) := inferInstanceAs (Decidable (∀ s ∈ c.pending, _))

/-- What is still to be consumed: the unread part of the buffer and the bytes on their way. -/
def unconsumed (r : Reader) (c : Conn) : Bytes := unread r ++ c.pending.flatMap Segment.bytes

/-- The first error of a delivery, with what comes after it. -/
def firstError : List Segment → Option (Err × List Segment)
  | [] => none
  | ⟨_, some e⟩ :: rest => some (e, rest)
  | ⟨_, none⟩ :: rest => firstError rest

/-- A call failed with `e` and left `after` of the delivery `before`: it met the first error there
is, or there is none and the peer sends nothing more. -/
def StopsAt (before : List Segment) (e : Err) (after : List Segment) : Prop :=
  firstError before = some (e, after) ∨ firstError before = none ∧ e = .stalled ∧ after = []

def fillCalls : ℕ → Reader → Conn → ℕ → List (Reader × Conn)
  | 0, _, _, _ => []
  | fuel + 1, r, c, n =>
    if r.stop < n then
      (r, c) :: match c.read (r.buf.length - r.stop) with
        | (_, some _, _) => []
        | (bs, none, c) =>
          fillCalls fuel { r with buf := copyAt r.buf r.stop bs, stop := r.stop + bs.length } c n
    else []

def ensureBytesCalls (r : Reader) (c : Conn) (n : ℕ) : List (Reader × Conn) :=
  if n ≤ r.stop - r.offset then []
  else fillCalls (c.pending.length + 1) (grow (compact r) n) c n

/-- The states in which `readPacket` calls `Read`. -/
def readPacketCalls (r : Reader) (c : Conn) : List (Reader × Conn) :=
  ensureBytesCalls r c 4 ++ match ensureBytes r c 4 with
    | (some _, _, _) => []
    | (none, r, c) => ensureBytesCalls r c (4 + payloadLen (r.buf.drop r.offset))

/-- The state after `n` calls of `readPacket`, whatever they returned. -/
def afterCalls (c : Conn) : ℕ → Reader × Conn
  | 0 => (newMySQLPacketReader, c)
  | n + 1 => (readPacket (afterCalls c n).1 (afterCalls c n).2).2

/-- The packets that `n` calls of `readPacket` returned. -/
def returned (c : Conn) : ℕ → List Bytes
  | 0 => []
  | n + 1 =>
    match (readPacket (afterCalls c n).1 (afterCalls c n).2).1 with
    | .ok packet => returned c n ++ [packet]
    | .error _ => returned c n

/-- `n` packets in a row, read without a buffer. -/
def readMySQLPackets : ℕ → Conn → Except Err (List Bytes) × Conn
  | 0, c => (.ok [], c)
  | n + 1, c =>
    match readMySQLPackets n c with
    | (.error e, c) => (.error e, c)
    | (.ok packets, c) =>
      match readMySQLPacket c with
      | (.error e, c) => (.error e, c)
      | (.ok packet, c) => (.ok (packets ++ [packet]), c)

section Reads
variable {c : Conn}

lemma read_coming (c : Conn) (n : ℕ) :
    c.pending.flatMap Segment.bytes =
      (c.read n).1 ++ (c.read n).2.2.pending.flatMap Segment.bytes := by
  have hs := (read_reads c n).stream
  rw [Conn.stream, Conn.stream, read_received, List.append_assoc] at hs
  exact (List.append_cancel_left hs).symm

lemma read_orderly (h : Orderly c) {n : ℕ} (hn : 0 < n) :
    Orderly (c.read n).2.2 ∧ ((c.read n).2.1 ≠ none → (c.read n).1 = []) := by
  unfold Conn.read
  cases hp : c.pending with
  | nil => exact ⟨h, by simp⟩
  | cons s rest =>
    have hs := h s (by simp [hp])
    have hrest : ∀ t ∈ rest, _ := fun t ht => h t (by simp [hp, ht])
    dsimp only
    split_ifs with hlt
    · refine ⟨?_, by simp⟩
      have hne : s.bytes ≠ [] := List.ne_nil_of_length_pos (by omega)
      have herr : s.err = none := by
        rcases hs with hs | hs
        · exact hs.2
        · exact absurd hs.1 hne
      refine List.forall_mem_cons.mpr ⟨.inl ⟨?_, herr⟩, hrest⟩
      exact List.ne_nil_of_length_pos (by simp only [List.length_drop]; omega)
    · refine ⟨hrest, fun he => ?_⟩
      rcases hs with hs | hs
      · exact absurd hs.2 he
      · exact hs.1

lemma read_firstError {n : ℕ} (he : (c.read n).2.1 = none) :
    firstError (c.read n).2.2.pending = firstError c.pending := by
  unfold Conn.read at he ⊢
  rcases hp : c.pending with _ | ⟨⟨bs, _ | e⟩, rest⟩
  · simp [hp] at he
  · dsimp only
    split_ifs <;> rfl
  · simp only [hp] at he ⊢
    split_ifs at he ⊢
    rfl

lemma read_stopsAt {n : ℕ} {e : Err} (he : (c.read n).2.1 = some e) :
    StopsAt c.pending e (c.read n).2.2.pending := by
  unfold Conn.read at he ⊢
  rcases hp : c.pending with _ | ⟨⟨bs, err⟩, rest⟩
  · simp only [hp, Option.some.injEq] at he
    exact .inr ⟨rfl, he.symm, hp⟩
  · simp only [hp] at he ⊢
    split_ifs at he ⊢
    subst he
    exact .inl rfl

lemma read_succeeds {n : ℕ} (he : (c.read n).2.1 = none) :
    0 < c.pending.length ∧
      ((c.read n).1.length = n ∨ (c.read n).2.2.pending.length + 1 = c.pending.length) := by
  unfold Conn.read at he ⊢
  cases hp : c.pending with
  | nil => simp [hp] at he
  | cons s rest =>
    refine ⟨by simp, ?_⟩
    dsimp only
    split_ifs
    · left
      simp only [List.length_take]
      omega
    · right
      simp

end Reads

/-- A state in which `Read` is called while `whole` is to be consumed. -/
structure Calls (whole : Bytes) (x : Reader × Conn) : Prop where
  inv : Inv x.1
  nonempty : x.1.stop < x.1.buf.length
  whole : unconsumed x.1 x.2 = whole

section Fill
variable {r : Reader} {c : Conn}

lemma store_unconsumed {bs : Bytes} {c' : Conn} (hi : Inv r)
    (hlen : bs.length ≤ r.buf.length - r.stop)
    (hc : c.pending.flatMap Segment.bytes = bs ++ c'.pending.flatMap Segment.bytes) :
    unconsumed { r with buf := copyAt r.buf r.stop bs, stop := r.stop + bs.length } c' =
      unconsumed r c := by
  rw [unconsumed, (store_spec hi hlen).2, unconsumed, hc, List.append_assoc]

lemma fill_lossless (fuel : ℕ) {n : ℕ} (hi : Inv r) (ho : Orderly c) (hb : n ≤ r.buf.length) :
    Orderly (fill fuel r c n).2.2 ∧
      unconsumed (fill fuel r c n).2.1 (fill fuel r c n).2.2 = unconsumed r c ∧
      ∀ x ∈ fillCalls fuel r c n, Calls (unconsumed r c) x := by
  induction fuel generalizing r c with
  | zero => exact ⟨ho, rfl, by simp [fillCalls]⟩
  | succ fuel ih =>
    by_cases hn : r.stop < n
    · have hroom : 0 < r.buf.length - r.stop := by omega
      obtain ⟨ho', hnone⟩ := read_orderly ho hroom
      have hcoming := read_coming c (r.buf.length - r.stop)
      have hlen := read_length c (r.buf.length - r.stop)
      have hcall : Calls (unconsumed r c) (r, c) := ⟨hi, by dsimp only; omega, rfl⟩
      simp only [fill, fillCalls, hn, if_true]
      rcases hr : c.read (r.buf.length - r.stop) with ⟨bs, e, c'⟩
      simp only [hr] at ho' hnone hcoming hlen
      cases e with
      | some e =>
        obtain rfl : bs = [] := hnone (by simp)
        refine ⟨ho', ?_, by simpa using hcall⟩
        rw [unconsumed, (store_uncounted [] hi).2, unconsumed, hcoming, List.nil_append]
      | none =>
        have hb' : n ≤ (copyAt r.buf r.stop bs).length := by rwa [copyAt_length _ hi.stop_le]
        obtain ⟨h1, h2, h3⟩ := ih (store_spec hi hlen).1 ho' hb'
        rw [store_unconsumed hi hlen hcoming] at h2 h3
        exact ⟨h1, h2, List.forall_mem_cons.mpr ⟨hcall, h3⟩⟩
    · simp only [fill, fillCalls, hn, if_false]
      exact ⟨ho, trivial, by simp⟩

lemma fill_firstError {fuel n : ℕ} (h : (fill fuel r c n).1 = none) :
    firstError (fill fuel r c n).2.2.pending = firstError c.pending := by
  induction fuel generalizing r c with
  | zero => simp [fill] at h
  | succ fuel ih =>
    by_cases hn : r.stop < n
    · have hread := @read_firstError c (r.buf.length - r.stop)
      simp only [fill, hn, if_true] at h ⊢
      rcases hr : c.read (r.buf.length - r.stop) with ⟨bs, _ | e, c'⟩ <;> simp only [hr] at h hread ⊢
      · exact (ih h).trans (hread trivial)
      · simp at h
    · simp [fill, hn]

lemma fill_stopsAt {fuel n : ℕ} {e : Err} (hi : Inv r) (hb : n ≤ r.buf.length)
    (hf : c.pending.length < fuel) (he : (fill fuel r c n).1 = some e) :
    StopsAt c.pending e (fill fuel r c n).2.2.pending := by
  induction fuel generalizing r c with
  | zero => omega
  | succ fuel ih =>
    by_cases hn : r.stop < n
    · have hlen := read_length c (r.buf.length - r.stop)
      have hfirst := @read_firstError c (r.buf.length - r.stop)
      have hstop := @read_stopsAt c (r.buf.length - r.stop) e
      have hprog := @read_succeeds c (r.buf.length - r.stop)
      simp only [fill, hn, if_true] at he ⊢
      rcases hr : c.read (r.buf.length - r.stop) with ⟨bs, _ | e', c'⟩ <;>
        simp only [hr] at he hlen hfirst hstop hprog ⊢
      · obtain ⟨hpos, hfull | hseg⟩ := hprog trivial
        · obtain ⟨fuel, rfl⟩ := Nat.exists_eq_add_of_lt (show 0 < fuel by omega)
          rw [Nat.zero_add, fill_done (by dsimp only; omega)] at he
          simp at he
        · have hb' : n ≤ (copyAt r.buf r.stop bs).length := by rwa [copyAt_length _ hi.stop_le]
          have hrest := ih (store_spec hi hlen).1 hb' (by omega) he
          rwa [StopsAt, hfirst trivial] at hrest
      · exact hstop he
    · simp [fill, hn] at he

lemma fill_clean (fuel : ℕ) (hc : c.Clean) (r : Reader) (n : ℕ) : (fill fuel r c n).2.2.Clean := by
  induction fuel generalizing r c with
  | zero => exact hc
  | succ fuel ih =>
    have hread := read_clean hc (r.buf.length - r.stop)
    unfold fill
    split_ifs
    · rcases hr : c.read (r.buf.length - r.stop) with ⟨bs, _ | e, c'⟩ <;> rw [hr] at hread
      · exact ih hread _
      · exact hread
    · exact hc

end Fill

section EnsureBytes
variable {r : Reader} {c : Conn}

lemma makeRoom_spec {n : ℕ} (hi : Inv r) (hn : ¬ n ≤ r.stop - r.offset) (c : Conn) :
    Inv (grow (compact r) n) ∧ n ≤ (grow (compact r) n).buf.length ∧
      unconsumed (grow (compact r) n) c = unconsumed r c := by
  obtain ⟨ci, cu, co, cs⟩ := compact_spec hi
  obtain ⟨gi, gu, -, -, gb⟩ := grow_spec n ci co (by omega)
  exact ⟨gi, gb, by rw [unconsumed, gu, cu, unconsumed]⟩

lemma ensureBytes_lossless (n : ℕ) (hi : Inv r) (ho : Orderly c) :
    Orderly (ensureBytes r c n).2.2 ∧
      unconsumed (ensureBytes r c n).2.1 (ensureBytes r c n).2.2 = unconsumed r c ∧
      ∀ x ∈ ensureBytesCalls r c n, Calls (unconsumed r c) x := by
  unfold ensureBytes ensureBytesCalls
  split_ifs with hn
  · exact ⟨ho, rfl, by simp⟩
  · obtain ⟨gi, gb, gu⟩ := makeRoom_spec hi hn c
    rw [← gu]
    exact fill_lossless (c.pending.length + 1) gi ho gb

lemma ensureBytes_firstError {n : ℕ} (h : (ensureBytes r c n).1 = none) :
    firstError (ensureBytes r c n).2.2.pending = firstError c.pending := by
  unfold ensureBytes at h ⊢
  split_ifs at h ⊢
  · rfl
  · exact fill_firstError h

lemma ensureBytes_stopsAt {n : ℕ} {e : Err} (hi : Inv r) (he : (ensureBytes r c n).1 = some e) :
    StopsAt c.pending e (ensureBytes r c n).2.2.pending := by
  unfold ensureBytes at he ⊢
  split_ifs at he ⊢ with hn
  obtain ⟨gi, gb, -⟩ := makeRoom_spec hi hn c
  exact fill_stopsAt gi gb (Nat.lt_succ_self _) he

lemma ensureBytes_clean (hc : c.Clean) (r : Reader) (n : ℕ) : (ensureBytes r c n).2.2.Clean := by
  unfold ensureBytes
  split_ifs
  · exact hc
  · exact fill_clean _ hc _ n

end EnsureBytes

section ReadPacket
variable {r r' : Reader} {c c' : Conn} {p : Bytes}

lemma readPacket_orderly (hi : Inv r) (ho : Orderly c) :
    Orderly (readPacket r c).2.2 ∧ ∀ x ∈ readPacketCalls r c, Calls (unconsumed r c) x := by
  obtain ⟨o1, u1, calls1⟩ := ensureBytes_lossless 4 hi ho
  have i1 := (ensureBytes_spec c 4 hi).1.inv
  unfold readPacket readPacketCalls
  rcases h1 : ensureBytes r c 4 with ⟨_ | e1, r1, c1⟩ <;> simp only [h1] at o1 u1 i1
  · obtain ⟨o2, -, calls2⟩ :=
      ensureBytes_lossless (4 + payloadLen (r1.buf.drop r1.offset)) i1 o1
    rw [u1] at calls2
    refine ⟨?_, fun x hx => (List.mem_append.mp hx).elim (calls1 x) (calls2 x)⟩
    rcases h2 : ensureBytes r1 c1 (4 + payloadLen (r1.buf.drop r1.offset)) with ⟨_ | e2, r2, c2⟩ <;>
    · simp only [h2] at o2 ⊢
      exact o2
  · exact ⟨o1, by simpa using calls1⟩

lemma readPacket_stopsAt {e : Err} (hi : Inv r) (hp : readPacket r c = (.error e, r', c')) :
    StopsAt c.pending e c'.pending := by
  have i1 := (ensureBytes_spec c 4 hi).1.inv
  have first1 := @ensureBytes_firstError r c 4
  have stops1 := @ensureBytes_stopsAt r c 4 e hi
  unfold readPacket at hp
  rcases h1 : ensureBytes r c 4 with ⟨_ | e1, r1, c1⟩ <;> simp only [h1] at hp i1 first1 stops1
  · have stops2 := @ensureBytes_stopsAt r1 c1 (4 + payloadLen (r1.buf.drop r1.offset)) e i1
    rcases h2 : ensureBytes r1 c1 (4 + payloadLen (r1.buf.drop r1.offset)) with ⟨_ | e2, r2, c2⟩ <;>
      simp only [h2] at hp stops2
    · simp at hp
    · simp only [Prod.mk.injEq, Except.error.injEq] at hp
      obtain ⟨rfl, rfl, rfl⟩ := hp
      rw [StopsAt, ← first1 trivial]
      exact stops2 rfl
  · simp only [Prod.mk.injEq, Except.error.injEq] at hp
    obtain ⟨rfl, rfl, rfl⟩ := hp
    exact stops1 rfl

lemma readPacket_clean (hc : c.Clean) (r : Reader) : (readPacket r c).2.2.Clean := by
  have h1 := ensureBytes_clean hc r 4
  unfold readPacket
  rcases he1 : ensureBytes r c 4 with ⟨_ | e1, r1, c1⟩ <;> rw [he1] at h1
  · have h2 := ensureBytes_clean h1 r1 (4 + payloadLen (r1.buf.drop r1.offset))
    rcases he2 : ensureBytes r1 c1 (4 + payloadLen (r1.buf.drop r1.offset)) with ⟨_ | e2, r2, c2⟩ <;>
    · simp only [he2] at h2 ⊢
      exact h2
  · exact h1

lemma readPacket_consumes (hi : Inv r) (hp : readPacket r c = (.ok p, r', c')) :
    WellFramed p ∧ Inv r' ∧ unconsumed r c = p ++ unconsumed r' c' := by
  obtain ⟨hw, hi', hr, new, hu, hc⟩ := readPacket_ok hi hp
  refine ⟨hw, hi', ?_⟩
  have hs := hr.stream
  rw [Conn.stream, Conn.stream, hc, List.append_assoc] at hs
  rw [unconsumed, ← List.append_cancel_left hs, ← List.append_assoc, hu, unconsumed,
    List.append_assoc]

/-- A call that fails loses nothing. -/
lemma readPacket_retry {e : Err} (hi : Inv r) (ho : Orderly c)
    (hp : readPacket r c = (.error e, r', c')) : Inv r' ∧ unconsumed r' c' = unconsumed r c := by
  refine ⟨(readPacket_error hi hp).inv, ?_⟩
  obtain ⟨o1, u1, -⟩ := ensureBytes_lossless 4 hi ho
  have i1 := (ensureBytes_spec c 4 hi).1.inv
  unfold readPacket at hp
  rcases h1 : ensureBytes r c 4 with ⟨_ | e1, r1, c1⟩ <;> simp only [h1] at o1 u1 i1 hp
  · obtain ⟨-, u2, -⟩ := ensureBytes_lossless (4 + payloadLen (r1.buf.drop r1.offset)) i1 o1
    rcases h2 : ensureBytes r1 c1 (4 + payloadLen (r1.buf.drop r1.offset)) with ⟨_ | e2, r2, c2⟩ <;>
      simp only [h2] at u2 hp
    · simp at hp
    · simp only [Prod.mk.injEq, Except.error.injEq] at hp
      obtain ⟨rfl, rfl, rfl⟩ := hp
      exact u2.trans u1
  · simp only [Prod.mk.injEq, Except.error.injEq] at hp
    obtain ⟨rfl, rfl, rfl⟩ := hp
    exact u1

lemma readPacket_unready {e : Err} (hi : Inv r) (hp : readPacket r c = (.error e, r', c'))
    {q : Bytes} (hq : WellFramed q) : ¬ q <+: unread r ++ c.ready := by
  rintro ⟨rest, hfront⟩
  obtain ⟨q, rfl⟩ := hq.exists_packet
  obtain ⟨r', c', hok, -⟩ := readPacket_ready hi hfront.symm
  rw [hok] at hp
  simp at hp

lemma readMySQLPacket_front {u : Conn} {rest : Bytes} (hp : WellFramed p) (hu : u.ready = p ++ rest) :
    ∃ u', readMySQLPacket u = (.ok p, u') ∧ u'.ready = rest := by
  obtain ⟨q, rfl⟩ := hp.exists_packet
  exact readMySQLPacket_ready hu

lemma readMySQLPacket_cuts {u u' : Conn} (hu : u.Clean) (hp : readMySQLPacket u = (.ok p, u')) :
    WellFramed p ∧ p <+: u.ready := by
  obtain ⟨hw, hrec, hreads⟩ := readMySQLPacket_ok hp
  have hs := hreads.stream
  rw [Conn.stream, Conn.stream, hrec, List.append_assoc] at hs
  refine ⟨hw, u'.pending.flatMap Segment.bytes, ?_⟩
  rw [List.append_cancel_left hs, Conn.ready, readyBytes_of_clean hu]

end ReadPacket

/-- A call of `readPacket` fails with `e` and leaves the connection `c'`. It has taken the first
error off the connection and no later one, and what came before that error makes no whole packet,
for the unbuffered reader neither. -/
structure Fails (r : Reader) (c : Conn) (e : Err) (c' : Conn) : Prop where
  stops : StopsAt c.pending e c'.pending
  unready : ∀ p, WellFramed p → ¬ p <+: unread r ++ c.ready
  unbuffered : ∀ u : Conn, u.Clean → u.ready = unread r ++ c.ready →
    ∀ p u', readMySQLPacket u ≠ (.ok p, u')

lemma readPacket_fails {r r' : Reader} {c c' : Conn} {e : Err} (hi : Inv r)
    (hp : readPacket r c = (.error e, r', c')) : Fails r c e c' := by
  refine ⟨readPacket_stopsAt hi hp, fun q hq => readPacket_unready hi hp hq, ?_⟩
  intro u hu hready p u' hok
  obtain ⟨hw, hpre⟩ := readMySQLPacket_cuts hu hok
  exact readPacket_unready hi hp hw (hready ▸ hpre)

/-- What holds before the call of `readPacket` that follows `n` others. -/
structure Agrees (c : Conn) (n : ℕ) : Prop where
  inv : Inv (afterCalls c n).1
  stream : c.pending.flatMap Segment.bytes =
    (returned c n).flatten ++ unconsumed (afterCalls c n).1 (afterCalls c n).2
  unbuffered : ∀ u : Conn, u.ready = c.pending.flatMap Segment.bytes →
    ∃ u', readMySQLPackets (returned c n).length u = (.ok (returned c n), u') ∧
      u'.ready = unconsumed (afterCalls c n).1 (afterCalls c n).2
  calls : ∀ x ∈ readPacketCalls (afterCalls c n).1 (afterCalls c n).2,
    Calls (unconsumed (afterCalls c n).1 (afterCalls c n).2) x
  fails : ∀ e, (readPacket (afterCalls c n).1 (afterCalls c n).2).1 = .error e →
    Fails (afterCalls c n).1 (afterCalls c n).2 e (afterCalls c (n + 1)).2

section Run
variable {c : Conn} (h : Orderly c)
include h

lemma afterCalls_inv (n : ℕ) :
    Inv (afterCalls c n).1 ∧ Orderly (afterCalls c n).2 := by
  induction n with
  | zero => exact ⟨new_inv, h⟩
  | succ n ih =>
    obtain ⟨hi, ho⟩ := ih
    refine ⟨?_, (readPacket_orderly hi ho).1⟩
    rw [afterCalls]
    rcases hp : readPacket (afterCalls c n).1 (afterCalls c n).2 with ⟨e | p, r, d⟩
    · exact (readPacket_retry hi ho hp).1
    · exact (readPacket_consumes hi hp).2.1

/-- Whatever a call returns, the packets returned so far and what is to be consumed make up the
stream, and the unbuffered reader has cut off the same packets. -/
lemma afterCalls_cut (n : ℕ) :
    c.pending.flatMap Segment.bytes =
        (returned c n).flatten ++ unconsumed (afterCalls c n).1 (afterCalls c n).2 ∧
      ∀ u : Conn, u.ready = c.pending.flatMap Segment.bytes →
        ∃ u', readMySQLPackets (returned c n).length u = (.ok (returned c n), u') ∧
          u'.ready = unconsumed (afterCalls c n).1 (afterCalls c n).2 := by
  induction n with
  | zero =>
    have hz : unconsumed newMySQLPacketReader c = c.pending.flatMap Segment.bytes := by
      simp [unconsumed]
    exact ⟨by simp [returned, afterCalls, hz], fun u hu => ⟨u, rfl, hu.trans hz.symm⟩⟩
  | succ n ih =>
    obtain ⟨hstream, hcut⟩ := ih
    obtain ⟨hi, ho⟩ := afterCalls_inv h n
    rw [afterCalls, returned]
    rcases hp : readPacket (afterCalls c n).1 (afterCalls c n).2 with ⟨e | p, r, d⟩
    · obtain ⟨-, hsame⟩ := readPacket_retry hi ho hp
      rw [← hsame] at hstream hcut
      exact ⟨hstream, hcut⟩
    · obtain ⟨hw, -, hrest⟩ := readPacket_consumes hi hp
      refine ⟨?_, fun u hu => ?_⟩
      · rw [hstream, hrest]
        simp
      · obtain ⟨u', hread, hready⟩ := hcut u hu
        obtain ⟨u'', hnext, hready'⟩ := readMySQLPacket_front hw (hready.trans hrest)
        refine ⟨u'', ?_, hready'⟩
        simp only [List.length_append, List.length_singleton, readMySQLPackets, hread, hnext]

/-- Any sequence of calls of the buffered reader, repeated after errors, returns the packets that
the unbuffered reader cuts from the stream; meanwhile the window stays within the buffer, no byte
is lost or invented, and `Read` is never offered an empty slice. -/
theorem readPacket_independent_of_segmentation (n : ℕ) : Agrees c n := by
  obtain ⟨hi, ho⟩ := afterCalls_inv h n
  obtain ⟨hstream, hcut⟩ := afterCalls_cut h n
  refine ⟨hi, hstream, hcut, (readPacket_orderly hi ho).2, fun e he => ?_⟩
  rcases hp : readPacket (afterCalls c n).1 (afterCalls c n).2 with ⟨e' | p, r, d⟩
  · rw [hp] at he
    obtain rfl : e' = e := by simpa using he
    rw [afterCalls, hp]
    exact readPacket_fails hi hp
  · rw [hp] at he
    simp at he

end Run

/-- Two packets in four pieces, with a deadline that passes after the third. -/
def sampleDelivery : Conn :=
  Conn.script [⟨[2, 0], none⟩, ⟨[0, 0, 7], none⟩, ⟨[8, 1, 0], none⟩, ⟨[], some .timeout⟩,
    ⟨[0, 1, 9], none⟩]

theorem readPacket_independent_of_segmentation_sampleDelivery :
    firstError sampleDelivery.pending = some (.timeout, [⟨[0, 1, 9], none⟩]) ∧
      Agrees sampleDelivery 1 ∧ Agrees sampleDelivery 3 :=
  ⟨rfl, readPacket_independent_of_segmentation (by decide) 1,
    readPacket_independent_of_segmentation (by decide) 3⟩

end ShadowProxy.MySQLSegmentation
