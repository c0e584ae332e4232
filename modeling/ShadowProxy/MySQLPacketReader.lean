import ShadowProxy.MySQLPacket

/-! The buffered packet reader. Its state is a buffer with a window `[offset, stop)` of
bytes taken from the connection but not yet consumed (`stop` is the field `end`). -/
namespace ShadowProxy.MySQLPacketReader
open WordBytes NetConn MySQLPacket

structure Reader where
  buf : Bytes
  offset : ℕ
  stop : ℕ

def newMySQLPacketReader : Reader := ⟨List.replicate (64 * 1024) 0, 0, 0⟩

def compact (r : Reader) : Reader :=
  let available := r.stop - r.offset
  if 0 < r.offset then
    ⟨if 0 < available then copyAt r.buf 0 ((r.buf.drop r.offset).take available) else r.buf,
      0, available⟩
  else r

def grow (r : Reader) (n : ℕ) : Reader :=
  if r.buf.length < n then
    { r with buf := copyAt (List.replicate (n * 2) 0) 0 (r.buf.take r.stop) }
  else r

/-- `for r.end < n`: read into the free part of the buffer. Bytes that come together
with an error are stored but not counted. -/
def fill : ℕ → Reader → Conn → ℕ → Option Err × Reader × Conn
  | 0, r, c, _ => (some .stalled, r, c)
  | fuel + 1, r, c, n =>
    if r.stop < n then
      match c.read (r.buf.length - r.stop) with
      | (bs, some e, c) => (some e, { r with buf := copyAt r.buf r.stop bs }, c)
      | (bs, none, c) =>
        fill fuel { r with buf := copyAt r.buf r.stop bs, stop := r.stop + bs.length } c n
    else (none, r, c)

def ensureBytes (r : Reader) (c : Conn) (n : ℕ) : Option Err × Reader × Conn :=
  if n ≤ r.stop - r.offset then (none, r, c)
  else fill (c.pending.length + 1) (grow (compact r) n) c n

def readPacket (r : Reader) (c : Conn) : Except Err Bytes × Reader × Conn :=
  match ensureBytes r c 4 with
  | (some e, r, c) => (.error e, r, c)
  | (none, r, c) =>
    let totalLen := 4 + payloadLen (r.buf.drop r.offset)
    match ensureBytes r c totalLen with
    | (some e, r, c) => (.error e, r, c)
    | (none, r, c) =>
      (.ok ((r.buf.drop r.offset).take totalLen), { r with offset := r.offset + totalLen }, c)

structure Inv (r : Reader) : Prop where
  offset_le : r.offset ≤ r.stop
  stop_le : r.stop ≤ r.buf.length

def unread (r : Reader) : Bytes := (r.buf.take r.stop).drop r.offset

theorem new_inv : Inv newMySQLPacketReader := ⟨le_rfl, Nat.zero_le _⟩

@[simp] theorem unread_new : unread newMySQLPacketReader = [] := rfl

theorem unread_length {r : Reader} (h : Inv r) : (unread r).length = r.stop - r.offset := by
  have := h.stop_le
  simp only [unread, List.length_drop, List.length_take]
  omega

theorem compact_spec {r : Reader} (h : Inv r) :
    Inv (compact r) ∧ unread (compact r) = unread r ∧ (compact r).offset = 0 ∧
      (compact r).stop = r.stop - r.offset := by
  have h1 := h.offset_le
  have h2 := h.stop_le
  have hu : (r.buf.drop r.offset).take (r.stop - r.offset) = unread r := by
    rw [unread, List.drop_take]
  unfold compact
  dsimp only
  split_ifs with ho ha
  · rw [hu]
    have hl := unread_length h
    have hc := copyAt_take r.buf (unread r) 0 (by omega)
    rw [hl, Nat.zero_add, List.take_zero, List.nil_append] at hc
    refine ⟨⟨Nat.zero_le _, ?_⟩, ?_, rfl, rfl⟩
    · rw [copyAt_length _ (Nat.zero_le _)]
      dsimp only
      omega
    · simp only [unread, List.drop_zero] at hc ⊢
      exact hc
  · have hz : r.stop - r.offset = 0 := by omega
    refine ⟨⟨Nat.zero_le _, by dsimp only; omega⟩, ?_, rfl, rfl⟩
    have hn : unread r = [] := List.length_eq_zero_iff.mp (by rw [unread_length h, hz])
    rw [hn]
    simp [unread, hz]
  · exact ⟨h, rfl, by omega, by omega⟩

theorem grow_spec {r : Reader} (n : ℕ) (h : Inv r) (ho : r.offset = 0) (hn : r.stop < n) :
    Inv (grow r n) ∧ unread (grow r n) = unread r ∧ (grow r n).offset = 0 ∧
      (grow r n).stop = r.stop ∧ n ≤ (grow r n).buf.length := by
  have h2 := h.stop_le
  unfold grow
  split_ifs with hb
  · have hl : (r.buf.take r.stop).length = r.stop := by simp only [List.length_take]; omega
    have hr : (List.replicate (n * 2) (0 : UInt8)).length = n * 2 := List.length_replicate
    have hc := copyAt_take (List.replicate (n * 2) 0) (r.buf.take r.stop) 0
      (by rw [hl, hr]; omega)
    have hlen : (copyAt (List.replicate (n * 2) 0) 0 (r.buf.take r.stop)).length = n * 2 := by
      rw [copyAt_length _ (Nat.zero_le _), hr]
    rw [hl, Nat.zero_add, List.take_zero, List.nil_append] at hc
    refine ⟨⟨by simp [ho], ?_⟩, ?_, ho, rfl, ?_⟩
    · dsimp only
      omega
    · simp only [unread, hc]
    · dsimp only
      omega
  · exact ⟨h, rfl, ho, rfl, by omega⟩

/-- Storing the bytes of a `Read` at the end of the window extends the window by them. -/
theorem store_spec {r : Reader} {bs : Bytes} (h : Inv r)
    (hb : bs.length ≤ r.buf.length - r.stop) :
    Inv { r with buf := copyAt r.buf r.stop bs, stop := r.stop + bs.length } ∧
      unread { r with buf := copyAt r.buf r.stop bs, stop := r.stop + bs.length } =
        unread r ++ bs := by
  have h1 := h.offset_le
  have h2 := h.stop_le
  refine ⟨⟨by dsimp only; omega, ?_⟩, ?_⟩
  · dsimp only
    rw [copyAt_length _ h2]
    omega
  · simp only [unread]
    rw [copyAt_take _ _ _ (by omega), List.drop_append_of_le_length]
    simp only [List.length_take]
    omega

theorem store_uncounted {r : Reader} (bs : Bytes) (h : Inv r) :
    Inv { r with buf := copyAt r.buf r.stop bs } ∧
      unread { r with buf := copyAt r.buf r.stop bs } = unread r := by
  have h2 := h.stop_le
  refine ⟨⟨h.offset_le, ?_⟩, ?_⟩
  · dsimp only
    rw [copyAt_length _ h2]
    exact h2
  · have ht : (copyAt r.buf r.stop bs).take r.stop = r.buf.take r.stop := by
      rw [copyAt, List.take_append_of_le_length (by simp only [List.length_take]; omega),
        List.take_take, Nat.min_self]
    simp only [unread, ht]

/-- `(e, r', c')` is the outcome of a call that tried to have more bytes buffered: the
window only grows, by what was taken from the connection, and on success nothing that was
taken is lost. -/
structure Buffered (r : Reader) (c : Conn) (e : Option Err) (r' : Reader) (c' : Conn) : Prop where
  inv : Inv r'
  reads : Reads c c'
  taken : ∃ new lost, unread r' = unread r ++ new ∧ c'.received = c.received ++ (new ++ lost) ∧
    (e = none → lost = [])

theorem Buffered.refl {r : Reader} (c : Conn) (h : Inv r) : Buffered r c none r c :=
  ⟨h, Reads.refl c, [], [], by simp⟩

theorem fill_done {fuel n : ℕ} {r : Reader} {c : Conn} (h : n ≤ r.stop) :
    fill (fuel + 1) r c n = (none, r, c) := by
  simp [fill, Nat.not_lt.mpr h]

theorem fill_spec (fuel : ℕ) (r : Reader) (c : Conn) (n : ℕ) (h : Inv r) :
    Buffered r c (fill fuel r c n).1 (fill fuel r c n).2.1 (fill fuel r c n).2.2 ∧
      (fill fuel r c n).2.1.offset = r.offset ∧
      ((fill fuel r c n).1 = none → n ≤ (fill fuel r c n).2.1.stop) := by
  induction fuel generalizing r c with
  | zero => exact ⟨⟨h, Reads.refl c, [], [], by simp [fill]⟩, rfl, by simp [fill]⟩
  | succ fuel ih =>
    by_cases hn : r.stop < n
    · have hrec := read_received c (r.buf.length - r.stop)
      have hreads := read_reads c (r.buf.length - r.stop)
      have hlen := read_length c (r.buf.length - r.stop)
      simp only [fill, hn, if_true]
      rcases hr : c.read (r.buf.length - r.stop) with ⟨bs, e, c'⟩
      simp only [hr] at hrec hreads hlen
      cases e with
      | some e =>
        obtain ⟨hi, hu⟩ := store_uncounted bs h
        exact ⟨⟨hi, hreads, [], bs, by simp [hu, hrec]⟩, rfl, by simp⟩
      | none =>
        obtain ⟨hi, hu⟩ := store_spec h hlen
        obtain ⟨⟨gi, gr, new, lost, gu, gc, gl⟩, go, gn⟩ :=
          ih { r with buf := copyAt r.buf r.stop bs, stop := r.stop + bs.length } c' hi
        refine ⟨⟨gi, hreads.trans gr, bs ++ new, lost, ?_, ?_, gl⟩, go, gn⟩
        · rw [gu, hu, List.append_assoc]
        · rw [gc, hrec]
          simp only [List.append_assoc]
    · rw [fill_done (Nat.not_lt.mp hn)]
      exact ⟨Buffered.refl c h, rfl, fun _ => Nat.not_lt.mp hn⟩

/-- With enough bytes ready the loop succeeds, and moves ready bytes into the window. -/
theorem fill_ready (fuel : ℕ) (r : Reader) (c : Conn) (n : ℕ) (h : Inv r)
    (hb : n ≤ r.buf.length) (hf : c.pending.length + 1 ≤ fuel)
    (hn : n ≤ r.stop + c.ready.length) :
    (fill fuel r c n).1 = none ∧
      unread (fill fuel r c n).2.1 ++ (fill fuel r c n).2.2.ready = unread r ++ c.ready := by
  induction fuel generalizing r c with
  | zero => omega
  | succ fuel ih =>
    by_cases hd : r.stop < n
    · have hne : c.ready ≠ [] := by
        intro he
        rw [he] at hn
        simp only [List.length_nil] at hn
        omega
      obtain ⟨herr, hsplit⟩ := read_ready (r.buf.length - r.stop) hne
      have hprog := read_progress (r.buf.length - r.stop) hne
      have hlen := read_length c (r.buf.length - r.stop)
      simp only [fill, hd, if_true]
      rcases hr : c.read (r.buf.length - r.stop) with ⟨bs, e, c'⟩
      simp only [hr] at herr hsplit hprog hlen
      subst herr
      dsimp only
      obtain ⟨hi, hu⟩ := store_spec h hlen
      have hl := congrArg List.length hsplit
      simp only [List.length_append] at hl
      rcases hprog with hfull | hseg
      · obtain ⟨fuel, rfl⟩ : ∃ k, fuel = k + 1 := by
          cases fuel with
          | zero =>
            have hp : c.pending = [] := List.length_eq_zero_iff.mp (by omega)
            exact absurd (by simp [Conn.ready, hp, readyBytes]) hne
          | succ k => exact ⟨k, rfl⟩
        rw [fill_done (by dsimp only; omega)]
        exact ⟨rfl, by rw [hu, hsplit, List.append_assoc]⟩
      · have hb' : n ≤ (copyAt r.buf r.stop bs).length := by rwa [copyAt_length _ h.stop_le]
        obtain ⟨g1, g2⟩ := ih { r with buf := copyAt r.buf r.stop bs, stop := r.stop + bs.length }
          c' hi hb' (by omega) (by dsimp only; omega)
        exact ⟨g1, by rw [g2, hu, hsplit, List.append_assoc]⟩
    · rw [fill_done (Nat.not_lt.mp hd)]
      exact ⟨rfl, rfl⟩

theorem ensureBytes_spec {r : Reader} (c : Conn) (n : ℕ) (h : Inv r) :
    Buffered r c (ensureBytes r c n).1 (ensureBytes r c n).2.1 (ensureBytes r c n).2.2 ∧
      ((ensureBytes r c n).1 = none → n ≤ (unread (ensureBytes r c n).2.1).length) := by
  unfold ensureBytes
  split_ifs with ha
  · exact ⟨Buffered.refl c h, fun _ => by rw [unread_length h]; exact ha⟩
  · obtain ⟨ci, cu, co, cs⟩ := compact_spec h
    obtain ⟨gi, gu, go, gs, -⟩ := grow_spec n ci co (by omega)
    obtain ⟨fb, fo, fn⟩ := fill_spec (c.pending.length + 1) (grow (compact r) n) c n gi
    refine ⟨⟨fb.inv, fb.reads, ?_⟩, fun he => ?_⟩
    · obtain ⟨new, lost, hu, hc, hl⟩ := fb.taken
      exact ⟨new, lost, by rw [hu, gu, cu], hc, hl⟩
    · have := fn he
      rw [unread_length fb.inv, fo, go]
      omega

theorem ensureBytes_ready {r : Reader} {c : Conn} {n : ℕ} (h : Inv r)
    (hn : n ≤ (unread r ++ c.ready).length) :
    (ensureBytes r c n).1 = none ∧
      unread (ensureBytes r c n).2.1 ++ (ensureBytes r c n).2.2.ready = unread r ++ c.ready := by
  rw [List.length_append, unread_length h] at hn
  unfold ensureBytes
  split_ifs with ha
  · exact ⟨rfl, rfl⟩
  · obtain ⟨ci, cu, co, cs⟩ := compact_spec h
    obtain ⟨gi, gu, go, gs, gb⟩ := grow_spec n ci co (by omega)
    obtain ⟨h1, h2⟩ := fill_ready (c.pending.length + 1) (grow (compact r) n) c n gi gb le_rfl
      (by omega)
    exact ⟨h1, by rw [h2, gu, cu]⟩

theorem unread_drop {r : Reader} {k : ℕ} (h : Inv r) (hk : k ≤ (unread r).length) :
    Inv { r with offset := r.offset + k } ∧
      (r.buf.drop r.offset).take k = (unread r).take k ∧
      unread { r with offset := r.offset + k } = (unread r).drop k := by
  have hl := unread_length h
  have h1 := h.offset_le
  refine ⟨⟨by dsimp only; omega, h.stop_le⟩, ?_, ?_⟩
  · rw [unread, List.drop_take, List.take_take, Nat.min_eq_left (by omega)]
  · simp only [unread, List.drop_drop]

theorem Buffered.trans {r r₁ r₂ : Reader} {c c₁ c₂ : Conn} {e : Option Err}
    (h : Buffered r c none r₁ c₁) (g : Buffered r₁ c₁ e r₂ c₂) : Buffered r c e r₂ c₂ := by
  obtain ⟨new, lost, hu, hc, hl⟩ := h.taken
  obtain ⟨new', lost', hu', hc', hl'⟩ := g.taken
  have hz : lost = [] := hl rfl
  subst hz
  refine ⟨g.inv, h.reads.trans g.reads, new ++ new', lost', ?_, ?_, hl'⟩
  · rw [hu', hu, List.append_assoc]
  · rw [hc', hc]
    simp only [List.append_nil, List.append_assoc]

/-- The length field is read through the whole buffer, which agrees with the window. -/
theorem payloadLen_window {r : Reader} (h : Inv r) (hl : 3 ≤ (unread r).length) :
    payloadLen (r.buf.drop r.offset) = payloadLen (unread r) := by
  unfold payloadLen
  rw [(unread_drop h hl).2.1]

/-- A successful `readPacket`: the packet is the front of the unread bytes, and it is whole. -/
theorem readPacket_ok {r r' : Reader} {c c' : Conn} {p : Bytes} (h : Inv r)
    (hp : readPacket r c = (.ok p, r', c')) :
    WellFramed p ∧ Inv r' ∧ Reads c c' ∧
      ∃ new, unread r ++ new = p ++ unread r' ∧ c'.received = c.received ++ new := by
  unfold readPacket at hp
  obtain ⟨b1, l1⟩ := ensureBytes_spec c 4 h
  rcases h1 : ensureBytes r c 4 with ⟨_ | e1, r1, c1⟩
  all_goals simp only [h1] at hp b1 l1
  · have hl1 := l1 trivial
    obtain ⟨b2, l2⟩ := ensureBytes_spec c1 (4 + payloadLen (r1.buf.drop r1.offset)) b1.inv
    rcases h2 : ensureBytes r1 c1 (4 + payloadLen (r1.buf.drop r1.offset)) with ⟨_ | e2, r2, c2⟩
    all_goals simp only [h2] at hp b2 l2
    · have hl2 := l2 trivial
      simp only [Prod.mk.injEq, Except.ok.injEq] at hp
      obtain ⟨rfl, rfl, rfl⟩ := hp
      obtain ⟨di, dt, du⟩ := unread_drop b2.inv hl2
      have hsame : payloadLen (unread r2) = payloadLen (r1.buf.drop r1.offset) := by
        obtain ⟨new, lost, hu, -, -⟩ := b2.taken
        rw [payloadLen_window b1.inv (by omega), hu]
        simp only [payloadLen]
        rw [List.take_append_of_le_length (by omega)]
      obtain ⟨new, lost, hu, hc, hl⟩ := (b1.trans b2).taken
      have hz : lost = [] := hl rfl
      subst hz
      refine ⟨⟨?_, ?_⟩, di, (b1.trans b2).reads, new, ?_, ?_⟩
      · rw [dt, List.length_take]
        omega
      · rw [dt, payloadLen_take (by omega), hsame, List.length_take]
        omega
      · rw [dt, du, List.take_append_drop, hu]
      · rw [hc, List.append_nil]
    · simp at hp
  · simp at hp

theorem readPacket_error {r r' : Reader} {c c' : Conn} {e : Err} (h : Inv r)
    (hp : readPacket r c = (.error e, r', c')) : Buffered r c (some e) r' c' := by
  unfold readPacket at hp
  obtain ⟨b1, -⟩ := ensureBytes_spec c 4 h
  rcases h1 : ensureBytes r c 4 with ⟨_ | e1, r1, c1⟩
  all_goals simp only [h1] at hp b1
  · obtain ⟨b2, -⟩ := ensureBytes_spec c1 (4 + payloadLen (r1.buf.drop r1.offset)) b1.inv
    rcases h2 : ensureBytes r1 c1 (4 + payloadLen (r1.buf.drop r1.offset)) with ⟨_ | e2, r2, c2⟩
    all_goals simp only [h2] at hp b2
    · simp at hp
    · simp only [Prod.mk.injEq, Except.error.injEq] at hp
      obtain ⟨rfl, rfl, rfl⟩ := hp
      exact b1.trans b2
  · simp only [Prod.mk.injEq, Except.error.injEq] at hp
    obtain ⟨rfl, rfl, rfl⟩ := hp
    exact b1

/-- When four bytes are there, the length field that is read is the one in front of them. -/
lemma ensureBytes_header {r : Reader} {c : Conn} (h : Inv r) (hn : 4 ≤ (unread r ++ c.ready).length) :
    ∃ r' c', ensureBytes r c 4 = (none, r', c') ∧ Buffered r c none r' c' ∧
      unread r' ++ c'.ready = unread r ++ c.ready ∧
      payloadLen (r'.buf.drop r'.offset) = payloadLen (unread r ++ c.ready) := by
  obtain ⟨hb, hl⟩ := ensureBytes_spec c 4 h
  obtain ⟨hnone, hu⟩ := ensureBytes_ready h hn
  rcases he : ensureBytes r c 4 with ⟨e, r', c'⟩
  simp only [he] at hb hl hnone hu
  subst hnone
  have hlen := hl rfl
  refine ⟨r', c', rfl, hb, hu, ?_⟩
  rw [payloadLen_window hb.inv (by omega), ← hu]
  simp only [payloadLen]
  rw [List.take_append_of_le_length (by omega)]

/-- A packet in front of the unread and ready bytes is returned, and these advance past it. -/
theorem readPacket_ready {r : Reader} {c : Conn} {p : Packet} {rest : Bytes} (h : Inv r)
    (hr : unread r ++ c.ready = p.bytes ++ rest) :
    ∃ r' c', readPacket r c = (.ok p.bytes, r', c') ∧ Inv r' ∧ Reads c c' ∧
      unread r' ++ c'.ready = rest := by
  have hlen := congrArg List.length hr
  simp only [List.length_append, bytes_length] at hlen
  obtain ⟨r1, c1, h1, b1, u1, hlen1⟩ := ensureBytes_header (c := c) h
    (by simp only [List.length_append]; omega)
  rw [hr, payloadLen_bytes_append] at hlen1
  obtain ⟨b2, l2⟩ := ensureBytes_spec c1 (4 + p.payload.length) b1.inv
  obtain ⟨n2, u2⟩ := ensureBytes_ready (c := c1) (n := 4 + p.payload.length) b1.inv
    (by rw [u1, List.length_append]; omega)
  rcases h2 : ensureBytes r1 c1 (4 + p.payload.length) with ⟨e2, r2, c2⟩
  simp only [h2] at b2 l2 n2 u2
  subst n2
  have hl2 := l2 rfl
  obtain ⟨di, dt, du⟩ := unread_drop b2.inv hl2
  have hall : unread r2 ++ c2.ready = p.bytes ++ rest := by rw [u2, u1, hr]
  have hfront : (unread r2).take (4 + p.payload.length) = p.bytes := by
    have ht := congrArg (List.take (4 + p.payload.length)) hall
    rwa [List.take_append_of_le_length hl2,
      List.take_append_of_le_length (by rw [bytes_length]),
      List.take_of_length_le (l := p.bytes) (by rw [bytes_length])] at ht
  refine ⟨{ r2 with offset := r2.offset + (4 + p.payload.length) }, c2, ?_, di,
    b1.reads.trans b2.reads, ?_⟩
  · simp only [readPacket, h1, hlen1, h2]
    rw [dt, hfront]
  · rw [du]
    have hdrop : p.bytes ++ ((unread r2).drop (4 + p.payload.length) ++ c2.ready) =
        p.bytes ++ rest := by
      rw [← hall, ← hfront, ← List.append_assoc, List.take_append_drop]
    exact List.append_cancel_left hdrop

/-- The reader stands right behind `start`: what was taken from the connection beyond it is
unread. -/
structure Positioned (start : Bytes) (r : Reader) (c : Conn) : Prop where
  inv : Inv r
  received : c.received = start ++ unread r

lemma positioned_new (c : Conn) : Positioned c.received newMySQLPacketReader c :=
  ⟨new_inv, by simp⟩

lemma Positioned.stream_prefix {start : Bytes} {r : Reader} {c c' : Conn}
    (h : Positioned start r c) (hr : Reads c c') : start <+: c'.stream := by
  rw [hr.stream, Conn.stream, h.received, List.append_assoc]
  exact List.prefix_append _ _

lemma Positioned.readPacket_ok {start p : Bytes} {r r' : Reader} {c c' : Conn}
    (h : Positioned start r c) (hp : readPacket r c = (.ok p, r', c')) :
    WellFramed p ∧ Positioned (start ++ p) r' c' ∧ Reads c c' := by
  obtain ⟨hw, hi, hr, new, hu, hc⟩ := MySQLPacketReader.readPacket_ok h.inv hp
  refine ⟨hw, ⟨hi, ?_⟩, hr⟩
  rw [hc, h.received, List.append_assoc, hu, List.append_assoc]

/-- All but the last packet of a command have the maximal payload length. -/
def IsCommand : List Bytes → Prop
  | [] => False
  | [p] => payloadLen p < 0xFFFFFF
  | p :: q :: ps => payloadLen p = 0xFFFFFF ∧ IsCommand (q :: ps)

/-- An upper bound on the bytes a reader can still be given. -/
def available (r : Reader) (c : Conn) : ℕ :=
  (r.stop - r.offset) + (c.pending.flatMap Segment.bytes).length

def readMultiPacketLoop : ℕ → Reader → Conn → Bytes → Except Err Bytes × Reader × Conn
  | 0, r, c, _ => (.error .stalled, r, c)
  | fuel + 1, r, c, result =>
    match readPacket r c with
    | (.error e, r, c) => (.error e, r, c)
    | (.ok packet, r, c) =>
      if payloadLen packet < 0xFFFFFF then (.ok (result ++ packet), r, c)
      else readMultiPacketLoop fuel r c (result ++ packet)

def readMultiPacket (r : Reader) (c : Conn) : Except Err Bytes × Reader × Conn :=
  readMultiPacketLoop (available r c + 1) r c []

/-- The bytes of one command: whole packets, of which only the last is not full. -/
def CommandBytes (cmd : Bytes) : Prop :=
  ∃ ps : List Bytes, cmd = ps.flatten ∧ IsCommand ps ∧ ∀ p ∈ ps, WellFramed p

lemma isCommand_cons {p : Bytes} {ps : List Bytes} (hp : payloadLen p = 0xFFFFFF)
    (h : IsCommand ps) : IsCommand (p :: ps) := by
  cases ps with
  | nil => exact h.elim
  | cons q ps => exact ⟨hp, h⟩

lemma payloadLen_full {p : Bytes} (h : ¬ payloadLen p < 0xFFFFFF) : payloadLen p = 0xFFFFFF := by
  have := payloadLen_lt p
  omega

lemma readMultiPacketLoop_ok {fuel : ℕ} {start result cmd : Bytes} {r r' : Reader} {c c' : Conn}
    (h : Positioned start r c) (hm : readMultiPacketLoop fuel r c result = (.ok cmd, r', c')) :
    ∃ ps : List Bytes, cmd = result ++ ps.flatten ∧ IsCommand ps ∧ (∀ p ∈ ps, WellFramed p) ∧
      Positioned (start ++ ps.flatten) r' c' ∧ Reads c c' := by
  induction fuel generalizing r c start result with
  | zero => simp [readMultiPacketLoop] at hm
  | succ fuel ih =>
    unfold readMultiPacketLoop at hm
    rcases hp : readPacket r c with ⟨e | p, r₁, c₁⟩
    · simp [hp] at hm
    · obtain ⟨hw, hpos, hreads⟩ := h.readPacket_ok hp
      simp only [hp] at hm
      split_ifs at hm with hlast
      · simp only [Prod.mk.injEq, Except.ok.injEq] at hm
        obtain ⟨rfl, rfl, rfl⟩ := hm
        exact ⟨[p], by simp, hlast, by simpa using hw, by simpa using hpos, hreads⟩
      · obtain ⟨ps, rfl, hcmd, hall, hpos', hreads'⟩ := ih hpos hm
        refine ⟨p :: ps, by simp, isCommand_cons (payloadLen_full hlast) hcmd, ?_, ?_,
          hreads.trans hreads'⟩
        · exact List.forall_mem_cons.mpr ⟨hw, hall⟩
        · simpa using hpos'

/-- A command that is returned is whole, and the reader stands right behind it. -/
theorem readMultiPacket_ok {start cmd : Bytes} {r r' : Reader} {c c' : Conn}
    (h : Positioned start r c) (hm : readMultiPacket r c = (.ok cmd, r', c')) :
    CommandBytes cmd ∧ Positioned (start ++ cmd) r' c' ∧ Reads c c' := by
  obtain ⟨ps, hcmd, hc, hall, hpos, hreads⟩ := readMultiPacketLoop_ok h hm
  obtain rfl : cmd = ps.flatten := hcmd
  exact ⟨⟨ps, rfl, hc, hall⟩, hpos, hreads⟩

lemma fill_reads (fuel : ℕ) (r : Reader) (c : Conn) (n : ℕ) : Reads c (fill fuel r c n).2.2 := by
  induction fuel generalizing r c with
  | zero => exact Reads.refl c
  | succ fuel ih =>
    unfold fill
    split_ifs
    · have hreads := read_reads c (r.buf.length - r.stop)
      rcases hr : c.read (r.buf.length - r.stop) with ⟨bs, _ | e, c₁⟩ <;> rw [hr] at hreads
      · exact hreads.trans (ih _ _)
      · exact hreads
    · exact Reads.refl c

lemma ensureBytes_reads (r : Reader) (c : Conn) (n : ℕ) : Reads c (ensureBytes r c n).2.2 := by
  unfold ensureBytes
  split_ifs
  · exact Reads.refl c
  · exact fill_reads _ _ _ _

lemma readPacket_reads (r : Reader) (c : Conn) : Reads c (readPacket r c).2.2 := by
  unfold readPacket
  have hhead := ensureBytes_reads r c 4
  rcases h₁ : ensureBytes r c 4 with ⟨_ | e, r₁, c₁⟩ <;> rw [h₁] at hhead
  · dsimp only
    have hbody := ensureBytes_reads r₁ c₁ (4 + payloadLen (r₁.buf.drop r₁.offset))
    rcases h₂ : ensureBytes r₁ c₁ (4 + payloadLen (r₁.buf.drop r₁.offset)) with ⟨_ | e, r₂, c₂⟩ <;>
      rw [h₂] at hbody
    · exact hhead.trans hbody
    · exact hhead.trans hbody
  · exact hhead

lemma readMultiPacketLoop_reads (fuel : ℕ) (r : Reader) (c : Conn) (result : Bytes) :
    Reads c (readMultiPacketLoop fuel r c result).2.2 := by
  induction fuel generalizing r c result with
  | zero => exact Reads.refl c
  | succ fuel ih =>
    unfold readMultiPacketLoop
    have hreads := readPacket_reads r c
    rcases hp : readPacket r c with ⟨e | p, r₁, c₁⟩ <;> rw [hp] at hreads
    · exact hreads
    · dsimp only
      split_ifs
      · exact hreads
      · exact hreads.trans (ih _ _ _)

lemma readMultiPacketLoop_ready {fuel : ℕ} {ps : List Packet} {rest : Bytes} (result : Bytes)
    {r : Reader} {c : Conn} (h : Inv r) (hcmd : IsCommand (ps.map Packet.bytes)) (hf : ps.length ≤ fuel)
    (hr : unread r ++ c.ready = wire ps ++ rest) :
    ∃ r' c', readMultiPacketLoop fuel r c result = (.ok (result ++ wire ps), r', c') := by
  induction ps generalizing fuel r c result with
  | nil => exact hcmd.elim
  | cons p ps ih =>
    obtain ⟨fuel, rfl⟩ : ∃ k, fuel = k + 1 := ⟨fuel - 1, by simp only [List.length_cons] at hf; omega⟩
    rw [wire_cons, List.append_assoc] at hr
    obtain ⟨r₁, c₁, hp, hi, -, hr₁⟩ := readPacket_ready h hr
    simp only [readMultiPacketLoop, hp]
    cases ps with
    | nil =>
      have hlast : payloadLen p.bytes < 0xFFFFFF := hcmd
      rw [if_pos hlast]
      exact ⟨r₁, c₁, by simp⟩
    | cons q ps =>
      obtain ⟨hfull, hcmd⟩ := hcmd
      rw [if_neg (by omega)]
      obtain ⟨r', c', hloop⟩ := ih (result ++ p.bytes) hi hcmd (by simpa using hf) hr₁
      exact ⟨r', c', by simpa using hloop⟩

end ShadowProxy.MySQLPacketReader
