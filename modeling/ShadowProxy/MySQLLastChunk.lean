import ShadowProxy.MySQLSegmentation

/-! A `Read` may return the last bytes of a stream together with the error that ends it, or leave the
error to the next call. The buffered reader does not count bytes that come with an error. -/
namespace ShadowProxy.MySQLLastChunk
open WordBytes NetConn MySQLPacket MySQLPacketReader MySQLSegmentation

/-- The packets that `n` calls return, up to the first one that fails. -/
def packets : ℕ → Reader → Conn → List Bytes
  | 0, _, _ => []
  | n + 1, r, c =>
    match readPacket r c with
    | (.error _, _, _) => []
    | (.ok packet, r, c) => packet :: packets n r c

/-- The bytes do not reach the end of their first packet. -/
def Unfinished (bs : Bytes) : Prop := bs.length < 4 + payloadLen bs

instance (bs : Bytes) : Decidable (Unfinished bs) := inferInstanceAs (Decidable (_ < _))

lemma not_unfinished_iff {bs : Bytes} :
    ¬ Unfinished bs ↔ ∃ (p : Packet) (rest : Bytes), bs = p.bytes ++ rest := by
  constructor
  · intro h
    have hlen : 4 + payloadLen bs ≤ bs.length := Nat.not_lt.mp h
    have hw : WellFramed (bs.take (4 + payloadLen bs)) := by
      rw [WellFramed, payloadLen_take (by omega), List.length_take]
      omega
    obtain ⟨p, hp⟩ := hw.exists_packet
    exact ⟨p, bs.drop (4 + payloadLen bs), by rw [hp, List.take_append_drop]⟩
  · rintro ⟨p, rest, rfl⟩
    simp [Unfinished]

section Packets
variable {r : Reader} {c : Conn} {ps : List Packet} {rest : Bytes}

lemma packets_ready {I : Reader → Conn → Prop}
    (hkeep : ∀ {r c p rest r' c'}, I r c → Inv r → unread r ++ c.ready = Packet.bytes p ++ rest →
      readPacket r c = (.ok p.bytes, r', c') → I r' c')
    (h : I r c) (hi : Inv r) (hready : unread r ++ c.ready = wire ps ++ rest) (n : ℕ) :
    ∃ r' c', packets (ps.length + n) r c = ps.map Packet.bytes ++ packets n r' c' ∧ I r' c' ∧
      Inv r' ∧ unread r' ++ c'.ready = rest := by
  induction ps generalizing r c with
  | nil => exact ⟨r, c, by simp, h, hi, by simpa using hready⟩
  | cons p ps ih =>
    rw [wire_cons, List.append_assoc] at hready
    obtain ⟨r₁, c₁, hp, hi₁, -, hready₁⟩ := readPacket_ready hi hready
    obtain ⟨r', c', hrun, hend⟩ := ih (hkeep h hi hready hp) hi₁ hready₁
    refine ⟨r', c', ?_, hend⟩
    rw [List.length_cons, Nat.add_right_comm, packets, hp]
    simp only [List.map_cons, List.cons_append, hrun]

lemma packets_exact {whole : Bytes} (hi : Inv r) (hready : unread r ++ c.ready = wire ps ++ rest)
    (hall : unconsumed r c = wire ps ++ whole) (hwhole : Unfinished whole) (n : ℕ) :
    packets n r c = (ps.take n).map Packet.bytes := by
  induction n generalizing r c ps with
  | zero => rfl
  | succ n ih =>
    cases ps with
    | nil =>
      rw [packets]
      rcases hp : readPacket r c with ⟨e | p, r', c'⟩
      · rfl
      · obtain ⟨hw, -, hfront⟩ := readPacket_consumes hi hp
        obtain ⟨q, rfl⟩ := hw.exists_packet
        exact absurd hwhole (not_unfinished_iff.mpr ⟨q, _, hall.symm.trans hfront⟩)
    | cons p ps =>
      rw [wire_cons, List.append_assoc] at hready hall
      obtain ⟨r', c', hp, hi', -, hready'⟩ := readPacket_ready hi hready
      obtain ⟨-, -, hfront⟩ := readPacket_consumes hi hp
      have hall' := List.append_cancel_left (hfront.symm.trans hall)
      rw [packets, hp, List.take_succ_cons, List.map_cons]
      exact congrArg (p.bytes :: ·) (ih hi' hready' hall')

end Packets

/-- The segment `last` is still to come, behind others without an error, and the buffer has at least
`size` bytes. -/
structure Before (last : Segment) (size : ℕ) (r : Reader) (c : Conn) : Prop where
  inv : Inv r
  room : size ≤ r.buf.length
  coming : ∃ segs, (∀ s ∈ segs, s.err = none) ∧ c.pending = segs ++ [last]

section Before
variable {last : Segment} {size n : ℕ} {r : Reader} {c : Conn}

lemma read_before {segs : List Segment} (hclean : ∀ s ∈ segs, s.err = none)
    (hpending : c.pending = segs ++ [last]) (hready : c.ready ≠ []) (hlast : last.err ≠ none) (k : ℕ) :
    ∃ segs', (∀ s ∈ segs', s.err = none) ∧ (c.read k).2.2.pending = segs' ++ [last] := by
  cases segs with
  | nil => simp [Conn.ready, hpending, readyBytes, hlast] at hready
  | cons s segs =>
    obtain ⟨hs, hsegs⟩ := List.forall_mem_cons.mp hclean
    unfold Conn.read
    rw [hpending, List.cons_append]
    dsimp only
    split_ifs
    · exact ⟨⟨s.bytes.drop k, s.err⟩ :: segs, List.forall_mem_cons.mpr ⟨hs, hsegs⟩, rfl⟩
    · exact ⟨segs, hsegs, rfl⟩

lemma fill_before (fuel : ℕ) (h : Before last size r c) (hlast : last.err ≠ none)
    (hn : n ≤ r.stop + c.ready.length) :
    Before last size (fill fuel r c n).2.1 (fill fuel r c n).2.2 := by
  induction fuel generalizing r c with
  | zero => exact h
  | succ fuel ih =>
    by_cases hd : r.stop < n
    · obtain ⟨segs, hclean, hpending⟩ := h.coming
      have hne : c.ready ≠ [] := by
        intro hnil
        rw [hnil, List.length_nil] at hn
        omega
      obtain ⟨hnone, hsplit⟩ := read_ready (r.buf.length - r.stop) hne
      have hbefore := read_before hclean hpending hne hlast (r.buf.length - r.stop)
      have hlen := read_length c (r.buf.length - r.stop)
      simp only [fill, hd, if_true]
      rcases hr : c.read (r.buf.length - r.stop) with ⟨bs, e, c'⟩
      simp only [hr] at hnone hsplit hbefore hlen
      subst hnone
      rw [hsplit, List.length_append] at hn
      refine ih ⟨(store_spec h.inv hlen).1, ?_, hbefore⟩ (by dsimp only; omega)
      rw [copyAt_length _ h.inv.stop_le]
      exact h.room
    · rwa [fill_done (by omega)]

lemma makeRoom_before (h : Before last size r c) (hn : ¬ n ≤ r.stop - r.offset) :
    Before last size (grow (compact r) n) c ∧ (grow (compact r) n).stop = (unread r).length := by
  obtain ⟨ci, -, co, cs⟩ := compact_spec h.inv
  obtain ⟨gi, -, -, gs, -⟩ := grow_spec n ci co (by omega)
  have hcompact : (compact r).buf.length = r.buf.length := by
    unfold compact
    dsimp only
    split_ifs
    · exact copyAt_length _ (Nat.zero_le _)
    · rfl
    · rfl
  have hgrow : (compact r).buf.length ≤ (grow (compact r) n).buf.length := by
    unfold grow
    split_ifs with hb
    · rw [copyAt_length _ (Nat.zero_le _), List.length_replicate]
      omega
    · exact le_rfl
  refine ⟨⟨gi, ?_, h.coming⟩, by rw [gs, cs, unread_length h.inv]⟩
  have hroom := h.room
  omega

lemma ensureBytes_before (h : Before last size r c) (hlast : last.err ≠ none)
    (hn : n ≤ (unread r ++ c.ready).length) :
    Before last size (ensureBytes r c n).2.1 (ensureBytes r c n).2.2 := by
  unfold ensureBytes
  split_ifs with hd
  · exact h
  · obtain ⟨hroom, hstop⟩ := makeRoom_before h hd
    apply fill_before _ hroom hlast
    rwa [hstop, ← List.length_append]

lemma readPacket_before {r' : Reader} {c' : Conn} {p : Packet} {rest : Bytes}
    (hlast : last.err ≠ none) (h : Before last size r c)
    (hready : unread r ++ c.ready = p.bytes ++ rest) (hp : readPacket r c = (.ok p.bytes, r', c')) :
    Before last size r' c' := by
  have hlen : (unread r ++ c.ready).length = 4 + p.payload.length + rest.length := by
    rw [hready, List.length_append, bytes_length]
  obtain ⟨r₁, c₁, h₁, -, hu, hfield⟩ := ensureBytes_header h.inv (c := c) (by omega)
  rw [hready, payloadLen_bytes_append] at hfield
  have hb₁ := ensureBytes_before (n := 4) h hlast (by omega)
  rw [h₁] at hb₁
  have hb₂ := ensureBytes_before (n := 4 + p.payload.length) hb₁ hlast
    (by rw [show unread r₁ ++ c₁.ready = _ from hu]; omega)
  obtain ⟨-, hi', -⟩ := readPacket_ok h.inv hp
  simp only [readPacket, h₁, hfield] at hp
  rcases h₂ : ensureBytes r₁ c₁ (4 + p.payload.length) with ⟨_ | e, r₂, c₂⟩
  · simp only [h₂, Prod.mk.injEq] at hp hb₂
    obtain ⟨-, rfl, rfl⟩ := hp
    exact ⟨hi', hb₂.room, hb₂.coming⟩
  · simp [h₂] at hp

lemma fill_starved {bs : Bytes} {e : Err} (segs : List Segment) (hi : Inv r)
    (hclean : ∀ s ∈ segs, s.err = none) (hpending : c.pending = segs ++ [⟨bs, some e⟩])
    (hn : r.stop + (segs.flatMap Segment.bytes).length < n)
    (hfit : r.stop + (segs.flatMap Segment.bytes).length + bs.length ≤ r.buf.length)
    {fuel : ℕ} (hfuel : segs.length < fuel) : (fill fuel r c n).1 = some e := by
  induction segs generalizing r c fuel with
  | nil =>
    obtain ⟨fuel, rfl⟩ := Nat.exists_eq_add_of_lt hfuel
    simp only [List.flatMap_nil, List.length_nil, Nat.add_zero] at hn hfit
    have hroom : ¬ r.buf.length - r.stop < bs.length := by omega
    simp [fill, hn, Conn.read, hpending, hroom]
  | cons s segs ih =>
    obtain ⟨hs, hsegs⟩ := List.forall_mem_cons.mp hclean
    obtain ⟨fuel, rfl⟩ := Nat.exists_eq_add_of_lt (show 0 < fuel by omega)
    simp only [List.flatMap_cons, List.length_append, List.length_cons] at hn hfit hfuel
    have hread : c.read (r.buf.length - r.stop) = (s.bytes, none,
        ⟨segs ++ [⟨bs, some e⟩], c.received ++ s.bytes, c.sent, c.respond, c.writable⟩) := by
      simp [Conn.read, hpending, hs, show ¬ r.buf.length - r.stop < s.bytes.length by omega]
    have hlen : s.bytes.length ≤ r.buf.length - r.stop := by omega
    rw [Nat.zero_add, fill, if_pos (by omega), hread]
    refine ih (store_spec hi hlen).1 hsegs rfl (by dsimp only; omega) ?_ (by omega)
    rw [copyAt_length _ hi.stop_le]
    dsimp only
    omega

variable {bs : Bytes} {e : Err}

lemma ensureBytes_starved (h : Before ⟨bs, some e⟩ size r c)
    (hn : (unread r ++ c.ready).length < n)
    (hfit : (unread r ++ c.ready).length + bs.length ≤ size) : (ensureBytes r c n).1 = some e := by
  obtain ⟨segs, hclean, hpending⟩ := h.coming
  have hready : c.ready = segs.flatMap Segment.bytes := by
    rw [Conn.ready, hpending, readyBytes_append hclean]
    simp [readyBytes]
  rw [List.length_append, hready] at hn hfit
  have hd : ¬ n ≤ r.stop - r.offset := by
    rw [← unread_length h.inv]
    omega
  obtain ⟨hroom, hstop⟩ := makeRoom_before h hd
  have hsize := hroom.room
  rw [ensureBytes, if_neg hd]
  exact fill_starved segs hroom.inv hclean hpending (by omega) (by omega) (by simp [hpending])

lemma readPacket_starved (h : Before ⟨bs, some e⟩ size r c)
    (hrest : Unfinished (unread r ++ c.ready))
    (hfit : (unread r ++ c.ready).length + bs.length ≤ size) : (readPacket r c).1 = .error e := by
  by_cases hlen : 4 ≤ (unread r ++ c.ready).length
  · obtain ⟨r₁, c₁, h₁, -, hu, hfield⟩ := ensureBytes_header h.inv hlen
    have hb₁ := ensureBytes_before h (by simp) hlen
    rw [h₁] at hb₁
    have h₂ := ensureBytes_starved hb₁ (n := 4 + payloadLen (unread r ++ c.ready)) (by rw [hu]; exact hrest)
      (by rw [hu]; exact hfit)
    rw [readPacket, h₁]
    dsimp only
    rw [hfield]
    rcases h₃ : ensureBytes r₁ c₁ (4 + payloadLen (unread r ++ c.ready)) with ⟨_ | e', r₂, c₂⟩
    · simp [h₃] at h₂
    · obtain rfl : e' = e := by simpa [h₃] using h₂
      rfl
  · have h₁ := ensureBytes_starved h (by omega) hfit (n := 4)
    rw [readPacket]
    rcases h₃ : ensureBytes r c 4 with ⟨_ | e', r₁, c₁⟩
    · simp [h₃] at h₁
    · obtain rfl : e' = e := by simpa [h₃] using h₁
      rfl

end Before

section Delivery
variable (c : Conn) (segs : List Segment) (bs : Bytes) (e : Err)

/-- The last bytes come together with the error. -/
def joined : Conn := { c with pending := segs ++ [⟨bs, some e⟩] }

/-- The error comes with the `Read` behind the last bytes. -/
def separate : Conn := { c with pending := segs ++ [⟨bs, none⟩, ⟨[], some e⟩] }

end Delivery

section Delivery
variable {r : Reader} {c : Conn} {segs : List Segment} {bs rest : Bytes} {e : Err} {ps : List Packet}

lemma joined_ready (hclean : ∀ s ∈ segs, s.err = none) :
    (joined c segs bs e).ready = segs.flatMap Segment.bytes := by
  rw [Conn.ready, joined, readyBytes_append hclean]
  simp [readyBytes]

lemma separate_ready (hclean : ∀ s ∈ segs, s.err = none) :
    (separate c segs bs e).ready = segs.flatMap Segment.bytes ++ bs := by
  rw [Conn.ready, separate, readyBytes_append hclean]
  simp [readyBytes]

lemma joined_unconsumed (r : Reader) : unconsumed r (joined c segs bs e) =
    unread r ++ segs.flatMap Segment.bytes ++ bs := by
  simp [unconsumed, joined]

lemma separate_unconsumed (r : Reader) : unconsumed r (separate c segs bs e) =
    unread r ++ segs.flatMap Segment.bytes ++ bs := by
  simp [unconsumed, separate]

lemma packets_separate {qs : List Packet} {tail : Bytes} (hi : Inv r)
    (hclean : ∀ s ∈ segs, s.err = none)
    (hall : unread r ++ segs.flatMap Segment.bytes ++ bs = wire qs ++ tail) :
    packets qs.length r (separate c segs bs e) = qs.map Packet.bytes := by
  have hready : unread r ++ (separate c segs bs e).ready = wire qs ++ tail := by
    rw [separate_ready hclean, ← List.append_assoc, hall]
  obtain ⟨r', c', hrun, -⟩ := packets_ready (I := fun _ _ => True) (fun _ _ _ _ => trivial) trivial hi
    hready 0
  simpa [packets] using hrun

/-- Delivered with the error by one `Read`, the last bytes are lost. -/
lemma packets_joined (hi : Inv r) (hclean : ∀ s ∈ segs, s.err = none)
    (hstream : unread r ++ segs.flatMap Segment.bytes = wire ps ++ rest) (hrest : Unfinished rest)
    (hfit : rest.length + bs.length ≤ r.buf.length) (n : ℕ) :
    packets (ps.length + n) r (joined c segs bs e) = ps.map Packet.bytes := by
  have hready : unread r ++ (joined c segs bs e).ready = wire ps ++ rest := by
    rw [joined_ready hclean, hstream]
  obtain ⟨r', c', hrun, hbefore, -, hend⟩ := packets_ready
    (I := Before ⟨bs, some e⟩ r.buf.length)
    (fun hb _ hr hp => readPacket_before (by simp) hb hr hp) ⟨hi, le_rfl, segs, hclean, rfl⟩ hi hready n
  cases n with
  | zero => simpa [packets] using hrun
  | succ n =>
    have herr := readPacket_starved hbefore (by rwa [hend]) (by rwa [hend])
    rw [packets] at hrun
    rcases hp : readPacket r' c' with ⟨e' | p, r'', c''⟩
    · simpa [hp] using hrun
    · simp [hp] at herr

/-- If `rest` is what the bytes before the last ones leave of a packet, then it makes no difference
whether the last bytes `bs` come together with the error, provided they do not end that packet. If one
`Read` has room for them, it makes a difference otherwise. -/
theorem last_chunk_with_error_iff (hi : Inv r) (hclean : ∀ s ∈ segs, s.err = none)
    (hstream : unread r ++ segs.flatMap Segment.bytes = wire ps ++ rest) (hrest : Unfinished rest) :
    (Unfinished (rest ++ bs) →
      ∀ n, packets n r (joined c segs bs e) = packets n r (separate c segs bs e)) ∧
    (rest.length + bs.length ≤ r.buf.length →
      (∀ n, packets n r (joined c segs bs e) = packets n r (separate c segs bs e)) →
        Unfinished (rest ++ bs)) := by
  have hall : unread r ++ segs.flatMap Segment.bytes ++ bs = wire ps ++ (rest ++ bs) := by
    rw [hstream, List.append_assoc]
  refine ⟨fun hend n => ?_, fun hfit hsame => ?_⟩
  · have hjoined : unread r ++ (joined c segs bs e).ready = wire ps ++ rest := by
      rw [joined_ready hclean, hstream]
    have hseparate : unread r ++ (separate c segs bs e).ready = wire ps ++ (rest ++ bs) := by
      rw [separate_ready hclean, ← List.append_assoc, hall]
    rw [packets_exact hi hjoined ((joined_unconsumed r).trans hall) hend,
      packets_exact hi hseparate ((separate_unconsumed r).trans hall) hend]
  · by_contra hend
    obtain ⟨q, tail, hq⟩ := not_unfinished_iff.mp hend
    have hend : unread r ++ segs.flatMap Segment.bytes ++ bs = wire (ps ++ [q]) ++ tail := by
      rw [hall, hq]
      simp [wire]
    have hmore : packets (ps ++ [q]).length r (separate c segs bs e) = (ps ++ [q]).map Packet.bytes :=
      packets_separate hi hclean hend
    have hfew := packets_joined (c := c) (e := e) hi hclean hstream hrest hfit 1
    have hlen := congrArg List.length (hfew.symm.trans ((hsame (ps.length + 1)).trans
      (by simpa using hmore)))
    simp at hlen

lemma five_le_new : 5 ≤ newMySQLPacketReader.buf.length := by
  rw [newMySQLPacketReader, List.length_replicate]
  omega

/-- A packet that comes in two pieces, and the beginning of one of nine bytes. -/
def halfPacketSegments : List Segment := [⟨[1, 0, 0], none⟩, ⟨[0, 0x0E, 5, 0], none⟩]

/-- The stream ends inside its second packet, and the first one is returned either way. -/
theorem last_chunk_with_error_halfPacket :
    packets 2 newMySQLPacketReader (joined (Conn.script []) halfPacketSegments [0, 0, 1] .eof) =
        [[1, 0, 0, 0, 0x0E]] ∧
      packets 2 newMySQLPacketReader (separate (Conn.script []) halfPacketSegments [0, 0, 1] .eof) =
        [[1, 0, 0, 0, 0x0E]] := by
  have hstream : unread newMySQLPacketReader ++ halfPacketSegments.flatMap Segment.bytes =
      wire [⟨0, [0x0E], by simp⟩] ++ [5, 0] := rfl
  have hclean : ∀ s ∈ halfPacketSegments, s.err = none := by simp [halfPacketSegments]
  have hroom : ([5, 0] : Bytes).length + ([0, 0, 1] : Bytes).length ≤
      newMySQLPacketReader.buf.length := five_le_new
  have hjoined : packets 2 newMySQLPacketReader
      (joined (Conn.script []) halfPacketSegments [0, 0, 1] .eof) = [[1, 0, 0, 0, 0x0E]] :=
    packets_joined new_inv hclean hstream (by decide) hroom 1
  have hsame : ∀ n, packets n newMySQLPacketReader
      (joined (Conn.script []) halfPacketSegments [0, 0, 1] .eof) =
        packets n newMySQLPacketReader (separate (Conn.script []) halfPacketSegments [0, 0, 1] .eof) :=
    (last_chunk_with_error_iff new_inv hclean hstream (by decide)).1 (by decide)
  exact ⟨hjoined, (hsame 2).symm.trans hjoined⟩

/-- A packet comes together with the end of the stream: the buffered reader returns it only if the end
comes later, the unbuffered reader in any case. -/
theorem packet_with_eof_lost :
    let packet : Bytes := [1, 0, 0, 0, 0x0E]
    packets 1 newMySQLPacketReader (joined (Conn.script []) [] packet .eof) = [] ∧
      packets 1 newMySQLPacketReader (separate (Conn.script []) [] packet .eof) = [packet] ∧
      (readMySQLPacket (joined (Conn.script []) [] packet .eof)).1 = .ok packet := by
  intro packet
  have hstream : unread newMySQLPacketReader ++ [].flatMap Segment.bytes = wire [] ++ [] := rfl
  have hall : unread newMySQLPacketReader ++ [].flatMap Segment.bytes ++ packet =
      wire [⟨0, [0x0E], by simp⟩] ++ [] := rfl
  refine ⟨packets_joined new_inv (by simp) hstream (by decide) ?_ 1, ?_, rfl⟩
  · exact five_le_new
  · have hreturned := packets_separate (c := Conn.script []) (e := .eof) new_inv (by simp) hall
    exact hreturned

end Delivery

end ShadowProxy.MySQLLastChunk
