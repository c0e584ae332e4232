import ShadowProxy.MySQLResponse

/-! The buffered readers see a reply as the list of its packets. Whether a reply that lies
in front of the reader is read exactly, with nothing left over and nothing taken beyond it,
is decided by running the reader over that list. -/
namespace ShadowProxy.MySQLReplyStream
open WordBytes NetConn MySQLPacket MySQLPacketReader MySQLResponse

theorem readyBytes_length (segs : List Segment) :
    (readyBytes segs).length ≤ (segs.flatMap Segment.bytes).length := by
  induction segs with
  | nil => simp [readyBytes]
  | cons s segs ih =>
    simp only [readyBytes, List.flatMap_cons, List.length_append]
    split_ifs
    · simp only [List.length_append]
      omega
    · simp

theorem ready_le_available {r : Reader} (c : Conn) (h : Inv r) :
    (unread r ++ c.ready).length ≤ available r c := by
  have hl := readyBytes_length c.pending
  rw [List.length_append, unread_length h]
  exact Nat.add_le_add_left hl _

theorem length_le_wire (ps : List Packet) : ps.length ≤ (wire ps).length := by
  induction ps with
  | nil => simp
  | cons p ps ih =>
    simp only [wire_cons, List.length_cons, List.length_append, bytes_length]
    omega

/-- A command in front of the unread and ready bytes is returned by `ReadMultiPacket`. -/
theorem readMultiPacket_ready {ps : List Packet} {rest : Bytes} {r : Reader} {c : Conn} (h : Inv r)
    (hcmd : IsCommand (ps.map Packet.bytes)) (hr : unread r ++ c.ready = wire ps ++ rest) :
    ∃ r' c', readMultiPacket r c = (.ok (wire ps), r', c') := by
  have h₁ := ready_le_available c h
  have h₂ := length_le_wire ps
  rw [hr, List.length_append] at h₁
  exact readMultiPacketLoop_ready [] h hcmd (by omega) hr

theorem flatten_map_bytes (ps : List Packet) : (ps.map Packet.bytes).flatten = wire ps := by
  simp [wire, List.flatMap]

/-- `rest` is what follows the packets `qs` in front of the reader. -/
def ReadyAt (rest : Bytes) (s : Reader × Conn) (qs : List Bytes) : Prop :=
  Inv s.1 ∧ ∃ ps : List Packet, qs = ps.map Packet.bytes ∧ unread s.1 ++ s.2.ready = wire ps ++ rest

theorem readRelay_ready {rest : Bytes} {s : Reader × Conn} {q : Bytes} {qs : List Bytes}
    (what : String) (h : ReadyAt rest s (q :: qs)) :
    ∃ s', readRelay what s = (.ok q, s') ∧ ReadyAt rest s' qs := by
  obtain ⟨hi, ps, hq, hr⟩ := h
  cases ps with
  | nil => simp at hq
  | cons p ps =>
    simp only [List.map_cons, List.cons.injEq] at hq
    obtain ⟨rfl, rfl⟩ := hq
    rw [wire_cons, List.append_assoc] at hr
    obtain ⟨r', c', hp, hi', -, hr'⟩ := readPacket_ready hi hr
    exact ⟨(r', c'), by simp [readRelay, hp], hi', ps, rfl, hr'⟩

theorem listRelay_ok {what : String} {qs qs' : List Bytes} {q : Bytes}
    (h : listRelay what qs = (.ok q, qs')) : qs = q :: qs' := by
  cases qs with
  | nil => simp [listRelay] at h
  | cons a as =>
    simp only [listRelay, Prod.mk.injEq, Except.ok.injEq] at h
    obtain ⟨rfl, rfl⟩ := h
    rfl

theorem readRelay_follows (rest : Bytes) : Follows readRelay listRelay (ReadyAt rest) := by
  intro what s qs q qs' hR hq
  rw [listRelay_ok hq] at hR
  exact readRelay_ready what hR

/-- As `ReadyAt`, for a destination that accepts every write and in the end holds `out`. -/
def ForwardAt (rest : Bytes) (out : List Bytes) (s : (Reader × Conn) × Conn)
    (qs : List Bytes) : Prop :=
  ReadyAt rest s.1 qs ∧ s.2.writable = none ∧ s.2.sent ++ qs = out

theorem forwardRelay_read {what : String} {s s' : (Reader × Conn) × Conn} {q : Bytes}
    (h : forwardRelay what s = (.ok q, s')) : readRelay what s.1 = (.ok q, s'.1) := by
  unfold forwardRelay at h
  unfold readRelay
  rcases hp : readPacket s.1.1 s.1.2 with ⟨e | p, r, c⟩
  · simp [hp] at h
  · rcases hw : s.2.write p with ⟨_ | e, dest⟩
    · simp only [hp, hw, Prod.mk.injEq, Except.ok.injEq] at h
      obtain ⟨rfl, rfl⟩ := h
      rfl
    · simp [hp, hw] at h

/-- What a packet is forwarded for only shows in the error. -/
theorem forwardRelay_state {what what' : String} {s s₁ s₂ : (Reader × Conn) × Conn} {q q' : Bytes}
    (h : forwardRelay what s = (.ok q, s₁)) (h' : forwardRelay what' s = (.ok q', s₂)) :
    s₁ = s₂ := by
  unfold forwardRelay at h h'
  rcases hp : readPacket s.1.1 s.1.2 with ⟨e | p, r, c⟩
  · simp [hp] at h
  · rcases hw : s.2.write p with ⟨_ | e, dest⟩
    · simp only [hp, hw, Prod.mk.injEq, Except.ok.injEq] at h h'
      rw [← h.2, h'.2]
    · simp [hp, hw] at h

theorem forwardRelay_follows (rest : Bytes) (out : List Bytes) :
    Follows forwardRelay listRelay (ForwardAt rest out) := by
  intro what s qs q qs' hR hq
  obtain ⟨hready, hw, hout⟩ := hR
  rw [listRelay_ok hq] at hready hout
  obtain ⟨⟨r', c'⟩, hread, hready'⟩ := readRelay_ready what hready
  have hp : readPacket s.1.1 s.1.2 = (.ok q, r', c') := by simpa [readRelay] using hread
  refine ⟨((r', c'), (s.2.write q).2), ?_, hready', ?_, ?_⟩
  · simp [forwardRelay, hp, Conn.write, hw]
  · simp [Conn.write, hw]
  · rw [← hout]
    simp [Conn.write, hw]

lemma ReadyAt.unread_eq {rest : Bytes} {s : Reader × Conn} (h : ReadyAt rest s []) :
    unread s.1 ++ s.2.ready = rest := by
  obtain ⟨-, ps, hps, hr⟩ := h
  obtain rfl : ps = [] := List.map_eq_nil_iff.mp hps.symm
  simpa using hr

theorem readRelay_feeds {rest : Bytes} {s : Reader × Conn} {qs : List Bytes}
    (h : ReadyAt rest s qs) : ∃ s', Feeds readRelay s qs s' ∧ ReadyAt rest s' [] := by
  induction qs generalizing s with
  | nil => exact ⟨s, rfl, h⟩
  | cons q qs ih =>
    obtain ⟨s₁, hf, hR⟩ := readRelay_ready "" h
    obtain ⟨s', hs, hend⟩ := ih hR
    exact ⟨s', ⟨s₁, fun _ => hf, hs⟩, hend⟩

theorem forwardRelay_feeds {rest : Bytes} {out : List Bytes} {s : (Reader × Conn) × Conn}
    {qs : List Bytes} (h : ForwardAt rest out s qs) :
    ∃ s', Feeds forwardRelay s qs s' ∧ ForwardAt rest out s' [] := by
  induction qs generalizing s with
  | nil => exact ⟨s, rfl, h⟩
  | cons q qs ih =>
    obtain ⟨s₁, hf, hR⟩ := forwardRelay_follows rest out "" s (q :: qs) q qs h rfl
    obtain ⟨s', hs, hend⟩ := ih hR
    refine ⟨s', ⟨s₁, fun what => ?_, hs⟩, hend⟩
    obtain ⟨s₂, hf₂, -⟩ := forwardRelay_follows rest out what s (q :: qs) q qs h rfl
    rw [hf₂, forwardRelay_state hf hf₂]

theorem Delivers.read_of_forward {s s' : (Reader × Conn) × Conn} {qs : List Bytes}
    (h : Delivers forwardRelay s qs s') : Delivers readRelay s.1 qs s'.1 := by
  induction qs generalizing s with
  | nil => exact congrArg Prod.fst h
  | cons q qs ih =>
    obtain ⟨what, s₁, hf, hd⟩ := h
    exact ⟨what, s₁.1, forwardRelay_read hf, ih hd⟩

/-- The reader has no choice: packets of the right total length are the ones in front. -/
theorem delivered_eq {rest : Bytes} {s s' : Reader × Conn} {qs qs' : List Bytes}
    (hR : ReadyAt rest s qs) (hd : Delivers readRelay s qs' s')
    (hlen : qs'.flatten.length = qs.flatten.length) : qs' = qs := by
  induction qs generalizing s qs' with
  | nil =>
    cases qs' with
    | nil => rfl
    | cons q qs' =>
      obtain ⟨what, s₁, hf, -⟩ := hd
      have hq : 4 ≤ q.length := by
        rcases hp : readPacket s.1 s.2 with ⟨result, r, c⟩
        simp only [readRelay, hp, Prod.mk.injEq] at hf
        obtain ⟨rfl, -⟩ := hf
        exact (readPacket_ok hR.1 hp).1.1
      simp only [List.flatten_cons, List.length_append, List.flatten_nil, List.length_nil] at hlen
      omega
  | cons q qs ih =>
    cases qs' with
    | nil =>
      obtain ⟨-, ps, hps, -⟩ := hR
      cases ps with
      | nil => simp at hps
      | cons p ps =>
        simp only [List.map_cons, List.cons.injEq] at hps
        simp only [hps.1, List.flatten_nil, List.length_nil, List.flatten_cons,
          List.length_append, bytes_length] at hlen
        omega
    | cons q' qs' =>
      obtain ⟨what, s₁, hf, hd⟩ := hd
      obtain ⟨s₂, hf', hR'⟩ := readRelay_ready what hR
      rw [hf] at hf'
      simp only [Prod.mk.injEq, Except.ok.injEq] at hf'
      obtain ⟨rfl, rfl⟩ := hf'
      simp only [List.flatten_cons, List.length_append] at hlen
      rw [ih hR' hd (by omega)]

theorem readColumns_shorter {k total total' : ℕ} {qs rest : List Bytes}
    (h : readColumns listRelay k qs total = ⟨total', none, rest⟩) : rest.length ≤ qs.length := by
  induction k generalizing qs total with
  | zero =>
    simp only [readColumns, Response.mk.injEq] at h
    exact h.2.2 ▸ le_rfl
  | succ k ih =>
    cases qs with
    | nil => simp [readColumns, listRelay] at h
    | cons q qs =>
      have := ih (by simpa only [readColumns, listRelay] using h)
      simp only [List.length_cons]
      omega

/-- More fuel than packets never changes the outcome. -/
theorem rowLoop_fuel {k k' total total' : ℕ} {qs rest : List Bytes} {more : Bool}
    (h : rowLoop listRelay k qs total = (more, ⟨total', none, rest⟩)) (hk : qs.length ≤ k') :
    rowLoop listRelay k' qs total = (more, ⟨total', none, rest⟩) ∧ rest.length ≤ qs.length := by
  induction k generalizing qs k' total with
  | zero => simp [rowLoop] at h
  | succ k ih =>
    cases qs with
    | nil => simp [rowLoop, listRelay] at h
    | cons q qs =>
      obtain ⟨k', rfl⟩ : ∃ j, k' = j + 1 := ⟨k' - 1, by simp only [List.length_cons] at hk; omega⟩
      simp only [List.length_cons, Nat.add_le_add_iff_right] at hk
      simp only [rowLoop, listRelay] at h ⊢
      split_ifs at h ⊢ with he
      · simp only [Prod.mk.injEq, Response.mk.injEq] at h
        obtain ⟨rfl, rfl, -, rfl⟩ := h
        exact ⟨rfl, by simp⟩
      · obtain ⟨h1, h2⟩ := ih h hk
        exact ⟨h1, by simp only [List.length_cons]; omega⟩

theorem readResultSet_fuel {k k' n total total' : ℕ} {qs rest : List Bytes} {more : Bool}
    (h : readResultSet listRelay k n qs total = (more, ⟨total', none, rest⟩))
    (hk : qs.length ≤ k') :
    readResultSet listRelay k' n qs total = (more, ⟨total', none, rest⟩) ∧
      rest.length ≤ qs.length := by
  unfold readResultSet at h ⊢
  rcases hc : readColumns listRelay n qs total with ⟨t, _ | e, qs₁⟩
  · have hs := readColumns_shorter hc
    cases qs₁ with
    | nil => simp [hc, listRelay] at h
    | cons q qs₂ =>
      simp only [List.length_cons] at hs
      simp only [hc, listRelay] at h ⊢
      split_ifs at h ⊢ with ho
      · simp only [Prod.mk.injEq, Response.mk.injEq] at h
        obtain ⟨rfl, rfl, -, rfl⟩ := h
        exact ⟨rfl, by omega⟩
      · obtain ⟨h1, h2⟩ := rowLoop_fuel h (by omega : qs₂.length ≤ k')
        exact ⟨h1, by omega⟩
  · simp [hc] at h

theorem readUnit_fuel {k k' total total' : ℕ} {packet : Bytes} {qs rest : List Bytes} {more : Bool}
    (h : readUnit listRelay k packet qs total = (more, ⟨total', none, rest⟩))
    (hk : qs.length ≤ k') :
    readUnit listRelay k' packet qs total = (more, ⟨total', none, rest⟩) ∧
      rest.length ≤ qs.length := by
  unfold readUnit at h ⊢
  split_ifs at h ⊢ with h1 h2 h3 h4 h5
  · simp at h
  all_goals first
    | exact readResultSet_fuel h hk
    | (simp only [Prod.mk.injEq, Response.mk.injEq] at h
       obtain ⟨rfl, rfl, -, rfl⟩ := h
       exact ⟨rfl, le_rfl⟩)

theorem responseLoop_fuel {k k' total total' : ℕ} {qs rest : List Bytes}
    (h : responseLoop listRelay k qs total = ⟨total', none, rest⟩) (hk : qs.length ≤ k') :
    responseLoop listRelay k' qs total = ⟨total', none, rest⟩ := by
  induction k generalizing qs k' total with
  | zero => simp [responseLoop] at h
  | succ k ih =>
    cases qs with
    | nil => simp [responseLoop, listRelay] at h
    | cons q qs =>
      obtain ⟨k', rfl⟩ : ∃ j, k' = j + 1 := ⟨k' - 1, by simp only [List.length_cons] at hk; omega⟩
      simp only [List.length_cons, Nat.add_le_add_iff_right] at hk
      simp only [responseLoop, listRelay] at h ⊢
      rcases hu : readUnit listRelay k q qs (total + q.length) with ⟨more, n, _ | e, qs₁⟩
      · obtain ⟨h1, h2⟩ := readUnit_fuel hu hk
        simp only [hu, h1] at h ⊢
        cases more with
        | true => exact ih h (by omega)
        | false => exact h
      · cases more <;> simp [hu] at h

/-- The reader, run over the packets of `ps` alone, uses all of them and stops. -/
def ConsumesAll (ps : List Packet) : Prop :=
  responseLoop listRelay ps.length (ps.map Packet.bytes) 0 = ⟨(wire ps).length, none, []⟩

/-- `ReadFullResponse` returns without error right after `ps`; `rest` comes next. -/
def ReadsExactly (r : Reader) (c : Conn) (ps : List Packet) (rest : Bytes) : Prop :=
  ∃ r' c', readFullResponse r c = ⟨(wire ps).length, none, (r', c')⟩ ∧ Inv r' ∧
    unread r' ++ c'.ready = rest

/-- `ReadAndForwardResponse` returns without error right after `ps`, having written the
packets of `ps` unchanged and in order. -/
def ForwardsExactly (r : Reader) (c dest : Conn) (ps : List Packet) (rest : Bytes) : Prop :=
  ∃ r' c' dest', readAndForwardResponse r c dest = ⟨(wire ps).length, none, ((r', c'), dest')⟩ ∧
    Inv r' ∧ unread r' ++ c'.ready = rest ∧ dest'.sent = dest.sent ++ ps.map Packet.bytes

section Exact
variable {r : Reader} {c : Conn} {ps : List Packet} {rest : Bytes}

theorem available_enough (hr : Inv r) (hf : unread r ++ c.ready = wire ps ++ rest) :
    (ps.map Packet.bytes).length ≤ available r c + 1 := by
  have h1 := ready_le_available c hr
  have h2 := length_le_wire ps
  rw [hf, List.length_append] at h1
  rw [List.length_map]
  omega

/-- A run that stops after as many bytes as `ps` has is the run over `ps`. -/
theorem consumesAll_of_run {S : Type*} {f : String → S → Except Err Bytes × S} {s s' : S}
    {s₀ : Reader × Conn} {fuel : ℕ} (hR : ReadyAt rest s₀ (ps.map Packet.bytes))
    (hread : ∀ qs, Delivers f s qs s' → ∃ s₁, Delivers readRelay s₀ qs s₁)
    (h : responseLoop f fuel s 0 = ⟨(wire ps).length, none, s'⟩) : ConsumesAll ps := by
  obtain ⟨qs, hd, ht, hr⟩ := responseLoop_replays fuel s s' 0 _ h
  obtain ⟨s₁, hd₁⟩ := hread qs hd
  have hq : qs = ps.map Packet.bytes := by
    apply delivered_eq hR hd₁
    rw [flatten_map_bytes]
    omega
  have hrun := hr []
  rw [List.append_nil, hq] at hrun
  exact responseLoop_fuel hrun (by simp)

theorem readsExactly_iff (hr : Inv r) (hf : unread r ++ c.ready = wire ps ++ rest) :
    ReadsExactly r c ps rest ↔ ConsumesAll ps := by
  have hR : ReadyAt rest (r, c) (ps.map Packet.bytes) := ⟨hr, ps, rfl, hf⟩
  constructor
  · rintro ⟨r', c', h, -, -⟩
    rw [readFullResponse_eq] at h
    exact consumesAll_of_run hR (fun qs hd => ⟨_, hd⟩) h
  · intro h
    have hrun := responseLoop_fuel h (available_enough hr hf)
    obtain ⟨⟨r', c'⟩, hs, hend⟩ :=
      responseLoop_follows (readRelay_follows rest) _ (r, c) _ _ 0 _ hR hrun
    exact ⟨r', c', (readFullResponse_eq r c).trans hs, hend.1, hend.unread_eq⟩

theorem consumesAll_of_forward {dest : Conn} {s' : (Reader × Conn) × Conn} (hr : Inv r)
    (hf : unread r ++ c.ready = wire ps ++ rest)
    (h : readAndForwardResponse r c dest = ⟨(wire ps).length, none, s'⟩) : ConsumesAll ps := by
  have hR : ReadyAt rest (r, c) (ps.map Packet.bytes) := ⟨hr, ps, rfl, hf⟩
  rw [readAndForwardResponse_eq] at h
  exact consumesAll_of_run hR (fun qs hd => ⟨_, Delivers.read_of_forward hd⟩) h

theorem forwardsExactly_iff {dest : Conn} (hr : Inv r) (hd : dest.writable = none)
    (hf : unread r ++ c.ready = wire ps ++ rest) :
    ForwardsExactly r c dest ps rest ↔ ConsumesAll ps := by
  constructor
  · rintro ⟨r', c', dest', h, -, -, -⟩
    exact consumesAll_of_forward hr hf h
  · intro h
    have hrun := responseLoop_fuel h (available_enough hr hf)
    have hR : ForwardAt rest (dest.sent ++ ps.map Packet.bytes) ((r, c), dest)
        (ps.map Packet.bytes) := ⟨⟨hr, ps, rfl, hf⟩, hd, rfl⟩
    obtain ⟨⟨⟨r', c'⟩, dest'⟩, hs, hend, -, hout⟩ :=
      responseLoop_follows (forwardRelay_follows rest _) _ ((r, c), dest) _ _ 0 _ hR hrun
    exact ⟨r', c', dest', (readAndForwardResponse_eq r c dest).trans hs, hend.1, hend.unread_eq,
      by simpa using hout⟩

end Exact
end ShadowProxy.MySQLReplyStream
