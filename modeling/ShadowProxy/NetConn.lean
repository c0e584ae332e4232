import ShadowProxy.WordBytes

/-! A byte-stream connection as a program that calls `Read` and `Write` sees it.
Bytes arrive in segments; a `Read` never crosses a segment, and may return fewer
bytes than it was offered room for. What the peer sends may depend on everything
written to it so far. -/
namespace ShadowProxy.NetConn
open WordBytes

inductive Err
  | eof
  | unexpectedEOF
  | timeout
  | closed
  | stalled
  | errorf (msg : String)
  | wrap (msg : String) (cause : Err)
  deriving DecidableEq, Repr

/-- A call that fails so has not returned: no deadline is set, and the peer stays silent. -/
def waits : Err → Bool
  | .stalled => true
  | .wrap _ e => waits e
  | .eof | .unexpectedEOF | .timeout | .closed | .errorf _ => false

/-- Bytes that arrive together. When `err` is set, the `Read` that returns the last
of them returns the error as well; with no bytes it is a plain failed `Read`. -/
structure Segment where
  bytes : Bytes
  err : Option Err
  deriving DecidableEq, Repr

/-- `received` and `sent` are the history of the connection: the bytes `Read` has
returned, and the successful `Write` calls. `writable` counts the writes that still
succeed, `none` when all do. -/
structure Conn where
  pending : List Segment
  received : Bytes
  sent : List Bytes
  respond : List Bytes → List Segment
  writable : Option ℕ

/-- A fresh connection to a peer that sends `segs` and nothing more. -/
def Conn.script (segs : List Segment) : Conn := ⟨segs, [], [], fun _ => [], none⟩

/-- `Read` into a slice of length `n`. A peer that will send nothing more blocks the
caller forever, which is reported as `stalled`. -/
def Conn.read (c : Conn) (n : ℕ) : Bytes × Option Err × Conn :=
  match c.pending with
  | [] => ([], some .stalled, c)
  | s :: rest =>
    if n < s.bytes.length then
      (s.bytes.take n, none,
        { c with pending := ⟨s.bytes.drop n, s.err⟩ :: rest,
                 received := c.received ++ s.bytes.take n })
    else (s.bytes, s.err, { c with pending := rest, received := c.received ++ s.bytes })

/-- All-or-error `Write`. -/
def Conn.write (c : Conn) (bs : Bytes) : Option Err × Conn :=
  match c.writable with
  | some 0 => (some .closed, c)
  | w => (none, { c with sent := c.sent ++ [bs],
                         pending := c.pending ++ c.respond (c.sent ++ [bs]),
                         writable := w.map (· - 1) })

/-- `Close`: what is on its way is lost, and every later call fails. -/
def Conn.close (c : Conn) : Conn :=
  { c with pending := [⟨[], some .closed⟩], writable := some 0 }

/-- With a read deadline set, a `Read` that would block forever times out. -/
def pastDeadline : Err → Err
  | .stalled => .timeout
  | e => e

/-- The loop of `io.ReadFull`: call `Read` on the unfilled part until `n` bytes are
there or an error stops it. An error that comes with the last missing byte is dropped. -/
def Conn.readFullLoop : ℕ → Conn → ℕ → Bytes → Bytes × Option Err × Conn
  | 0, c, _, got => (got, some .stalled, c)
  | fuel + 1, c, n, got =>
    if n ≤ got.length then (got, none, c)
    else
      match c.read (n - got.length) with
      | (bs, none, c') => readFullLoop fuel c' n (got ++ bs)
      | (bs, some e, c') =>
        if n ≤ (got ++ bs).length then (got ++ bs, none, c')
        else if got ++ bs ≠ [] ∧ e = .eof then (got ++ bs, some .unexpectedEOF, c')
        else (got ++ bs, some e, c')

/-- `io.ReadFull` on a slice of length `n`. -/
def Conn.readFull (c : Conn) (n : ℕ) : Except Err Bytes × Conn :=
  match readFullLoop (c.pending.length + 1) c n [] with
  | (bs, none, c') => (.ok bs, c')
  | (_, some e, c') => (.error e, c')

/-- The bytes a caller can still get before any error comes in the way. -/
def readyBytes : List Segment → Bytes
  | [] => []
  | s :: rest => if s.err = none then s.bytes ++ readyBytes rest else []

def Conn.ready (c : Conn) : Bytes := readyBytes c.pending

def Conn.Clean (c : Conn) : Prop := ∀ s ∈ c.pending, s.err = none

/-- Everything the peer has sent so far, taken by a `Read` or not. -/
def Conn.stream (c : Conn) : Bytes := c.received ++ c.pending.flatMap Segment.bytes

@[simp] theorem script_received (segs : List Segment) : (Conn.script segs).received = [] := rfl

@[simp] theorem script_sent (segs : List Segment) : (Conn.script segs).sent = [] := rfl

@[simp] theorem script_ready (segs : List Segment) :
    (Conn.script segs).ready = readyBytes segs := rfl

/-- `c'` is `c` after reading only: no byte is invented or lost and the write side
is untouched. -/
structure Reads (c c' : Conn) : Prop where
  sent : c'.sent = c.sent
  respond : c'.respond = c.respond
  writable : c'.writable = c.writable
  stream : c'.stream = c.stream

theorem Reads.refl (c : Conn) : Reads c c := ⟨rfl, rfl, rfl, rfl⟩

theorem Reads.trans {c d e : Conn} (h : Reads c d) (g : Reads d e) : Reads c e :=
  ⟨g.sent.trans h.sent, g.respond.trans h.respond, g.writable.trans h.writable,
    g.stream.trans h.stream⟩

lemma Reads.grows {c c' : Conn} (h : Reads c c') : c.sent <+: c'.sent := h.sent ▸ List.prefix_rfl

theorem read_received (c : Conn) (n : ℕ) :
    (c.read n).2.2.received = c.received ++ (c.read n).1 := by
  unfold Conn.read
  cases c.pending with
  | nil => simp
  | cons s rest => dsimp only; split_ifs <;> rfl

theorem read_reads (c : Conn) (n : ℕ) : Reads c (c.read n).2.2 := by
  unfold Conn.read
  cases hp : c.pending with
  | nil => exact Reads.refl c
  | cons s rest =>
    dsimp only
    split_ifs with hn
    · refine ⟨rfl, rfl, rfl, ?_⟩
      simp only [Conn.stream, hp, List.flatMap_cons, List.append_assoc]
      rw [← List.append_assoc (s.bytes.take n), List.take_append_drop]
    · exact ⟨rfl, rfl, rfl, by simp [Conn.stream, hp]⟩

theorem read_length (c : Conn) (n : ℕ) : (c.read n).1.length ≤ n := by
  unfold Conn.read
  cases c.pending with
  | nil => simp
  | cons s rest =>
    dsimp only
    split_ifs with h
    · simp
    · simpa using h

/-- While bytes are ready a `Read` succeeds and returns the first of them. -/
theorem read_ready {c : Conn} (n : ℕ) (h : c.ready ≠ []) :
    (c.read n).2.1 = none ∧ c.ready = (c.read n).1 ++ (c.read n).2.2.ready := by
  unfold Conn.ready Conn.read at *
  cases hp : c.pending with
  | nil => simp [hp, readyBytes] at h
  | cons s rest =>
    have he : s.err = none := by
      by_contra he
      simp [hp, readyBytes, he] at h
    dsimp only
    split_ifs with hn
    · refine ⟨rfl, ?_⟩
      simp only [readyBytes, he, if_true]
      rw [← List.append_assoc, List.take_append_drop]
    · simp [readyBytes, he]

/-- A `Read` that does not fill the offered slice uses up its segment. -/
theorem read_progress {c : Conn} (n : ℕ) (h : c.ready ≠ []) :
    (c.read n).1.length = n ∨ (c.read n).2.2.pending.length + 1 = c.pending.length := by
  unfold Conn.ready Conn.read at *
  cases hp : c.pending with
  | nil => simp [hp, readyBytes] at h
  | cons s rest =>
    dsimp only
    split_ifs with hn
    · left
      simp only [List.length_take]
      omega
    · right
      simp

theorem readFullLoop_done {fuel n : ℕ} {c : Conn} {got : Bytes} (h : n ≤ got.length) :
    Conn.readFullLoop (fuel + 1) c n got = (got, none, c) := by
  simp [Conn.readFullLoop, h]

/-- Whatever happens, `io.ReadFull` keeps the bytes it took, and never takes more than
it was asked for. -/
theorem readFullLoop_spec (fuel : ℕ) (c : Conn) (n : ℕ) (got : Bytes) (hg : got.length ≤ n) :
    ∃ new, (Conn.readFullLoop fuel c n got).1 = got ++ new ∧
      (Conn.readFullLoop fuel c n got).2.2.received = c.received ++ new ∧
      Reads c (Conn.readFullLoop fuel c n got).2.2 ∧
      (got ++ new).length ≤ n ∧
      ((Conn.readFullLoop fuel c n got).2.1 = none → n ≤ (got ++ new).length) := by
  induction fuel generalizing c got with
  | zero => exact ⟨[], by simp [Conn.readFullLoop, Reads.refl, hg]⟩
  | succ fuel ih =>
    by_cases hn : n ≤ got.length
    · rw [readFullLoop_done hn]
      exact ⟨[], by simp [Reads.refl, hg, hn]⟩
    · have hrec := read_received c (n - got.length)
      have hreads := read_reads c (n - got.length)
      have hlen := read_length c (n - got.length)
      simp only [Conn.readFullLoop, hn, if_false]
      rcases hr : c.read (n - got.length) with ⟨bs, e, c'⟩
      simp only [hr] at hrec hreads hlen
      have hb : (got ++ bs).length ≤ n := by simp only [List.length_append]; omega
      cases e with
      | none =>
        obtain ⟨new, h1, h2, h3, h4, h5⟩ := ih c' (got ++ bs) hb
        refine ⟨bs ++ new, ?_, ?_, hreads.trans h3, ?_, ?_⟩
        · simpa using h1
        · simpa [hrec] using h2
        · simpa using h4
        · simpa using h5
      | some e =>
        dsimp only
        split_ifs with h1 h2
        · exact ⟨bs, rfl, hrec, hreads, hb, fun _ => h1⟩
        · exact ⟨bs, rfl, hrec, hreads, hb, by simp⟩
        · exact ⟨bs, rfl, hrec, hreads, hb, by simp⟩

/-- With enough bytes ready, `io.ReadFull` returns exactly the next `n` of them. -/
theorem readFullLoop_ready (fuel : ℕ) (c : Conn) (n : ℕ) (got : Bytes)
    (hf : c.pending.length + 1 ≤ fuel) (hn : n ≤ got.length + c.ready.length) :
    (Conn.readFullLoop fuel c n got).2.1 = none ∧
      got ++ c.ready = (Conn.readFullLoop fuel c n got).1 ++
        (Conn.readFullLoop fuel c n got).2.2.ready := by
  induction fuel generalizing c got with
  | zero => omega
  | succ fuel ih =>
    by_cases hd : n ≤ got.length
    · rw [readFullLoop_done hd]
      exact ⟨rfl, rfl⟩
    · have hne : c.ready ≠ [] := by
        intro he
        rw [he] at hn
        simp only [List.length_nil] at hn
        omega
      obtain ⟨herr, hsplit⟩ := read_ready (n - got.length) hne
      have hprog := read_progress (n - got.length) hne
      simp only [Conn.readFullLoop, hd, if_false]
      rcases hr : c.read (n - got.length) with ⟨bs, e, c'⟩
      simp only [hr] at herr hsplit hprog
      subst herr
      dsimp only
      have hlen := congrArg List.length hsplit
      simp only [List.length_append] at hlen
      rcases hprog with hfull | hseg
      · have hd' : n ≤ (got ++ bs).length := by simp only [List.length_append]; omega
        obtain ⟨fuel, rfl⟩ : ∃ k, fuel = k + 1 := by
          cases fuel with
          | zero =>
            have hp : c.pending = [] := List.length_eq_zero_iff.mp (by omega)
            exact absurd (by simp [Conn.ready, hp, readyBytes]) hne
          | succ k => exact ⟨k, rfl⟩
        rw [readFullLoop_done hd']
        exact ⟨rfl, by simp [hsplit]⟩
      · have hgot : n ≤ (got ++ bs).length + c'.ready.length := by
          simp only [List.length_append]; omega
        obtain ⟨h1, h2⟩ := ih c' (got ++ bs) (by omega) hgot
        exact ⟨h1, by rw [← h2, hsplit, List.append_assoc]⟩

/-- `io.ReadFull` either returns `n` bytes, and these are all it took, or fails. -/
theorem readFull_ok {c c' : Conn} {n : ℕ} {bs : Bytes} (h : c.readFull n = (.ok bs, c')) :
    bs.length = n ∧ c'.received = c.received ++ bs ∧ Reads c c' := by
  obtain ⟨new, h1, h2, h3, h4, h5⟩ :=
    readFullLoop_spec (c.pending.length + 1) c n [] (Nat.zero_le n)
  unfold Conn.readFull at h
  rcases hr : Conn.readFullLoop (c.pending.length + 1) c n [] with ⟨got, e, d⟩
  simp only [hr] at h h1 h2 h3 h4 h5
  cases e with
  | some e => simp at h
  | none =>
    simp only [Prod.mk.injEq, Except.ok.injEq] at h
    obtain ⟨rfl, rfl⟩ := h
    subst h1
    exact ⟨le_antisymm h4 (h5 rfl), h2, h3⟩

theorem readFull_error {c c' : Conn} {n : ℕ} {e : Err} (h : c.readFull n = (.error e, c')) :
    ∃ new, c'.received = c.received ++ new ∧ Reads c c' := by
  obtain ⟨new, -, h2, h3, -, -⟩ :=
    readFullLoop_spec (c.pending.length + 1) c n [] (Nat.zero_le n)
  unfold Conn.readFull at h
  rcases hr : Conn.readFullLoop (c.pending.length + 1) c n [] with ⟨got, e', d⟩
  simp only [hr] at h h2 h3
  cases e' with
  | none => simp at h
  | some e' =>
    simp only [Prod.mk.injEq] at h
    obtain ⟨-, rfl⟩ := h
    exact ⟨new, h2, h3⟩

/-- With the bytes `bs` ready in front, `io.ReadFull` of that many returns them. -/
theorem readFull_ready {c : Conn} {bs rest : Bytes} (h : c.ready = bs ++ rest) :
    ∃ c', c.readFull bs.length = (.ok bs, c') ∧ c'.ready = rest := by
  have hn : bs.length ≤ ([] : Bytes).length + c.ready.length := by simp [h]
  obtain ⟨h1, h2⟩ := readFullLoop_ready (c.pending.length + 1) c bs.length [] le_rfl hn
  obtain ⟨new, g1, -, -, g4, g5⟩ :=
    readFullLoop_spec (c.pending.length + 1) c bs.length [] (Nat.zero_le _)
  unfold Conn.readFull
  rcases hr : Conn.readFullLoop (c.pending.length + 1) c bs.length [] with ⟨got, e, d⟩
  simp only [hr, List.nil_append] at h1 h2 g1 g4 g5
  subst h1
  have hlen : got.length = bs.length := by rw [g1]; exact le_antisymm g4 (g5 rfl)
  rw [h] at h2
  obtain ⟨hb, hd⟩ := List.append_inj h2 hlen.symm
  subst hb
  exact ⟨d, rfl, hd.symm⟩

lemma readyBytes_append {segs : List Segment} (h : ∀ s ∈ segs, s.err = none) (later : List Segment) :
    readyBytes (segs ++ later) = segs.flatMap Segment.bytes ++ readyBytes later := by
  induction segs with
  | nil => rfl
  | cons s rest ih =>
    rw [List.cons_append, readyBytes, if_pos (h s (by simp)), ih (fun t ht => h t (by simp [ht])),
      List.flatMap_cons, List.append_assoc]

lemma readyBytes_of_clean {segs : List Segment} (h : ∀ s ∈ segs, s.err = none) :
    readyBytes segs = segs.flatMap Segment.bytes := by
  simpa [readyBytes] using readyBytes_append h []

lemma read_clean {c : Conn} (h : c.Clean) (n : ℕ) : (c.read n).2.2.Clean := by
  unfold Conn.read
  cases hp : c.pending with
  | nil => exact h
  | cons s rest =>
    have hs : s.err = none := h s (by simp [hp])
    have hrest : ∀ t ∈ rest, t.err = none := fun t ht => h t (by simp [hp, ht])
    dsimp only
    split_ifs
    · simpa [Conn.Clean] using ⟨hs, hrest⟩
    · exact hrest

lemma readFullLoop_clean (fuel : ℕ) {c : Conn} (h : c.Clean) (n : ℕ) (got : Bytes) :
    (Conn.readFullLoop fuel c n got).2.2.Clean := by
  induction fuel generalizing c got with
  | zero => exact h
  | succ fuel ih =>
    have hr := read_clean h (n - got.length)
    unfold Conn.readFullLoop
    split_ifs
    · exact h
    · rcases hread : c.read (n - got.length) with ⟨bs, e, c'⟩
      rw [hread] at hr
      cases e with
      | none => exact ih hr _
      | some e =>
        dsimp only
        split_ifs <;> exact hr

lemma readFull_clean {c : Conn} (h : c.Clean) (n : ℕ) : (c.readFull n).2.Clean := by
  have hl := readFullLoop_clean (c.pending.length + 1) h n []
  unfold Conn.readFull
  rcases hr : Conn.readFullLoop (c.pending.length + 1) c n [] with ⟨bs, e, c'⟩
  rw [hr] at hl
  cases e <;> exact hl

theorem write_ok {c c' : Conn} {bs : Bytes} (h : c.write bs = (none, c')) :
    c'.sent = c.sent ++ [bs] ∧ c'.received = c.received := by
  unfold Conn.write at h
  split at h
  · simp at h
  · simp only [Prod.mk.injEq, true_and] at h
    subst h
    exact ⟨rfl, rfl⟩

lemma write_pending {c c' : Conn} {bs : Bytes} (h : c.write bs = (none, c')) :
    c'.pending = c.pending ++ c.respond (c.sent ++ [bs]) ∧ c'.respond = c.respond := by
  unfold Conn.write at h
  split at h
  · simp at h
  · simp only [Prod.mk.injEq, true_and] at h
    subst h
    exact ⟨rfl, rfl⟩

lemma write_budget {c c' : Conn} {bs : Bytes} (h : c.write bs = (none, c')) :
    c.writable = c'.writable.map (· + 1) := by
  unfold Conn.write at h
  split at h
  · simp at h
  · rename_i hne
    simp only [Prod.mk.injEq, true_and] at h
    subst h
    rcases hw : c.writable with _ | _ | n
    · rfl
    · exact absurd hw hne
    · rfl

lemma write_unlimited {c : Conn} (h : c.writable = none) (bs : Bytes) :
    ∃ c', c.write bs = (none, c') ∧ c'.writable = none := by
  simp [Conn.write, h]

theorem write_error {c c' : Conn} {bs : Bytes} {e : Err} (h : c.write bs = (some e, c')) :
    c' = c := by
  unfold Conn.write at h
  split at h
  · simp only [Prod.mk.injEq] at h
    exact h.2.symm
  · simp at h

lemma write_closed {c : Conn} (h : c.writable = some 0) (bs : Bytes) :
    ∃ e, c.write bs = (some e, c) := by
  simp [Conn.write, h]

lemma write_grows (c : Conn) (bs : Bytes) : c.sent <+: (c.write bs).2.sent := by
  rcases hw : c.write bs with ⟨_ | e, c'⟩
  · exact (write_ok hw).1 ▸ List.prefix_append _ _
  · rw [write_error hw]

lemma write_refused {c c' : Conn} {bs : Bytes} {e : Err} (h : c.write bs = (some e, c')) :
    c.writable = some 0 := by
  unfold Conn.write at h
  split at h
  · assumption
  · simp at h

end ShadowProxy.NetConn
