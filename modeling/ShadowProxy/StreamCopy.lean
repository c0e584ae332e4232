import ShadowProxy.NetConn

/-! A goroutine that runs `io.Copy` from one connection to another, one `Read` or `Write` at a
time. -/
namespace ShadowProxy.StreamCopy
open WordBytes NetConn

/-- Before a `Read`, with a chunk to write and the error that came with it, or not running. -/
inductive Copier
  | reading
  | writing (chunk : Bytes) (err : Option Err)
  | ended
  deriving DecidableEq

namespace Copier

/-- After a chunk the loop goes on unless an error came with it. A `Read` for which nothing has
arrived yet blocks. -/
def next : Option Err → Copier
  | none | some .stalled => .reading
  | some _ => .ended

/-- The next call of `io.Copy(dst, src)`; `n` is the size of its buffer. -/
def step (n : ℕ) (src dst : Conn) : Copier → Copier × Conn × Conn
  | .reading =>
    match src.read n with
    | (chunk, err, src) => (if chunk = [] then next err else .writing chunk err, src, dst)
  | .writing chunk err =>
    match dst.write chunk with
    | (some _, dst) => (.ended, src, dst)
    | (none, dst) => (next err, src, dst)
  | .ended => (.ended, src, dst)

def inHand : Copier → Bytes
  | .writing chunk _ => chunk
  | .reading | .ended => []

@[simp] lemma inHand_next (err : Option Err) : (next err).inHand = [] := by
  unfold next
  split <;> rfl

/-- What was taken in and given out so far: nothing is lost before the goroutine has ended. -/
structure Conserves (k : Copier) (taken given : Bytes) : Prop where
  inOrder : given ++ k.inHand <+: taken
  whole : k ≠ .ended → given ++ k.inHand = taken

lemma Conserves.of_eq {k : Copier} {taken given : Bytes} (h : given ++ k.inHand = taken) :
    k.Conserves taken given := ⟨h ▸ List.prefix_rfl, fun _ => h⟩

/-- Everything a step can do to the two connections. -/
lemma step_spec (k : Copier) (n : ℕ) (src dst : Conn) :
    ∃ new out, (k.step n src dst).2.1.received = src.received ++ new ∧
      (k.step n src dst).2.1.sent = src.sent ∧
      (k.step n src dst).2.2.received = dst.received ∧
      (k.step n src dst).2.2.sent = dst.sent ++ out ∧
      ∀ taken given, k.Conserves taken given →
        (k.step n src dst).1.Conserves (taken ++ new) (given ++ out.flatten) := by
  cases k with
  | reading =>
    have hrec := read_received src n
    have hreads := read_reads src n
    rcases hr : src.read n with ⟨chunk, err, src'⟩
    rw [hr] at hrec hreads
    refine ⟨chunk, [], by simpa [step, hr] using hrec, by simpa [step, hr] using hreads.sent,
      by simp [step, hr], by simp [step, hr], ?_⟩
    intro taken given h
    have hwhole : given = taken := by simpa [inHand] using h.whole (by simp)
    apply Conserves.of_eq
    by_cases hc : chunk = []
    · simp [step, hr, hc, hwhole]
    · simp [step, hr, hc, hwhole, inHand]
  | writing chunk err =>
    rcases hw : dst.write chunk with ⟨_ | e, dst'⟩
    · obtain ⟨hsent, hrec⟩ := write_ok hw
      refine ⟨[], [chunk], by simp [step, hw], by simp [step, hw], by simpa [step, hw] using hrec,
        by simpa [step, hw] using hsent, ?_⟩
      intro taken given h
      have hwhole : given ++ chunk = taken := h.whole (by simp)
      apply Conserves.of_eq
      simp [step, hw, hwhole]
    · obtain rfl := write_error hw
      refine ⟨[], [], by simp [step, hw], by simp [step, hw], by simp [step, hw], by simp [step, hw], ?_⟩
      intro taken given h
      have hpre := (List.prefix_append given chunk).trans h.inOrder
      exact ⟨by simpa [step, hw, inHand] using hpre, by simp [step, hw]⟩
  | ended =>
    refine ⟨[], [], by simp [step], by simp [step], by simp [step], by simp [step], ?_⟩
    intro taken given h
    simpa [step] using h

lemma step_src_writable (k : Copier) (n : ℕ) (src dst : Conn) :
    (k.step n src dst).2.1.writable = src.writable := by
  cases k with
  | reading => exact (read_reads src n).writable
  | writing chunk err =>
    rcases hw : dst.write chunk with ⟨_ | e, dst'⟩ <;> simp [step, hw]
  | ended => rfl

lemma step_dst_closed (k : Copier) (n : ℕ) (src : Conn) {dst : Conn} (h : dst.writable = some 0) :
    (k.step n src dst).2.2 = dst := by
  cases k with
  | reading => rfl
  | writing chunk err =>
    obtain ⟨e, hw⟩ := write_closed h chunk
    simp [step, hw]
  | ended => rfl

end Copier

/-- The peer never ends the connection, whatever it is sent. -/
structure StaysOpen (c : Conn) : Prop where
  clean : c.Clean
  replies : ∀ sent, ∀ seg ∈ c.respond sent, seg.err = none

section StaysOpen
variable {c c' : Conn}

lemma StaysOpen.read (h : StaysOpen c) (n : ℕ) : StaysOpen (c.read n).2.2 :=
  ⟨read_clean h.clean n, by simpa [(read_reads c n).respond] using h.replies⟩

lemma StaysOpen.write (h : StaysOpen c) (bs : Bytes) : StaysOpen (c.write bs).2 := by
  rcases hw : c.write bs with ⟨_ | e, c'⟩
  · obtain ⟨hpending, hrespond⟩ := write_pending hw
    refine ⟨fun seg hseg => ?_, by simpa [hrespond] using h.replies⟩
    rw [hpending] at hseg
    exact (List.mem_append.mp hseg).elim (h.clean seg) (h.replies _ seg)
  · rwa [write_error hw]

lemma StaysOpen.next_read (h : StaysOpen c) (n : ℕ) : Copier.next (c.read n).2.1 = .reading := by
  unfold Conn.read
  cases hp : c.pending with
  | nil => rfl
  | cons seg rest =>
    have hseg : seg.err = none := h.clean seg (by simp [hp])
    dsimp only
    split_ifs
    · rfl
    · simp [hseg, Copier.next]

end StaysOpen

namespace Copier

/-- The goroutine runs, and goes on after the chunk it has in hand. -/
def Runs : Copier → Prop
  | .reading => True
  | .writing _ err => next err = .reading
  | .ended => False

lemma step_runs {k : Copier} (hk : k.Runs) (n : ℕ) {src dst : Conn} (hsrc : StaysOpen src)
    (hdst : dst.writable = none) :
    (k.step n src dst).1.Runs ∧ StaysOpen (k.step n src dst).2.1 ∧
      (k.step n src dst).2.2.writable = none := by
  cases k with
  | reading =>
    have hnext := hsrc.next_read n
    have hopen := hsrc.read n
    rcases hr : src.read n with ⟨chunk, err, src'⟩
    rw [hr] at hnext hopen
    refine ⟨?_, by simpa [step, hr] using hopen, by simpa [step, hr] using hdst⟩
    by_cases hc : chunk = []
    · simp [step, hr, hc, hnext, Runs]
    · simpa [step, hr, hc, Runs] using hnext
  | writing chunk err =>
    obtain ⟨dst', hw, hdst'⟩ := write_unlimited hdst chunk
    refine ⟨?_, by simpa [step, hw] using hsrc, by simpa [step, hw] using hdst'⟩
    rw [Runs] at hk
    simp [step, hw, hk, Runs]
  | ended => exact hk.elim

lemma step_staysOpen (k : Copier) (n : ℕ) {src dst : Conn} (h : StaysOpen dst) :
    StaysOpen (k.step n src dst).2.2 := by
  cases k with
  | reading => exact h
  | writing chunk err =>
    have hopen := h.write chunk
    rcases hw : dst.write chunk with ⟨_ | e, dst'⟩ <;> rw [hw] at hopen <;>
      simpa [step, hw] using hopen
  | ended => exact h

end Copier

end ShadowProxy.StreamCopy
