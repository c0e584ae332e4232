import Mathlib.Data.List.Basic

/-! Programs that ask a source for messages, one at a time, and end with a result. What such a
program does is an induction over the program, whatever loops it was written with. -/
namespace ShadowProxy.Dialogue

/-- `ask q next`: ask for a message, giving `q` as the reason, and go on with `next` of it. -/
inductive Inquiry (Q M R : Type*)
  | stop (r : R)
  | ask (q : Q) (next : M → Inquiry Q M R)

variable {Q M R R' E S T : Type*}

def Inquiry.bind : Inquiry Q M R → (R → Inquiry Q M R') → Inquiry Q M R'
  | .stop r, k => k r
  | .ask q next, k => .ask q fun m => (next m).bind k

/-- The messages a run was given, its result or the failure of the source, and the state in
which it leaves the source. -/
structure Transcript (M E R S : Type*) where
  heard : List M
  outcome : Except E R
  state : S

/-- The transcript with `m` heard first. -/
def Transcript.after (m : M) (t : Transcript M E R S) : Transcript M E R S :=
  { t with heard := m :: t.heard }

def run (relay : Q → S → Except E M × S) : Inquiry Q M R → S → Transcript M E R S
  | .stop r, s => ⟨[], .ok r, s⟩
  | .ask q next, s =>
    match relay q s with
    | (.error e, s) => ⟨[], .error e, s⟩
    | (.ok m, s) => (run relay (next m) s).after m

section Run
variable {relay : Q → S → Except E M × S} {q : Q} {s s' : S} {e : E} {m : M} {r : R}
  {heard : List M} {d : Inquiry Q M R}

lemma run_ask_ok (h : relay q s = (.ok m, s')) (next : M → Inquiry Q M R) :
    run relay (.ask q next) s = (run relay (next m) s').after m := by
  rw [run, h]

lemma run_ask_error (h : relay q s = (.error e, s')) (next : M → Inquiry Q M R) :
    run relay (.ask q next) s = ⟨[], .error e, s'⟩ := by
  rw [run, h]

lemma run_ask_eq {next : M → Inquiry Q M R} (h : run relay (.ask q next) s = ⟨heard, .ok r, s'⟩) :
    ∃ m s₁ rest, relay q s = (.ok m, s₁) ∧ heard = m :: rest ∧
      run relay (next m) s₁ = ⟨rest, .ok r, s'⟩ := by
  rcases hq : relay q s with ⟨e | m, s₁⟩
  · simp [run_ask_error hq] at h
  · rw [run_ask_ok hq] at h
    rcases ht : run relay (next m) s₁ with ⟨rest, o, s₂⟩
    simp only [ht, Transcript.after, Transcript.mk.injEq] at h
    obtain ⟨rfl, rfl, rfl⟩ := h
    exact ⟨m, s₁, rest, rfl, rfl, ht⟩

lemma run_bind_ok (h : run relay d s = ⟨heard, .ok r, s'⟩) (k : R → Inquiry Q M R') :
    run relay (d.bind k) s = ⟨heard ++ (run relay (k r) s').heard, (run relay (k r) s').outcome,
      (run relay (k r) s').state⟩ := by
  induction d generalizing s heard with
  | stop r₀ =>
    simp only [run, Transcript.mk.injEq, Except.ok.injEq] at h
    obtain ⟨rfl, rfl, rfl⟩ := h
    rfl
  | ask q next ih =>
    obtain ⟨m, s₁, rest, hq, rfl, hnext⟩ := run_ask_eq h
    rw [Inquiry.bind, run_ask_ok hq, ih m hnext]
    rfl

lemma run_bind_error (h : run relay d s = ⟨heard, .error e, s'⟩) (k : R → Inquiry Q M R') :
    run relay (d.bind k) s = ⟨heard, .error e, s'⟩ := by
  induction d generalizing s heard with
  | stop r₀ => simp [run] at h
  | ask q next ih =>
    rcases hq : relay q s with ⟨e' | m, s₁⟩
    · rw [run_ask_error hq] at h
      simp only [Transcript.mk.injEq, Except.error.injEq] at h
      obtain ⟨rfl, rfl, rfl⟩ := h
      exact run_ask_error hq _
    · rw [run_ask_ok hq] at h
      rcases ht : run relay (next m) s₁ with ⟨rest, o, s₂⟩
      simp only [ht, Transcript.after, Transcript.mk.injEq] at h
      obtain ⟨rfl, rfl, rfl⟩ := h
      rw [Inquiry.bind, run_ask_ok hq, ih m ht]
      rfl

end Run

/-- If every message preserves `I` and a failure of the source leads to `J`, which is weaker, then
`J` holds when the run ends, and `I` if it comes to a result. -/
theorem run_keeps {relay : Q → S → Except E M × S} {I J : S → Prop}
    (ok : ∀ {q s m s'}, I s → relay q s = (.ok m, s') → I s')
    (err : ∀ {q s e s'}, I s → relay q s = (.error e, s') → J s') (weaken : ∀ {s}, I s → J s)
    (d : Inquiry Q M R) {s : S} (h : I s) :
    J (run relay d s).state ∧
      (∀ r, (run relay d s).outcome = .ok r → I (run relay d s).state) := by
  induction d generalizing s with
  | stop r => exact ⟨weaken h, fun _ _ => h⟩
  | ask q next ih =>
    rcases hq : relay q s with ⟨e | m, s₁⟩
    · rw [run_ask_error hq]
      exact ⟨err h hq, by simp⟩
    · rw [run_ask_ok hq]
      exact ih m (ok h hq)

/-- If `f` delivers every message that `g` delivers, from related states to related states, then a
run over `g` that comes to a result is also a run over `f`. -/
theorem run_follows {f : Q → S → Except E M × S} {g : Q → T → Except E M × T} {P : S → T → Prop}
    (h : ∀ q s t m t', P s t → g q t = (.ok m, t') → ∃ s', f q s = (.ok m, s') ∧ P s' t')
    (d : Inquiry Q M R) {s : S} {t t' : T} {heard : List M} {r : R} (hP : P s t)
    (hg : run g d t = ⟨heard, .ok r, t'⟩) : ∃ s', run f d s = ⟨heard, .ok r, s'⟩ ∧ P s' t' := by
  induction d generalizing s t heard with
  | stop r₀ =>
    simp only [run, Transcript.mk.injEq, Except.ok.injEq] at hg
    obtain ⟨rfl, rfl, rfl⟩ := hg
    exact ⟨s, rfl, hP⟩
  | ask q next ih =>
    obtain ⟨m, t₁, rest, hq, rfl, hnext⟩ := run_ask_eq hg
    obtain ⟨s₁, hf, hP₁⟩ := h q s t m t₁ hP hq
    obtain ⟨s', hs', hP'⟩ := ih m hP₁ hnext
    exact ⟨s', by rw [run_ask_ok hf, hs']; rfl, hP'⟩

end ShadowProxy.Dialogue
