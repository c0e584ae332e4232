import ShadowProxy.LogFlush
import ShadowProxy.LogFormat

/-! Where the batches of the logger go: each to an object of the bucket, or to the output of the process
when the bucket cannot be written. -/
namespace ShadowProxy.LogStore
open WordBytes ShadowFilter JsonText Utf8Text QueryLog LogFlush LogFormat

section Path

/-- The last `w` decimal digits of a number. -/
def padded : ℕ → ℕ → Bytes
  | 0, _ => []
  | w + 1, n => padded w (n / 10) ++ [UInt8.ofNat (0x30 + n % 10)]

structure Time where
  year : Fin 10000
  month : Fin 13
  day : Fin 32
  hour : Fin 24
  minute : Fin 60
  second : Fin 60
  deriving DecidableEq

namespace Time

def folders (t : Time) : Bytes :=
  ascii "/year=" ++ padded 4 t.year ++ ascii "/month=" ++ padded 2 t.month ++ ascii "/day=" ++
    padded 2 t.day ++ ascii "/hour=" ++ padded 2 t.hour ++ ascii "/"

def stamp (t : Time) : Bytes :=
  padded 4 t.year ++ padded 2 t.month ++ padded 2 t.day ++ ascii "_" ++ padded 2 t.hour ++
    padded 2 t.minute ++ padded 2 t.second

end Time

/-- The name of an object: folders for the hour, then the second and a part of a random UUID. -/
def objectPath (pre : Bytes) (t : Time) (id : Bytes) : Bytes :=
  pre ++ t.folders ++ t.stamp ++ ascii "_" ++ id ++ ascii ".jsonl"

@[simp] lemma padded_length (w n : ℕ) : (padded w n).length = w := by
  induction w generalizing n with
  | zero => rfl
  | succ w ih => simp [padded, ih]

lemma padded_inj {w n m : ℕ} (hn : n < 10 ^ w) (hm : m < 10 ^ w) (h : padded w n = padded w m) : n = m := by
  induction w generalizing n m with
  | zero => simp_all
  | succ w ih =>
    obtain ⟨hhigh, hlow⟩ := List.append_inj' h rfl
    have hdigit : ∀ k, (UInt8.ofNat (0x30 + k % 10)).toNat = 0x30 + k % 10 := fun k => by
      rw [UInt8.toNat_ofNat']
      omega
    have hmod := congrArg UInt8.toNat (List.singleton_inj.mp hlow)
    rw [hdigit, hdigit] at hmod
    have hdiv := ih (by rw [pow_succ] at hn; omega) (by rw [pow_succ] at hm; omega) hhigh
    omega

lemma padded_fin_inj {w k : ℕ} (hk : k ≤ 10 ^ w) {n m : Fin k} (h : padded w n = padded w m) : n = m :=
  Fin.ext (padded_inj (n.isLt.trans_le hk) (m.isLt.trans_le hk) h)

lemma Time.stamp_injective : Function.Injective Time.stamp := by
  intro t u h
  obtain ⟨h, hsecond⟩ := List.append_inj' h (by simp)
  obtain ⟨h, hminute⟩ := List.append_inj' h (by simp)
  obtain ⟨h, hhour⟩ := List.append_inj' h (by simp)
  obtain ⟨h, -⟩ := List.append_inj' h rfl
  obtain ⟨h, hday⟩ := List.append_inj' h (by simp)
  obtain ⟨hyear, hmonth⟩ := List.append_inj' h (by simp)
  cases t
  cases u
  simp only [Time.mk.injEq]
  exact ⟨padded_fin_inj (by decide) hyear, padded_fin_inj (by decide) hmonth,
    padded_fin_inj (by decide) hday, padded_fin_inj (by decide) hhour, padded_fin_inj (by decide) hminute,
    padded_fin_inj (by decide) hsecond⟩

/-- Two objects have one name only if they are written in the same second with the same part of a UUID. -/
lemma objectPath_inj {pre id id' : Bytes} {t t' : Time}
    (h : objectPath pre t id = objectPath pre t' id') : t = t' ∧ id = id' := by
  have hfolders : ∀ t : Time, t.folders.length = 35 := fun t => by simp [Time.folders, ascii]
  have hstamp : ∀ t : Time, t.stamp.length = 15 := fun t => by simp [Time.stamp, ascii]
  simp only [objectPath, List.append_assoc, List.append_cancel_left_eq] at h
  obtain ⟨-, h⟩ := List.append_inj h (by rw [hfolders, hfolders])
  obtain ⟨ht, h⟩ := List.append_inj h (by rw [hstamp, hstamp])
  rw [List.append_cancel_left_eq, List.append_cancel_right_eq] at h
  exact ⟨Time.stamp_injective ht, h⟩

end Path

/-- How the upload of a batch ends. When the writer cannot be closed, the object may be there all the
same. -/
inductive Upload
  | copyFailed
  | closeFailed (stored : Bool)
  | done
  deriving DecidableEq

/-- What a call of `flush` draws and meets. -/
structure Draw where
  time : Time
  id : Bytes
  upload : Upload
  deriving DecidableEq

structure Metrics where
  success : ℕ
  errors : ℕ
  fallbackWrites : ℕ
  bytesWritten : ℕ
  entriesPerFlush : List ℕ

/-- `bucket` holds the objects by name, `output` the lines of `fallbackLog`. -/
structure Store where
  bucket : AList fun _ : Bytes => Bytes
  output : List Bytes
  metrics : Metrics

def Store.empty : Store := ⟨∅, [], ⟨0, 0, 0, 0, []⟩⟩

abbrev Stamped := QueryLogEntry × Stamp

def fallbackTag : Bytes := ascii "QueryLogger[FALLBACK]: "

section Flush
variable (texts : Texts) (pre : Bytes)

def content (batch : List Stamped) : Bytes := jsonl (batch.map (fill texts))

/-- The line of an entry in the output; there is none when it cannot be encoded. -/
def fallbackLine (e : Stamped) : Option Bytes :=
  (fill texts e).marshal.map fun ms => fallbackTag ++ encode (writeObject ms)

def fallbackLog (batch : List Stamped) (s : Store) : Store :=
  { s with
    output := s.output ++ batch.filterMap (fallbackLine texts)
    metrics := { s.metrics with fallbackWrites := s.metrics.fallbackWrites + batch.length } }

def failed (s : Store) : Store :=
  { s with metrics := { s.metrics with errors := s.metrics.errors + 1 } }

/-- Writing an object replaces one of the same name. -/
def put (batch : List Stamped) (d : Draw) (s : Store) : Store :=
  { s with bucket := s.bucket.insert (objectPath pre d.time d.id) (content texts batch) }

def succeeded (batch : List Stamped) (s : Store) : Store :=
  { s with
    metrics := { s.metrics with
      success := s.metrics.success + 1
      bytesWritten := s.metrics.bytesWritten + (content texts batch).length
      entriesPerFlush := s.metrics.entriesPerFlush ++ [batch.length] } }

def flush (batch : List Stamped) (d : Draw) (s : Store) : Store :=
  if batch = [] then s
  else
    match d.upload with
    | .copyFailed => fallbackLog texts batch (failed s)
    | .closeFailed stored => fallbackLog texts batch (failed (if stored then put texts pre batch d s else s))
    | .done => succeeded texts batch (put texts pre batch d s)

end Flush

/-- A call of `flush`. -/
structure Call where
  batch : List Stamped
  draw : Draw

/-- The logger with what its flushes have written; `calls` are the calls of `flush` so far. -/
structure System where
  logger : Logger Stamped
  store : Store
  calls : List Call

instance : Inhabited Stamp := ⟨⟨[], .ofNat 0, []⟩⟩

namespace System
variable (cfg : Config) (texts : Texts) (pre : Bytes)

def start : System := ⟨Logger.start cfg, .empty, []⟩

/-- A step of one of the goroutines; when it is the end of a call of `flush`, it meets the draw. -/
def act (s : System) (step : Action Stamped × Draw) : System :=
  let logger := s.logger.act cfg step.1
  let calls := (logger.flushes.drop s.logger.flushes.length).map fun f => ⟨f.entries, step.2⟩
  ⟨logger, calls.foldl (fun store c => flush texts pre c.batch c.draw store) s.store, s.calls ++ calls⟩

def exec (steps : List (Action Stamped × Draw)) : System := steps.foldl (act cfg texts pre) (start cfg)

end System

section Run
variable (cfg : Config) (texts : Texts) (pre : Bytes)

lemma flushes_prefix_steps {α : Type*} [Inhabited α] {cfg : Config} {s s' : Logger α}
    (hs : Steps cfg s s') : s.flushes <+: s'.flushes := by
  cases hs with
  | flushed | finalFlushed => exact List.prefix_append _ _
  | _ => exact List.prefix_rfl

lemma flushes_prefix_act {α : Type*} [Inhabited α] (s : Logger α) (a : Action α) :
    s.flushes <+: (s.act cfg a).flushes := by
  cases a with
  | log entry =>
    rcases log_cases cfg s entry with ⟨-, heq⟩ | ⟨-, -, heq⟩ | ⟨-, -, heq⟩ <;>
      simp [Logger.act, heq, Logger.accept]
  | count i =>
    dsimp only [Logger.act, Logger.count]
    split <;> exact List.prefix_rfl
  | tick =>
    rcases fire_cases s with ⟨-, heq⟩ | ⟨-, heq⟩ <;> rw [Logger.act, heq]
  | close =>
    rcases close_cases s with ⟨-, heq⟩ | heq | ⟨-, heq⟩ | heq <;> rw [Logger.act, heq]
  | loop pick => exact flushes_prefix_steps (step_steps cfg pick s)

/-- The store after some calls of `flush`. -/
def after (calls : List Call) : Store :=
  calls.foldl (fun store c => flush texts pre c.batch c.draw store) .empty

/-- What the parts of the system have to do with each other. -/
structure Composed (steps : List (Action Stamped × Draw)) (s : System) : Prop where
  logger : s.logger = (Logger.start cfg).exec cfg (steps.map Prod.fst)
  calls : s.calls.map Call.batch = s.logger.flushes.map Flush.entries
  store : s.store = after texts pre s.calls

lemma exec_composed (steps : List (Action Stamped × Draw)) :
    Composed cfg texts pre steps (System.exec cfg texts pre steps) := by
  induction steps using List.reverseRecOn with
  | nil => exact ⟨rfl, rfl, rfl⟩
  | append_singleton steps step ih =>
    rw [System.exec, List.foldl_append, List.foldl_cons, List.foldl_nil, ← System.exec]
    obtain ⟨new, hnew⟩ := flushes_prefix_act cfg (System.exec cfg texts pre steps).logger step.1
    refine ⟨?_, ?_, ?_⟩
    · rw [List.map_append, List.map_singleton, Logger.exec_concat, ← ih.logger]
      rfl
    · simp [System.act, ← hnew, ih.calls]
    · simp [System.act, ← hnew, ih.store, after]

lemma Composed.handed {cfg : Config} {texts : Texts} {pre : Bytes}
    {steps : List (Action Stamped × Draw)} {s : System} (h : Composed cfg texts pre steps s) :
    s.logger.handed = s.calls.flatMap Call.batch := by
  rw [Logger.handed, List.flatMap_def, ← h.calls, List.flatMap_def]

end Run

section Rows
variable (texts : Texts) (pre : Bytes)

def row (e : Stamped) : Entry (List Char) := (fill texts e).map text

def readFallback (line : Bytes) : Option (Entry (List Char)) := do
  let cs ← decode? (line.drop fallbackTag.length)
  let ms ← readLine cs
  readEntry ms

def bucketRows (s : Store) : List (Entry (List Char)) :=
  s.bucket.entries.flatMap fun o => (readLog o.2).getD []

def outputRows (s : Store) : List (Entry (List Char)) := s.output.filterMap readFallback

namespace Call

def stored (c : Call) : Bool :=
  !c.batch.isEmpty && (c.draw.upload = .done || c.draw.upload = .closeFailed true)

def fellBack (c : Call) : Bool := !c.batch.isEmpty && c.draw.upload ≠ .done

def name (c : Call) : Time × Bytes := (c.draw.time, c.draw.id)

end Call

@[simp] lemma readLog_content (batch : List Stamped) :
    readLog (content texts batch) = some (batch.map (row texts)) := by
  rw [content, readLog_jsonl, List.filter_eq_self.mpr, List.map_map]
  · rfl
  · exact List.forall_mem_map.mpr fun e _ => fill_encodable texts e

lemma filterMap_readFallback (batch : List Stamped) :
    (batch.filterMap (fallbackLine texts)).filterMap readFallback = batch.map (row texts) := by
  induction batch with
  | nil => rfl
  | cons e batch ih =>
    obtain ⟨ms, hms⟩ : ∃ ms, (fill texts e).marshal = some ms := ⟨_, rfl⟩
    have hline : fallbackLine texts e = some (fallbackTag ++ encode (writeObject ms)) := by
      rw [fallbackLine, hms]
      rfl
    have hread : readFallback (fallbackTag ++ encode (writeObject ms)) = some (row texts e) := by
      simp [readFallback, readEntry_marshal hms, row]
    rw [List.filterMap_cons_some hline, List.filterMap_cons_some hread, ih, List.map_cons]

lemma after_concat (calls : List Call) (c : Call) :
    after texts pre (calls ++ [c]) = flush texts pre c.batch c.draw (after texts pre calls) := by
  simp [after]

lemma flush_bucket (c : Call) (s : Store) :
    (flush texts pre c.batch c.draw s).bucket =
      if c.stored then s.bucket.insert (objectPath pre c.draw.time c.draw.id) (content texts c.batch)
      else s.bucket := by
  unfold flush Call.stored
  by_cases hb : c.batch = []
  · simp [hb]
  · rcases c.draw.upload with _ | stored | _
    · simp [hb, fallbackLog, failed]
    · cases stored <;> simp [hb, fallbackLog, failed, put]
    · simp [hb, succeeded, put]

lemma flush_output (c : Call) (s : Store) :
    (flush texts pre c.batch c.draw s).output =
      s.output ++ if c.fellBack then c.batch.filterMap (fallbackLine texts) else [] := by
  unfold flush Call.fellBack
  by_cases hb : c.batch = []
  · simp [hb]
  · rcases c.draw.upload with _ | stored | _
    · simp [hb, fallbackLog, failed]
    · cases stored <;> simp [hb, fallbackLog, failed, put]
    · simp [hb, succeeded, put]

lemma output_after (calls : List Call) :
    (after texts pre calls).output =
      (calls.filter Call.fellBack).flatMap fun c => c.batch.filterMap (fallbackLine texts) := by
  induction calls using List.reverseRecOn with
  | nil => rfl
  | append_singleton calls c ih =>
    rw [after_concat, flush_output, ih, List.filter_append, List.flatMap_append]
    cases hc : c.fellBack <;> simp [hc]

lemma outputRows_after (calls : List Call) :
    outputRows (after texts pre calls) =
      (calls.filter Call.fellBack).flatMap fun c => c.batch.map (row texts) := by
  rw [outputRows, output_after, List.filterMap_flatMap]
  simp only [filterMap_readFallback]

lemma exists_of_mem_bucket {calls : List Call} {path : Bytes}
    (h : path ∈ (after texts pre calls).bucket) :
    ∃ c ∈ calls.filter Call.stored, objectPath pre c.draw.time c.draw.id = path := by
  induction calls using List.reverseRecOn with
  | nil => exact absurd h (AList.notMem_empty path)
  | append_singleton calls c ih =>
    rw [after_concat, flush_bucket] at h
    rw [List.filter_append]
    cases hc : c.stored with
    | false =>
      rw [hc] at h
      obtain ⟨c', hc', heq⟩ := ih h
      exact ⟨c', List.mem_append_left _ hc', heq⟩
    | true =>
      rw [hc, if_pos rfl, AList.mem_insert] at h
      rcases h with rfl | h
      · exact ⟨c, by simp [hc], rfl⟩
      · obtain ⟨c', hc', heq⟩ := ih h
        exact ⟨c', List.mem_append_left _ hc', heq⟩

def Call.object (c : Call) : (_ : Bytes) × Bytes :=
  ⟨objectPath pre c.draw.time c.draw.id, content texts c.batch⟩

lemma bucket_after {calls : List Call} (h : ((calls.filter Call.stored).map Call.name).Nodup) :
    (after texts pre calls).bucket.entries.Perm ((calls.filter Call.stored).map (Call.object texts pre)) := by
  induction calls using List.reverseRecOn with
  | nil => exact .nil
  | append_singleton calls c ih =>
    rw [List.filter_append, List.map_append, List.nodup_append] at h
    obtain ⟨hcalls, -, hdiff⟩ := h
    rw [after_concat, flush_bucket, List.filter_append, List.map_append]
    cases hc : c.stored with
    | false => simpa [hc] using ih hcalls
    | true =>
      have hnew : objectPath pre c.draw.time c.draw.id ∉ (after texts pre calls).bucket := by
        intro hmem
        obtain ⟨c', hc', heq⟩ := exists_of_mem_bucket texts pre hmem
        obtain ⟨htime, hid⟩ := objectPath_inj heq
        exact hdiff c'.name (List.mem_map_of_mem hc') c.name (by simp [hc]) (by simp [Call.name, htime, hid])
      rw [if_pos rfl, AList.entries_insert_of_notMem hnew, List.filter_cons_of_pos hc]
      exact ((ih hcalls).cons _).trans (List.perm_append_singleton _ _).symm

lemma bucketRows_after {calls : List Call} (h : ((calls.filter Call.stored).map Call.name).Nodup) :
    (bucketRows (after texts pre calls)).Perm
      ((calls.filter Call.stored).flatMap fun c => c.batch.map (row texts)) := by
  refine ((bucket_after texts pre h).flatMap_right _).trans ?_
  rw [List.flatMap_map]
  simp [Call.object]

/-- The writer could not be closed, and the object is there all the same. -/
def Call.doubled (c : Call) : Bool := c.draw.upload = .closeFailed true

/-- A batch is in the bucket or in the output, and in both only if the call is doubled. -/
lemma Call.kept (c : Call) {k : ℕ} (hk : c.batch = [] → k = 0) :
    (if c.stored then k else 0) + (if c.fellBack then k else 0) = k + if c.doubled then k else 0 := by
  unfold Call.stored Call.fellBack Call.doubled
  by_cases hb : c.batch = []
  · simp [hb, hk hb]
  · rcases c.draw.upload with _ | stored | _
    · simp [hb]
    · cases stored <;> simp [hb]
    · simp [hb]

lemma count_filter_cons {β : Type*} [DecidableEq β] (f : Stamped → β) (p : Call → Bool) (c : Call)
    (calls : List Call) (x : β) :
    (((c :: calls).filter p).flatMap fun c => c.batch.map f).count x =
      (if p c then (c.batch.map f).count x else 0) +
        ((calls.filter p).flatMap fun c => c.batch.map f).count x := by
  cases hc : p c <;> simp [hc]

lemma count_kept {β : Type*} [DecidableEq β] (f : Stamped → β) (calls : List Call) (x : β) :
    ((calls.filter Call.stored).flatMap fun c => c.batch.map f).count x +
        ((calls.filter Call.fellBack).flatMap fun c => c.batch.map f).count x =
      (calls.flatMap fun c => c.batch.map f).count x +
        ((calls.filter Call.doubled).flatMap fun c => c.batch.map f).count x := by
  induction calls with
  | nil => rfl
  | cons c calls ih =>
    have hkept := c.kept (k := (c.batch.map f).count x) fun hb => by simp [hb]
    rw [count_filter_cons, count_filter_cons, count_filter_cons, List.flatMap_cons, List.count_append]
    omega

end Rows

section Kept
variable {cfg : Config} {texts : Texts} {pre : Bytes} {steps : List (Action Stamped × Draw)} {s : System}

lemma Composed.handed_rows (h : Composed cfg texts pre steps s) :
    s.logger.handed.map (row texts) = s.calls.flatMap fun c => c.batch.map (row texts) := by
  rw [h.handed, List.map_flatMap]

lemma Composed.rows (h : Composed cfg texts pre steps s)
    (hnames : ((s.calls.filter Call.stored).map Call.name).Nodup) :
    (bucketRows s.store ++ outputRows s.store).Perm
      (((s.calls.filter Call.stored).flatMap fun c => c.batch.map (row texts)) ++
        (s.calls.filter Call.fellBack).flatMap fun c => c.batch.map (row texts)) := by
  rw [h.store, outputRows_after]
  exact (bucketRows_after texts pre hnames).append_right _

lemma Composed.rows_once (h : Composed cfg texts pre steps s)
    (hnames : ((s.calls.filter Call.stored).map Call.name).Nodup)
    (hclean : ∀ c ∈ s.calls, c.draw.upload ≠ .closeFailed true) :
    (bucketRows s.store ++ outputRows s.store).Perm (s.logger.handed.map (row texts)) := by
  have hnone : s.calls.filter Call.doubled = [] :=
    List.filter_eq_nil_iff.mpr fun c hc => by simpa [Call.doubled] using hclean c hc
  rw [h.handed_rows]
  refine (h.rows hnames).trans (List.perm_iff_count.mpr fun x => ?_)
  simpa [hnone] using count_kept (row texts) s.calls x

end Kept

/-- As long as no two objects get the same name, every entry that was handed to `flush` has a row in the
bucket or in the output. It has just one, unless an upload fails whose object is there all the same. -/
theorem handed_entries_kept (cfg : Config) (texts : Texts) (pre : Bytes)
    (steps : List (Action Stamped × Draw)) :
    let s := System.exec cfg texts pre steps
    ((s.calls.filter Call.stored).map Call.name).Nodup →
      (s.logger.handed.map (row texts)).Subperm (bucketRows s.store ++ outputRows s.store) ∧
        ((∀ c ∈ s.calls, c.draw.upload ≠ .closeFailed true) →
          (bucketRows s.store ++ outputRows s.store).Perm (s.logger.handed.map (row texts))) := by
  intro s hnames
  have hs : Composed cfg texts pre steps s := exec_composed cfg texts pre steps
  refine ⟨?_, hs.rows_once hnames⟩
  rw [hs.handed_rows]
  refine List.Subperm.trans (List.subperm_ext_iff.mpr fun x _ => ?_) (hs.rows hnames).symm.subperm
  rw [List.count_append, count_kept]
  exact Nat.le_add_right _ _

section Samples

lemma replicate_injective : Function.Injective fun n => List.replicate n 'a' :=
  fun n m h => by simpa using congrArg List.length h

def sampleTexts : Texts := ⟨fun n => List.replicate n 'a', id, fun _ => [], replicate_injective⟩

def sampleEntry (id : ℕ) : Stamped :=
  (⟨id, .primary, "COM_QUERY", ascii "SELECT 1", 13, 7, none, false, .none⟩, default)

def sampleDraw (id : Bytes) (upload : Upload) : Draw := ⟨⟨2026, 3, 1, 12, 0, 0⟩, id, upload⟩

/-- An entry is logged, and `flushLoop` goes on until it has flushed it. -/
def sampleFlush (id : ℕ) (upload : Upload) : List (Action Stamped × Draw) :=
  (Action.log (sampleEntry id) :: List.replicate 4 (.loop .entry)).map
    fun a => (a, sampleDraw (ascii "00000000") upload)

end Samples

/-- The first batch is uploaded, the second one goes to the output. -/
theorem handed_entries_kept_sample :
    let s := System.exec ⟨1, 8⟩ sampleTexts [] (sampleFlush 1 .done ++ sampleFlush 2 .copyFailed)
    s.calls.map Call.batch = [[sampleEntry 1], [sampleEntry 2]] ∧
      (bucketRows s.store ++ outputRows s.store).Perm (s.logger.handed.map (row sampleTexts)) := by
  refine ⟨by decide, (handed_entries_kept ⟨1, 8⟩ sampleTexts [] _ ?_).2 ?_⟩
  · decide
  · decide

section Accounts
variable (texts : Texts) (pre : Bytes)

def Call.succeeded (c : Call) : Bool := !c.batch.isEmpty && c.draw.upload = .done

/-- What the counters say about the calls. -/
structure Accounted (calls : List Call) (s : Store) : Prop where
  success : s.metrics.success = (calls.filter Call.succeeded).length
  errors : s.metrics.errors = (calls.filter Call.fellBack).length
  entries : s.metrics.entriesPerFlush = (calls.filter Call.succeeded).map fun c => c.batch.length
  fallback : s.metrics.fallbackWrites = ((calls.filter Call.fellBack).map fun c => c.batch.length).sum
  bytes : s.metrics.bytesWritten =
    ((calls.filter Call.succeeded).map fun c => (content texts c.batch).length).sum

lemma flush_metrics (c : Call) (s : Store) :
    (flush texts pre c.batch c.draw s).metrics =
      { success := s.metrics.success + if c.succeeded then 1 else 0
        errors := s.metrics.errors + if c.fellBack then 1 else 0
        fallbackWrites := s.metrics.fallbackWrites + if c.fellBack then c.batch.length else 0
        bytesWritten := s.metrics.bytesWritten + if c.succeeded then (content texts c.batch).length else 0
        entriesPerFlush := s.metrics.entriesPerFlush ++ if c.succeeded then [c.batch.length] else [] } := by
  unfold flush Call.succeeded Call.fellBack
  by_cases hb : c.batch = []
  · simp [hb]
  · rcases c.draw.upload with _ | stored | _
    · simp [hb, fallbackLog, failed]
    · cases stored <;> simp [hb, fallbackLog, failed, put]
    · simp [hb, succeeded, put]

lemma after_accounted (calls : List Call) : Accounted texts calls (after texts pre calls) := by
  induction calls using List.reverseRecOn with
  | nil => exact ⟨rfl, rfl, rfl, rfl, rfl⟩
  | append_singleton calls c ih =>
    have hm := flush_metrics texts pre c (after texts pre calls)
    rw [after_concat]
    refine ⟨?_, ?_, ?_, ?_, ?_⟩
    · rw [hm, ih.success]
      cases hc : c.succeeded <;> simp [hc]
    · rw [hm, ih.errors]
      cases hc : c.fellBack <;> simp [hc]
    · rw [hm, ih.entries]
      cases hc : c.succeeded <;> simp [hc]
    · rw [hm, ih.fallback]
      cases hc : c.fellBack <;> simp [hc]
    · rw [hm, ih.bytes]
      cases hc : c.succeeded <;> simp [hc]

lemma Call.fellBack_eq {c : Call} (hb : c.batch ≠ []) : c.fellBack = !c.succeeded := by
  have hempty : c.batch.isEmpty = false := by simpa using hb
  simp [Call.succeeded, Call.fellBack, hempty]

lemma sum_kept (calls : List Call) :
    ((calls.filter Call.succeeded).map fun c => c.batch.length).sum +
        ((calls.filter Call.fellBack).map fun c => c.batch.length).sum =
      (calls.flatMap Call.batch).length := by
  induction calls with
  | nil => rfl
  | cons c calls ih =>
    rw [List.flatMap_cons, List.length_append, ← ih]
    by_cases hb : c.batch = []
    · simp [Call.succeeded, Call.fellBack, hb]
    · cases hs : c.succeeded <;> simp [hs, Call.fellBack_eq hb] <;> omega

lemma length_filter_kept {calls : List Call} (h : ∀ c ∈ calls, c.batch ≠ []) :
    (calls.filter Call.succeeded).length + (calls.filter Call.fellBack).length = calls.length := by
  induction calls with
  | nil => rfl
  | cons c calls ih =>
    obtain ⟨hb, hcalls⟩ := List.forall_mem_cons.mp h
    rw [List.length_cons, ← ih hcalls]
    cases hs : c.succeeded <;> simp [hs, Call.fellBack_eq hb] <;> omega

lemma output_length (calls : List Call) :
    (after texts pre calls).output.length = (after texts pre calls).metrics.fallbackWrites := by
  have hline : ∀ batch : List Stamped, (batch.filterMap (fallbackLine texts)).length = batch.length := by
    intro batch
    induction batch with
    | nil => rfl
    | cons e batch ih => exact congrArg (· + 1) ih
  rw [output_after, (after_accounted texts pre calls).fallback, List.length_flatMap]
  simp only [hline]

lemma bucket_bytes {calls : List Call} (h : ((calls.filter Call.stored).map Call.name).Nodup) :
    ((after texts pre calls).bucket.entries.map fun o => o.2.length).sum =
      ((calls.filter Call.stored).map fun c => (content texts c.batch).length).sum := by
  rw [((bucket_after texts pre h).map _).sum_eq, List.map_map]
  rfl

end Accounts

section Loaded
variable {α : Type*} {cfg : Config} {s s' : Logger α}

/-- `flush` is called with entries only. -/
structure Loaded (s : Logger α) : Prop where
  flushing : ∀ read, s.stage = .flushing read ∨ s.stage = .finalFlush read → 0 < s.batch.len
  flushes : ∀ f ∈ s.flushes, f.entries ≠ []

lemma Loaded.settled (h : Loaded s) (hflushes : s'.flushes = s.flushes)
    (hflushing : ∀ read, s'.stage = .flushing read ∨ s'.stage = .finalFlush read → 0 < s'.batch.len) :
    Loaded s' := ⟨hflushing, hflushes ▸ h.flushes⟩

lemma Loaded.flushed (h : Loaded s) {read : List α} (hread : read ≠ []) {shutdown : Bool}
    (hflushes : s'.flushes = s.flushes ++ [⟨read, shutdown⟩])
    (hstage : s'.stage = .selecting ∨ s'.stage = .exited) : Loaded s' where
  flushing := by rcases hstage with hs | hs <;> simp [hs]
  flushes := by
    rw [hflushes, List.forall_mem_append]
    exact ⟨h.flushes, by simpa using hread⟩

variable [Inhabited α]

lemma step_loaded (h : Loaded s) (pick : Pick) : Loaded (s.step cfg pick) := by
  by_cases hf : s.stage = .finishing
  · refine h.settled (by simp [Logger.step, hf]) fun read => ?_
    by_cases hlen : 0 < s.batch.len <;> simp [Logger.step, hf, hlen]
  · have hsteps := step_steps cfg pick s
    revert hsteps
    generalize s.step cfg pick = s'
    intro hsteps
    cases hsteps with
    | idle => exact h
    | finalFlush hp | noFinalFlush hp => exact absurd hp hf
    | collectFull hp => exact h.settled rfl (by simp)
    | flush hp hlen => exact h.settled rfl fun _ _ => hlen
    | read hp => exact h.settled rfl fun _ _ => h.flushing _ (.inl hp)
    | finalRead hp => exact h.settled rfl fun _ _ => h.flushing _ (.inr hp)
    | flushed hp hlen =>
      have hpos := h.flushing _ (.inl hp)
      exact h.flushed (List.ne_nil_of_length_pos (by omega)) rfl (.inl rfl)
    | finalFlushed hp hlen =>
      have hpos := h.flushing _ (.inr hp)
      exact h.flushed (List.ne_nil_of_length_pos (by omega)) rfl (.inr rfl)
    | _ => exact h.settled rfl (by simp)

lemma exec_loaded (acts : List (Action α)) : Loaded ((Logger.start cfg).exec cfg acts) := by
  induction acts using List.reverseRecOn with
  | nil => exact ⟨by simp [Logger.start], by simp [Logger.start]⟩
  | append_singleton acts a ih =>
    rw [Logger.exec_concat]
    cases a with
    | log entry =>
      dsimp only [Logger.act]
      rcases log_cases cfg ((Logger.start cfg).exec cfg acts) entry with
        ⟨-, heq⟩ | ⟨-, -, heq⟩ | ⟨-, -, heq⟩ <;> rw [heq]
      · exact ih.settled rfl (by simp)
      · exact ih.settled rfl ih.flushing
      · exact ih.settled rfl ih.flushing
    | count i =>
      dsimp only [Logger.act, Logger.count]
      split
      · exact ih
      · exact ih.settled rfl ih.flushing
    | tick =>
      dsimp only [Logger.act]
      rcases fire_cases ((Logger.start cfg).exec cfg acts) with ⟨-, heq⟩ | ⟨-, heq⟩ <;> rw [heq]
      · exact ih.settled rfl (by simp)
      · exact ih.settled rfl ih.flushing
    | close =>
      dsimp only [Logger.act]
      rcases close_cases ((Logger.start cfg).exec cfg acts) with ⟨-, heq⟩ | heq | ⟨-, heq⟩ | heq <;> rw [heq]
      · exact ih.settled rfl (by simp)
      · exact ih.settled rfl ih.flushing
      · exact ih.settled rfl ih.flushing
      · exact ih
    | loop pick => exact step_loaded ih pick

end Loaded

/-- The counters of the logger over a whole run: every entry it has accepted was counted in a successful
flush, was counted as a fallback write or is still waiting; each flush is counted once; the output has a
line for each fallback write; and the bucket holds the bytes that were counted, as long as no two objects
get the same name and no upload fails whose object is there all the same. -/
theorem log_accounts (cfg : Config) (texts : Texts) (pre : Bytes) (steps : List (Action Stamped × Draw)) :
    let s := System.exec cfg texts pre steps
    s.logger.accepted.length = s.store.metrics.entriesPerFlush.sum + s.store.metrics.fallbackWrites +
        s.logger.current.length + s.logger.channel.length ∧
      s.store.metrics.success + s.store.metrics.errors = s.logger.flushes.length ∧
      s.store.output.length = s.store.metrics.fallbackWrites ∧
      (((s.calls.filter Call.stored).map Call.name).Nodup →
        (∀ c ∈ s.calls, c.draw.upload ≠ .closeFailed true) →
        (s.store.bucket.entries.map fun o => o.2.length).sum = s.store.metrics.bytesWritten) := by
  intro s
  have hs : Composed cfg texts pre steps s := exec_composed cfg texts pre steps
  have hordered : Ordered s.logger := hs.logger ▸ exec_ordered cfg _
  have hloaded : Loaded s.logger := hs.logger ▸ exec_loaded _
  have haccounted := after_accounted texts pre s.calls
  have hbatches : ∀ c ∈ s.calls, c.batch ≠ [] := by
    intro c hc
    have hmem : c.batch ∈ s.logger.flushes.map Flush.entries := hs.calls ▸ List.mem_map_of_mem hc
    obtain ⟨f, hf, heq⟩ := List.mem_map.mp hmem
    exact heq ▸ hloaded.flushes f hf
  have hcalls : s.calls.length = s.logger.flushes.length := by
    simpa using congrArg List.length hs.calls
  refine ⟨?_, ?_, ?_, ?_⟩
  · rw [hordered.order, List.length_append, List.length_append, hs.handed, ← sum_kept, hs.store,
      haccounted.entries, haccounted.fallback]
  · rw [hs.store, haccounted.success, haccounted.errors, length_filter_kept hbatches, hcalls]
  · rw [hs.store, output_length]
  · intro hnames hclean
    have hstored : s.calls.filter Call.stored = s.calls.filter Call.succeeded :=
      List.filter_congr fun c hc => by simp [Call.stored, Call.succeeded, hclean c hc]
    rw [hs.store, bucket_bytes texts pre hnames, haccounted.bytes, hstored]

section Commands
variable (texts : Texts)

def rowsFor (target : Target) (id : ℕ) (rows : List (Entry (List Char))) : ℕ :=
  rows.countP fun r => r.target = (targetLabel target).toList ∧ r.queryID = texts.uuid id

lemma targetLabel_toList_inj {a b : Target} :
    (targetLabel a).toList = (targetLabel b).toList ↔ a = b := by
  cases a <;> cases b <;> decide

lemma rowsFor_map_row (target : Target) (id : ℕ) (entries : List Stamped) :
    rowsFor texts target id (entries.map (row texts)) = entriesFor target id (entries.map Prod.fst) := by
  rw [rowsFor, entriesFor, List.countP_map, List.countP_map]
  refine List.countP_congr fun e _ => ?_
  simp [row, fill, Entry.map, targetLabel_toList_inj, texts.uuid_injective.eq_iff]

/-- The logger has stopped, and nothing that was logged is missing in the bucket or the output, or twice
there: no entry was dropped or came too late, no object was written under a name that was taken, and no
upload failed whose object is there all the same. -/
structure Settled (cfg : Config) (steps : List (Action Stamped × Draw)) (s : System) : Prop where
  returned : s.logger.closing = .returned
  punctual : Punctual cfg (steps.map Prod.fst)
  kept : s.logger.dropped = []
  names : ((s.calls.filter Call.stored).map Call.name).Nodup
  clean : ∀ c ∈ s.calls, c.draw.upload ≠ .closeFailed true

lemma Settled.rowsFor {cfg : Config} {pre : Bytes} {steps : List (Action Stamped × Draw)} {s : System}
    (h : Settled cfg steps s) (hs : Composed cfg texts pre steps s) (target : Target) (id : ℕ) :
    rowsFor texts target id (bucketRows s.store ++ outputRows s.store) =
      entriesFor target id ((logged (steps.map Prod.fst)).map Prod.fst) := by
  have hordered : Ordered s.logger := hs.logger ▸ exec_ordered cfg _
  have hexit := hordered.returned h.returned
  have hchannel : s.logger.channel = [] := by
    rw [hs.logger] at hexit ⊢
    exact (punctual_iff _).mp h.punctual (by rw [hexit]; rfl)
  have haccepted : s.logger.accepted = logged (steps.map Prod.fst) := by
    have hkept := h.kept
    rw [hs.logger] at hkept ⊢
    exact accepted_of_no_drop cfg _ hkept
  have hhanded : s.logger.handed = logged (steps.map Prod.fst) := by
    rw [← haccepted, hordered.order, Logger.current, hexit, hchannel, List.append_nil, List.append_nil]
  rw [← rowsFor_map_row, ← hhanded]
  exact (hs.rows_once h.names h.clean).countP_eq _

/-- When `Close` has returned, no entry was dropped, came too late or was written under a name that was
taken, and no upload failed whose object is there all the same, the bucket and the output have as many
rows for a command and a target as entries were logged. -/
theorem stored_rows_for_command (cfg : Config) (texts : Texts) (pre : Bytes)
    (steps : List (Action Stamped × Draw)) :
    let s := System.exec cfg texts pre steps
    Settled cfg steps s → ∀ target id, rowsFor texts target id (bucketRows s.store ++ outputRows s.store) =
      entriesFor target id ((logged (steps.map Prod.fst)).map Prod.fst) := by
  intro s hsettled target id
  exact hsettled.rowsFor texts (exec_composed cfg texts pre steps) target id

end Commands

/-- An entry is logged, and `Close` makes `flushLoop` drain the channel and flush it. -/
def sampleShutdown : List (Action Stamped × Draw) :=
  (Action.log (sampleEntry 1) :: .close :: (List.replicate 7 (.loop .done) ++ [.close])).map
    fun a => (a, sampleDraw (ascii "00000000") .done)

theorem stored_rows_for_command_sampleShutdown :
    let s := System.exec ⟨2, 8⟩ sampleTexts [] sampleShutdown
    rowsFor sampleTexts .primary 1 (bucketRows s.store ++ outputRows s.store) = 1 := by
  refine (stored_rows_for_command ⟨2, 8⟩ sampleTexts [] sampleShutdown ?_ .primary 1).trans ?_
  · exact ⟨by decide, (punctual_iff _).mpr fun _ => by decide, by decide, by decide, by decide⟩
  · decide

end ShadowProxy.LogStore
