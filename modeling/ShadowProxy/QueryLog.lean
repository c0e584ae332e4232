import ShadowProxy.NetConn
import ShadowProxy.ShadowFilter

/-! The query log: one entry for each execution of a command on the primary or the shadow, and one
for each command that the filter held back. Entries of one command share its request id. -/
namespace ShadowProxy.QueryLog
open WordBytes NetConn ShadowFilter

/-- A command with what the log needs of it. `id` stands for the random UUID, `packet` is empty on
the PostgreSQL path. -/
structure QueryRequest where
  id : ℕ
  packet : Bytes
  queryText : Bytes
  command : String
  deriving DecidableEq, Repr

inductive Target
  | primary
  | shadow
  deriving DecidableEq, Repr

/-- An entry without its times; it counts as a success when there is no error. -/
structure QueryLogEntry where
  queryID : ℕ
  target : Target
  command : String
  queryText : Bytes
  bytesSent : ℕ
  bytesRecv : ℕ
  error : Option Err
  filtered : Bool
  filterReason : FilterReason
  deriving DecidableEq, Repr

/-- The entries logged so far, `none` when there is no logger. The buffer of the logger is taken to
be large enough. -/
abbrev QueryLogger := Option (List QueryLogEntry)

def QueryLogger.log (logger : QueryLogger) (entry : QueryLogEntry) : QueryLogger :=
  logger.map (· ++ [entry])

def QueryLogger.entries (logger : QueryLogger) : List QueryLogEntry := logger.getD []

/-- The entry for an execution, as the four functions that log one fill it in. -/
def executionEntry (target : Target) (req : QueryRequest) (bytesSent bytesRecv : ℕ)
    (err : Option Err) : QueryLogEntry :=
  ⟨req.id, target, req.command, req.queryText, bytesSent, bytesRecv, err, false, .none⟩

/-- The entry for a command that was filtered out of mirroring. -/
def filteredEntry (req : QueryRequest) (filterReason : FilterReason) : QueryLogEntry :=
  ⟨req.id, .shadow, req.command, req.queryText, 0, 0, none, true, filterReason⟩

/-- How many entries for `target` carry the given id. -/
def entriesFor (target : Target) (id : ℕ) (entries : List QueryLogEntry) : ℕ :=
  entries.countP fun e => e.target = target ∧ e.queryID = id

@[simp] lemma log_some (entries : List QueryLogEntry) (entry : QueryLogEntry) :
    QueryLogger.log (some entries) entry = some (entries ++ [entry]) := rfl

lemma log_last {logger : QueryLogger} {entries : List QueryLogEntry} {entry e : QueryLogEntry}
    (h : logger.log e = some (entries ++ [entry])) : entry = e := by
  obtain ⟨before, -, heq⟩ := Option.map_eq_some_iff.mp h
  have := (List.append_inj' heq rfl).2
  simpa using this.symm

lemma log_isSome {logger : QueryLogger} (h : logger.isSome) (entry : QueryLogEntry) :
    (logger.log entry).isSome ∧ (logger.log entry).entries = logger.entries ++ [entry] := by
  obtain ⟨entries, rfl⟩ := Option.isSome_iff_exists.mp h
  exact ⟨rfl, rfl⟩

def QueryLogEntry.key (entry : QueryLogEntry) : Target × ℕ := (entry.target, entry.queryID)

lemma entriesFor_eq_count (target : Target) (id : ℕ) (entries : List QueryLogEntry) :
    entriesFor target id entries = (entries.map QueryLogEntry.key).count (target, id) := by
  rw [entriesFor, List.count, List.countP_map]
  congr 1
  funext e
  rw [Bool.eq_iff_iff]
  simp [QueryLogEntry.key]

section Accounts
variable {α : Type*} (id : α → ℕ) (filtered : α → Option QueryLogEntry)

/-- What a connection logs for an item of its ledger: an entry for the primary, and one for the
shadow if the item was filtered out. -/
def connectionKeys (x : α) : List (Target × ℕ) :=
  (if (filtered x).isSome then [(.shadow, id x)] else []) ++ [(.primary, id x)]

/-- The log of a connection accounts for its ledger, up to the entries that it still owes. -/
structure Accounts (ledger : List α) (owed : List (Target × ℕ)) (logger : QueryLogger) : Prop where
  on : logger.isSome
  keys : logger.entries.map QueryLogEntry.key ++ owed = ledger.flatMap (connectionKeys id filtered)
  holds : ∀ x ∈ ledger, ∀ entry ∈ filtered x, entry ∈ logger.entries

variable {id filtered} {ledger : List α} {owed : List (Target × ℕ)} {logger : QueryLogger}

lemma Accounts.pay {entry : QueryLogEntry} (h : Accounts id filtered ledger [entry.key] logger) :
    Accounts id filtered ledger [] (logger.log entry) := by
  obtain ⟨hsome, hentries⟩ := log_isSome h.on entry
  refine ⟨hsome, ?_, ?_⟩
  · rw [hentries, ← h.keys]
    simp
  · rw [hentries]
    exact fun x hx e he => List.mem_append_left _ (h.holds x hx e he)

lemma Accounts.enter (h : Accounts id filtered ledger [] logger) {x : α} (hx : filtered x = none) :
    Accounts id filtered (ledger ++ [x]) [(.primary, id x)] logger := by
  have hkeys := h.keys
  rw [List.append_nil] at hkeys
  refine ⟨h.on, by simp [hkeys, connectionKeys, hx], ?_⟩
  intro y hy e he
  rcases List.mem_append.mp hy with hy | hy
  · exact h.holds y hy e he
  · rw [List.mem_singleton.mp hy, hx] at he
    simp at he

lemma Accounts.enter_filtered (h : Accounts id filtered ledger [] logger) {x : α}
    {entry : QueryLogEntry} (hx : filtered x = some entry) (hkey : entry.key = (.shadow, id x)) :
    Accounts id filtered (ledger ++ [x]) [(.primary, id x)] (logger.log entry) := by
  obtain ⟨hsome, hentries⟩ := log_isSome h.on entry
  have hkeys := h.keys
  rw [List.append_nil] at hkeys
  refine ⟨hsome, by simp [hentries, hkeys, connectionKeys, hx, hkey], ?_⟩
  rw [hentries]
  intro y hy e he
  rcases List.mem_append.mp hy with hy | hy
  · exact List.mem_append_left _ (h.holds y hy e he)
  · rw [List.mem_singleton.mp hy, hx, Option.mem_some_iff] at he
    simp [he]

lemma count_flatMap_of_nodup {items : List α} {id : α → ℕ}
    {keys : α → List (Target × ℕ)} (hid : (items.map id).Nodup)
    (hkeys : ∀ x, ∀ k ∈ keys x, k.2 = id x) {x : α} (hx : x ∈ items) (target : Target) :
    (items.flatMap keys).count (target, id x) = (keys x).count (target, id x) := by
  have hzero : ∀ y, id y ≠ id x → (keys y).count (target, id x) = 0 := by
    intro y hy
    refine List.count_eq_zero.mpr fun hmem => hy ?_
    exact (hkeys y _ hmem).symm
  induction items with
  | nil => simp at hx
  | cons y items ih =>
    rw [List.map_cons, List.nodup_cons] at hid
    rw [List.flatMap_cons, List.count_append]
    rcases List.mem_cons.mp hx with rfl | hx
    · have hrest : (items.flatMap keys).count (target, id x) = 0 := by
        refine List.count_eq_zero.mpr fun hmem => hid.1 ?_
        obtain ⟨z, hz, hk⟩ := List.mem_flatMap.mp hmem
        have heq : id x = id z := hkeys z _ hk
        rw [heq]
        exact List.mem_map_of_mem hz
      rw [hrest, Nat.add_zero]
    · have hne : id y ≠ id x := fun heq => hid.1 (heq ▸ List.mem_map_of_mem hx)
      rw [hzero y hne, Nat.zero_add]
      exact ih hid.2 hx

/-- With the entries of a worker that has logged the items it was sent, an item has one entry for the
primary, and one for the shadow if it was filtered out or sent to the worker. -/
theorem Accounts.entriesFor (h : Accounts id filtered ledger [] logger) (hid : (ledger.map id).Nodup)
    (sent : α → Bool) {entries : List QueryLogEntry}
    (hworker : entries.map QueryLogEntry.key = (ledger.filter sent).map fun x => (.shadow, id x))
    {x : α} (hx : x ∈ ledger) :
    entriesFor .primary (id x) (logger.entries ++ entries) = 1 ∧
      entriesFor .shadow (id x) (logger.entries ++ entries) =
        (filtered x).isSome.toNat + (sent x).toNat := by
  have hsent : entries.map QueryLogEntry.key =
      ledger.flatMap fun x => if sent x then [(.shadow, id x)] else [] := by
    rw [hworker]
    clear hworker h hid hx
    induction ledger with
    | nil => rfl
    | cons y ledger ih => cases hy : sent y <;> simp [hy, ih]
  have hcount : ∀ target, QueryLog.entriesFor target (id x) (logger.entries ++ entries) =
      (connectionKeys id filtered x).count (target, id x) +
        (if sent x then [(Target.shadow, id x)] else []).count (target, id x) := by
    intro target
    have hkeys := h.keys
    rw [List.append_nil] at hkeys
    rw [entriesFor_eq_count, List.map_append, List.count_append, hkeys, hsent]
    congr 1
    · refine count_flatMap_of_nodup hid ?_ hx target
      intro y k hk
      rcases List.mem_append.mp hk with hk | hk
      · split_ifs at hk
        · rw [List.mem_singleton.mp hk]
        · simp at hk
      · rw [List.mem_singleton.mp hk]
    · refine count_flatMap_of_nodup hid ?_ hx target
      intro y k hk
      split_ifs at hk
      · rw [List.mem_singleton.mp hk]
      · simp at hk
  rw [hcount, hcount]
  cases hf : (filtered x).isSome <;> cases hs : sent x <;> simp [connectionKeys, hf]

end Accounts

end ShadowProxy.QueryLog
