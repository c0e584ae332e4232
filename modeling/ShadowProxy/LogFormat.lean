import ShadowProxy.JsonText
import ShadowProxy.QueryLog

/-! The query log as a file: the entry as `encoding/json` writes it, one line for each entry, and what a
reader of the file gets back. -/
namespace ShadowProxy.LogFormat
open WordBytes NetConn ShadowFilter JsonText Utf8Text QueryLog

/-- All fields of an entry; `σ` are the strings. `durationMs` is the text of the number, which there is
none for when it is not finite. -/
structure Entry (σ : Type*) where
  timestamp : σ
  queryID : σ
  target : σ
  command : σ
  queryText : σ
  queryHash : σ
  durationMs : Option Number
  bytesSent : ℕ
  bytesRecv : ℕ
  success : Bool
  error : σ
  clientAddr : σ
  filtered : Bool
  filterReason : σ
  deriving DecidableEq

namespace Entry

def map {σ τ : Type*} (f : σ → τ) (e : Entry σ) : Entry τ where
  timestamp := f e.timestamp
  queryID := f e.queryID
  target := f e.target
  command := f e.command
  queryText := f e.queryText
  queryHash := f e.queryHash
  durationMs := e.durationMs
  bytesSent := e.bytesSent
  bytesRecv := e.bytesRecv
  success := e.success
  error := f e.error
  clientAddr := f e.clientAddr
  filtered := e.filtered
  filterReason := f e.filterReason

/-- A string field with `omitempty`. -/
def omitEmpty (name : String) (s : Bytes) : List (String × Value Bytes) :=
  if s = [] then [] else [(name, .str s)]

/-- A boolean field with `omitempty`. -/
def omitFalse (name : String) (b : Bool) : List (String × Value Bytes) :=
  if b then [(name, .bool true)] else []

/-- The fields of an entry under the names of their tags. -/
def fields (e : Entry Bytes) (durationMs : Number) : List (String × Value Bytes) :=
  [("ts", .str e.timestamp), ("query_id", .str e.queryID), ("target", .str e.target),
    ("command", .str e.command)] ++
  omitEmpty "query_text" e.queryText ++ omitEmpty "query_hash" e.queryHash ++
  [("duration_ms", .num durationMs), ("bytes_sent", .num (.ofNat e.bytesSent)),
    ("bytes_recv", .num (.ofNat e.bytesRecv)), ("success", .bool e.success)] ++
  omitEmpty "error" e.error ++ omitEmpty "client_addr" e.clientAddr ++
  omitFalse "filtered" e.filtered ++ omitEmpty "filter_reason" e.filterReason

/-- The object of `json.Marshal`, which fails for a number that is not finite. -/
def marshal (e : Entry Bytes) : Option (List (Member Bytes)) :=
  e.durationMs.map fun durationMs => (e.fields durationMs).map fun (name, value) => (name.toList, value)

def encodable {σ : Type*} (e : Entry σ) : Bool := e.durationMs.isSome

end Entry

section Fill

/-- What an entry takes from the clock and the connection. -/
structure Stamp where
  timestamp : Bytes
  durationMs : Number
  clientAddr : Bytes
  deriving DecidableEq

/-- The texts of request ids, hashes and errors. -/
structure Texts where
  uuid : ℕ → List Char
  md5Hex : Bytes → Bytes
  errorText : Err → Bytes
  uuid_injective : Function.Injective uuid

def targetLabel : Target → String
  | .primary => "primary"
  | .shadow => "shadow"

def reasonLabel : FilterReason → String
  | .none => ""
  | .sqlOperation => "sql_operation"
  | .pattern => "pattern"
  | .sampling => "sampling"
  | .stickyStmt => "sticky_stmt"

variable (texts : Texts)

def errorString : Option Err → Bytes
  | none => []
  | some err => texts.errorText err

/-- The entry with its times. One that was filtered out has none. -/
def fill (e : QueryLogEntry × Stamp) : Entry Bytes where
  timestamp := e.2.timestamp
  queryID := encode (texts.uuid e.1.queryID)
  target := encode (targetLabel e.1.target).toList
  command := encode e.1.command.toList
  queryText := e.1.queryText
  queryHash := if e.1.queryText = [] then [] else texts.md5Hex e.1.queryText
  durationMs := some (if e.1.filtered then .ofNat 0 else e.2.durationMs)
  bytesSent := e.1.bytesSent
  bytesRecv := e.1.bytesRecv
  success := e.1.error.isNone
  error := errorString texts e.1.error
  clientAddr := e.2.clientAddr
  filtered := e.1.filtered
  filterReason := encode (reasonLabel e.1.filterReason).toList

@[simp] lemma fill_encodable (e : QueryLogEntry × Stamp) : (fill texts e).encodable = true := rfl

end Fill

/-- The buffer that `flush` fills: entries that cannot be encoded are skipped. -/
def jsonl (batch : List (Entry Bytes)) : Bytes := writeLines (batch.filterMap Entry.marshal)

section Reader

def asString : Option (Value (List Char)) → Option (List Char)
  | some (.str s) => some s
  | _ => none

def asStringD : Option (Value (List Char)) → Option (List Char)
  | none => some []
  | some (.str s) => some s
  | _ => none

def asBool : Option (Value (List Char)) → Option Bool
  | some (.bool b) => some b
  | _ => none

def asBoolD : Option (Value (List Char)) → Option Bool
  | none => some false
  | some (.bool b) => some b
  | _ => none

def asNumber : Option (Value (List Char)) → Option Number
  | some (.num n) => some n
  | _ => none

/-- The row that a reader of the log makes of an object. -/
def readEntry (ms : List (Member (List Char))) : Option (Entry (List Char)) := do
  let timestamp ← asString (ms.lookup "ts".toList)
  let queryID ← asString (ms.lookup "query_id".toList)
  let target ← asString (ms.lookup "target".toList)
  let command ← asString (ms.lookup "command".toList)
  let queryText ← asStringD (ms.lookup "query_text".toList)
  let queryHash ← asStringD (ms.lookup "query_hash".toList)
  let durationMs ← asNumber (ms.lookup "duration_ms".toList)
  let bytesSent ← asNumber (ms.lookup "bytes_sent".toList)
  let bytesRecv ← asNumber (ms.lookup "bytes_recv".toList)
  let success ← asBool (ms.lookup "success".toList)
  let error ← asStringD (ms.lookup "error".toList)
  let clientAddr ← asStringD (ms.lookup "client_addr".toList)
  let filtered ← asBoolD (ms.lookup "filtered".toList)
  let filterReason ← asStringD (ms.lookup "filter_reason".toList)
  some ⟨timestamp, queryID, target, command, queryText, queryHash, some durationMs,
    decimalValue bytesSent.text, decimalValue bytesRecv.text, success, error, clientAddr, filtered,
    filterReason⟩

def readLog (bs : Bytes) : Option (List (Entry (List Char))) := do
  let objects ← readLines bs
  objects.mapM readEntry

end Reader

section Fields
variable {key name : String} {s : Bytes}

/-- What the reader finds under `key` in a part of the fields. -/
def found (key : String) (fields : List (String × Value Bytes)) : Option (Value (List Char)) :=
  (fields.lookup key).map (Value.map text)

lemma lookup_members (key : String) (fields : List (String × Value Bytes)) :
    ((fields.map fun (name, value) => (name.toList, value)).map (Member.map text)).lookup key.toList =
      found key fields := by
  induction fields with
  | nil => rfl
  | cons f fields ih =>
    obtain ⟨name, value⟩ := f
    by_cases h : key = name
    · subst h
      simp [found, Member.map]
    · have hne : key.toList ≠ name.toList := fun heq => h (String.toList_injective heq)
      simpa [found, Member.map, List.lookup_cons, h, hne, beq_eq_false_iff_ne.mpr h,
        beq_eq_false_iff_ne.mpr hne] using ih

@[simp] lemma found_append (fields more : List (String × Value Bytes)) :
    found key (fields ++ more) = (found key fields).or (found key more) := by
  simp [found, List.lookup_append, Option.map_or]

@[simp] lemma found_cons (value : Value Bytes) (more : List (String × Value Bytes)) :
    found key ((name, value) :: more) = if key = name then some (value.map text) else found key more := by
  by_cases h : key = name
  · simp [found, h]
  · simp [found, List.lookup_cons, h, beq_eq_false_iff_ne.mpr h]

@[simp] lemma found_nil : found key [] = none := rfl

@[simp] lemma found_omitEmpty :
    found key (Entry.omitEmpty name s) = if key = name ∧ s ≠ [] then some (.str (text s)) else none := by
  unfold Entry.omitEmpty
  split_ifs <;> simp_all [Value.map]

@[simp] lemma found_omitFalse {b : Bool} :
    found key (Entry.omitFalse name b) = if key = name ∧ b = true then some (.bool true) else none := by
  unfold Entry.omitFalse
  split_ifs <;> simp_all [Value.map]

@[simp] lemma asStringD_ite : asStringD (if s = [] then none else some (.str (text s))) = some (text s) := by
  split_ifs with h
  · rw [h]
    rfl
  · rfl

@[simp] lemma asBoolD_ite {b : Bool} : asBoolD (if b = true then some (.bool true) else none) = some b := by
  cases b <;> rfl

end Fields

lemma readEntry_marshal {e : Entry Bytes} {ms : List (Member Bytes)} (h : e.marshal = some ms) :
    readEntry (ms.map (Member.map text)) = some (e.map text) := by
  obtain ⟨d, hd, rfl⟩ := Option.map_eq_some_iff.mp h
  simp only [readEntry, lookup_members, Entry.fields]
  simp [Value.map, asString, asNumber, asBool, Entry.map, hd]

lemma readLog_jsonl (batch : List (Entry Bytes)) :
    readLog (jsonl batch) = some ((batch.filter Entry.encodable).map (Entry.map text)) := by
  rw [readLog, jsonl, readLines_writeLines]
  simp only [Option.bind_eq_bind, Option.bind_some]
  induction batch with
  | nil => rfl
  | cons e batch ih =>
    cases hm : e.marshal with
    | none =>
      have hd : e.durationMs = none := Option.map_eq_none_iff.mp hm
      simpa [hm, Entry.encodable, hd] using ih
    | some ms =>
      have hd : e.encodable = true := by
        obtain ⟨d, hd, -⟩ := Option.map_eq_some_iff.mp hm
        simp [Entry.encodable, hd]
      rw [List.filterMap_cons_some hm, List.map_cons, List.mapM_cons, ih, readEntry_marshal hm,
        List.filter_cons_of_pos hd]
      rfl

/-- Whatever bytes the strings of the entries hold, the file has one row for each entry that can be
encoded, in their order and with its fields; of a string only the bytes that belong to no character of
UTF-8 are lost. Entries in UTF-8 are read back as they are. -/
theorem log_file_rows (batch : List (Entry Bytes)) :
    readLog (jsonl batch) = some ((batch.filter Entry.encodable).map (Entry.map text)) ∧
      ∀ rows : List (Entry (List Char)), batch = rows.map (Entry.map encode) →
        readLog (jsonl batch) = some (rows.filter Entry.encodable) := by
  refine ⟨readLog_jsonl batch, ?_⟩
  rintro rows rfl
  rw [readLog_jsonl, List.filter_map, List.map_map]
  have hid : (Entry.map text ∘ Entry.map encode : Entry (List Char) → Entry (List Char)) = id := by
    funext e
    simp [Entry.map]
  rw [hid, List.map_id]
  rfl

end ShadowProxy.LogFormat
