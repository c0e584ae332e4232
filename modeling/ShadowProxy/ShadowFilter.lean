import ShadowProxy.Utf8Text

/-! The filter that decides which queries go to the shadow: by the SQL operation of the query
text and by patterns on it. Query texts are byte strings. -/
namespace ShadowProxy.ShadowFilter
open WordBytes Utf8Text

def ascii (s : String) : Bytes := s.toList.map fun c => UInt8.ofNat c.toNat

def backslash : UInt8 := 0x5C
def singleQuote : UInt8 := 0x27
def doubleQuote : UInt8 := 0x22
def backtick : UInt8 := 0x60
def semicolon : UInt8 := 0x3B
def newline : UInt8 := 0x0A
def openParen : UInt8 := 0x28
def space : UInt8 := 0x20

/-- `strings.Index`. -/
def indexOf (pat : Bytes) : Bytes → Option ℕ
  | [] => if pat = [] then some 0 else none
  | b :: s => if pat.isPrefixOf (b :: s) then some 0 else (indexOf pat s).map (· + 1)

/-- The UTF-8 encodings of the characters `unicode.IsSpace` accepts. -/
def spaceEncodings : List Bytes :=
  [[0x09], [0x0A], [0x0B], [0x0C], [0x0D], [0x20], [0xC2, 0x85], [0xC2, 0xA0], [0xE1, 0x9A, 0x80]] ++
    ((List.range 11).map fun i => [0xE2, 0x80, UInt8.ofNat (0x80 + i)]) ++
    [[0xE2, 0x80, 0xA8], [0xE2, 0x80, 0xA9], [0xE2, 0x80, 0xAF], [0xE2, 0x81, 0x9F],
      [0xE3, 0x80, 0x80]]

/-- Drop elements of `seps` from the front of `s`, at most `fuel` of them. -/
def dropFront (seps : List Bytes) : ℕ → Bytes → Bytes
  | 0, s => s
  | fuel + 1, s =>
    match seps.find? (·.isPrefixOf s) with
    | none => s
    | some sep => dropFront seps fuel (s.drop sep.length)

/-- `strings.TrimSpace`. -/
def trimSpace (s : Bytes) : Bytes :=
  let left := dropFront spaceEncodings s.length s
  (dropFront (spaceEncodings.map List.reverse) left.length left.reverse).reverse

/-- Where the scan of `splitStatements` stands. -/
structure SplitState where
  inSingleQuote : Bool
  inDoubleQuote : Bool
  inBacktick : Bool
  escaped : Bool
  current : Bytes
  statements : List Bytes

def SplitState.start : SplitState := ⟨false, false, false, false, [], []⟩

def SplitState.put (s : SplitState) (c : UInt8) : SplitState :=
  { s with current := s.current ++ [c] }

/-- Close the current statement, if there is anything in it. -/
def SplitState.flush (s : SplitState) : SplitState :=
  let stmt := trimSpace s.current
  { s with current := [], statements := if stmt = [] then s.statements else s.statements ++ [stmt] }

def splitStep (s : SplitState) (c : UInt8) : SplitState :=
  if s.escaped then { s.put c with escaped := false }
  else if c = backslash then { s.put c with escaped := true }
  else if c = singleQuote ∧ ¬ s.inDoubleQuote ∧ ¬ s.inBacktick then
    { s.put c with inSingleQuote := !s.inSingleQuote }
  else if c = doubleQuote ∧ ¬ s.inSingleQuote ∧ ¬ s.inBacktick then
    { s.put c with inDoubleQuote := !s.inDoubleQuote }
  else if c = backtick ∧ ¬ s.inSingleQuote ∧ ¬ s.inDoubleQuote then
    { s.put c with inBacktick := !s.inBacktick }
  else if c = semicolon ∧ ¬ s.inSingleQuote ∧ ¬ s.inDoubleQuote ∧ ¬ s.inBacktick then s.flush
  else s.put c

def splitStatements (query : Bytes) : List Bytes :=
  (query.foldl splitStep SplitState.start).flush.statements

def stripLeadingCommentsLoop : ℕ → Bytes → Bytes
  | 0, s => s
  | fuel + 1, s =>
    let s := trimSpace s
    if s = [] then []
    else if (ascii "--").isPrefixOf s then
      match s.idxOf? newline with
      | some idx => stripLeadingCommentsLoop fuel (s.drop (idx + 1))
      | none => []
    else if (ascii "/*").isPrefixOf s then
      match indexOf (ascii "*/") s with
      | some idx => stripLeadingCommentsLoop fuel (s.drop (idx + 2))
      | none => []
    else s

def stripLeadingComments (s : Bytes) : Bytes := stripLeadingCommentsLoop (s.length + 1) s

/-- Replace the first closed block comment by a blank, again and again. -/
def stripAllBlockCommentsLoop : ℕ → Bytes → Bytes
  | 0, s => s
  | fuel + 1, s =>
    match indexOf (ascii "/*") s with
    | none => s
    | some start =>
      match indexOf (ascii "*/") (s.drop (start + 2)) with
      | none => s
      | some stop => stripAllBlockCommentsLoop fuel (s.take start ++ space :: s.drop (start + 2 + stop + 2))

def stripAllBlockComments (s : Bytes) : Bytes := stripAllBlockCommentsLoop (s.length + 1) s

def isBlank (c : UInt8) : Bool := c = space ∨ c = 0x09 ∨ c = newline ∨ c = 0x0D

/-- The first words of `s`, at most `maxWords`, up to a parenthesis, and what follows them. -/
def firstWords : ℕ → Bytes → List Bytes × Bytes
  | 0, s => ([], s)
  | n + 1, s =>
    let rest := s.dropWhile isBlank
    match rest with
    | [] => ([], [])
    | c :: _ =>
      if c = openParen then ([], rest)
      else
        let word := rest.takeWhile fun b => !isBlank b && b ≠ openParen
        let (words, tail) := firstWords n (rest.drop word.length)
        (word :: words, tail)

def normalizeWhitespacePrefix (s : Bytes) (maxWords : ℕ) : Bytes :=
  let (words, rest) := firstWords maxWords s
  List.intercalate [space] words ++ rest

def multiWordOps : List (Bytes × Bytes) :=
  [("SUBMIT TASK", "SUBMIT_TASK"), ("INSERT OVERWRITE", "INSERT_OVERWRITE"),
    ("REFRESH MATERIALIZED VIEW", "REFRESH_MATERIALIZED_VIEW"),
    ("CREATE MATERIALIZED VIEW", "CREATE_MATERIALIZED_VIEW"),
    ("DROP MATERIALIZED VIEW", "DROP_MATERIALIZED_VIEW"),
    ("ALTER MATERIALIZED VIEW", "ALTER_MATERIALIZED_VIEW"), ("CANCEL LOAD", "CANCEL_LOAD"),
    ("SHOW LOAD", "SHOW_LOAD"), ("BROKER LOAD", "BROKER_LOAD"), ("ROUTINE LOAD", "ROUTINE_LOAD"),
    ("ADMIN SET", "ADMIN_SET"), ("ADMIN SHOW", "ADMIN_SHOW"), ("ADMIN CHECK", "ADMIN_CHECK"),
    ("ADMIN REPAIR", "ADMIN_REPAIR"), ("SET CATALOG", "SET_CATALOG"), ("INSERT INTO", "INSERT"),
    ("CREATE TABLE", "CREATE_TABLE"), ("CREATE EXTERNAL TABLE", "CREATE_TABLE"),
    ("CREATE VIEW", "CREATE_VIEW"), ("CREATE DATABASE", "CREATE_DATABASE"),
    ("CREATE INDEX", "CREATE_INDEX"), ("ALTER TABLE", "ALTER_TABLE"),
    ("ALTER DATABASE", "ALTER_DATABASE"), ("DROP TABLE", "DROP_TABLE"), ("DROP VIEW", "DROP_VIEW"),
    ("DROP DATABASE", "DROP_DATABASE"), ("DROP INDEX", "DROP_INDEX"),
    ("TRUNCATE TABLE", "TRUNCATE"), ("ANALYZE TABLE", "ANALYZE"), ("SHOW TABLES", "SHOW"),
    ("SHOW DATABASES", "SHOW"), ("SHOW CREATE", "SHOW"), ("SHOW COLUMNS", "SHOW"),
    ("SHOW PROCESSLIST", "SHOW")].map fun op => (ascii op.1, ascii op.2)

def asciiUpper (c : UInt8) : UInt8 := if 0x61 ≤ c ∧ c ≤ 0x7A then c - 0x20 else c

/-- `unicode.ToUpper` with its table for the characters beyond ASCII. -/
def unicodeToUpper (table : Char → Char) (c : Char) : Char := if c.toNat < 0x80 then c.toUpper else table c

/-- `strings.ToUpper`, with a loop of its own for plain ASCII. -/
def upperText (table : Char → Char) (s : Bytes) : Bytes :=
  if s.all (· < 0x80) then s.map asciiUpper else mapChars (unicodeToUpper table) s

inductive FilterMode
  | includeMode
  | excludeMode
  deriving DecidableEq, Repr

/-- The compiled patterns are given by what they match. -/
structure QueryFilter where
  mode : FilterMode
  sqlOperations : List Bytes
  patterns : List (Bytes → Bool)
  unicodeUpper : Char → Char

section Operations
variable (f : QueryFilter)

def toUpper (s : Bytes) : Bytes := upperText f.unicodeUpper s

/-- A listed operation that `normalized` starts with, up to a word boundary. -/
def matchesOperation (normalized : Bytes) (op : Bytes × Bytes) : Bool :=
  op.1.isPrefixOf normalized ∧ (normalized.length = op.1.length ∨
    normalized[op.1.length]? = some space ∨ normalized[op.1.length]? = some openParen)

def extractStatementOperation (stmt : Bytes) : Bytes :=
  let s := trimSpace (stripLeadingComments stmt)
  if s = [] then []
  else
    let normalized := normalizeWhitespacePrefix (toUpper f (stripAllBlockComments s)) 4
    match multiWordOps.find? (matchesOperation normalized) with
    | some op => op.2
    | none =>
      match normalized.findIdx? fun b => b = space ∨ b = openParen with
      | some idx => if 0 < idx then normalized.take idx else normalized
      | none => normalized

def preambleOperations : List Bytes := [ascii "SET", ascii "SET_CATALOG", ascii "USE"]

/-- The last operation that is not session set-up; else the last operation at all. -/
def extractPrimarySQLOperation (queryText : Bytes) : Bytes :=
  let operations := ((splitStatements queryText).map (extractStatementOperation f)).reverse
  match operations.find? fun op => op ≠ [] ∧ op ∉ preambleOperations with
  | some op => op
  | none => (operations.find? (· ≠ [])).getD (ascii "UNKNOWN")

end Operations

inductive FilterReason
  | none
  | sqlOperation
  | pattern
  | sampling
  | stickyStmt
  deriving DecidableEq, Repr

namespace QueryFilter
variable (f : QueryFilter)

def matchAnyPattern (queryText : Bytes) : Bool := f.patterns.any fun re => re queryText

def matchInclude (queryText : Bytes) : Bool × FilterReason :=
  if f.sqlOperations ≠ [] ∧ extractPrimarySQLOperation f queryText ∉ f.sqlOperations then
    (false, .sqlOperation)
  else if f.patterns ≠ [] ∧ ¬ f.matchAnyPattern queryText then (false, .pattern)
  else (true, .none)

def matchExclude (queryText : Bytes) : Bool × FilterReason :=
  if f.sqlOperations ≠ [] ∧ extractPrimarySQLOperation f queryText ∈ f.sqlOperations then
    (false, .sqlOperation)
  else if f.patterns ≠ [] ∧ f.matchAnyPattern queryText then (false, .pattern)
  else (true, .none)

def passesFilter (queryText : Bytes) : Bool × FilterReason :=
  match f.mode with
  | .includeMode => f.matchInclude queryText
  | .excludeMode => f.matchExclude queryText

def allowDeterministic (queryText : Bytes) : Bool × FilterReason :=
  if queryText = [] then (true, .none)
  else if (f.passesFilter queryText).1 then (true, .none)
  else (false, (f.passesFilter queryText).2)

/-- As `allowDeterministic`, with the outcome of the sampling roll. -/
def allow (sampledOut : Bool) (queryText : Bytes) : Bool × FilterReason :=
  if queryText = [] then (true, .none)
  else if (f.passesFilter queryText).1 then
    if sampledOut then (false, .sampling) else (true, .none)
  else (false, (f.passesFilter queryText).2)

end QueryFilter

def shouldShadowMirror (queryText : Bytes) (filter : Option QueryFilter) : Bool × FilterReason :=
  match filter with
  | none => (true, .none)
  | some f => f.allowDeterministic queryText

end ShadowProxy.ShadowFilter
