import Mathlib.Data.Rat.Init
import ShadowProxy.NetConn
import ShadowProxy.SqlTrim

/-! The filter of queries for the shadow, from the environment of the process to its decisions. -/
namespace ShadowProxy.FilterConfig
open WordBytes Utf8Text NetConn ShadowFilter SqlTrim

/-- What `os.Getenv` gives, which is empty for a variable that is not set. -/
abbrev Env := String → Bytes

/-- The values of a `float64`. -/
inductive Rate
  | nan
  | negInf
  | num (q : ℚ)
  | posInf
  deriving DecidableEq

namespace Rate

def lt : Rate → Rate → Bool
  | .nan, _ | _, .nan => false
  | .num p, .num q => p < q
  | .negInf, .num _ | .negInf, .posInf | .num _, .posInf => true
  | _, .negInf | .posInf, _ => false

/-- A comparison with NaN fails whichever way it goes. -/
def ge (a b : Rate) : Bool := a ≠ .nan ∧ b ≠ .nan ∧ a.lt b = false

end Rate

/-- What the library makes of texts: `strconv.ParseFloat`, `regexp.Compile`, the tables of
`unicode.ToLower` and `unicode.ToUpper` beyond ASCII, and the verbs `%.4f` and `%q`. -/
structure Runtime where
  parseFloat : Bytes → Option Rate
  compile : Bytes → Except Err (Bytes → Bool)
  unicodeLower : Char → Char
  unicodeUpper : Char → Char
  formatRate : Rate → String
  quote : Bytes → String

def asciiLower (c : UInt8) : UInt8 := if 0x41 ≤ c ∧ c ≤ 0x5A then c + 0x20 else c

def comma : UInt8 := 0x2C

/-- The part of `Config` that the filter is made from. -/
structure Settings where
  mode : Bytes
  sqlOperations : List Bytes
  patterns : List Bytes
  sampleRate : Rate

section Load
variable (rt : Runtime) (env : Env)

def unicodeToLower (c : Char) : Char := if c.toNat < 0x80 then c.toLower else rt.unicodeLower c

def Runtime.toLower (s : Bytes) : Bytes :=
  if s.all (· < 0x80) then s.map asciiLower else mapChars (unicodeToLower rt) s

def Runtime.toUpper (s : Bytes) : Bytes := upperText rt.unicodeUpper s

def getEnv (key : String) (defaultValue : Bytes) : Bytes := if env key ≠ [] then env key else defaultValue

/-- A value that does not parse is as good as none. -/
def getEnvFloat (key : String) (defaultValue : Rate) : Rate :=
  if env key ≠ [] then (rt.parseFloat (env key)).getD defaultValue else defaultValue

def getEnvList (key : String) (defaultValue : List Bytes) : List Bytes :=
  if env key = [] then defaultValue
  else
    let result := (((env key).splitOn comma).map trimSpace).filter (· ≠ [])
    if result = [] then defaultValue else result

/-- What `loadConfig` reads for the filter. -/
def loadConfig : Settings where
  mode := getEnv env "SHADOW_FILTER_MODE" []
  sqlOperations := getEnvList env "SHADOW_FILTER_SQL_OPERATIONS" []
  patterns := getEnvList env "SHADOW_FILTER_PATTERNS" []
  sampleRate := getEnvFloat rt env "SHADOW_SAMPLE_RATE" (.num 1)

end Load

section New
variable (rt : Runtime) (config : Settings)

def compilePatterns : List Bytes → Except Err (List (Bytes → Bool))
  | [] => .ok []
  | p :: ps =>
    let p := trimSpace p
    if p = [] then compilePatterns ps
    else
      match rt.compile p with
      | .error e => .error (.wrap ("invalid SHADOW_FILTER_PATTERN " ++ rt.quote p) e)
      | .ok re =>
        match compilePatterns ps with
        | .error e => .error e
        | .ok res => .ok (re :: res)

/-- The setting of the mode; none is `include`. -/
def filterMode : Except Err FilterMode :=
  let mode := rt.toLower config.mode
  let mode := if mode = [] then ascii "include" else mode
  if mode = ascii "include" then .ok .includeMode
  else if mode = ascii "exclude" then .ok .excludeMode
  else .error (.errorf ("invalid SHADOW_FILTER_MODE " ++ rt.quote config.mode ++
    ": must be 'include' or 'exclude'"))

/-- Nothing is filtered without a filter. The rate is kept beside the filter, which the sampling alone
needs. -/
def newQueryFilter : Except Err (Option (QueryFilter × Rate)) :=
  if config.mode = [] ∧ config.sqlOperations = [] ∧ config.patterns = [] ∧
      config.sampleRate.lt (.num 1) = false then .ok none
  else if config.sampleRate.lt (.num 0) ∨ Rate.lt (.num 1) config.sampleRate then
    .error (.errorf ("invalid SHADOW_SAMPLE_RATE " ++ rt.formatRate config.sampleRate ++
      ": must be between 0.0 and 1.0"))
  else
    match filterMode rt config with
    | .error e => .error e
    | .ok mode =>
      let sqlOperations := ((config.sqlOperations.map trimSpace).filter (· ≠ [])).map rt.toUpper
      match compilePatterns rt config.patterns with
      | .error e => .error e
      | .ok patterns => .ok (some (⟨mode, sqlOperations, patterns, rt.unicodeUpper⟩, config.sampleRate))

end New

/-- The roll of `Allow` for a query that has passed the rest of the filter. -/
def sampledOut (rate : Rate) (roll : ℚ) : Bool := rate.lt (.num 1) && (Rate.num roll).ge rate

/-- An entry that a list in the environment can have. -/
structure Item (s : Bytes) : Prop where
  ne_nil : s ≠ []
  trimmed : trimSpace s = s
  comma_notMem : comma ∉ s

section Items
variable {env : Env} {key : String} {items : List Bytes}

lemma mem_of_mem_trimSpace {b : UInt8} {s : Bytes} (h : b ∈ trimSpace s) : b ∈ s := by
  rw [trimSpace_eq] at h
  obtain ⟨r, r', -, -, hs, -⟩ := spaces_code.exists_trim s
  rw [hs]
  simp [h]

lemma trimSpace_idem (s : Bytes) : trimSpace (trimSpace s) = trimSpace s := by
  simp only [trimSpace_eq, spaces_code.trim_idem]

lemma comma_notMem_splitOn (s : Bytes) : ∀ part ∈ s.splitOn comma, comma ∉ part := by
  induction hn : s.length using Nat.strong_induction_on generalizing s with
  | _ n ih =>
    by_cases hc : comma ∈ s
    · obtain ⟨xs, ys, rfl, hxs⟩ := List.eq_append_cons_of_mem hc
      have hlt : ys.length < n := by simp only [List.length_append, List.length_cons] at hn; omega
      rw [List.splitOn_append_cons_self, List.splitOn_eq_singleton hxs]
      simpa using ⟨hxs, ih ys.length hlt ys rfl⟩
    · rw [List.splitOn_eq_singleton hc]
      simpa using hc

lemma getEnvList_items (env : Env) (key : String) : ∀ s ∈ getEnvList env key [], Item s := by
  intro s hs
  have hs' : s ∈ (((env key).splitOn comma).map trimSpace).filter (· ≠ []) := by
    unfold getEnvList at hs
    dsimp only at hs
    split_ifs at hs
    · exact absurd hs List.not_mem_nil
    · exact absurd hs List.not_mem_nil
    · exact hs
  obtain ⟨hmem, hne⟩ := List.mem_filter.mp hs'
  obtain ⟨part, hpart, rfl⟩ := List.mem_map.mp hmem
  exact ⟨by simpa using hne, trimSpace_idem part,
    fun hc => comma_notMem_splitOn _ part hpart (mem_of_mem_trimSpace hc)⟩

lemma getEnvList_intercalate (hitems : ∀ s ∈ items, Item s) (henv : env key = [comma].intercalate items) :
    getEnvList env key [] = items := by
  cases hi : items with
  | nil => simp [getEnvList, henv, hi]
  | cons s ss =>
    rw [← hi]
    have hne : items ≠ [] := by simp [hi]
    have hset : env key ≠ [] := by
      have hs := (hitems s (by simp [hi])).ne_nil
      rw [henv, hi]
      cases ss <;> simp [List.intercalate, hs]
    have hsplit : (env key).splitOn comma = items := by
      rw [henv, List.splitOn_intercalate comma (fun s hs => (hitems s hs).comma_notMem) hne]
    have htrim : items.map trimSpace = items :=
      (List.map_congr_left fun s hs => (hitems s hs).trimmed).trans (List.map_id' items)
    have hkeep : items.filter (· ≠ []) = items :=
      List.filter_eq_self.mpr fun s hs => by simpa using (hitems s hs).ne_nil
    simp only [getEnvList, hset, hsplit, htrim, hkeep, hne, if_false]

end Items

section Loadable
variable {rt : Runtime}

/-- The environment in which the settings are the given ones. -/
def environment (config : Settings) (rate : Bytes) : Env := fun key =>
  if key = "SHADOW_FILTER_MODE" then config.mode
  else if key = "SHADOW_FILTER_SQL_OPERATIONS" then [comma].intercalate config.sqlOperations
  else if key = "SHADOW_FILTER_PATTERNS" then [comma].intercalate config.patterns
  else if key = "SHADOW_SAMPLE_RATE" then rate
  else []

lemma environment_lists (config : Settings) (rate : Bytes) :
    environment config rate "SHADOW_FILTER_SQL_OPERATIONS" = [comma].intercalate config.sqlOperations ∧
      environment config rate "SHADOW_FILTER_PATTERNS" = [comma].intercalate config.patterns := by
  simp [environment]

lemma environment_rate (config : Settings) (rate : Bytes) :
    environment config rate "SHADOW_SAMPLE_RATE" = rate := by
  simp [environment]

lemma getEnv_nil (env : Env) (key : String) : getEnv env key [] = env key := by
  unfold getEnv
  split_ifs with h
  · rfl
  · exact (not_not.mp h).symm

lemma loadConfig_environment {config : Settings} (hops : ∀ op ∈ config.sqlOperations, Item op)
    (hpatterns : ∀ p ∈ config.patterns, Item p) {rate : Bytes}
    (hrate : (if rate ≠ [] then (rt.parseFloat rate).getD (.num 1) else .num 1) = config.sampleRate) :
    loadConfig rt (environment config rate) = config := by
  obtain ⟨hops', hpatterns'⟩ := environment_lists config rate
  have hmode : getEnv (environment config rate) "SHADOW_FILTER_MODE" [] = config.mode := by
    rw [getEnv_nil, environment, if_pos rfl]
  have hrate' : getEnvFloat rt (environment config rate) "SHADOW_SAMPLE_RATE" (.num 1) = config.sampleRate := by
    simpa only [getEnvFloat, environment_rate] using hrate
  simp only [loadConfig, hmode, hrate', getEnvList_intercalate hops hops',
    getEnvList_intercalate hpatterns hpatterns']

end Loadable

section Wants
variable (rt : Runtime) (config : Settings)

def Settings.Lists (op : Bytes) : Prop := ∃ o ∈ config.sqlOperations, rt.toUpper o = op

def Settings.Matches (text : Bytes) : Prop := ∃ p ∈ config.patterns, ∃ re, rt.compile p = .ok re ∧ re text = true

/-- What the settings ask for: the operation and the text of a query that the shadow is to have. -/
def Settings.Wants (op text : Bytes) : FilterMode → Prop
  | .includeMode => (config.sqlOperations = [] ∨ config.Lists rt op) ∧
      (config.patterns = [] ∨ config.Matches rt text)
  | .excludeMode => ¬ config.Lists rt op ∧ ¬ config.Matches rt text

end Wants

lemma matchInclude_iff (f : QueryFilter) (text : Bytes) :
    (f.matchInclude text).1 = true ↔
      (f.sqlOperations = [] ∨ extractPrimarySQLOperation f text ∈ f.sqlOperations) ∧
        (f.patterns = [] ∨ f.matchAnyPattern text = true) := by
  unfold QueryFilter.matchInclude
  split_ifs with hop hpattern
  · exact iff_of_false id fun h => by tauto
  · exact iff_of_false id fun h => by tauto
  · exact iff_of_true rfl ⟨by tauto, by tauto⟩

lemma matchExclude_iff (f : QueryFilter) (text : Bytes) :
    (f.matchExclude text).1 = true ↔
      extractPrimarySQLOperation f text ∉ f.sqlOperations ∧ ¬ f.matchAnyPattern text = true := by
  have hops : extractPrimarySQLOperation f text ∈ f.sqlOperations → f.sqlOperations ≠ [] :=
    List.ne_nil_of_mem
  have hpatterns : f.matchAnyPattern text = true → f.patterns ≠ [] := by
    rintro hm hnil
    simp [QueryFilter.matchAnyPattern, hnil] at hm
  unfold QueryFilter.matchExclude
  split_ifs with hop hpattern
  · exact iff_of_false id fun h => h.1 hop.2
  · exact iff_of_false id fun h => h.2 hpattern.2
  · exact iff_of_true rfl ⟨by tauto, by tauto⟩

section Built
variable {rt : Runtime} {config : Settings} {f : QueryFilter} {rate : Rate}

lemma compilePatterns_ok {ps : List Bytes} {res : List (Bytes → Bool)} (hps : ∀ p ∈ ps, Item p)
    (h : compilePatterns rt ps = .ok res) : ps.map rt.compile = res.map .ok := by
  induction ps generalizing res with
  | nil =>
    obtain rfl : [] = res := by simpa [compilePatterns] using h
    rfl
  | cons p ps ih =>
    have hp := hps p List.mem_cons_self
    simp only [compilePatterns, hp.trimmed, hp.ne_nil, if_false] at h
    rcases hc : rt.compile p with e | re
    · simp [hc] at h
    · rcases hr : compilePatterns rt ps with e | res'
      · simp [hc, hr] at h
      · obtain rfl : re :: res' = res := by simpa [hc, hr] using h
        simp [hc, ih (fun q hq => hps q (List.mem_cons_of_mem _ hq)) hr]

lemma newQueryFilter_ok (h : newQueryFilter rt config = .ok (some (f, rate))) :
    filterMode rt config = .ok f.mode ∧
      f.sqlOperations = ((config.sqlOperations.map trimSpace).filter (· ≠ [])).map rt.toUpper ∧
      compilePatterns rt config.patterns = .ok f.patterns ∧ rate = config.sampleRate := by
  unfold newQueryFilter at h
  split_ifs at h
  · simp at h
  · rcases hm : filterMode rt config with e | mode
    · simp [hm] at h
    · rcases hc : compilePatterns rt config.patterns with e | patterns
      · simp [hm, hc] at h
      · simp only [hm, hc, Except.ok.injEq, Option.some.injEq, Prod.mk.injEq] at h
        obtain ⟨rfl, rfl⟩ := h
        exact ⟨rfl, rfl, rfl, rfl⟩

/-- The filter does what the settings ask for. -/
theorem passesFilter_iff (hops : ∀ op ∈ config.sqlOperations, Item op) (hpatterns : ∀ p ∈ config.patterns, Item p)
    (h : newQueryFilter rt config = .ok (some (f, rate))) (text : Bytes) :
    (f.passesFilter text).1 = true ↔
      config.Wants rt (extractPrimarySQLOperation f text) text f.mode := by
  obtain ⟨-, hoperations, hcompiled, -⟩ := newQueryFilter_ok h
  have hkept : (config.sqlOperations.map trimSpace).filter (· ≠ []) = config.sqlOperations := by
    rw [(List.map_congr_left fun s hs => (hops s hs).trimmed).trans (List.map_id' _)]
    exact List.filter_eq_self.mpr fun s hs => by simpa using (hops s hs).ne_nil
  rw [hkept] at hoperations
  have hlists (op : Bytes) : op ∈ f.sqlOperations ↔ config.Lists rt op := by
    rw [hoperations, List.mem_map, Settings.Lists]
  have hnil : f.sqlOperations = [] ↔ config.sqlOperations = [] := by rw [hoperations, List.map_eq_nil_iff]
  have hmap := compilePatterns_ok hpatterns hcompiled
  have hmatches : f.matchAnyPattern text = true ↔ config.Matches rt text := by
    rw [QueryFilter.matchAnyPattern, List.any_eq_true, Settings.Matches]
    constructor
    · rintro ⟨re, hre, hm⟩
      obtain ⟨p, hp, hc⟩ := List.mem_map.mp (hmap ▸ List.mem_map_of_mem hre)
      exact ⟨p, hp, re, hc, hm⟩
    · rintro ⟨p, hp, re, hc, hm⟩
      obtain ⟨re', hre', hc'⟩ := List.mem_map.mp (hmap ▸ List.mem_map_of_mem hp)
      obtain rfl : re' = re := by simpa [hc] using hc'
      exact ⟨re', hre', hm⟩
  have hnone : f.patterns = [] ↔ config.patterns = [] := by
    rw [← List.map_eq_nil_iff (f := rt.compile), hmap, List.map_eq_nil_iff]
  unfold QueryFilter.passesFilter
  cases f.mode with
  | includeMode => rw [matchInclude_iff, hnil, hlists, hnone, hmatches, Settings.Wants]
  | excludeMode => rw [matchExclude_iff, hlists, hmatches, Settings.Wants]

end Built

end ShadowProxy.FilterConfig
