import ShadowProxy.Utf8Text

/-! Flat JSON objects, one a line. What is written are byte strings that need not be UTF-8; what is
read back are characters. -/
namespace ShadowProxy.JsonText
open WordBytes Utf8Text

section Strings

def hexDigit (n : ℕ) : Char := "0123456789abcdef".toList.getD n '?'

def hexValue (c : Char) : Option ℕ :=
  if '0' ≤ c ∧ c ≤ '9' then some (c.toNat - '0'.toNat)
  else if 'a' ≤ c ∧ c ≤ 'f' then some (c.toNat - 'a'.toNat + 10)
  else if 'A' ≤ c ∧ c ≤ 'F' then some (c.toNat - 'A'.toNat + 10)
  else none

/-- Letters that stand for a character behind a backslash. -/
def escapes : List (Char × Char) :=
  [('"', '"'), ('\\', '\\'), ('b', '\x08'), ('f', '\x0c'), ('n', '\n'), ('r', '\r'), ('t', '\t')]

/-- ASCII characters that stand for themselves in a string within a web page. -/
def htmlSafe (c : Char) : Bool := 0x20 ≤ c.toNat && !"\"&<>\\".toList.contains c

/-- A character within a string, as `encoding/json` writes it. -/
def escapeChar (c : Char) : List Char :=
  if c.toNat < 0x80 then
    if htmlSafe c then [c]
    else
      match escapes.find? (·.2 = c) with
      | some e => ['\\', e.1]
      | none => ['\\', 'u', '0', '0', hexDigit (c.toNat / 16), hexDigit (c.toNat % 16)]
  else if c = '\u2028' ∨ c = '\u2029' then ['\\', 'u', '2', '0', '2', hexDigit (c.toNat % 16)]
  else [c]

def escapeRune : Rune → List Char
  | .char c => escapeChar c
  | .bad _ => "\\ufffd".toList

def quote (bs : Bytes) : List Char := '"' :: ((runes bs).flatMap escapeRune ++ ['"'])

def readHex4 : List Char → Option (ℕ × List Char)
  | a :: b :: c :: d :: cs => do
    let a ← hexValue a
    let b ← hexValue b
    let c ← hexValue c
    let d ← hexValue d
    some (((a * 16 + b) * 16 + c) * 16 + d, cs)
  | _ => none

/-- Behind `\u`: a character, or the first of two surrogates. -/
def readUnicode (cs : List Char) : Option (Char × List Char) := do
  let (u, cs) ← readHex4 cs
  if u < 0xD800 ∨ 0xE000 ≤ u then some (Char.ofNat u, cs)
  else if u < 0xDC00 then
    match cs with
    | '\\' :: 'u' :: cs => do
      let (v, cs) ← readHex4 cs
      if 0xDC00 ≤ v ∧ v < 0xE000 then
        some (Char.ofNat (0x10000 + (u - 0xD800) * 0x400 + (v - 0xDC00)), cs)
      else none
    | _ => none
  else none

def readEscape : List Char → Option (Char × List Char)
  | [] => none
  | c :: cs =>
    match (('/', '/') :: escapes).lookup c with
    | some e => some (e, cs)
    | none => if c = 'u' then readUnicode cs else none

/-- The characters of a string up to the quotation mark at its end. -/
def readChars : ℕ → List Char → Option (List Char × List Char)
  | 0, _ | _ + 1, [] => none
  | fuel + 1, c :: cs =>
    if c = '"' then some ([], cs)
    else if c = '\\' then do
      let (e, cs) ← readEscape cs
      let (more, cs) ← readChars fuel cs
      some (e :: more, cs)
    else if c.toNat < 0x20 then none
    else do
      let (more, cs) ← readChars fuel cs
      some (c :: more, cs)

def readString : List Char → Option (List Char × List Char)
  | '"' :: cs => readChars cs.length cs
  | _ => none

lemma hexValue_hexDigit : ∀ n < 16, hexValue (hexDigit n) = some n := by decide

lemma readHex4_hexDigits {a b c d : ℕ} (ha : a < 16) (hb : b < 16) (hc : c < 16) (hd : d < 16)
    (cs : List Char) :
    readHex4 (hexDigit a :: hexDigit b :: hexDigit c :: hexDigit d :: cs) =
      some (((a * 16 + b) * 16 + c) * 16 + d, cs) := by
  simp [readHex4, hexValue_hexDigit, ha, hb, hc, hd]

lemma readEscape_unicode {u : ℕ} (hu : u < 0xD800) (cs : List Char) {d : List Char}
    (hd : readHex4 (d ++ cs) = some (u, cs)) :
    readEscape ('u' :: (d ++ cs)) = some (Char.ofNat u, cs) := by
  simp [readEscape, readUnicode, escapes, hd, hu, List.lookup]

lemma escapeChar_cases (c : Char) :
    (escapeChar c = [c] ∧ c ≠ '"' ∧ c ≠ '\\' ∧ 0x20 ≤ c.toNat) ∨
      ∃ e, escapeChar c = '\\' :: e ∧ ∀ cs, readEscape (e ++ cs) = some (c, cs) := by
  unfold escapeChar
  split_ifs with hascii hsafe hline
  · left
    simp only [htmlSafe, Bool.and_eq_true, decide_eq_true_eq, Bool.not_eq_true'] at hsafe
    refine ⟨rfl, ?_, ?_, hsafe.1⟩ <;> rintro rfl <;> simp at hsafe
  · right
    cases hf : escapes.find? (·.2 = c) with
    | none =>
      refine ⟨_, rfl, fun cs => ?_⟩
      have hread := readHex4_hexDigits (a := 0) (b := 0) (by decide) (by decide)
        (Nat.div_lt_of_lt_mul (by omega : c.toNat < 16 * 16)) (Nat.mod_lt c.toNat (by decide)) cs
      have hval : ((0 * 16 + 0) * 16 + c.toNat / 16) * 16 + c.toNat % 16 = c.toNat := by omega
      rw [hval] at hread
      simpa using readEscape_unicode
        (d := ['0', '0', hexDigit (c.toNat / 16), hexDigit (c.toNat % 16)]) (by omega) cs hread
    | some e =>
      refine ⟨[e.1], rfl, fun cs => ?_⟩
      have hmem := List.mem_of_find?_eq_some hf
      have hc : e.2 = c := by simpa using List.find?_some hf
      subst hc
      simp only [escapes, List.mem_cons, List.not_mem_nil, or_false] at hmem
      rcases hmem with rfl | rfl | rfl | rfl | rfl | rfl | rfl <;> rfl
  · right
    rcases hline with rfl | rfl
    · exact ⟨_, rfl, fun cs => rfl⟩
    · exact ⟨_, rfl, fun cs => rfl⟩
  · left
    refine ⟨rfl, ?_, ?_, by omega⟩ <;> rintro rfl <;> simp at hascii

lemma escapeRune_cases (r : Rune) :
    (escapeRune r = [r.replaced] ∧ r.replaced ≠ '"' ∧ r.replaced ≠ '\\' ∧ 0x20 ≤ r.replaced.toNat) ∨
      ∃ e, escapeRune r = '\\' :: e ∧ ∀ cs, readEscape (e ++ cs) = some (r.replaced, cs) := by
  cases r with
  | char c => exact escapeChar_cases c
  | bad b => exact .inr ⟨_, rfl, fun cs => rfl⟩

lemma readChars_escapeRune (r : Rune) (fuel : ℕ) (cs : List Char) :
    readChars (fuel + 1) (escapeRune r ++ cs) =
      (readChars fuel cs).map fun p => (r.replaced :: p.1, p.2) := by
  rcases escapeRune_cases r with ⟨heq, hquote, hslash, hspace⟩ | ⟨e, heq, hread⟩
  · have hnot : ¬ r.replaced.toNat < 0x20 := by omega
    rw [heq, List.singleton_append, readChars, if_neg hquote, if_neg hslash, if_neg hnot]
    cases readChars fuel cs <;> rfl
  · rw [heq, List.cons_append, readChars, if_neg (by decide), if_pos rfl, hread]
    cases hc : readChars fuel cs <;> simp [hc]

lemma readChars_escape (rs : List Rune) {fuel : ℕ} (hfuel : rs.length < fuel) (cs : List Char) :
    readChars fuel (rs.flatMap escapeRune ++ '"' :: cs) = some (rs.map Rune.replaced, cs) := by
  induction rs generalizing fuel with
  | nil =>
    obtain ⟨fuel, rfl⟩ : ∃ k, fuel = k + 1 := ⟨fuel - 1, by simp at hfuel; omega⟩
    simp [readChars]
  | cons r rs ih =>
    obtain ⟨fuel, rfl⟩ : ∃ k, fuel = k + 1 := ⟨fuel - 1, by simp at hfuel; omega⟩
    rw [List.flatMap_cons, List.append_assoc, readChars_escapeRune, ih (by simpa using hfuel)]
    rfl

lemma length_le_escape (rs : List Rune) : rs.length ≤ (rs.flatMap escapeRune).length := by
  induction rs with
  | nil => simp
  | cons r rs ih =>
    have hne : 0 < (escapeRune r).length := by
      rcases escapeRune_cases r with ⟨heq, -⟩ | ⟨e, heq, -⟩ <;> simp [heq]
    simp only [List.flatMap_cons, List.length_cons, List.length_append]
    omega

@[simp] lemma readString_quote_append (bs : Bytes) (cs : List Char) :
    readString (quote bs ++ cs) = some (text bs, cs) := by
  have hlen := length_le_escape (runes bs)
  rw [quote, List.cons_append, List.append_assoc, List.singleton_append, readString]
  apply readChars_escape
  simp only [List.length_append, List.length_cons]
  omega

end Strings

section Numbers

/-- How much of a number has been read. -/
inductive Numeral
  | start
  | minus
  | zero
  | integer
  | point
  | fraction
  | exponent
  | sign
  | power
  | wrong
  deriving DecidableEq

namespace Numeral

def digit (c : Char) : Bool := '0' ≤ c && c ≤ '9'

def step : Numeral → Char → Numeral
  | start, c => if c = '-' then minus else if c = '0' then zero else if digit c then integer else wrong
  | minus, c => if c = '0' then zero else if digit c then integer else wrong
  | zero, c => if c = '.' then point else if c = 'e' ∨ c = 'E' then exponent else wrong
  | integer, c =>
    if digit c then integer else if c = '.' then point else if c = 'e' ∨ c = 'E' then exponent else wrong
  | point, c => if digit c then fraction else wrong
  | fraction, c => if digit c then fraction else if c = 'e' ∨ c = 'E' then exponent else wrong
  | exponent, c => if c = '+' ∨ c = '-' then sign else if digit c then power else wrong
  | sign, c | power, c => if digit c then power else wrong
  | wrong, _ => wrong

def complete : Numeral → Bool
  | zero | integer | fraction | power => true
  | start | minus | point | exponent | sign | wrong => false

def isPart (c : Char) : Bool := digit c || "+-.eE".toList.contains c

lemma foldl_wrong (cs : List Char) : cs.foldl step wrong = wrong := by
  induction cs with
  | nil => rfl
  | cons c cs ih => exact ih

lemma step_eq_wrong {c : Char} (hc : isPart c = false) (s : Numeral) : s.step c = wrong := by
  have hdigit : digit c = false := by
    cases hd : digit c with
    | false => rfl
    | true => simp [isPart, hd] at hc
  have hne : c ≠ '-' ∧ c ≠ '+' ∧ c ≠ '.' ∧ c ≠ 'e' ∧ c ≠ 'E' ∧ c ≠ '0' := by
    refine ⟨?_, ?_, ?_, ?_, ?_, ?_⟩ <;> (rintro rfl; simp [isPart, digit] at hc)
  cases s <;> simp [step, hdigit, hne]

lemma isPart_of_complete {cs : List Char} {s : Numeral} (h : (cs.foldl step s).complete = true) :
    ∀ c ∈ cs, isPart c = true := by
  induction cs generalizing s with
  | nil => simp
  | cons c cs ih =>
    rw [List.foldl_cons] at h
    refine List.forall_mem_cons.mpr ⟨?_, ih h⟩
    cases hc : isPart c with
    | true => rfl
    | false => simp [step_eq_wrong hc, foldl_wrong, complete] at h

lemma foldl_digits {ds : List Char} (hd : ∀ c ∈ ds, digit c = true) : ds.foldl step integer = integer := by
  induction ds with
  | nil => rfl
  | cons c ds ih =>
    obtain ⟨hc, hds⟩ := List.forall_mem_cons.mp hd
    rw [List.foldl_cons, step, if_pos hc, ih hds]

end Numeral

/-- A number by its text. -/
structure Number where
  text : List Char
  valid : (text.foldl Numeral.step .start).complete = true
  deriving DecidableEq

def decimalDigit (d : ℕ) : Char := "0123456789".toList.getD d '?'

def decimalText (n : ℕ) : List Char := if n = 0 then ['0'] else (Nat.digits 10 n).reverse.map decimalDigit

def decimalValue (cs : List Char) : ℕ := Nat.ofDigits 10 (cs.reverse.map fun c => c.toNat - '0'.toNat)

lemma decimalDigit_spec : ∀ d < 10, (decimalDigit d).toNat - '0'.toNat = d ∧
    Numeral.digit (decimalDigit d) = true ∧ (decimalDigit d = '0' → d = 0) ∧ decimalDigit d ≠ '-' := by
  decide

lemma decimalValue_decimalText (n : ℕ) : decimalValue (decimalText n) = n := by
  unfold decimalText
  split_ifs with hn
  · subst hn
    rfl
  · have hmap : ((Nat.digits 10 n).map decimalDigit).map (fun c => c.toNat - '0'.toNat) = Nat.digits 10 n := by
      rw [List.map_map]
      conv_rhs => rw [← List.map_id (Nat.digits 10 n)]
      exact List.map_congr_left fun d hd => (decimalDigit_spec d (Nat.digits_lt_base (by decide) hd)).1
    rw [decimalValue, ← List.map_reverse, List.reverse_reverse, hmap, Nat.ofDigits_digits]

lemma decimalText_valid (n : ℕ) : ((decimalText n).foldl Numeral.step .start).complete = true := by
  unfold decimalText
  split_ifs with hn
  · rfl
  · have hne : Nat.digits 10 n ≠ [] := Nat.digits_ne_nil_iff_ne_zero.mpr hn
    have hlast := Nat.getLast_digit_ne_zero 10 hn
    have hlt : ∀ d ∈ Nat.digits 10 n, d < 10 := fun d => Nat.digits_lt_base (by decide)
    obtain ⟨ds, d, hds⟩ : ∃ ds d, Nat.digits 10 n = ds ++ [d] :=
      ⟨_, _, (List.dropLast_append_getLast hne).symm⟩
    simp only [hds, List.getLast_append_singleton] at hlast hlt
    obtain ⟨-, hdigit, hzero, hminus⟩ := decimalDigit_spec d (hlt d (by simp))
    have hrest : ∀ c ∈ (ds.reverse.map decimalDigit), Numeral.digit c = true := by
      intro c hc
      obtain ⟨e, he, rfl⟩ := List.mem_map.mp hc
      exact (decimalDigit_spec e (hlt e (by simpa using .inl (List.mem_reverse.mp he)))).2.1
    rw [hds, List.reverse_append, List.reverse_singleton, List.singleton_append, List.map_cons,
      List.foldl_cons, Numeral.step, if_neg hminus, if_neg fun h => hlast (hzero h), if_pos hdigit,
      Numeral.foldl_digits hrest]
    rfl

def Number.ofNat (n : ℕ) : Number := ⟨decimalText n, decimalText_valid n⟩

@[simp] lemma decimalValue_ofNat (n : ℕ) : decimalValue (Number.ofNat n).text = n :=
  decimalValue_decimalText n

end Numbers

section Objects

/-- A value within a flat object; `σ` are byte strings or characters. -/
inductive Value (σ : Type*)
  | str (s : σ)
  | num (n : Number)
  | bool (b : Bool)
  deriving DecidableEq

def Value.map {σ τ : Type*} (f : σ → τ) : Value σ → Value τ
  | str s => str (f s)
  | num n => num n
  | bool b => bool b

abbrev Member (σ : Type*) := List Char × Value σ

def Member.map {σ τ : Type*} (f : σ → τ) (m : Member σ) : Member τ := (m.1, m.2.map f)

def writeValue : Value Bytes → List Char
  | .str s => quote s
  | .num n => n.text
  | .bool b => (if b then "true" else "false").toList

def writeMember (m : Member Bytes) : List Char := quote (encode m.1) ++ ':' :: writeValue m.2

def writeMembers : List (Member Bytes) → List Char
  | [] => []
  | [m] => writeMember m
  | m :: more => writeMember m ++ ',' :: writeMembers more

def writeObject (ms : List (Member Bytes)) : List Char := '\x7b' :: (writeMembers ms ++ ['\x7d'])

def readNumber (cs : List Char) : Option (Value (List Char) × List Char) :=
  let digits := cs.takeWhile Numeral.isPart
  if h : (digits.foldl Numeral.step .start).complete = true then
    some (.num ⟨digits, h⟩, cs.dropWhile Numeral.isPart)
  else none

def readLiteral : List Char → Option (Value (List Char) × List Char)
  | 't' :: 'r' :: 'u' :: 'e' :: cs => some (.bool true, cs)
  | 'f' :: 'a' :: 'l' :: 's' :: 'e' :: cs => some (.bool false, cs)
  | _ => none

def readValue : List Char → Option (Value (List Char) × List Char)
  | [] => none
  | c :: cs =>
    if Numeral.isPart c then readNumber (c :: cs)
    else if c = '"' then (readString (c :: cs)).map fun p => (.str p.1, p.2)
    else readLiteral (c :: cs)

def readMember (cs : List Char) : Option (Member (List Char) × List Char) := do
  let (key, cs) ← readString cs
  match cs with
  | ':' :: cs => do
    let (value, cs) ← readValue cs
    some ((key, value), cs)
  | _ => none

def readMembers : ℕ → List Char → Option (List (Member (List Char)) × List Char)
  | 0, _ => none
  | fuel + 1, cs => do
    let (m, cs) ← readMember cs
    match cs with
    | ',' :: cs => do
      let (more, cs) ← readMembers fuel cs
      some (m :: more, cs)
    | '\x7d' :: cs => some ([m], cs)
    | _ => none

def readObject : List Char → Option (List (Member (List Char)) × List Char)
  | '\x7b' :: cs => if cs.head? = some '\x7d' then some ([], cs.tail) else readMembers cs.length cs
  | _ => none

/-- A value is followed by a comma or by the brace at the end of its object. -/
def Follows (cs : List Char) : Prop := ∃ rest, cs = ',' :: rest ∨ cs = '\x7d' :: rest

lemma readNumber_append (n : Number) {cs : List Char} (hcs : Follows cs) :
    readNumber (n.text ++ cs) = some (.num n, cs) := by
  have hpart := Numeral.isPart_of_complete n.valid
  have hhead : ∀ c ∈ cs.head?, Numeral.isPart c = false := by
    obtain ⟨rest, rfl | rfl⟩ := hcs <;> simp [Numeral.isPart, Numeral.digit]
  have htake : cs.takeWhile Numeral.isPart = [] ∧ cs.dropWhile Numeral.isPart = cs := by
    cases cs with
    | nil => simp
    | cons c cs => simp [hhead c rfl]
  have hspan : (n.text ++ cs).takeWhile Numeral.isPart = n.text := by
    rw [List.takeWhile_append_of_pos hpart, htake.1, List.append_nil]
  simp only [readNumber, hspan, n.valid, List.dropWhile_append_of_pos hpart, htake.2, dite_true]

lemma Number.exists_cons (n : Number) : ∃ c cs, n.text = c :: cs ∧ Numeral.isPart c = true := by
  have hpart := Numeral.isPart_of_complete n.valid
  cases ht : n.text with
  | nil =>
    have hvalid := n.valid
    simp [ht, Numeral.complete] at hvalid
  | cons c cs => exact ⟨c, cs, rfl, hpart c (by simp [ht])⟩

lemma readValue_write_append (v : Value Bytes) {cs : List Char} (hcs : Follows cs) :
    readValue (writeValue v ++ cs) = some (v.map text, cs) := by
  cases v with
  | str s =>
    have hread := readString_quote_append s cs
    rw [quote, List.cons_append] at hread
    rw [writeValue, quote, List.cons_append, readValue, if_neg (by decide), if_pos rfl, hread]
    rfl
  | num n =>
    obtain ⟨c, text, htext, hc⟩ := n.exists_cons
    have hread := readNumber_append n hcs
    rw [htext, List.cons_append] at hread
    rw [writeValue, htext, List.cons_append, readValue, if_pos hc, hread]
    rfl
  | bool b => cases b <;> rfl

lemma readMember_write_append (m : Member Bytes) {cs : List Char} (hcs : Follows cs) :
    readMember (writeMember m ++ cs) = some (m.map text, cs) := by
  rw [writeMember, List.append_assoc, List.cons_append, readMember, readString_quote_append]
  simp only [Option.bind_eq_bind, Option.bind_some, readValue_write_append m.2 hcs, text_encode]
  rfl

lemma readMembers_write_append {ms : List (Member Bytes)} (hms : ms ≠ []) {fuel : ℕ}
    (hfuel : ms.length ≤ fuel) (cs : List Char) :
    readMembers fuel (writeMembers ms ++ '\x7d' :: cs) = some (ms.map (Member.map text), cs) := by
  induction ms generalizing fuel with
  | nil => exact absurd rfl hms
  | cons m more ih =>
    obtain ⟨fuel, rfl⟩ : ∃ k, fuel = k + 1 := ⟨fuel - 1, by simp at hfuel; omega⟩
    cases more with
    | nil =>
      rw [writeMembers, readMembers, readMember_write_append m ⟨cs, .inr rfl⟩]
      rfl
    | cons m' more =>
      rw [writeMembers, List.append_assoc, List.cons_append, readMembers,
        readMember_write_append m ⟨_, .inl rfl⟩]
      · simp only [Option.bind_eq_bind, Option.bind_some, ih (by simp) (by simpa using hfuel)]
        rfl
      · simp

lemma exists_writeMembers_cons (m : Member Bytes) (more : List (Member Bytes)) :
    ∃ cs, writeMembers (m :: more) = '"' :: cs ∧ more.length ≤ cs.length := by
  induction more generalizing m with
  | nil => exact ⟨_, rfl, Nat.zero_le _⟩
  | cons m' more ih =>
    obtain ⟨cs, hcs, hlen⟩ := ih m'
    rw [writeMembers, hcs, writeMember, quote, List.cons_append, List.cons_append]
    · refine ⟨_, rfl, ?_⟩
      simp only [List.length_append, List.length_cons]
      omega
    · simp

@[simp] lemma readObject_write_append (ms : List (Member Bytes)) (cs : List Char) :
    readObject (writeObject ms ++ cs) = some (ms.map (Member.map text), cs) := by
  rw [writeObject, List.cons_append, List.append_assoc, List.singleton_append, readObject]
  cases ms with
  | nil => rfl
  | cons m more =>
    obtain ⟨rest, hrest, hlen⟩ := exists_writeMembers_cons m more
    rw [if_neg (by simp [hrest]), readMembers_write_append (by simp)]
    simp only [hrest, List.length_append, List.length_cons]
    omega

end Objects

section Lines

/-- The objects one after the other, each with a newline behind it. -/
def writeLines (objects : List (List (Member Bytes))) : Bytes :=
  encode (objects.flatMap fun ms => writeObject ms ++ ['\n'])

def readLine (line : List Char) : Option (List (Member (List Char))) :=
  match readObject line with
  | some (ms, []) => some ms
  | _ => none

/-- The objects of a text in UTF-8, one a line; the last line is ended as well. -/
def readLines (bs : Bytes) : Option (List (List (Member (List Char)))) := do
  let cs ← decode? bs
  let lines := cs.splitOn '\n'
  if lines.getLast? = some [] then lines.dropLast.mapM readLine else none

@[simp] lemma readLine_writeObject (ms : List (Member Bytes)) :
    readLine (writeObject ms) = some (ms.map (Member.map text)) := by
  have hread := readObject_write_append ms []
  rw [List.append_nil] at hread
  rw [readLine, hread]

lemma hexDigit_ne_newline : ∀ n < 16, '\n' ≠ hexDigit n := by decide

lemma newline_notMem_escapeChar (c : Char) : '\n' ∉ escapeChar c := by
  unfold escapeChar
  split_ifs with hascii hsafe hline
  · rintro h
    rw [← List.mem_singleton.mp h] at hsafe
    exact absurd hsafe (by decide)
  · cases hf : escapes.find? (·.2 = c) with
    | none =>
      have hhigh := hexDigit_ne_newline (c.toNat / 16) (by omega)
      have hlow := hexDigit_ne_newline (c.toNat % 16) (by omega)
      simp [hhigh, hlow]
    | some e =>
      have hletters : ∀ e ∈ escapes, '\n' ≠ e.1 := by decide
      simp [hletters e (List.mem_of_find?_eq_some hf)]
  · simp [hexDigit_ne_newline (c.toNat % 16) (by omega)]
  · rintro h
    rw [← List.mem_singleton.mp h] at hascii
    exact absurd hascii (by decide)

lemma newline_notMem_quote (bs : Bytes) : '\n' ∉ quote bs := by
  have hbody : '\n' ∉ (runes bs).flatMap escapeRune := by
    rw [List.mem_flatMap]
    rintro ⟨r, -, hr⟩
    cases r with
    | char c => exact newline_notMem_escapeChar c hr
    | bad b => exact absurd hr (by simp [escapeRune])
  simp [quote, hbody]

lemma newline_notMem_writeMember (m : Member Bytes) : '\n' ∉ writeMember m := by
  have hvalue : '\n' ∉ writeValue m.2 := by
    cases m.2 with
    | str s => exact newline_notMem_quote s
    | num n => exact fun h => absurd (Numeral.isPart_of_complete n.valid _ h) (by decide)
    | bool b => cases b <;> decide
  simp [writeMember, newline_notMem_quote, hvalue]

lemma newline_notMem_writeObject (ms : List (Member Bytes)) : '\n' ∉ writeObject ms := by
  have hmembers : '\n' ∉ writeMembers ms := by
    induction ms with
    | nil => simp [writeMembers]
    | cons m more ih =>
      cases more with
      | nil => exact newline_notMem_writeMember m
      | cons m' more =>
        rw [writeMembers]
        · simp [newline_notMem_writeMember m, ih]
        · simp
  simp [writeObject, hmembers]

lemma splitOn_writeLines (lines : List (List Char)) (h : ∀ l ∈ lines, '\n' ∉ l) :
    (lines.flatMap fun l => l ++ ['\n']).splitOn '\n' = lines ++ [[]] := by
  induction lines with
  | nil => rfl
  | cons l lines ih =>
    obtain ⟨hl, hlines⟩ := List.forall_mem_cons.mp h
    have hcut : ∀ c ∈ l, (c == '\n') = false := fun c hc => beq_false_of_ne fun h => hl (h ▸ hc)
    rw [List.flatMap_cons, List.append_assoc, List.singleton_append, List.cons_append, ← ih hlines]
    exact List.splitOnP_append_cons_of_forall_mem hcut '\n' rfl _

lemma mapM_readLine (objects : List (List (Member Bytes))) :
    (objects.map writeObject).mapM readLine = some (objects.map (List.map (Member.map text))) := by
  induction objects with
  | nil => rfl
  | cons ms objects ih =>
    rw [List.map_cons, List.mapM_cons, ih, readLine_writeObject]
    rfl

/-- What is written line by line is read back, with U+FFFD for each byte that belongs to no character. -/
theorem readLines_writeLines (objects : List (List (Member Bytes))) :
    readLines (writeLines objects) = some (objects.map (List.map (Member.map text))) := by
  have hsplit := splitOn_writeLines (objects.map writeObject)
    (List.forall_mem_map.mpr fun ms _ => newline_notMem_writeObject ms)
  rw [List.flatMap_map] at hsplit
  rw [readLines, writeLines, decode?_encode]
  simp only [Option.bind_eq_bind, Option.bind_some, hsplit, List.getLast?_concat, List.dropLast_concat,
    if_true, mapM_readLine]

end Lines

end ShadowProxy.JsonText
