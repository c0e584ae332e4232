import ShadowProxy.WordBytes

/-! Texts in UTF-8 within byte strings that need not be UTF-8: a byte that belongs to no character stands
for itself. A text can be cut at any ASCII byte, since no other character has one in its encoding. -/
namespace ShadowProxy.Utf8Text
open WordBytes

def encode (cs : List Char) : Bytes := cs.flatMap String.utf8EncodeChar

def decodeRune (bs : Bytes) : Option Char := bs.toByteArray.utf8DecodeChar? 0

/-- A character, or a byte that belongs to none. -/
inductive Rune
  | char (c : Char)
  | bad (b : UInt8)
  deriving DecidableEq

namespace Rune

def bytes : Rune → Bytes
  | char c => String.utf8EncodeChar c
  | bad b => [b]

def char? : Rune → Option Char
  | char c => some c
  | bad _ => none

/-- With U+FFFD for a byte that belongs to no character. -/
def replaced : Rune → Char
  | char c => c
  | bad _ => '\uFFFD'

end Rune

def runesLoop : ℕ → Bytes → List Rune
  | 0, _ | _ + 1, [] => []
  | fuel + 1, b :: bs =>
    match decodeRune (b :: bs) with
    | some c => .char c :: runesLoop fuel ((b :: bs).drop c.utf8Size)
    | none => .bad b :: runesLoop fuel bs

def runes (bs : Bytes) : List Rune := runesLoop bs.length bs

def decode? (bs : Bytes) : Option (List Char) := (runes bs).mapM Rune.char?

def text (bs : Bytes) : List Char := (runes bs).map Rune.replaced

lemma decodeRune_encode_append (c : Char) (bs : Bytes) :
    decodeRune (String.utf8EncodeChar c ++ bs) = some c := by
  rw [decodeRune, List.toByteArray_append]
  exact ByteArray.utf8DecodeChar?_utf8EncodeChar_append

lemma eq_append_of_decodeRune {bs : Bytes} {c : Char} (h : decodeRune bs = some c) :
    bs = String.utf8EncodeChar c ++ bs.drop c.utf8Size := by
  obtain ⟨rest, hrest⟩ := ByteArray.exists_of_utf8DecodeChar?_eq_some h
  have hlist := congrArg (fun b : ByteArray => b.data.toList) hrest
  simp only [List.data_toByteArray, ByteArray.data_append, Array.toList_append] at hlist
  rw [hlist, ← String.length_utf8EncodeChar c, List.drop_left]

lemma runesLoop_eq {fuel : ℕ} {bs : Bytes} (h : bs.length ≤ fuel) : runesLoop fuel bs = runes bs := by
  induction fuel using Nat.strongRecOn generalizing bs with
  | _ fuel ih =>
    cases bs with
    | nil => cases fuel <;> rfl
    | cons b bs =>
      obtain ⟨fuel, rfl⟩ : ∃ k, fuel = k + 1 := ⟨fuel - 1, by simp at h; omega⟩
      simp only [List.length_cons, Nat.add_le_add_iff_right] at h
      rw [runes, List.length_cons, runesLoop, runesLoop]
      cases hd : decodeRune (b :: bs) with
      | none => simp only [ih fuel (by omega) h, runes]
      | some c =>
        have hpos := c.utf8Size_pos
        have hlen : ((b :: bs).drop c.utf8Size).length ≤ bs.length := by simp; omega
        simp only [ih fuel (by omega) (hlen.trans h), ih bs.length (by omega) hlen]

@[simp] lemma runes_nil : runes [] = [] := rfl

lemma runes_encodeChar_append (c : Char) (bs : Bytes) :
    runes (String.utf8EncodeChar c ++ bs) = .char c :: runes bs := by
  have hd := decodeRune_encode_append c bs
  have hlen := String.length_utf8EncodeChar c
  have hpos := c.utf8Size_pos
  have hdrop : (String.utf8EncodeChar c ++ bs).drop c.utf8Size = bs := by rw [← hlen, List.drop_left]
  have hbound : bs.length + 1 ≤ (String.utf8EncodeChar c ++ bs).length := by
    rw [List.length_append, hlen]
    omega
  rw [runes]
  cases hs : String.utf8EncodeChar c ++ bs with
  | nil => simp [hs] at hbound
  | cons b rest =>
    rw [hs] at hd hdrop hbound
    rw [List.length_cons, runesLoop, hd]
    dsimp only
    rw [hdrop, runesLoop_eq (by simpa using hbound)]

@[simp] lemma runes_encode_append (cs : List Char) (bs : Bytes) :
    runes (encode cs ++ bs) = cs.map .char ++ runes bs := by
  induction cs with
  | nil => rfl
  | cons c cs ih =>
    rw [encode, List.flatMap_cons, List.append_assoc, runes_encodeChar_append, ← encode, ih]
    rfl

@[simp] lemma runes_encode (cs : List Char) : runes (encode cs) = cs.map .char := by
  simpa using runes_encode_append cs []

lemma runes_bad {b : UInt8} {bs : Bytes} (h : decodeRune (b :: bs) = none) :
    runes (b :: bs) = .bad b :: runes bs := by
  rw [runes, List.length_cons, runesLoop, h]
  rfl

lemma flatMap_bytes_runes (bs : Bytes) : (runes bs).flatMap Rune.bytes = bs := by
  induction hn : bs.length using Nat.strongRecOn generalizing bs with
  | _ n ih =>
    cases bs with
    | nil => rfl
    | cons b bs =>
      subst hn
      cases hd : decodeRune (b :: bs) with
      | none => rw [runes_bad hd, List.flatMap_cons, ih bs.length (by simp) bs rfl]; rfl
      | some c =>
        have heq := eq_append_of_decodeRune hd
        have hpos := c.utf8Size_pos
        rw [heq, runes_encodeChar_append, List.flatMap_cons, ih _ (by simp; omega) _ rfl]
        rfl

@[simp] lemma decode?_encode (cs : List Char) : decode? (encode cs) = some cs := by
  rw [decode?, runes_encode]
  induction cs with
  | nil => rfl
  | cons c cs ih => simp [Rune.char?, ih]

@[simp] lemma text_encode (cs : List Char) : text (encode cs) = cs := by
  rw [text, runes_encode, List.map_map]
  exact List.map_id cs

@[simp] lemma text_eq_nil {bs : Bytes} : text bs = [] ↔ bs = [] := by
  rw [text, List.map_eq_nil_iff]
  constructor
  · intro h
    have hcover := flatMap_bytes_runes bs
    rw [h] at hcover
    exact hcover.symm
  · rintro rfl
    rfl

section Ascii

lemma utf8EncodeChar_cases (c : Char) :
    c.toNat < 0x80 ∧ String.utf8EncodeChar c = [UInt8.ofNat c.toNat] ∨
      0x80 ≤ c.toNat ∧ ∀ b ∈ String.utf8EncodeChar c, 0x80 ≤ b := by
  unfold String.utf8EncodeChar Char.toNat
  dsimp only
  split_ifs with h1 h2 h3
  · exact .inl ⟨by omega, rfl⟩
  all_goals
    refine .inr ⟨by omega, ?_⟩
    simp only [List.forall_mem_cons, List.not_mem_nil, false_implies, implies_true, and_true,
      UInt8.le_iff_toNat_le, UInt8.toNat_ofNat', UInt8.toNat_ofNat]
    omega

def asciiChar (b : UInt8) : Char := Char.ofNat b.toNat

lemma utf8EncodeChar_asciiChar {b : UInt8} (hb : b < 0x80) : String.utf8EncodeChar (asciiChar b) = [b] := by
  revert b
  decide +kernel

lemma runes_ascii_cons {b : UInt8} (hb : b < 0x80) (y : Bytes) :
    runes (b :: y) = .char (asciiChar b) :: runes y := by
  have h := runes_encodeChar_append (asciiChar b) y
  rwa [utf8EncodeChar_asciiChar hb] at h

/-- A character in front of a text that is cut by an ASCII byte lies before that byte. -/
lemma decodeRune_append_ascii {x y : Bytes} {b : UInt8} (hx : x ≠ []) (hb : b < 0x80) {c : Char}
    (h : decodeRune (x ++ b :: y) = some c) : decodeRune x = some c := by
  have hsplit := eq_append_of_decodeRune h
  generalize (x ++ b :: y).drop c.utf8Size = rest at hsplit
  rcases List.append_eq_append_iff.mp hsplit with ⟨mid, henc, hrest⟩ | ⟨mid, rfl, -⟩
  · cases mid with
    | nil =>
      rw [List.append_nil] at henc
      rw [← henc]
      simpa using decodeRune_encode_append c []
    | cons d mid =>
      obtain rfl : d = b := by simpa using (congrArg List.head? hrest).symm
      rcases utf8EncodeChar_cases c with ⟨-, hone⟩ | ⟨-, hwide⟩
      · have hlen := congrArg List.length (henc.symm.trans hone)
        have := List.length_pos_iff.mpr hx
        simp at hlen
        omega
      · exact absurd hb (UInt8.not_lt.mpr (hwide d (by simp [henc])))
  · exact decodeRune_encode_append c mid

lemma runes_append_ascii (x y : Bytes) {b : UInt8} (hb : b < 0x80) :
    runes (x ++ b :: y) = runes x ++ .char (asciiChar b) :: runes y := by
  induction hn : x.length using Nat.strongRecOn generalizing x with
  | _ n ih =>
    subst hn
    cases x with
    | nil => exact runes_ascii_cons hb y
    | cons a x =>
      cases hd : decodeRune (a :: x) with
      | none =>
        have hd' : decodeRune (a :: (x ++ b :: y)) = none := by
          cases hd' : decodeRune (a :: (x ++ b :: y)) with
          | none => rfl
          | some c => simp [decodeRune_append_ascii (List.cons_ne_nil a x) hb hd'] at hd
        rw [runes_bad hd, List.cons_append, runes_bad hd', ih x.length (by simp) x rfl, List.cons_append]
      | some c =>
        have hsplit := eq_append_of_decodeRune hd
        have hpos := c.utf8Size_pos
        have hshort : ((a :: x).drop c.utf8Size).length < (a :: x).length := by simp; omega
        generalize (a :: x).drop c.utf8Size = rest at hsplit hshort
        rw [hsplit, List.append_assoc, runes_encodeChar_append, runes_encodeChar_append,
          ih rest.length hshort rest rfl, List.cons_append]

lemma text_append_ascii (x y : Bytes) {b : UInt8} (hb : b < 0x80) :
    text (x ++ b :: y) = text x ++ asciiChar b :: text y := by
  rw [text, runes_append_ascii x y hb, List.map_append, List.map_cons]
  rfl

lemma text_ascii {s : Bytes} (hs : ∀ b ∈ s, b < 0x80) : text s = s.map asciiChar := by
  induction s with
  | nil => rfl
  | cons b s ih =>
    obtain ⟨hb, hs⟩ := List.forall_mem_cons.mp hs
    rw [← List.nil_append (b :: s), text_append_ascii [] s hb, ih hs]
    rfl

lemma wide_of_mem_text {s : Bytes} (hs : ∀ b ∈ s, 0x80 ≤ b) {c : Char} (hc : c ∈ text s) :
    0x80 ≤ c.toNat := by
  obtain ⟨r, hr, rfl⟩ := List.mem_map.mp hc
  cases r with
  | bad b => exact (by decide : 0x80 ≤ '\uFFFD'.toNat)
  | char c =>
    rcases utf8EncodeChar_cases c with ⟨hlow, hone⟩ | ⟨hwide, -⟩
    · have hmem : UInt8.ofNat c.toNat ∈ s := by
        rw [← flatMap_bytes_runes s]
        exact List.mem_flatMap.mpr ⟨.char c, hr, by simp [Rune.bytes, hone]⟩
      have := UInt8.le_iff_toNat_le.mp (hs _ hmem)
      simp only [UInt8.toNat_ofNat', UInt8.toNat_ofNat] at this
      omega
    · exact hwide

end Ascii

section Map

/-- `strings.Map` of a function that drops no character. -/
def mapChars (f : Char → Char) (s : Bytes) : Bytes := encode ((text s).map f)

variable {f : Char → Char}

lemma mapChars_append_ascii (x y : Bytes) {b : UInt8} (hb : b < 0x80) :
    mapChars f (x ++ b :: y) = mapChars f x ++ (String.utf8EncodeChar (f (asciiChar b)) ++ mapChars f y) := by
  rw [mapChars, text_append_ascii x y hb]
  simp [encode, mapChars]

lemma mapChars_ascii {g : UInt8 → UInt8} {s : Bytes} (hs : ∀ b ∈ s, b < 0x80)
    (hf : ∀ b < 0x80, String.utf8EncodeChar (f (asciiChar b)) = [g b]) : mapChars f s = s.map g := by
  rw [mapChars, text_ascii hs]
  induction s with
  | nil => rfl
  | cons b s ih =>
    obtain ⟨hb, hs⟩ := List.forall_mem_cons.mp hs
    have ih := ih hs
    simp only [encode, List.map_cons, List.flatMap_cons, hf b hb, List.singleton_append,
      List.cons.injEq, true_and] at ih ⊢
    exact ih

lemma mapChars_ne_nil {s : Bytes} (hs : s ≠ []) : mapChars f s ≠ [] := by
  intro h
  cases ht : text s with
  | nil => exact hs (text_eq_nil.mp ht)
  | cons c cs =>
    have hpos := (f c).utf8Size_pos
    have hlen := congrArg List.length h
    simp only [mapChars, ht, encode, List.map_cons, List.flatMap_cons, List.length_append,
      String.length_utf8EncodeChar, List.length_nil] at hlen
    omega

lemma forall_mem_mapChars {s : Bytes} {P : UInt8 → Prop} (hs : ∀ b ∈ s, 0x80 ≤ b)
    (hf : ∀ c : Char, 0x80 ≤ c.toNat → ∀ b ∈ String.utf8EncodeChar (f c), P b) :
    ∀ b ∈ mapChars f s, P b := by
  intro b hb
  rw [mapChars, encode, List.mem_flatMap] at hb
  obtain ⟨d, hd, hb⟩ := hb
  obtain ⟨c, hc, rfl⟩ := List.mem_map.mp hd
  exact hf c (wide_of_mem_text hs hc) b hb

end Map

end ShadowProxy.Utf8Text
