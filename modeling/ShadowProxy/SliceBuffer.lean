import Mathlib.Data.List.Basic

/-! A growable slice: the first cells of an array, which stays the same when the slice is emptied and
filled again, until it is full and a larger one takes its place. -/
namespace ShadowProxy.SliceBuffer

structure Slice (α : Type*) where
  cells : List α
  len : ℕ
  len_le : len ≤ cells.length
  deriving DecidableEq

namespace Slice
variable {α : Type*}

def toList (s : Slice α) : List α := s.cells.take s.len

def clear (s : Slice α) : Slice α := ⟨s.cells, 0, Nat.zero_le _⟩

def get? (s : Slice α) (i : ℕ) : Option α := if i < s.len then s.cells[i]? else none

@[simp] lemma length_toList (s : Slice α) : s.toList.length = s.len := by
  simp [toList, s.len_le]

@[simp] lemma toList_clear (s : Slice α) : s.clear.toList = [] := rfl

lemma get?_eq (s : Slice α) (i : ℕ) : s.get? i = s.toList[i]? := by
  rw [get?, toList, List.getElem?_take]

variable [Inhabited α]

def make (capacity : ℕ) : Slice α := ⟨List.replicate capacity default, 0, Nat.zero_le _⟩

/-- The element goes into the cell behind the slice. If there is none, the elements move to an array
with room for as many again. -/
def append (s : Slice α) (a : α) : Slice α :=
  if h : s.len < s.cells.length then
    ⟨s.cells.set s.len a, s.len + 1, by rw [List.length_set]; exact h⟩
  else ⟨s.toList ++ a :: List.replicate s.len default, s.len + 1, by simp⟩

@[simp] lemma toList_make (capacity : ℕ) : (make capacity : Slice α).toList = [] := rfl

@[simp] lemma toList_append (s : Slice α) (a : α) : (s.append a).toList = s.toList ++ [a] := by
  unfold append
  split_ifs with h
  · have hlen : s.len < (s.cells.set s.len a).length := by rwa [List.length_set]
    rw [toList, List.take_succ_eq_append_getElem hlen, List.getElem_set_self,
      List.take_set_of_le (Nat.le_refl _), toList]
  · change (s.toList ++ a :: List.replicate s.len default).take (s.len + 1) = _
    rw [← length_toList s, List.take_length_add_append]
    rfl

@[simp] lemma len_append (s : Slice α) (a : α) : (s.append a).len = s.len + 1 := by
  unfold append
  split_ifs <;> rfl

end Slice

end ShadowProxy.SliceBuffer
