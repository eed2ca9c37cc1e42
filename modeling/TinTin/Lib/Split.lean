/-
  Splitting at a separator.

  `List.splitOn` gives all the pieces; `splitn` gives at most so many, and the last of them has the
  rest with its separators.

  * `not_mem_of_mem_splitOn`: no piece has the separator in it.
  * `splitn_cons`, `splitn_of_notMem`: one piece of `splitn`, and the last one.
  * `exists_splitn`: its first piece ends at the first separator, whatever follows.
-/
import Mathlib.Data.List.TakeWhile
import Mathlib.Data.Nat.Notation

namespace TinTin.Lib

variable {α : Type} [DecidableEq α]

/-- At most `n` pieces. -/
def splitn : ℕ → α → List α → List (List α)
  | 0, _, _ => []
  | 1, _, l => [l]
  | n + 2, sep, l =>
    match l.dropWhile (· ≠ sep) with
    | [] => [l]
    | _ :: rest => l.takeWhile (· ≠ sep) :: splitn (n + 1) sep rest

theorem splitn_of_notMem {sep : α} {l : List α} (h : sep ∉ l) (n : ℕ) :
    splitn (n + 1) sep l = [l] := by
  have hdrop : l.dropWhile (· ≠ sep) = [] := by
    rw [List.dropWhile_eq_nil_iff]
    intro a ha
    rw [decide_eq_true_iff]
    rintro rfl
    exact h ha
  cases n with
  | zero => rfl
  | succ n => rw [splitn, hdrop]

theorem splitn_cons {sep : α} {l : List α} (h : sep ∉ l) (n : ℕ) (rest : List α) :
    splitn (n + 2) sep (l ++ sep :: rest) = l :: splitn (n + 1) sep rest := by
  have hpass : ∀ a ∈ l, decide (a ≠ sep) = true := by
    intro a ha
    rw [decide_eq_true_iff]
    rintro rfl
    exact h ha
  have hdrop : (l ++ sep :: rest).dropWhile (· ≠ sep) = sep :: rest := by
    rw [List.dropWhile_append_of_pos hpass, List.dropWhile_cons_of_neg (by simp)]
  rw [splitn, hdrop]
  dsimp only
  rw [List.takeWhile_append_of_pos hpass, List.takeWhile_cons_of_neg (by simp), List.append_nil]

/-- Of at least two pieces, the first one ends at the first separator. -/
theorem exists_splitn (sep : α) (n : ℕ) (l : List α) :
    ∃ more, splitn (n + 2) sep l = l.takeWhile (· ≠ sep) :: more := by
  have hsplit : l.takeWhile (· ≠ sep) ++ l.dropWhile (· ≠ sep) = l := List.takeWhile_append_dropWhile
  cases hdrop : l.dropWhile (· ≠ sep) with
  | nil =>
    rw [hdrop, List.append_nil] at hsplit
    exact ⟨[], by rw [splitn, hdrop, hsplit]⟩
  | cons a rest => exact ⟨splitn (n + 1) sep rest, by rw [splitn, hdrop]⟩

omit [DecidableEq α] in
/-- Pieces with the separator between them, or before each but the first. -/
theorem intercalate_cons_eq (sep : α) (first : List α) (more : List (List α)) :
    [sep].intercalate (first :: more) = first ++ more.flatMap fun piece => sep :: piece := by
  induction more generalizing first with
  | nil => simp
  | cons next more ih =>
    rw [List.intercalate_cons_cons, ih, List.flatMap_cons]
    simp

/-- The pieces are made of the elements of the list. -/
theorem mem_of_mem_splitn {sep a : α} {n : ℕ} {l piece : List α} (hpiece : piece ∈ splitn n sep l)
    (ha : a ∈ piece) : a ∈ l := by
  fun_induction splitn n sep l with
  | case1 => cases hpiece
  | case2 => rwa [List.mem_singleton.mp hpiece] at ha
  | case3 => rwa [List.mem_singleton.mp hpiece] at ha
  | case4 n sep l b rest hdrop ih =>
    rcases List.mem_cons.mp hpiece with rfl | hrest
    · exact (List.takeWhile_prefix _).subset ha
    · have hsuffix := (List.dropWhile_suffix (· ≠ sep) (l := l)).subset
      rw [hdrop] at hsuffix
      exact hsuffix (List.mem_cons_of_mem _ (ih hrest))

/-- No piece has the separator in it. -/
theorem not_mem_of_mem_splitOn {sep : α} {l piece : List α} (h : piece ∈ l.splitOn sep) :
    sep ∉ piece := by
  induction l generalizing piece with
  | nil =>
    rw [List.splitOn_nil, List.mem_singleton] at h
    rw [h]
    exact List.not_mem_nil
  | cons a l ih =>
    rw [List.splitOn_cons_eq_if_modifyHead] at h
    split at h
    · rcases List.mem_cons.mp h with rfl | h
      · exact List.not_mem_nil
      · exact ih h
    · rename_i hne
      obtain ⟨first, more, hsplit⟩ := List.exists_cons_of_ne_nil (List.splitOn_ne_nil sep l)
      rw [hsplit, List.modifyHead_cons] at h
      rw [hsplit] at ih
      rcases List.mem_cons.mp h with rfl | h
      · intro hmem
        rcases List.mem_cons.mp hmem with rfl | hmem
        · exact hne (beq_self_eq_true _)
        · exact ih List.mem_cons_self hmem
      · exact ih (List.mem_cons_of_mem _ h)

end TinTin.Lib
