/-
  A list cut into chunks, and put together again from a table that was filled in any order.

  * `flatten_chunks`, `length_chunks`: the chunks of a list are `⌈length / n⌉` many, and
    together the list.
  * `length_eq_iff_full`: a table whose keys are among some has as many entries as there are
    only when it has them all.
-/
import Mathlib.Data.List.AList
import Mathlib.Data.List.Nodup

namespace TinTin.Lib

universe u v

variable {α : Type u}

/-! ## Cutting -/

/-- The list in pieces of `n` elements, the last one perhaps shorter. -/
def chunks (n : ℕ) (l : List α) : List (List α) :=
  if _h : l = [] ∨ n = 0 then [] else l.take n :: chunks n (l.drop n)
termination_by l.length
decreasing_by
  have := List.length_pos_iff.mpr (not_or.mp _h).1
  rw [List.length_drop]
  omega

theorem chunks_nil (n : ℕ) : chunks n ([] : List α) = [] := by
  rw [chunks, dif_pos (.inl rfl)]

theorem chunks_of_ne_nil {n : ℕ} (hn : 0 < n) {l : List α} (h : l ≠ []) :
    chunks n l = l.take n :: chunks n (l.drop n) := by
  rw [chunks, dif_neg]
  rintro (hl | hl)
  · exact h hl
  · omega

theorem flatten_chunks {n : ℕ} (hn : 0 < n) (l : List α) : (chunks n l).flatten = l := by
  induction l using chunks.induct n with
  | case1 l h =>
    rcases h with rfl | rfl
    · rw [chunks_nil]
      rfl
    · omega
  | case2 l h ih =>
    rw [chunks_of_ne_nil hn (not_or.mp h).1, List.flatten_cons, ih, List.take_append_drop]

/-- The number of pieces is the length divided by `n`, rounded up. -/
theorem length_chunks {n : ℕ} (hn : 0 < n) (l : List α) :
    (chunks n l).length = (l.length + n - 1) / n := by
  induction l using chunks.induct n with
  | case1 l h =>
    rcases h with rfl | rfl
    · rw [chunks_nil, List.length_nil, List.length_nil, Nat.zero_add,
        Nat.div_eq_of_lt (by omega)]
    · omega
  | case2 l h ih =>
    have hpos := List.length_pos_iff.mpr (not_or.mp h).1
    rw [chunks_of_ne_nil hn (not_or.mp h).1, List.length_cons, ih, List.length_drop]
    rcases Nat.lt_or_ge l.length n with hlt | hge
    · rw [show l.length - n + n - 1 = n - 1 by omega, Nat.div_eq_of_lt (by omega),
        show l.length + n - 1 = l.length - 1 + n by omega, Nat.add_div_right _ hn,
        Nat.div_eq_of_lt (by omega)]
    · rw [show l.length + n - 1 = l.length - n + n - 1 + n by omega, Nat.add_div_right _ hn]

/-! ## Putting together -/

/-- A table that has every piece in its place gives the list. -/
theorem flatMap_range_getD (pieces : List (List α)) :
    ∀ table : ℕ → Option (List α), (∀ i < pieces.length, table i = pieces[i]?) →
      ((List.range pieces.length).flatMap fun i => (table i).getD []) = pieces.flatten := by
  induction pieces with
  | nil => exact fun _ _ => rfl
  | cons x xs ih =>
    intro table h
    have hhead : table 0 = some x := h 0 (Nat.succ_pos _)
    have htail := ih (fun i => table (i + 1)) fun i hi => h (i + 1) (Nat.succ_lt_succ hi)
    rw [List.length_cons, List.range_succ_eq_map, List.flatMap_cons, List.flatMap_map, hhead,
      List.flatten_cons, ← htail]
    rfl

/-- **A table is full when its size says so**: its keys are different and among `keys`. -/
theorem length_eq_iff_full {β : α → Type v} [DecidableEq α] {table : AList β} {keys : List α}
    (hkeys : keys.Nodup) (hsub : ∀ k ∈ table, k ∈ keys) :
    table.entries.length = keys.length ↔ ∀ k ∈ keys, k ∈ table := by
  have hlen : table.entries.length = table.keys.length := (List.length_map ..).symm
  have hsub' : List.Subperm table.keys keys :=
    List.subperm_of_subset table.keys_nodup fun k hk => hsub k (AList.mem_keys.mpr hk)
  rw [hlen]
  constructor
  · intro h k hk
    exact AList.mem_keys.mpr ((hsub'.perm_of_length_le (Nat.le_of_eq h.symm)).mem_iff.mpr hk)
  · intro h
    have hsup : List.Subperm keys table.keys :=
      List.subperm_of_subset hkeys fun k hk => AList.mem_keys.mp (h k hk)
    exact Nat.le_antisymm hsub'.length_le hsup.length_le

end TinTin.Lib
