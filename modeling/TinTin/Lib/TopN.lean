/-
  The first rows of an ordered query: `ORDER BY .. LIMIT n` over the rows that meet a condition.

  * `filter_insertionSort`: a stable sort and a filter commute.
  * `mem_topN_filter`: a row that stays, while others go, stays among the first `n`.
-/
import Mathlib.Data.List.Sort

namespace TinTin.Lib

variable {α : Type*} {r : α → α → Prop} [DecidableRel r]

/-- `ORDER BY r LIMIT n`; rows that `r` does not tell apart come in the order of the scan. -/
def topN (r : α → α → Prop) [DecidableRel r] (n : ℕ) (rows : List α) : List α :=
  (rows.insertionSort r).take n

theorem mem_of_mem_topN {n : ℕ} {rows : List α} {a : α} (h : a ∈ topN r n rows) : a ∈ rows :=
  (List.mem_insertionSort r).mp (List.mem_of_mem_take h)

/-- Inserting into a sorted list, then filtering. -/
theorem filter_orderedInsert (htrans : ∀ a b c, r a b → r b c → r a c) (p : α → Bool) (a : α)
    {l : List α} (hl : l.Pairwise r) :
    (l.orderedInsert r a).filter p =
      if p a then (l.filter p).orderedInsert r a else l.filter p := by
  induction l with
  | nil => by_cases ha : p a <;> simp [ha]
  | cons b l ih =>
    obtain ⟨hb, hl⟩ := List.pairwise_cons.mp hl
    by_cases hab : r a b
    · rw [List.orderedInsert_cons, if_pos hab]
      by_cases ha : p a
      · -- `a` is before all of the list, so also before what the filter leaves
        have hall : ∀ c ∈ (b :: l).filter p, r a c := by
          intro c hc
          rcases List.mem_cons.mp (List.mem_filter.mp hc).1 with rfl | hc
          · exact hab
          · exact htrans a b c hab (hb c hc)
        rw [List.filter_cons_of_pos ha, if_pos ha]
        generalize (b :: l).filter p = k at hall
        cases k with
        | nil => rfl
        | cons c k => rw [List.orderedInsert_cons, if_pos (hall c List.mem_cons_self)]
      · rw [List.filter_cons_of_neg ha, if_neg ha]
    · rw [List.orderedInsert_cons, if_neg hab]
      by_cases hb' : p b
      · rw [List.filter_cons_of_pos hb', List.filter_cons_of_pos hb', ih hl]
        by_cases ha : p a
        · rw [if_pos ha, if_pos ha, List.orderedInsert_cons, if_neg hab]
        · rw [if_neg ha, if_neg ha]
      · rw [List.filter_cons_of_neg hb', List.filter_cons_of_neg hb', ih hl]

/-- **A stable sort and a filter commute.** -/
theorem filter_insertionSort (htotal : ∀ a b, r a b ∨ r b a)
    (htrans : ∀ a b c, r a b → r b c → r a c) (p : α → Bool) (l : List α) :
    (l.insertionSort r).filter p = (l.filter p).insertionSort r := by
  induction l with
  | nil => rfl
  | cons a l ih =>
    have : Std.Total r := ⟨htotal⟩
    have : IsTrans α r := ⟨htrans⟩
    rw [List.insertionSort_cons, filter_orderedInsert htrans p a (List.pairwise_insertionSort r l),
      ih]
    by_cases ha : p a
    · rw [if_pos ha, List.filter_cons_of_pos ha, List.insertionSort_cons]
    · rw [if_neg ha, List.filter_cons_of_neg ha]

/-- What is among the first `n`, and stays in a filtered list, is among its first `n`. -/
theorem mem_take_filter {n : ℕ} {l : List α} {p : α → Bool} {a : α} (h : a ∈ l.take n)
    (ha : p a = true) : a ∈ (l.filter p).take n := by
  have hsplit : l.filter p = (l.take n).filter p ++ (l.drop n).filter p := by
    rw [← List.filter_append, List.take_append_drop]
  have hlen : ((l.take n).filter p).length ≤ n :=
    (List.length_filter_le p _).trans (List.length_take_le n l)
  rw [hsplit, List.take_append, List.take_of_length_le hlen]
  exact List.mem_append_left _ (List.mem_filter.mpr ⟨h, ha⟩)

/-- **A row that stays keeps its place among the first `n`** when the rows to choose from become
    fewer. -/
theorem mem_topN_filter (htotal : ∀ a b, r a b ∨ r b a)
    (htrans : ∀ a b c, r a b → r b c → r a c) {p q : α → Bool} (hpq : ∀ a, q a = true → p a = true)
    {n : ℕ} {rows : List α} {a : α} (h : a ∈ topN r n (rows.filter p)) (ha : q a = true) :
    a ∈ topN r n (rows.filter q) := by
  have hrows : rows.filter q = (rows.filter p).filter q := by
    rw [List.filter_filter]
    refine List.filter_congr fun b _ => ?_
    by_cases hb : q b
    · rw [hb, hpq b hb, Bool.and_true]
    · rw [Bool.eq_false_iff.mpr hb, Bool.false_and]
  unfold topN at h ⊢
  rw [hrows, ← filter_insertionSort htotal htrans]
  exact mem_take_filter h ha

end TinTin.Lib
