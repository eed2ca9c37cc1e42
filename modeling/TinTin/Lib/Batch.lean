/-
  Loops over a batch of items that an item can end.

  The body says whether to go on, and leaves a state also where it ends the loop. Each item
  has an owner, and the owner has a view of the state. If only its own items change the view
  (`Local`), the loop gives it the effect of those of its items that are reached
  (`Local.view_run`); so a batch serves the owner like its own items alone exactly if the
  items which only one of the two runs reaches have no effect on the view
  (`isolated_iff`).

  * `reached_take`: the loop gets as far into the front of a batch as into the batch.
  * `filter_reached_single`: when an owner's one item is reached.
  * `firsts`: a list without its repeats.
-/
import Mathlib.Data.List.Basic
import Mathlib.Data.List.Induction

namespace TinTin.Lib.Batch

universe u v w

variable {σ : Type u} {ε : Type v} {ν : Type w}

/-- The body of a loop, by the place in the batch: whether it goes on, and the state. -/
abbrev Body (σ : Type u) (ε : Type v) := ℕ → σ → ε → Bool × σ

/-- The state after the items from a place on. -/
def run (body : Body σ ε) : ℕ → σ → List ε → σ
  | _, s, [] => s
  | i, s, e :: rest =>
    if (body i s e).1 then run body (i + 1) (body i s e).2 rest else (body i s e).2

/-- The items the loop gets to, the one that ends it included. -/
def reached (body : Body σ ε) : ℕ → σ → List ε → List ε
  | _, _, [] => []
  | i, s, e :: rest =>
    e :: if (body i s e).1 then reached body (i + 1) (body i s e).2 rest else []

theorem reached_front (body : Body σ ε) (i : ℕ) (s : σ) (batch : List ε) :
    reached body i s batch <+: batch := by
  induction batch generalizing i s with
  | nil => exact List.prefix_rfl
  | cons e rest ih =>
    unfold reached
    split
    · exact List.prefix_cons_inj e |>.mpr (ih _ _)
    · exact List.prefix_cons_inj e |>.mpr List.nil_prefix

/-- The loop gets past the items. -/
def goesOn (body : Body σ ε) : ℕ → σ → List ε → Bool
  | _, _, [] => true
  | i, s, e :: rest => (body i s e).1 && goesOn body (i + 1) (body i s e).2 rest

/-- What is behind some items is reached if the loop gets past them. -/
theorem reached_append (body : Body σ ε) (i : ℕ) (s : σ) (xs ys : List ε) :
    reached body i s (xs ++ ys) = reached body i s xs ++
      if goesOn body i s xs then reached body (i + xs.length) (run body i s xs) ys else [] := by
  induction xs generalizing i s with
  | nil => rfl
  | cons e rest ih =>
    rw [List.cons_append, reached, reached, goesOn, run]
    cases (body i s e).1 with
    | false => rfl
    | true =>
      have hlen : i + 1 + rest.length = i + (e :: rest).length := by
        rw [List.length_cons]
        omega
      rw [if_pos rfl, if_pos rfl, if_pos rfl, ih, hlen, Bool.true_and, List.cons_append]

/-- The one item of an owner is reached if the loop gets past those before it. -/
theorem filter_reached_single (body : Body σ ε) {mine : ε → Bool} (i : ℕ) (s : σ)
    {xs ys : List ε} {e : ε} (he : mine e = true) (hxs : ∀ x ∈ xs, mine x = false)
    (hys : ∀ y ∈ ys, mine y = false) :
    (reached body i s (xs ++ e :: ys)).filter mine = if goesOn body i s xs then [e] else [] := by
  have hnone : ∀ {i s} {l : List ε}, (∀ x ∈ l, mine x = false) →
      (reached body i s l).filter mine = [] := by
    intro i s l hl
    rw [List.filter_eq_nil_iff]
    intro x hx
    rw [hl x ((reached_front body i s l).subset hx)]
    exact Bool.false_ne_true
  rw [reached_append, List.filter_append, hnone hxs, List.nil_append]
  split
  · unfold reached
    rw [List.filter_cons_of_pos he]
    split
    · rw [hnone hys]
    · rfl
  · rfl

/-- From the states that are `good`, only the owner's items change its view, and by `act`. -/
structure Local (body : Body σ ε) (good : σ → Prop) (mine : ε → Bool) (view : σ → ν)
    (act : ν → ε → ν) : Prop where
  keeps : ∀ i s e, good s → good (body i s e).2
  own : ∀ i s e, good s → mine e = true → view (body i s e).2 = act (view s) e
  other : ∀ i s e, good s → mine e = false → view (body i s e).2 = view s

/-- The loop gets as far into the front of a batch as into the batch. -/
theorem reached_take (body : Body σ ε) (i : ℕ) (s : σ) (batch : List ε) (k : ℕ) :
    reached body i s (batch.take k) = (reached body i s batch).take k := by
  induction batch generalizing i s k with
  | nil => simp [reached]
  | cons e rest ih =>
    cases k with
    | zero => rfl
    | succ k =>
      rw [List.take_succ_cons]
      unfold reached
      rw [List.take_succ_cons]
      split
      · rw [ih]
      · rw [List.take_nil]

/-- The first occurrences in a list, in order. -/
def firsts [DecidableEq ε] (l : List ε) : List ε :=
  l.foldl (fun seen e => if e ∈ seen then seen else seen ++ [e]) []

theorem firsts_snoc [DecidableEq ε] (l : List ε) (e : ε) :
    firsts (l ++ [e]) = if e ∈ firsts l then firsts l else firsts l ++ [e] := by
  unfold firsts
  rw [List.foldl_append]
  rfl

theorem mem_firsts [DecidableEq ε] {l : List ε} {e : ε} : e ∈ firsts l ↔ e ∈ l := by
  induction l using List.reverseRecOn with
  | nil => simp [firsts]
  | append_singleton l x ih =>
    rw [firsts_snoc]
    by_cases hx : x ∈ firsts l
    · rw [if_pos hx, ih, List.mem_append, List.mem_singleton]
      constructor
      · exact Or.inl
      · rintro (h | rfl)
        · exact h
        · exact ih.mp hx
    · rw [if_neg hx, List.mem_append, List.mem_append, ih]

theorem firsts_append [DecidableEq ε] (l l' : List ε) : firsts l <+: firsts (l ++ l') := by
  induction l' using List.reverseRecOn with
  | nil =>
    have hsame : firsts (l ++ []) = firsts l := by rw [List.append_nil]
    exact hsame ▸ List.prefix_rfl
  | append_singleton l' x ih =>
    rw [← List.append_assoc, firsts_snoc]
    split
    · exact ih
    · exact ih.trans (List.prefix_append _ _)

variable {body body' : Body σ ε} {good : σ → Prop} {mine : ε → Bool} {view : σ → ν}
  {act : ν → ε → ν} {s : σ}

/-- The owner sees the effect of its items that are reached. -/
theorem Local.view_run (h : Local body good mine view act) (hs : good s) (i : ℕ)
    (batch : List ε) :
    view (run body i s batch) = ((reached body i s batch).filter mine).foldl act (view s) := by
  induction batch generalizing i s with
  | nil => rfl
  | cons e rest ih =>
    unfold run reached
    by_cases hon : (body i s e).1 = true
    · rw [if_pos hon, if_pos hon, ih (h.keeps i s e hs)]
      cases hm : mine e with
      | true =>
        rw [List.filter_cons_of_pos hm, List.foldl_cons, h.own i s e hs hm]
      | false =>
        rw [List.filter_cons_of_neg (by rw [hm]; exact Bool.false_ne_true),
          h.other i s e hs hm]
    · rw [if_neg hon, if_neg hon]
      cases hm : mine e with
      | true =>
        rw [List.filter_cons_of_pos hm, h.own i s e hs hm]
        rfl
      | false =>
        rw [List.filter_cons_of_neg (by rw [hm]; exact Bool.false_ne_true),
          h.other i s e hs hm]
        rfl

/-- The state stays good. -/
theorem Local.run_good (h : Local body good mine view act) (hs : good s) (i : ℕ)
    (batch : List ε) : good (run body i s batch) := by
  induction batch generalizing i s with
  | nil => exact hs
  | cons e rest ih =>
    unfold run
    split
    · exact ih (h.keeps i s e hs) (i + 1)
    · exact h.keeps i s e hs

/-- The items at the front of both lists. -/
def common (l l' : List ε) : List ε := l.take l'.length

/-- The items of the longer list behind them. -/
def surplus (l l' : List ε) : List ε := l.drop l'.length ++ l'.drop l.length

/-- Two runs along one list end alike exactly if what only one of them covers has no effect. -/
theorem foldl_eq_iff (act : ν → ε → ν) (v : ν) {l l' whole : List ε} (h : l <+: whole)
    (h' : l' <+: whole) :
    l.foldl act v = l'.foldl act v ↔
      (surplus l l').foldl act ((common l l').foldl act v) = (common l l').foldl act v := by
  unfold surplus common
  rcases List.prefix_or_prefix_of_prefix h h' with ⟨t, rfl⟩ | ⟨t, rfl⟩
  · rw [List.take_of_length_le (by simp), List.drop_eq_nil_of_le (by simp), List.drop_left,
      List.nil_append, List.foldl_append, eq_comm]
  · rw [List.take_left, List.drop_left, List.drop_eq_nil_of_le (by simp), List.append_nil,
      List.foldl_append]

/-- **Isolation.** A batch serves the owner as if only its own items were there, exactly if
    those of its items that only one of the two runs reaches have no effect on its view. -/
theorem isolated_iff (h : Local body good mine view act) (h' : Local body' good mine view act)
    (hs : good s) (i i' : ℕ) (batch : List ε) :
    view (run body i s batch) = view (run body' i' s (batch.filter mine)) ↔
      let full := (reached body i s batch).filter mine
      let alone := reached body' i' s (batch.filter mine)
      (surplus full alone).foldl act ((common full alone).foldl act (view s)) =
        (common full alone).foldl act (view s) := by
  have hfront := reached_front body' i' s (batch.filter mine)
  have halone : (reached body' i' s (batch.filter mine)).filter mine =
      reached body' i' s (batch.filter mine) := by
    rw [List.filter_eq_self]
    intro e he
    exact (List.mem_filter.mp (hfront.subset he)).2
  rw [h.view_run hs, h'.view_run hs, halone]
  exact foldl_eq_iff act (view s) ((reached_front body i s batch).filter mine) hfront

end TinTin.Lib.Batch
