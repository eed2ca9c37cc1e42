/-
  Items that are gathered under a key until they are complete, as the pieces of a message are by
  the receiver that puts it together. The first item of a batch opens it, and a complete batch is
  taken away.

  * `batch_suffix`: the open batch of a key has the last of the items with it.
  * `Each.joined`: what every item has to its opener, all items of a batch have.
  * `Orderly`: no owner joins the batch of another one. `batch_filter`: then gathering the items of
    one owner gives the batches of that owner.
-/
import Mathlib.Data.List.Induction
import Mathlib.Logic.Function.Basic

namespace TinTin.Lib

universe u v w

theorem filter_snoc_of_pos {α : Type u} (P : α → Prop) [DecidablePred P] {a : α} (h : P a)
    (l : List α) : (l ++ [a]).filter (fun b => P b) = l.filter (fun b => P b) ++ [a] := by
  rw [List.filter_append, List.filter_cons_of_pos (by simpa using h), List.filter_nil]

theorem filter_snoc_of_neg {α : Type u} (P : α → Prop) [DecidablePred P] {a : α} (h : ¬ P a)
    (l : List α) : (l ++ [a]).filter (fun b => P b) = l.filter (fun b => P b) := by
  rw [List.filter_append, List.filter_cons_of_neg (by simpa using h), List.filter_nil,
    List.append_nil]

/-- The last one of a kind is that of the end of the list, if there is one in it. -/
theorem getLast?_filter_of_suffix {α : Type u} {xs ys : List α} (h : xs <:+ ys) {p : α → Bool}
    {a : α} (ha : a ∈ xs) (hp : p a = true) : (ys.filter p).getLast? = (xs.filter p).getLast? := by
  obtain ⟨zs, rfl⟩ := h
  have hne : xs.filter p ≠ [] := List.ne_nil_of_mem (List.mem_filter.mpr ⟨ha, hp⟩)
  rw [List.filter_append, List.getLast?_append, List.getLast?_eq_some_getLast hne, Option.some_or]

/-- How items are gathered. Whether a batch is complete is seen from its items, in order. -/
structure Gathering (α : Type u) (κ : Type v) (σ : Type w) where
  key : α → κ
  owner : α → σ
  complete : List α → Bool

namespace Gathering

variable {α : Type u} {κ : Type v} {σ : Type w} [DecidableEq κ] (G : Gathering α κ σ)

/-- The open batches after one more item. -/
def add (batches : κ → List α) (a : α) : κ → List α :=
  let batch := batches (G.key a) ++ [a]
  Function.update batches (G.key a) (if G.complete batch then [] else batch)

/-- The open batch of a key after these items. -/
def batch (items : List α) : κ → List α := items.foldl G.add fun _ => []

/-- The batch that an item comes into, with it. -/
def joined (items : List α) (a : α) : List α := G.batch items (G.key a) ++ [a]

/-- The item that has opened it. -/
def opener (items : List α) (a : α) : α := (G.batch items (G.key a)).head?.getD a

/-- Every item stands in a relation to the one that has opened the batch it comes into. -/
def Each (R : α → α → Prop) (items : List α) : Prop :=
  ∀ before a after, items = before ++ a :: after → R (G.opener before a) a

/-- No item joins a batch that another owner has opened. -/
def Orderly (items : List α) : Prop := G.Each (fun o a => G.owner o = G.owner a) items

variable {G}

@[simp] theorem batch_nil (k : κ) : G.batch [] k = [] := rfl

theorem batch_snoc (items : List α) (a : α) :
    G.batch (items ++ [a]) = G.add (G.batch items) a := by
  rw [batch, List.foldl_append]
  rfl

theorem batch_snoc_self (items : List α) (a : α) : G.batch (items ++ [a]) (G.key a) =
    if G.complete (G.joined items a) then [] else G.joined items a := by
  rw [batch_snoc, add, Function.update_self]
  rfl

theorem batch_snoc_other (items : List α) {a : α} {k : κ} (h : k ≠ G.key a) :
    G.batch (items ++ [a]) k = G.batch items k := by
  rw [batch_snoc, add, Function.update_of_ne h]

/-- **The batch of a key has the last of its items.** -/
theorem batch_suffix (items : List α) (k : κ) :
    G.batch items k <:+ items.filter fun a => G.key a = k := by
  induction items using List.reverseRecOn with
  | nil => exact List.suffix_refl _
  | append_singleton items a ih =>
    by_cases hk : k = G.key a
    · subst hk
      rw [batch_snoc_self, filter_snoc_of_pos (fun b => G.key b = G.key a) rfl]
      split_ifs
      · exact List.nil_suffix
      · obtain ⟨earlier, h⟩ := ih
        exact ⟨earlier, by rw [← h, joined, List.append_assoc]⟩
    · rw [batch_snoc_other items hk, filter_snoc_of_neg (fun b => G.key b = k) fun h => hk h.symm]
      exact ih

theorem joined_suffix (items : List α) (a : α) :
    G.joined items a <:+ (items ++ [a]).filter fun b => G.key b = G.key a := by
  obtain ⟨earlier, h⟩ := G.batch_suffix items (G.key a)
  refine ⟨earlier, ?_⟩
  rw [joined, ← List.append_assoc, h, filter_snoc_of_pos (fun b => G.key b = G.key a) rfl]

theorem key_of_mem_joined {items : List α} {a b : α} (h : b ∈ G.joined items a) :
    G.key b = G.key a := by
  have hmem := (joined_suffix items a).mem h
  simpa using (List.mem_filter.mp hmem).2

theorem joined_eq_cons (items : List α) (a : α) :
    ∃ rest, G.joined items a = G.opener items a :: rest := by
  unfold joined opener
  cases G.batch items (G.key a) with
  | nil => exact ⟨[], rfl⟩
  | cons o rest => exact ⟨rest ++ [a], rfl⟩

theorem opener_mem_joined (items : List α) (a : α) : G.opener items a ∈ G.joined items a := by
  obtain ⟨rest, h⟩ := G.joined_eq_cons items a
  rw [h]
  exact List.mem_cons_self

theorem Each.init {R : α → α → Prop} {items : List α} {a : α} (h : G.Each R (items ++ [a])) :
    G.Each R items := by
  intro before b after heq
  exact h before b (after ++ [a]) (by rw [heq, List.append_assoc]; rfl)

theorem Each.nil {R : α → α → Prop} : G.Each R [] := by
  intro before a after heq
  exact absurd heq.symm (List.append_ne_nil_of_right_ne_nil _ (List.cons_ne_nil _ _))

theorem Each.snoc {R : α → α → Prop} {items : List α} {a : α} (h : G.Each R items)
    (ha : R (G.opener items a) a) : G.Each R (items ++ [a]) := by
  intro before b after heq
  rcases List.eq_nil_or_concat after with rfl | ⟨after', c, rfl⟩
  · obtain ⟨rfl, hab⟩ := List.append_inj' heq rfl
    obtain rfl := List.singleton_inj.mp hab
    exact ha
  · rw [List.concat_eq_append, ← List.cons_append, ← List.append_assoc] at heq
    exact h before b after' (List.append_inj' heq rfl).1

/-- The first item of an open batch stands in the relation to all of them. -/
theorem Each.batch {R : α → α → Prop} {items : List α} (h : G.Each R items) (k : κ) :
    ∀ o ∈ (G.batch items k).head?, ∀ b ∈ G.batch items k, R o b := by
  induction items using List.reverseRecOn generalizing k with
  | nil => exact fun o ho => absurd ho (by rw [batch_nil, List.head?_nil]; exact Option.not_mem_none o)
  | append_singleton items a ih =>
    by_cases hk : k = G.key a
    · subst hk
      rw [batch_snoc_self]
      split_ifs
      · exact fun o _ b hb => absurd hb List.not_mem_nil
      · intro o ho b hb
        obtain ⟨rest, hjoined⟩ := G.joined_eq_cons items a
        rw [hjoined, List.head?_cons, Option.mem_some_iff] at ho
        subst ho
        rcases List.mem_append.mp hb with hb | hb
        · refine ih h.init _ _ ?_ b hb
          obtain ⟨c, rest, heq⟩ := List.exists_cons_of_ne_nil (List.ne_nil_of_mem hb)
          rw [opener, heq]
          rfl
        · rw [List.mem_singleton.mp hb]
          exact h items a [] rfl
    · rw [batch_snoc_other items hk]
      exact ih h.init k

theorem Each.joined {R : α → α → Prop} {items : List α} {a : α} (h : G.Each R (items ++ [a]))
    {b : α} (hb : b ∈ G.joined items a) : R (G.opener items a) b := by
  rcases List.mem_append.mp hb with hb | hb
  · refine h.init.batch _ _ ?_ b hb
    obtain ⟨c, rest, heq⟩ := List.exists_cons_of_ne_nil (List.ne_nil_of_mem hb)
    rw [opener, heq]
    rfl
  · rw [List.mem_singleton.mp hb]
    exact h items a [] rfl

/-- All items of a batch, and one that joins it, have the same owner. -/
theorem Orderly.owner_joined {items : List α} {a : α} (h : G.Orderly (items ++ [a])) {b : α}
    (hb : b ∈ G.joined items a) : G.owner b = G.owner a := by
  have ha : a ∈ G.joined items a := List.mem_append_right _ (List.mem_singleton_self a)
  exact (Each.joined h hb).symm.trans (Each.joined h ha)

variable [DecidableEq σ]

/-- **Gathering the items of one owner** gives the batches of that owner, where no owner joins the
    batch of another one. -/
theorem batch_filter {items : List α} (h : G.Orderly items) (s : σ) (k : κ) :
    G.batch (items.filter fun a => G.owner a = s) k =
      (G.batch items k).filter fun a => G.owner a = s := by
  induction items using List.reverseRecOn generalizing k with
  | nil => rfl
  | append_singleton items a ih =>
    have hjoined := fun b (hb : b ∈ G.joined items a) => h.owner_joined hb
    have ih := ih (Each.init h)
    by_cases hs : G.owner a = s
    · rw [filter_snoc_of_pos (fun b => G.owner b = s) hs]
      have hall : (G.joined items a).filter (fun b => G.owner b = s) = G.joined items a :=
        List.filter_eq_self.mpr fun b hb => decide_eq_true ((hjoined b hb).trans hs)
      have hsame : G.joined (items.filter fun b => G.owner b = s) a = G.joined items a := by
        rw [← hall, joined, ih, joined, filter_snoc_of_pos (fun b => G.owner b = s) hs]
      by_cases hk : k = G.key a
      · subst hk
        rw [batch_snoc_self, batch_snoc_self, hsame]
        split_ifs
        · rfl
        · exact hall.symm
      · rw [batch_snoc_other _ hk, batch_snoc_other _ hk, ih]
    · rw [filter_snoc_of_neg (fun b => G.owner b = s) hs, ih]
      by_cases hk : k = G.key a
      · subst hk
        have hnone : ∀ xs, xs ⊆ G.joined items a → xs.filter (fun b => G.owner b = s) = [] := by
          intro xs hxs
          refine List.filter_eq_nil_iff.mpr fun b hb => ?_
          rw [hjoined b (hxs hb)]
          simpa using hs
        rw [batch_snoc_self, hnone _ (List.subset_append_left _ _)]
        split_ifs
        · rfl
        · exact (hnone _ (List.Subset.refl _)).symm
      · rw [batch_snoc_other _ hk]

/-- What an item joins is the same when only its owner's items are gathered. -/
theorem joined_filter {items : List α} {a : α} (h : G.Orderly (items ++ [a])) :
    G.joined (items.filter fun b => G.owner b = G.owner a) a = G.joined items a := by
  rw [joined, batch_filter (Each.init h), joined]
  congr 1
  refine List.filter_eq_self.mpr fun b hb => decide_eq_true ?_
  exact h.owner_joined (List.mem_append_left _ hb)

end Gathering

end TinTin.Lib
