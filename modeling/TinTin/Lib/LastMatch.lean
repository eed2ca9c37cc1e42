/-
  The last element of a list that passes a test.

  `modifyLast` changes that element, searching from the end; `lastMatch` is its place. A change at
  one place and a change at another are the same only if neither changes anything
  (`modifyAt_eq_iff`).
-/
import Mathlib.Data.List.Induction

namespace TinTin.Lib

variable {α : Type}

/-- Change the last element that passes, if there is one. -/
def modifyLast (p : α → Bool) (f : α → α) (l : List α) : List α :=
  (l.reverse.modify (l.reverse.findIdx p) f).reverse

/-- The places of the elements that pass. -/
def places (p : α → Bool) (l : List α) : List ℕ :=
  (l.zipIdx.filter fun a => p a.1).map Prod.snd

/-- The place of the last element that passes. -/
def lastMatch (p : α → Bool) (l : List α) : Option ℕ := (places p l).getLast?

/-- Change the element at the place, if there is one. -/
def modifyAt (f : α → α) (l : List α) : Option ℕ → List α
  | none => l
  | some j => l.modify j f

/-- The change leaves the element at the place as it is. -/
def FixedAt (f : α → α) (l : List α) (place : Option ℕ) : Prop :=
  ∀ j ∈ place, ∀ a ∈ l[j]?, f a = a

variable {p : α → Bool} {f : α → α} {l : List α}

/-! ## Places -/

theorem places_snoc_of_pos {a : α} (ha : p a = true) :
    places p (l ++ [a]) = places p l ++ [l.length] := by
  unfold places
  rw [List.zipIdx_append, List.filter_append, List.map_append]
  simp [ha]

theorem places_append_of_neg {l' : List α} (h : ∀ a ∈ l', p a = false) :
    places p (l ++ l') = places p l := by
  unfold places
  rw [List.zipIdx_append, List.filter_append, List.map_append]
  have hnone : (l'.zipIdx (0 + l.length)).filter (fun a => p a.1) = [] := by
    rw [List.filter_eq_nil_iff]
    intro a ha
    rw [h a.1 (List.fst_mem_of_mem_zipIdx ha)]
    exact Bool.false_ne_true
  rw [hnone, List.map_nil, List.append_nil]

/-- The places depend on what passes alone. -/
theorem places_congr {l' : List α} (h : l'.map p = l.map p) : places p l' = places p l := by
  have hmap : ∀ l : List α, places p l = ((l.map p).zipIdx.filter fun a => a.1).map Prod.snd := by
    intro l
    unfold places
    rw [List.zipIdx_map, List.filter_map, List.map_map]
    rfl
  rw [hmap, hmap, h]

theorem places_modifyAt (hf : ∀ a, p (f a) = p a) (place : Option ℕ) :
    places p (modifyAt f l place) = places p l := by
  apply places_congr
  cases place with
  | none => rfl
  | some j =>
    show (l.modify j f).map p = l.map p
    apply List.ext_getElem?
    intro i
    rw [List.getElem?_map, List.getElem?_map, List.getElem?_modify]
    cases l[i]? with
    | none => rfl
    | some a =>
      show some (p (if j = i then f a else a)) = some (p a)
      split
      · rw [hf]
      · rfl

/-! ## At the end of a list -/

theorem modifyLast_snoc_of_pos {a : α} (ha : p a = true) :
    modifyLast p f (l ++ [a]) = l ++ [f a] := by
  unfold modifyLast
  rw [List.reverse_append, List.reverse_singleton, List.singleton_append, List.findIdx_cons, ha]
  change (f a :: l.reverse).reverse = _
  rw [List.reverse_cons, List.reverse_reverse]

theorem modifyLast_snoc_of_neg {a : α} (ha : p a = false) :
    modifyLast p f (l ++ [a]) = modifyLast p f l ++ [a] := by
  unfold modifyLast
  rw [List.reverse_append, List.reverse_singleton, List.singleton_append, List.findIdx_cons, ha]
  change (a :: l.reverse.modify (l.reverse.findIdx p) f).reverse = _
  rw [List.reverse_cons]

theorem lastMatch_snoc_of_pos {a : α} (ha : p a = true) :
    lastMatch p (l ++ [a]) = some l.length := by
  unfold lastMatch
  rw [places_snoc_of_pos ha, List.getLast?_concat]

theorem lastMatch_snoc_of_neg {a : α} (ha : p a = false) :
    lastMatch p (l ++ [a]) = lastMatch p l := by
  unfold lastMatch
  rw [places_append_of_neg (by simpa using ha)]

theorem lastMatch_lt {j : ℕ} (h : lastMatch p l = some j) : j < l.length := by
  induction l using List.reverseRecOn with
  | nil => cases h
  | append_singleton l a ih =>
    rw [List.length_append, List.length_singleton]
    cases ha : p a with
    | true =>
      rw [lastMatch_snoc_of_pos ha] at h
      have := Option.some.inj h
      omega
    | false =>
      rw [lastMatch_snoc_of_neg ha] at h
      have := ih h
      omega

/-- **The search from the end** finds the last place. -/
theorem modifyLast_eq (p : α → Bool) (f : α → α) (l : List α) :
    modifyLast p f l = modifyAt f l (lastMatch p l) := by
  induction l using List.reverseRecOn with
  | nil => rfl
  | append_singleton l a ih =>
    cases ha : p a with
    | true =>
      rw [modifyLast_snoc_of_pos ha, lastMatch_snoc_of_pos ha]
      show l ++ [f a] = (l ++ [a]).modify l.length f
      rw [List.modify_eq_take_drop]
      simp
    | false =>
      rw [modifyLast_snoc_of_neg ha, lastMatch_snoc_of_neg ha, ih]
      cases hl : lastMatch p l with
      | none => rfl
      | some j =>
        have hj := lastMatch_lt hl
        show l.modify j f ++ [a] = (l ++ [a]).modify j f
        apply List.ext_getElem?
        intro i
        rw [List.getElem?_modify, List.getElem?_append, List.getElem?_append, List.length_modify]
        split
        · rw [List.getElem?_modify]
        · have hij : j ≠ i := by omega
          simp [hij]

/-! ## Changes at two places -/

theorem getElem?_modifyAt (place : Option ℕ) (i : ℕ) :
    (modifyAt f l place)[i]? = if place = some i then l[i]?.map f else l[i]? := by
  cases place with
  | none => rfl
  | some j =>
    show (l.modify j f)[i]? = _
    rw [List.getElem?_modify]
    by_cases hij : j = i
    · subst hij
      simp
    · simp [hij]

theorem modifyAt_eq_self {place : Option ℕ} (h : FixedAt f l place) : modifyAt f l place = l := by
  apply List.ext_getElem?
  intro i
  rw [getElem?_modifyAt]
  split
  · rename_i hplace
    cases hi : l[i]? with
    | none => rfl
    | some a => rw [Option.map_some, h i hplace a hi]
  · rfl

/-- **Two changes** are the same at one place, and where neither changes anything. -/
theorem modifyAt_eq_iff (a b : Option ℕ) :
    modifyAt f l a = modifyAt f l b ↔ a = b ∨ FixedAt f l a ∧ FixedAt f l b := by
  constructor
  · intro h
    by_cases hab : a = b
    · exact .inl hab
    refine .inr ⟨fun j hj x hx => ?_, fun j hj x hx => ?_⟩
    · have hget := congrArg (·[j]?) h
      rw [getElem?_modifyAt, getElem?_modifyAt, if_pos (Option.mem_def.mp hj),
        if_neg (fun hb => hab ((Option.mem_def.mp hj).trans hb.symm)),
        hx] at hget
      exact Option.some.inj hget
    · have hget := congrArg (·[j]?) h
      rw [getElem?_modifyAt, getElem?_modifyAt,
        if_neg (fun ha => hab (ha.trans (Option.mem_def.mp hj).symm)),
        if_pos (Option.mem_def.mp hj),
        hx] at hget
      exact (Option.some.inj hget).symm
  · rintro (rfl | ⟨ha, hb⟩)
    · rfl
    · rw [modifyAt_eq_self ha, modifyAt_eq_self hb]

end TinTin.Lib
