/-
  Tables with an auto-incremented integer key.

  A table keeps the last id it gave out and its rows in id order. That the ids ascend and
  never pass the last one are fields, so a table in which an id is used twice or comes out of
  order cannot be built. Selecting by a condition therefore lists rows by ascending id.

  * `insert`, `insertAll`: rows under the next ids. `deleteWhere`: the rows meeting a condition go, and
    their ids are not given out again. `updateWhere`: they change and keep their ids.
  * `get?_insert`, `get?_updateWhere`: the row of an id after a change.
  * `select_insert`, `select_deleteWhere`: what a selection sees after a change.
  * `insert_ne`, `deleteWhere_eq_self`: which changes are none.
-/
import Mathlib.Data.Int.Basic
import Mathlib.Data.List.Induction
import Mathlib.Data.List.Nodup

namespace TinTin.Lib

universe u

/-- A table keyed by an integer that the table assigns, in ascending order. -/
@[ext] structure AutoTable (ρ : Type u) where
  lastId : ℤ
  rows : List (ℤ × ρ)
  sorted : (rows.map Prod.fst).Pairwise (· < ·)
  bounded : ∀ r ∈ rows, r.1 ≤ lastId

namespace AutoTable

variable {ρ : Type u}

/-- The table before its first insertion. -/
def empty : AutoTable ρ where
  lastId := 0
  rows := []
  sorted := .nil
  bounded := by simp

/-- Append a row under the next id. -/
def insert (t : AutoTable ρ) (r : ρ) : AutoTable ρ where
  lastId := t.lastId + 1
  rows := t.rows ++ [(t.lastId + 1, r)]
  sorted := by
    rw [List.map_append, List.pairwise_append]
    refine ⟨t.sorted, by simp, ?_⟩
    intro a ha b hb
    obtain ⟨x, hx, rfl⟩ := List.mem_map.mp ha
    have hle := t.bounded x hx
    rw [List.map_singleton, List.mem_singleton] at hb
    subst hb
    show x.1 < t.lastId + 1
    omega
  bounded := by
    intro x hx
    rcases List.mem_append.mp hx with hx | hx
    · have := t.bounded x hx
      omega
    · rw [List.mem_singleton] at hx
      subst hx
      exact Int.le_refl (t.lastId + 1)

/-- Append rows under the next ids, in order. -/
def insertAll (t : AutoTable ρ) (rs : List ρ) : AutoTable ρ := rs.foldl insert t

/-- Delete the rows that meet a condition. -/
def deleteWhere (t : AutoTable ρ) (p : ℤ × ρ → Bool) : AutoTable ρ where
  lastId := t.lastId
  rows := t.rows.filter fun r => !p r
  sorted := t.sorted.sublist (List.filter_sublist.map _)
  bounded r hr := t.bounded r (List.mem_filter.mp hr).1

/-- The rows that meet a condition, by ascending id. -/
def select (t : AutoTable ρ) (p : ℤ × ρ → Bool) : List (ℤ × ρ) := t.rows.filter p

/-- Change the rows that meet a condition; their ids stay. -/
def updateWhere (t : AutoTable ρ) (p : ℤ × ρ → Bool) (f : ρ → ρ) : AutoTable ρ where
  lastId := t.lastId
  rows := t.rows.map fun r => if p r then (r.1, f r.2) else r
  sorted := by
    have hids : (t.rows.map fun r => if p r then (r.1, f r.2) else r).map Prod.fst =
        t.rows.map Prod.fst := by
      rw [List.map_map]
      refine List.map_congr_left fun r _ => ?_
      show (if p r then (r.1, f r.2) else r).1 = r.1
      split <;> rfl
    rw [hids]
    exact t.sorted
  bounded := by
    intro x hx
    obtain ⟨r, hr, rfl⟩ := List.mem_map.mp hx
    have hle := t.bounded r hr
    split <;> exact hle

/-- The row with an id, if there is one. -/
def get? (t : AutoTable ρ) (id : ℤ) : Option ρ := (t.rows.find? (·.1 == id)).map Prod.snd

@[simp] theorem rows_empty : (empty : AutoTable ρ).rows = [] := rfl

theorem rows_insert (t : AutoTable ρ) (r : ρ) :
    (t.insert r).rows = t.rows ++ [(t.lastId + 1, r)] := rfl

theorem rows_deleteWhere (t : AutoTable ρ) (p : ℤ × ρ → Bool) :
    (t.deleteWhere p).rows = t.rows.filter fun r => !p r := rfl

theorem select_insert (t : AutoTable ρ) (r : ρ) (p : ℤ × ρ → Bool) :
    (t.insert r).select p =
      t.select p ++ if p (t.lastId + 1, r) then [(t.lastId + 1, r)] else [] := by
  unfold select insert
  rw [List.filter_append]
  by_cases h : p (t.lastId + 1, r) <;> simp [h]

theorem select_deleteWhere (t : AutoTable ρ) (p q : ℤ × ρ → Bool) :
    (t.deleteWhere q).select p = (t.select p).filter fun r => !q r := by
  unfold select deleteWhere
  rw [List.filter_filter, List.filter_filter]
  congr 1
  funext r
  exact Bool.and_comm _ _

/-- An insertion is never without effect. -/
theorem insert_ne (t : AutoTable ρ) (r : ρ) : t.insert r ≠ t := by
  intro h
  have hid : t.lastId + 1 = t.lastId := congrArg AutoTable.lastId h
  omega

theorem lastId_insertAll (t : AutoTable ρ) (rs : List ρ) :
    (t.insertAll rs).lastId = t.lastId + rs.length := by
  induction rs using List.reverseRecOn with
  | nil => simp [insertAll]
  | append_singleton rs r ih =>
    have hsnoc : t.insertAll (rs ++ [r]) = (t.insertAll rs).insert r := List.foldl_append
    rw [hsnoc, List.length_append, List.length_singleton]
    show (t.insertAll rs).lastId + 1 = _
    rw [ih]
    omega

/-- The rows of several insertions, with their ids. -/
theorem rows_insertAll_mapIdx (t : AutoTable ρ) (rs : List ρ) :
    (t.insertAll rs).rows = t.rows ++ rs.mapIdx fun i r => (t.lastId + 1 + (i : ℤ), r) := by
  induction rs using List.reverseRecOn with
  | nil => simp [insertAll]
  | append_singleton rs r ih =>
    have hsnoc : t.insertAll (rs ++ [r]) = (t.insertAll rs).insert r := List.foldl_append
    rw [hsnoc, rows_insert, ih, lastId_insertAll, List.mapIdx_concat, List.append_assoc,
      Int.add_right_comm]

/-- The rows of several insertions come after the others. -/
theorem rows_insertAll (t : AutoTable ρ) (rs : List ρ) :
    ∃ new, (t.insertAll rs).rows = t.rows ++ new ∧ new.map Prod.snd = rs := by
  refine ⟨_, rows_insertAll_mapIdx t rs, ?_⟩
  refine List.ext_getElem (by simp) fun i _ _ => ?_
  rw [List.getElem_map, List.getElem_mapIdx]

/-- An id belongs to one row. -/
theorem eq_of_fst_eq {t : AutoTable ρ} {r r' : ℤ × ρ} (hr : r ∈ t.rows) (hr' : r' ∈ t.rows)
    (h : r.1 = r'.1) : r = r' :=
  List.inj_on_of_nodup_map (t.sorted.imp fun h => Int.ne_of_lt h) hr hr' h

theorem get?_eq_some {t : AutoTable ρ} {id : ℤ} {r : ρ} : t.get? id = some r ↔ (id, r) ∈ t.rows := by
  unfold get?
  constructor
  · intro h
    obtain ⟨x, hx, rfl⟩ := Option.map_eq_some_iff.mp h
    have hid : x.1 = id := by simpa using List.find?_some hx
    rw [← hid]
    exact List.mem_of_find?_eq_some hx
  · intro h
    cases hx : t.rows.find? (·.1 == id) with
    | none =>
      have := List.find?_eq_none.mp hx (id, r) h
      simp at this
    | some x =>
      have hid : x.1 = id := by simpa using List.find?_some hx
      have hxr : x = (id, r) := eq_of_fst_eq (List.mem_of_find?_eq_some hx) h hid
      rw [Option.map_some, hxr]

theorem get?_eq_none {t : AutoTable ρ} {id : ℤ} (h : t.lastId < id) : t.get? id = none := by
  unfold get?
  rw [Option.map_eq_none_iff, List.find?_eq_none]
  intro x hx he
  have hle := t.bounded x hx
  have : x.1 = id := by simpa using he
  omega

theorem get?_insert (t : AutoTable ρ) (r : ρ) (id : ℤ) :
    (t.insert r).get? id = if id = t.lastId + 1 then some r else t.get? id := by
  by_cases h : id = t.lastId + 1
  · subst h
    rw [if_pos rfl, get?_eq_some, rows_insert]
    exact List.mem_append_right _ (List.mem_singleton.mpr rfl)
  · rw [if_neg h]
    unfold get?
    rw [rows_insert, List.find?_append, List.find?_singleton]
    have : ((t.lastId + 1, r).1 == id) = false := by simpa using fun he => h he.symm
    rw [this]
    simp

/-- Changing the row of one id leaves the others as they are. -/
theorem get?_updateWhere (t : AutoTable ρ) (f : ρ → ρ) (id id' : ℤ) :
    (t.updateWhere (fun r => r.1 == id) f).get? id' =
      if id' = id then (t.get? id').map f else t.get? id' := by
  unfold get? updateWhere
  dsimp only
  rw [List.find?_map, Option.map_map]
  have hp : ((fun x : ℤ × ρ => x.1 == id') ∘ fun r => if r.1 == id then (r.1, f r.2) else r) =
      fun x => x.1 == id' := by
    funext x
    by_cases hx : x.1 = id <;> simp [hx]
  rw [hp]
  cases hx : t.rows.find? (·.1 == id') with
  | none => simp
  | some x =>
    have hid : x.1 = id' := by simpa using List.find?_some hx
    by_cases h : id' = id <;> simp [hid, h]

theorem deleteWhere_congr {t : AutoTable ρ} {p q : ℤ × ρ → Bool}
    (h : ∀ r ∈ t.rows, p r = q r) : t.deleteWhere p = t.deleteWhere q := by
  ext1
  · rfl
  · exact List.filter_congr fun r hr => by rw [h r hr]

theorem deleteWhere_eq_self {t : AutoTable ρ} {p : ℤ × ρ → Bool}
    (h : t.select p = []) : t.deleteWhere p = t := by
  have hnone : ∀ r ∈ t.rows, ¬ p r = true := List.filter_eq_nil_iff.mp h
  ext1
  · rfl
  · show t.rows.filter (fun r => !p r) = t.rows
    rw [List.filter_eq_self]
    intro r hr
    simpa using hnone r hr

theorem deleteWhere_eq_self_iff {t : AutoTable ρ} {p : ℤ × ρ → Bool} :
    t.deleteWhere p = t ↔ t.select p = [] := by
  refine ⟨fun h => ?_, deleteWhere_eq_self⟩
  unfold select
  rw [← congrArg AutoTable.rows h, rows_deleteWhere, List.filter_filter, List.filter_eq_nil_iff]
  intro r _
  simp

end AutoTable

end TinTin.Lib
