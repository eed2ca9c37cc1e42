/-
  Rows under a key, as a finite map.

  Putting a row takes out the row under its key and adds the new one; dropping a key takes its row
  out; altering a key changes its row.

  * `Holds`: there is at most one row under a key, the one of the map.
  * `Holds.put`, `Holds.drop`, `Holds.alter`: the changes on rows are the ones on maps.
  * `content_eq_some_iff`: after a history of edits there is, under a key, the row put there last, if
    the key has not been dropped since, as altered since.
-/
import Mathlib.Data.Finset.Card
import TinTin.Lib.Standing

namespace TinTin.Lib

variable {α κ : Type} [DecidableEq κ] {key : α → κ}

/-! ## Histories -/

/-- A change to what is under a key. -/
inductive Edit (α κ : Type)
  | put (a : α)
  | drop (k : κ)
  | alter (k : κ) (f : α → α)

/-- What an edit makes of a map. -/
def Edit.apply (key : α → κ) (m : κ → Option α) : Edit α κ → κ → Option α
  | .put a => Function.update m (key a) (some a)
  | .drop k => Function.update m k none
  | .alter k f => Function.update m k ((m k).map f)

/-- What is under the keys after a history, from nothing. -/
def content (key : α → κ) (edits : List (Edit α κ)) : κ → Option α :=
  edits.foldl (Edit.apply key) fun _ => none

theorem content_snoc (edits : List (Edit α κ)) (e : Edit α κ) :
    content key (edits ++ [e]) = e.apply key (content key edits) := by
  unfold content
  rw [List.foldl_append]
  rfl

/-- The edit puts something under the key or drops the key. -/
def Edit.Settles (key : α → κ) (k : κ) : Edit α κ → Prop
  | .put a => key a = k
  | .drop k' => k' = k
  | .alter _ _ => False

/-- What the edit puts. -/
def Edit.row : Edit α κ → Option α
  | .put a => some a
  | _ => none

/-- What the edit does to the row under the key, where it does not settle it. -/
def Edit.alteration (k : κ) : Edit α κ → α → α
  | .alter k' f => if k' = k then f else id
  | _ => id

/-- The row as altered by a history. -/
def altered (k : κ) (edits : List (Edit α κ)) (a : α) : α :=
  edits.foldl (fun a e => e.alteration k a) a

theorem altered_snoc (k : κ) (edits : List (Edit α κ)) (e : Edit α κ) (a : α) :
    altered k (edits ++ [e]) a = e.alteration k (altered k edits a) := by
  unfold altered
  rw [List.foldl_append]
  rfl

theorem altered_of_forall {k : κ} {edits : List (Edit α κ)} (h : ∀ e ∈ edits, e.alteration k = id)
    (a : α) : altered k edits a = a := by
  induction edits with
  | nil => rfl
  | cons e edits ih =>
    have hrest := ih fun e' he' => h e' (List.mem_cons_of_mem e he')
    unfold altered at hrest ⊢
    rw [List.foldl_cons, h e List.mem_cons_self]
    exact hrest

theorem Edit.apply_of_settles {k : κ} {e : Edit α κ} (h : e.Settles key k) (m : κ → Option α) :
    e.apply key m k = e.row := by
  cases e with
  | put a =>
    obtain rfl : key a = k := h
    exact Function.update_self ..
  | drop k' =>
    obtain rfl : k' = k := h
    exact Function.update_self ..
  | alter k' f => exact h.elim

theorem Edit.apply_of_not_settles {k : κ} {e : Edit α κ} (h : ¬ e.Settles key k)
    (m : κ → Option α) : e.apply key m k = (m k).map (e.alteration k) := by
  cases e with
  | put a =>
    have hne : k ≠ key a := fun heq => h heq.symm
    exact (Function.update_of_ne hne _ _).trans Option.map_id'.symm
  | drop k' =>
    have hne : k ≠ k' := fun heq => h heq.symm
    exact (Function.update_of_ne hne _ _).trans Option.map_id'.symm
  | alter k' f =>
    show Function.update m k' ((m k').map f) k = (m k).map (if k' = k then f else id)
    by_cases heq : k' = k
    · rw [heq, Function.update_self, if_pos rfl]
    · rw [Function.update_of_ne (Ne.symm heq), if_neg heq, Option.map_id, id]

/-- **What a history leaves under a key**: the row put there last, if the key was not dropped since,
    with the alterations since. -/
theorem content_eq_some_iff {edits : List (Edit α κ)} {k : κ} {a : α} :
    content key edits k = some a ↔ ∃ before a₀ since, edits = before ++ .put a₀ :: since ∧
      key a₀ = k ∧ (∀ e ∈ since, ¬ e.Settles key k) ∧ altered k since a₀ = a := by
  induction edits using List.reverseRecOn generalizing a with
  | nil => simp [content]
  | append_singleton edits e ih =>
    rw [content_snoc]
    by_cases hsettles : e.Settles key k
    · rw [Edit.apply_of_settles hsettles]
      constructor
      · intro h
        cases e with
        | put a₀ =>
          cases h
          exact ⟨edits, a, [], rfl, hsettles, by simp, rfl⟩
        | drop k' => cases h
        | alter k' f => cases h
      · rintro ⟨before, a₀, since, heq, -, hsince, haltered⟩
        rcases split_snoc heq with ⟨rfl, -, rfl⟩ | ⟨since', rfl, -⟩
        · exact congrArg some haltered
        · exact absurd hsettles (hsince e (List.mem_append_right _ (List.mem_singleton.mpr rfl)))
    · rw [Edit.apply_of_not_settles hsettles, Option.map_eq_some_iff]
      constructor
      · rintro ⟨b, hb, rfl⟩
        obtain ⟨before, a₀, since, rfl, hkey, hsince, rfl⟩ := ih.mp hb
        refine ⟨before, a₀, since ++ [e], by simp, hkey, fun e' he' => ?_, altered_snoc ..⟩
        rcases List.mem_append.mp he' with he' | he'
        · exact hsince e' he'
        · rw [List.mem_singleton.mp he']
          exact hsettles
      · rintro ⟨before, a₀, since, heq, hkey, hsince, rfl⟩
        rcases split_snoc heq with ⟨-, -, rfl⟩ | ⟨since', rfl, hfront⟩
        · exact absurd hkey hsettles
        · refine ⟨altered k since' a₀, ih.mpr ⟨before, a₀, since', hfront, hkey, ?_, rfl⟩, ?_⟩
          · exact fun e' he' => hsince e' (List.mem_append_left _ he')
          · rw [altered_snoc]

/-! ## Rows -/

/-- **The rows are the map**: no two under one key, and under each key what the map has. -/
structure Holds (key : α → κ) (rows : List α) (m : κ → Option α) : Prop where
  nodup : (rows.map key).Nodup
  find : ∀ k, rows.find? (fun a => key a == k) = m k

namespace Holds

variable {rows : List α} {m : κ → Option α}

theorem nil : Holds key [] fun _ => none := ⟨List.nodup_nil, fun _ => rfl⟩

theorem key_eq (h : Holds key rows m) {k : κ} {a : α} (ha : m k = some a) : key a = k := by
  rw [← h.find] at ha
  have hhit : (key a == k) = true := List.find?_some (p := fun a => key a == k) ha
  exact beq_iff_eq.mp hhit

/-- The rows are those of the map, each under its key. -/
theorem mem_iff (h : Holds key rows m) {a : α} : a ∈ rows ↔ m (key a) = some a := by
  rw [← h.find]
  constructor
  · intro ha
    cases hfind : rows.find? (fun b => key b == key a) with
    | none => exact absurd (beq_self_eq_true (key a)) (List.find?_eq_none.mp hfind a ha)
    | some b =>
      have hkey : key b = key a :=
        beq_iff_eq.mp (List.find?_some (p := fun b => key b == key a) hfind)
      have hb : b ∈ rows := List.mem_of_find?_eq_some hfind
      rw [List.inj_on_of_nodup_map h.nodup hb ha hkey]
  · exact List.mem_of_find?_eq_some

/-- There are as many rows as keys in the map. -/
theorem length_eq (h : Holds key rows m) :
    ∃ live : Finset κ, (∀ k, k ∈ live ↔ (m k).isSome = true) ∧ rows.length = live.card := by
  refine ⟨(rows.map key).toFinset, fun k => ?_, ?_⟩
  · rw [List.mem_toFinset, List.mem_map, Option.isSome_iff_exists]
    constructor
    · rintro ⟨a, ha, rfl⟩
      exact ⟨a, h.mem_iff.mp ha⟩
    · rintro ⟨a, ha⟩
      have hkey := h.key_eq ha
      refine ⟨a, h.mem_iff.mpr ?_, hkey⟩
      rw [hkey]
      exact ha
  · rw [List.toFinset_card_of_nodup h.nodup, List.length_map]

theorem find_filter_self (k : κ) :
    (rows.filter fun a => !(key a == k)).find? (fun a => key a == k) = none := by
  refine List.find?_eq_none.mpr fun a ha => ?_
  simpa using (List.mem_filter.mp ha).2

theorem find_filter_of_ne {k k' : κ} (hne : k' ≠ k) :
    (rows.filter fun a => !(key a == k)).find? (fun a => key a == k') =
      rows.find? (fun a => key a == k') := by
  rw [List.find?_filter]
  congr 1
  funext a
  by_cases ha : key a = k'
  · simp [ha, hne]
  · simp [ha]

/-- Dropping a key. -/
theorem drop (h : Holds key rows m) (k : κ) :
    Holds key (rows.filter fun a => !(key a == k)) (Edit.apply key m (.drop k)) where
  nodup := (List.filter_sublist.map key).nodup h.nodup
  find := by
    intro k'
    by_cases hk : k' = k
    · rw [hk, find_filter_self]
      exact (Function.update_self k none m).symm
    · rw [find_filter_of_ne hk, h.find]
      exact (Function.update_of_ne hk none m).symm

/-- Putting a row, in place of the one under its key. -/
theorem put (h : Holds key rows m) (a : α) :
    Holds key (rows.filter (fun b => !(key b == key a)) ++ [a]) (Edit.apply key m (.put a)) where
  nodup := by
    rw [List.map_append, List.nodup_append]
    refine ⟨(h.drop (key a)).nodup, List.nodup_singleton _, ?_⟩
    rintro k hk _ ha rfl
    obtain ⟨b, hb, rfl⟩ := List.mem_map.mp hk
    have hne := (List.mem_filter.mp hb).2
    rw [List.mem_singleton.mp ha] at hne
    simp at hne
  find := by
    intro k
    rw [List.find?_append]
    by_cases hk : k = key a
    · rw [hk, find_filter_self, Option.none_or, List.find?_singleton, beq_self_eq_true]
      exact (Function.update_self (key a) (some a) m).symm
    · have ha : (key a == k) = false := beq_eq_false_iff_ne.mpr (Ne.symm hk)
      rw [find_filter_of_ne hk, List.find?_singleton, ha, h.find]
      refine Option.or_none.trans ?_
      exact (Function.update_of_ne hk (some a) m).symm

/-- Altering the row under a key, where the keys stay as they are. -/
theorem alter (h : Holds key rows m) {k : κ} {f : α → α} {rows' : List α}
    (hkeys : rows'.map key = rows.map key)
    (hself : rows'.find? (fun a => key a == k) = (rows.find? fun a => key a == k).map f)
    (hother : ∀ k', k' ≠ k →
      rows'.find? (fun a => key a == k') = rows.find? fun a => key a == k') :
    Holds key rows' (Edit.apply key m (.alter k f)) where
  nodup := by
    rw [hkeys]
    exact h.nodup
  find := by
    intro k'
    by_cases hk : k' = k
    · rw [hk, hself, h.find]
      exact (Function.update_self k ((m k).map f) m).symm
    · rw [hother k' hk, h.find]
      exact (Function.update_of_ne hk ((m k).map f) m).symm

end Holds

end TinTin.Lib
