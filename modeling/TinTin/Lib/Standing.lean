/-
  A history of moves and where it leaves one.

  Somebody founds a room, enters it and quits it, in any order and any number of times. The
  founder keeps that role until the first quit; entering a room one is in already changes
  nothing. `standing` is the role after a history.

  * `standing_isSome_iff`: one is in exactly if the last move was no quit.
  * `standing_founder_iff`: one is founder exactly if one founded and has not quit since.
-/
import Mathlib.Data.List.Induction

namespace TinTin.Lib

inductive Move
  | found
  | enter
  | quit
  deriving DecidableEq, Repr

inductive Role
  | founder
  | member
  deriving DecidableEq, Repr

/-- A place in a list with one more element: the new end, or a place from before. -/
theorem split_snoc {α : Type} {l before since : List α} {x a : α}
    (h : l ++ [x] = before ++ a :: since) :
    since = [] ∧ l = before ∧ x = a ∨
      ∃ since', since = since' ++ [x] ∧ l = before ++ a :: since' := by
  rcases List.eq_nil_or_concat since with rfl | ⟨since', last, rfl⟩
  · obtain ⟨hfront, hlast⟩ := List.append_inj' h rfl
    exact Or.inl ⟨rfl, hfront, (List.cons.inj hlast).1⟩
  · rw [List.concat_eq_append, ← List.cons_append, ← List.append_assoc] at h
    obtain ⟨hfront, hlast⟩ := List.append_inj' h rfl
    rw [(List.cons.inj hlast).1]
    exact Or.inr ⟨since', List.concat_eq_append, hfront⟩

/-- What a move makes of a role, `none` standing outside. -/
def Move.apply : Option Role → Move → Option Role
  | _, .found => some .founder
  | none, .enter => some .member
  | some role, .enter => some role
  | _, .quit => none

/-- The role after a history, from outside. -/
def standing (moves : List Move) : Option Role := moves.foldl Move.apply none

theorem standing_snoc (moves : List Move) (m : Move) :
    standing (moves ++ [m]) = Move.apply (standing moves) m := by
  unfold standing
  rw [List.foldl_append]
  rfl

/-- Who enters or quits is no founder by it. -/
theorem Move.apply_founder {role : Option Role} {m : Move} :
    Move.apply role m = some .founder ↔ m = .found ∨ m = .enter ∧ role = some .founder := by
  cases m <;> cases role <;> simp [Move.apply]

/-- One is in a room exactly if the last move was no quit. -/
theorem standing_isSome_iff (moves : List Move) :
    (standing moves).isSome ↔
      moves.getLast? = some .found ∨ moves.getLast? = some .enter := by
  induction moves using List.reverseRecOn with
  | nil => simp [standing]
  | append_singleton moves m _ =>
    rw [standing_snoc, List.getLast?_concat]
    cases m <;> cases standing moves <;> simp [Move.apply]

/-- One is founder exactly if one founded the room and has not quit since. -/
theorem standing_founder_iff (moves : List Move) :
    standing moves = some .founder ↔
      ∃ before since, moves = before ++ .found :: since ∧ .quit ∉ since := by
  induction moves using List.reverseRecOn with
  | nil => simp [standing]
  | append_singleton moves m ih =>
    rw [standing_snoc, Move.apply_founder, ih]
    constructor
    · intro h
      rcases h with rfl | ⟨rfl, before, since, rfl, hsince⟩
      · exact ⟨moves, [], rfl, by simp⟩
      · exact ⟨before, since ++ [.enter], by simp, by simpa using hsince⟩
    · intro ⟨before, since, heq, hsince⟩
      rcases split_snoc heq with ⟨-, -, rfl⟩ | ⟨since', rfl, hfront⟩
      · exact Or.inl rfl
      · have hquit : .quit ∉ since' := fun h => hsince (List.mem_append_left _ h)
        cases m with
        | found => exact Or.inl rfl
        | enter => exact Or.inr ⟨rfl, before, since', hfront, hquit⟩
        | quit => exact absurd (List.mem_append_right _ (List.mem_singleton.mpr rfl)) hsince

/-- A history without entering leaves one outside. -/
theorem standing_eq_none {moves : List Move} (h : ∀ m ∈ moves, m = .quit) :
    standing moves = none := by
  induction moves using List.reverseRecOn with
  | nil => rfl
  | append_singleton moves m ih =>
    rw [standing_snoc, h m (by simp)]
    rfl

end TinTin.Lib
