/-
  Machines whose outputs rise.

  A machine answers an input with an output or with nothing. Where an output never lies below the
  level of the state before, and always below the level of the state after, the outputs of a run
  rise, whatever the inputs are, so no two of them have the same height.
-/
import Mathlib.Order.Basic

namespace TinTin.Lib

variable {σ ι ο κ : Type}

/-- The outputs of a run, in order. -/
def outputs (step : σ → ι → Option ο × σ) : σ → List ι → List ο
  | _, [] => []
  | s, i :: is => (step s i).1.toList ++ outputs step (step s i).2 is

/-- **Outputs lie between the levels of the states around them.** -/
structure Rises [Preorder κ] (step : σ → ι → Option ο × σ) (Inv : σ → Prop) (level : σ → κ)
    (height : ο → κ) : Prop where
  keeps : ∀ s i, Inv s → Inv (step s i).2
  level_le : ∀ s i, Inv s → level s ≤ level (step s i).2
  le_height : ∀ s i o, Inv s → (step s i).1 = some o → level s ≤ height o
  height_lt : ∀ s i o, Inv s → (step s i).1 = some o → height o < level (step s i).2

namespace Rises

variable [Preorder κ] {step : σ → ι → Option ο × σ} {Inv : σ → Prop} {level : σ → κ}
  {height : ο → κ}

/-- The outputs of a run do not lie below its start. -/
theorem above (h : Rises step Inv level height) {s : σ} (hs : Inv s) (is : List ι) :
    ∀ o ∈ outputs step s is, level s ≤ height o := by
  induction is generalizing s with
  | nil => exact fun o ho => by cases ho
  | cons i is ih =>
    intro o ho
    rcases List.mem_append.mp ho with ho | ho
    · exact h.le_height s i o hs (Option.mem_toList.mp ho)
    · exact (h.level_le s i hs).trans (ih (h.keeps s i hs) o ho)

/-- **The outputs of a run rise.** -/
theorem pairwise (h : Rises step Inv level height) {s : σ} (hs : Inv s) (is : List ι) :
    (outputs step s is).Pairwise fun o o' => height o < height o' := by
  induction is generalizing s with
  | nil => exact .nil
  | cons i is ih =>
    have hs' := h.keeps s i hs
    unfold outputs
    rw [List.pairwise_append]
    refine ⟨?_, ih hs', fun o ho o' ho' => ?_⟩
    · cases (step s i).1 with
      | none => exact .nil
      | some o => exact List.pairwise_singleton _ o
    · exact (h.height_lt s i o hs (Option.mem_toList.mp ho)).trans_le (h.above hs' is o' ho')

/-- Outputs are told apart by whatever their height depends on. -/
theorem nodup_map {β : Type} (h : Rises step Inv level height) {s : σ} (hs : Inv s)
    (is : List ι) {mark : ο → β} (hmark : ∀ o o', mark o = mark o' → height o = height o') :
    ((outputs step s is).map mark).Nodup := by
  refine List.Pairwise.map mark (fun o o' hlt heq => ?_) (h.pairwise hs is)
  rw [hmark o o' heq] at hlt
  exact lt_irrefl _ hlt

end Rises

end TinTin.Lib
