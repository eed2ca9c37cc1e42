/-
  What can be computed from known values by a set of rules.

  A rule takes a list of premises to a conclusion. `Derives Rule K t` says that `t` is
  reached from the known values `K` by finitely many rules.

  * `Derives.mono`, `Derives.rule_mono`: more knowledge and more rules derive more.
  * `Derives.cut`: what is derived from derived values is derived.
  * `Derives.mem_of_closed`: a set that holds the known values and is closed under the rules
    holds everything derived. It is how a value is shown to be out of reach.
-/
import Mathlib.Data.Set.Basic

namespace TinTin.Lib

universe u

/-- `t` is reached from the known values `K` by finitely many rules. -/
inductive Derives {τ : Type u} (Rule : List τ → τ → Prop) (K : Set τ) : τ → Prop
  | known {t : τ} : t ∈ K → Derives Rule K t
  | rule {premises : List τ} {t : τ} :
      Rule premises t → (∀ s ∈ premises, Derives Rule K s) → Derives Rule K t

namespace Derives

variable {τ : Type u} {Rule Rule' : List τ → τ → Prop} {K K' : Set τ} {t : τ}

/-- Values from which every known value is derived derive whatever the known values do. -/
theorem cut (hK : ∀ s ∈ K, Derives Rule K' s) (h : Derives Rule K t) : Derives Rule K' t := by
  induction h with
  | known ht => exact hK _ ht
  | rule hr _ ih => exact .rule hr ih

theorem mono (hK : K ⊆ K') (h : Derives Rule K t) : Derives Rule K' t :=
  h.cut fun _ hs => .known (hK hs)

theorem rule_mono (hR : ∀ ps s, Rule ps s → Rule' ps s) (h : Derives Rule K t) :
    Derives Rule' K t := by
  induction h with
  | known ht => exact .known ht
  | rule hr _ ih => exact .rule (hR _ _ hr) ih

/-- A set that holds the known values and is closed under the rules holds everything
    derived. -/
theorem mem_of_closed {S : Set τ} (hK : K ⊆ S)
    (hS : ∀ ps s, Rule ps s → (∀ x ∈ ps, x ∈ S) → s ∈ S) (h : Derives Rule K t) : t ∈ S := by
  induction h with
  | known ht => exact hK ht
  | rule hr _ ih => exact hS _ _ hr ih

/-- A rule with one premise. -/
theorem unary {a : τ} (hr : Rule [a] t) (ha : Derives Rule K a) : Derives Rule K t :=
  .rule hr (by simpa using ha)

/-- A rule with two premises. -/
theorem binary {a b : τ} (hr : Rule [a, b] t) (ha : Derives Rule K a) (hb : Derives Rule K b) :
    Derives Rule K t :=
  .rule hr (by simpa using ⟨ha, hb⟩)

end Derives

end TinTin.Lib
