/-
  A heap whose cells are handed out as raw pointers, and code that uses it through them.

  Code over the heap has no result where it uses a cell that is not there, or takes it for what it
  is not: its behaviour is undefined. Where an allocation puts a cell is an argument of the code, so
  an address may come back once it is free.

  * `Raw`: code over a heap and further state. `run_deref`: when a pointer can be followed.
  * `Raw.Follows`: code is defined on a heap, and does what other code does without one.
  * `Owned`: the cells of a heap are those of a table of owners, each with its own.
  * `Owned.enter`, `Owned.put`, `Owned.leave`: the changes on tables are the ones on heaps.
-/
import Mathlib.Data.Nat.Notation
import Mathlib.Logic.Function.Basic

namespace TinTin.Lib

/-- What lies at each address. -/
abbrev Heap (α : Type) := ℕ → Option α

/-- An allocation may put a cell there. -/
def Heap.Free {α : Type} (heap : Heap α) (a : ℕ) : Prop := a ≠ 0 ∧ heap a = none

/-- Code over a heap and further state, without a result where its behaviour is undefined. -/
abbrev Raw (α σ : Type) := StateT (Heap α × σ) Option

namespace Raw

variable {α β σ : Type}

/-- Undefined behaviour. -/
def undefined : Raw α σ β := fun _ => none

/-- Code that leaves the heap alone. -/
def call (code : StateM σ β) : Raw α σ β := fun s =>
  some ((code s.2).1, s.1, (code s.2).2)

/-- `Box::into_raw` -/
def alloc (a : ℕ) (cell : α) : Raw α σ ℕ := fun s =>
  some (a, Function.update s.1 a (some cell), s.2)

/-- The reference behind a pointer. -/
def deref (view : α → Option β) (a : ℕ) : Raw α σ β := fun s =>
  ((s.1 a).bind view).map fun b => (b, s)

/-- Writing through a reference. -/
def store (a : ℕ) (cell : α) : Raw α σ Unit := fun s =>
  some ((), Function.update s.1 a (some cell), s.2)

/-- `Box::from_raw`, dropped at once. -/
def free (view : α → Option β) (a : ℕ) : Raw α σ Unit := do
  let _ ← deref view a
  modify fun s => (Function.update s.1 a none, s.2)

theorem run_bind {γ : Type} {x : Raw α σ β} {s s' : Heap α × σ} {b : β} (h : x s = some (b, s'))
    (f : β → Raw α σ γ) : (x >>= f) s = f b s' := by
  change (x s).bind (fun p => f p.1 p.2) = _
  rw [h]
  rfl

theorem run_bind_none {γ : Type} {x : Raw α σ β} {s : Heap α × σ} (h : x s = none)
    (f : β → Raw α σ γ) : (x >>= f) s = none := by
  change (x s).bind (fun p => f p.1 p.2) = _
  rw [h]
  rfl

theorem run_deref {heap : Heap α} {a : ℕ} {cell : α} {b : β} {view : α → Option β}
    (h : heap a = some cell) (hview : view cell = some b) (s : σ) :
    deref view a (heap, s) = some (b, heap, s) := by
  unfold deref
  dsimp only
  rw [h, Option.bind_some, hview]
  rfl

theorem run_deref_none {heap : Heap α} {a : ℕ} {cell : α} {view : α → Option β}
    (h : heap a = some cell) (hview : view cell = none) (s : σ) :
    deref view a (heap, s) = none := by
  unfold deref
  dsimp only
  rw [h, Option.bind_some, hview]
  rfl

/-- A cell that is freed again leaves no trace. -/
theorem update_free {heap : Heap α} {a : ℕ} (h : heap a = none) (x : Option α) :
    Function.update (Function.update heap a x) a none = heap := by
  rw [Function.update_idem, ← h, Function.update_eq_self]

/-! ## Code that follows other code -/

variable {γ δ : Type}

/-- On this heap the code is defined, and does what `y` does without one: from what `y` gives, `out`
    tells what the code gives, and the heap that it leaves. -/
def Follows (heap : Heap α) (x : Raw α σ β) (y : StateM σ γ) (out : γ → β × Heap α) : Prop :=
  ∀ s, x (heap, s) = some ((out (y s).1).1, (out (y s).1).2, (y s).2)

namespace Follows

variable {heap : Heap α} {out : γ → δ × Heap α} {y : StateM σ γ} {f : β → Raw α σ δ}

theorem pure {d : δ} {c : γ} (h : out c = (d, heap)) :
    Follows heap (Pure.pure d : Raw α σ δ) (Pure.pure c) out := by
  intro s
  change some (d, heap, s) = some ((out c).1, (out c).2, s)
  rw [h]

theorem bind {ε : Type} {x : Raw α σ β} {z : StateM σ ε} {mid : ε → β × Heap α} {g : ε → StateM σ γ}
    (hx : Follows heap x z mid) (hf : ∀ e, Follows (mid e).2 (f (mid e).1) (g e) out) :
    Follows heap (x >>= f) (z >>= g) out := fun s =>
  (run_bind (hx s) f).trans (hf _ _)

theorem call {code : StateM σ β} {g : β → StateM σ γ} (hf : ∀ b, Follows heap (f b) (g b) out) :
    Follows heap (call code >>= f) (code >>= g) out := by
  have hcall : Follows heap (Raw.call code : Raw α σ β) code fun b => (b, heap) := fun _ => rfl
  exact hcall.bind hf

theorem deref {a : ℕ} {cell : α} {b : β} {view : α → Option β} (h : heap a = some cell)
    (hview : view cell = some b) (hf : Follows heap (f b) y out) :
    Follows heap (deref view a >>= f) y out := fun s =>
  (run_bind (run_deref h hview s) f).trans (hf s)

theorem alloc {a : ℕ} {cell : α} {f : ℕ → Raw α σ δ}
    (hf : Follows (Function.update heap a (some cell)) (f a) y out) :
    Follows heap (alloc a cell >>= f) y out := fun s => hf s

theorem store {a : ℕ} {cell : α} {f : Unit → Raw α σ δ}
    (hf : Follows (Function.update heap a (some cell)) (f ()) y out) :
    Follows heap (store a cell >>= f) y out := fun s => hf s

theorem free {a : ℕ} {cell : α} {b : β} {view : α → Option β} {f : Unit → Raw α σ δ}
    (h : heap a = some cell) (hview : view cell = some b)
    (hf : Follows (Function.update heap a none) (f ()) y out) :
    Follows heap (free view a >>= f) y out := fun s => by
  have hfree : Raw.free view a (heap, s) = some ((), Function.update heap a none, s) :=
    run_bind (run_deref h hview s) _
  exact (run_bind hfree f).trans (hf s)

end Follows

end Raw

/-! ## Owners -/

/-- The cells of the heap are those of the owners: each owner has one, at an address that no other
    owner has. -/
structure Owned {ι α β : Type} (cellOf : β → α) (own : ι → Option (ℕ × β)) (heap : Heap α) :
    Prop where
  cell : ∀ {i a b}, own i = some (a, b) → a ≠ 0 ∧ heap a = some (cellOf b)
  apart : ∀ {i j a b b'}, own i = some (a, b) → own j = some (a, b') → i = j
  owner : ∀ {a x}, heap a = some x → ∃ i b, own i = some (a, b)

namespace Owned

variable {ι α β : Type} {cellOf : β → α} {own : ι → Option (ℕ × β)} {heap : Heap α}

/-- The address of an owner is that of no other. -/
theorem own_iff (h : Owned cellOf own heap) {i : ι} {a : ℕ} {b : β} (hi : own i = some (a, b))
    {j : ι} {c : ℕ} {x : β} (hj : own j = some (c, x)) : j = i ↔ c = a := by
  constructor
  · rintro rfl
    cases hi.symm.trans hj
    rfl
  · rintro rfl
    exact h.apart hj hi

variable [DecidableEq ι]

/-- What changes at one owner changes at its address, if no other owner has that. -/
theorem update (h : Owned cellOf own heap) {i : ι} {a : ℕ} (ha : a ≠ 0)
    (hown : ∀ {j c b}, own j = some (c, b) → (j = i ↔ c = a)) (b : Option β) :
    Owned cellOf (Function.update own i (b.map fun b => (a, b)))
      (Function.update heap a (b.map cellOf)) := by
  have hsplit : ∀ {j c x}, Function.update own i (b.map fun b => (a, b)) j = some (c, x) →
      (j = i ∧ c = a ∧ b = some x) ∨ (j ≠ i ∧ c ≠ a ∧ own j = some (c, x)) := by
    intro j c x hj
    by_cases hji : j = i
    · subst hji
      rw [Function.update_self, Option.map_eq_some_iff] at hj
      obtain ⟨x, rfl, hx⟩ := hj
      cases hx
      exact .inl ⟨rfl, rfl, rfl⟩
    · rw [Function.update_of_ne hji] at hj
      exact .inr ⟨hji, fun hca => hji ((hown hj).mpr hca), hj⟩
  constructor
  · intro j c x hj
    rcases hsplit hj with ⟨-, rfl, rfl⟩ | ⟨-, hca, hj⟩
    · exact ⟨ha, Function.update_self ..⟩
    · rw [Function.update_of_ne hca]
      exact h.cell hj
  · intro j k c x y hj hk
    rcases hsplit hj with ⟨rfl, rfl, -⟩ | ⟨-, hca, hj⟩
    · rcases hsplit hk with ⟨rfl, -, -⟩ | ⟨-, hca, -⟩
      · rfl
      · exact absurd rfl hca
    · rcases hsplit hk with ⟨-, hca', -⟩ | ⟨-, -, hk⟩
      · exact absurd hca' hca
      · exact h.apart hj hk
  · intro c x hc
    by_cases hca : c = a
    · subst hca
      rw [Function.update_self, Option.map_eq_some_iff] at hc
      obtain ⟨b, rfl, -⟩ := hc
      exact ⟨i, b, Function.update_self ..⟩
    · rw [Function.update_of_ne hca] at hc
      obtain ⟨j, y, hj⟩ := h.owner hc
      have hji : j ≠ i := fun hji => hca ((hown hj).mp hji)
      exact ⟨j, y, (Function.update_of_ne hji ..).trans hj⟩

/-- A new owner of a new cell. -/
theorem enter (h : Owned cellOf own heap) {i : ι} {a : ℕ} (hi : own i = none)
    (hfree : heap.Free a) (b : β) :
    Owned cellOf (Function.update own i (some (a, b)))
      (Function.update heap a (some (cellOf b))) := by
  refine h.update hfree.1 (fun {j c x} hj => ?_) (some b)
  refine iff_of_false ?_ ?_
  · rintro rfl
    cases hi.symm.trans hj
  · rintro rfl
    cases (h.cell hj).2.symm.trans hfree.2

/-- An owner changes what its cell holds. -/
theorem put (h : Owned cellOf own heap) {i : ι} {a : ℕ} {b : β} (hi : own i = some (a, b))
    (b' : β) :
    Owned cellOf (Function.update own i (some (a, b')))
      (Function.update heap a (some (cellOf b'))) :=
  h.update (h.cell hi).1 (h.own_iff hi) (some b')

/-- An owner goes, and frees its cell. -/
theorem leave (h : Owned cellOf own heap) {i : ι} {a : ℕ} {b : β} (hi : own i = some (a, b)) :
    Owned cellOf (Function.update own i none) (Function.update heap a none) :=
  h.update (h.cell hi).1 (h.own_iff hi) none

end Owned

end TinTin.Lib
