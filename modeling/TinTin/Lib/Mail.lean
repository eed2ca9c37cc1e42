/-
  Nodes that exchange messages, each with an inbox that keeps their order.

  * `Mail.act`: a node takes a new state and may post a message. `Mail.take`: a node consumes
    the first message of its inbox.
  * `Never`, `run_inv`: a property that every step keeps unless the step is a bad one holds
    after every run without bad steps.
-/
import Mathlib.Data.List.Basic
import Mathlib.Logic.Function.Basic

namespace TinTin.Lib

universe u v w

/-- The state of each node, and its inbox, oldest message first. -/
structure Mail (ι : Type u) (σ : Type v) (μ : Type w) where
  node : ι → σ
  inbox : ι → List μ

namespace Mail

variable {ι : Type u} {σ σ' : Type v} {μ : Type w} [DecidableEq ι]

/-- Node `i` takes a new state, and `j` gets a message if there is one. -/
def act (m : Mail ι σ μ) (i : ι) (s : σ) (j : ι) (posted : Option μ) : Mail ι σ μ where
  node := Function.update m.node i s
  inbox := Function.update m.inbox j (m.inbox j ++ posted.toList)

/-- Node `i` consumes its first message. -/
def take (m : Mail ι σ μ) (i : ι) (f : σ → μ → σ) : Mail ι σ μ :=
  match m.inbox i with
  | [] => m
  | x :: rest =>
    { node := Function.update m.node i (f (m.node i) x)
      inbox := Function.update m.inbox i rest }

theorem take_nil {m : Mail ι σ μ} {i : ι} (h : m.inbox i = []) (f : σ → μ → σ) :
    m.take i f = m := by
  unfold take
  rw [h]

theorem take_node_self {m : Mail ι σ μ} {i : ι} {x : μ} {rest : List μ}
    (h : m.inbox i = x :: rest) (f : σ → μ → σ) : (m.take i f).node i = f (m.node i) x := by
  unfold take
  rw [h]
  exact Function.update_self ..

theorem take_node_of_ne (m : Mail ι σ μ) {i k : ι} (h : k ≠ i) (f : σ → μ → σ) :
    (m.take i f).node k = m.node k := by
  unfold take
  split
  · rfl
  · exact Function.update_of_ne h ..

theorem take_inbox_self {m : Mail ι σ μ} {i : ι} {x : μ} {rest : List μ}
    (h : m.inbox i = x :: rest) (f : σ → μ → σ) : (m.take i f).inbox i = rest := by
  unfold take
  rw [h]
  exact Function.update_self ..

theorem take_inbox_of_ne (m : Mail ι σ μ) {i k : ι} (h : k ≠ i) (f : σ → μ → σ) :
    (m.take i f).inbox k = m.inbox k := by
  unfold take
  split
  · rfl
  · exact Function.update_of_ne h ..

/-- The nodes seen through `f`. -/
def map (f : σ → σ') (m : Mail ι σ μ) : Mail ι σ' μ where
  node i := f (m.node i)
  inbox := m.inbox

theorem act_node_self (m : Mail ι σ μ) (i j : ι) (s : σ) (posted : Option μ) :
    (m.act i s j posted).node i = s := Function.update_self ..

theorem act_node_of_ne (m : Mail ι σ μ) {i k : ι} (h : k ≠ i) (j : ι) (s : σ)
    (posted : Option μ) : (m.act i s j posted).node k = m.node k := Function.update_of_ne h ..

theorem act_inbox_self (m : Mail ι σ μ) (i j : ι) (s : σ) (posted : Option μ) :
    (m.act i s j posted).inbox j = m.inbox j ++ posted.toList := Function.update_self ..

theorem act_inbox_of_ne (m : Mail ι σ μ) {j k : ι} (h : k ≠ j) (i : ι) (s : σ)
    (posted : Option μ) : (m.act i s j posted).inbox k = m.inbox k := Function.update_of_ne h ..

theorem act_self (m : Mail ι σ μ) (i j : ι) : m.act i (m.node i) j none = m := by
  unfold act
  rw [Function.update_eq_self, Option.toList_none, List.append_nil, Function.update_eq_self]

theorem map_act (f : σ → σ') (m : Mail ι σ μ) (i : ι) (s : σ) (j : ι) (posted : Option μ) :
    (m.act i s j posted).map f = (m.map f).act i (f s) j posted := by
  unfold map act
  congr 1
  funext k
  exact Function.apply_update (fun _ => f) m.node i s k

theorem map_take (f : σ → σ') (m : Mail ι σ μ) (i : ι) (g : σ → μ → σ) (g' : σ' → μ → σ')
    (hg : ∀ s x, f (g s x) = g' (f s) x) : (m.take i g).map f = (m.map f).take i g' := by
  unfold take map
  dsimp only
  cases m.inbox i with
  | nil => rfl
  | cons x rest =>
    dsimp only
    congr 1
    funext k
    rw [← hg]
    exact Function.apply_update (fun _ => f) m.node i (g (m.node i) x) k

end Mail

/-! ## Runs -/

variable {σ : Type u} {α : Type v}

/-- No step of the run is a bad one. -/
def Never (step : σ → α → σ) (bad : σ → α → Prop) : σ → List α → Prop
  | _, [] => True
  | s, a :: rest => ¬ bad s a ∧ Never step bad (step s a) rest

/-- A property that every step keeps, unless it is a bad one, survives a run without them. -/
theorem run_inv {step : σ → α → σ} {bad : σ → α → Prop} {inv : σ → Prop}
    (hstep : ∀ s a, inv s → ¬ bad s a → inv (step s a)) :
    ∀ (as : List α) (s : σ), inv s → Never step bad s as → inv (as.foldl step s) := by
  intro as
  induction as with
  | nil => exact fun s h _ => h
  | cons a as ih => exact fun s h hn => ih (step s a) (hstep s a h hn.1) hn.2

/-- Runs without bad steps, seen through a map that commutes with the steps. -/
theorem never_map {σ' : Type w} {step : σ → α → σ} {step' : σ' → α → σ'} {f : σ → σ'}
    (hf : ∀ s a, f (step s a) = step' (f s) a) {bad : σ' → α → Prop} :
    ∀ (as : List α) (s : σ),
      Never step (fun s a => bad (f s) a) s as ↔ Never step' bad (f s) as := by
  intro as
  induction as with
  | nil => exact fun _ => Iff.rfl
  | cons a as ih =>
    intro s
    unfold Never
    rw [ih (step s a), hf]

end TinTin.Lib
