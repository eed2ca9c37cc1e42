/-
  Processes that share a state and change it one call at a time.

  A call is atomic. After it the process goes on as another one or ends with a result, and before
  its next call any calls of the others may come. Each process runs in a slot. It `begins` a unit
  of work, and may go on as one that begins the next.

  * `Whole`: a unit from its beginning to its end, with no call of another process in between.
  * `Steady`: what a unit has seen before its last call changes nothing and holds for ever.
  * `serial_of_run`: then every run leaves the state, and gives the results, of its units done
    whole, one after the other, in the order in which they ended.
  * `thread_of_run`: in each slot what was started has its results in order.
  * `alike_of_run`: what two systems' calls have in common, their runs have.
-/
import TinTin.Lib.Path
import Mathlib.Data.List.Forall2
import Mathlib.Data.Option.Basic
import Mathlib.Data.Sum.Basic
import Mathlib.Logic.Function.Basic

namespace TinTin.Lib

/-- A call: what becomes of the process, and of the state. -/
abbrev Caller (σ π ρ : Type) := π → σ → (π ⊕ ρ) × σ

namespace Calls

/-- A unit of work on its way: the process that began it, and where it is. -/
structure Flight (π : Type) where
  began : π
  now : π
  deriving DecidableEq, Repr

/-- A unit that has ended: its slot, the process that began it, and how it went on or ended. -/
abbrev Entry (ι π ρ : Type) := ι × π × (π ⊕ ρ)

/-- The state, what is under way in the slots, and what has ended, in that order. -/
structure Floor (ι σ π ρ : Type) where
  state : σ
  slots : ι → Option (Flight π)
  ended : List (Entry ι π ρ)

inductive Turn (ι π : Type)
  | start (i : ι) (p : π)
  | call (i : ι)
  deriving DecidableEq, Repr

variable {ι σ π ρ : Type} [DecidableEq ι]

def Floor.fresh (s : σ) : Floor ι σ π ρ := ⟨s, fun _ => none, []⟩

/-- One turn. -/
inductive Step (call : Caller σ π ρ) (begins : π → Bool) (m : Floor ι σ π ρ) :
    Turn ι π → Floor ι σ π ρ → Prop
  | start (i : ι) (p : π) (hfree : m.slots i = none) (hp : begins p = true) :
    Step call begins m (.start i p) { m with slots := Function.update m.slots i (some ⟨p, p⟩) }
  /-- in the middle of a unit -/
  | goOn (i : ι) (f : Flight π) (q : π) (s : σ) (hf : m.slots i = some f)
    (hcall : call f.now m.state = (.inl q, s)) (hq : begins q = false) :
    Step call begins m (.call i)
      ⟨s, Function.update m.slots i (some ⟨f.began, q⟩), m.ended⟩
  /-- from a unit into the next one -/
  | passOn (i : ι) (f : Flight π) (q : π) (s : σ) (hf : m.slots i = some f)
    (hcall : call f.now m.state = (.inl q, s)) (hq : begins q = true) :
    Step call begins m (.call i)
      ⟨s, Function.update m.slots i (some ⟨q, q⟩), m.ended ++ [(i, f.began, .inl q)]⟩
  | finish (i : ι) (f : Flight π) (r : ρ) (s : σ) (hf : m.slots i = some f)
    (hcall : call f.now m.state = (.inr r, s)) :
    Step call begins m (.call i)
      ⟨s, Function.update m.slots i none, m.ended ++ [(i, f.began, .inr r)]⟩

/-- A unit's calls one after the other. -/
inductive Whole (call : Caller σ π ρ) (begins : π → Bool) : π → σ → π ⊕ ρ → σ → Prop
  | passOn {p q : π} {s s' : σ} (hcall : call p s = (.inl q, s')) (hq : begins q = true) :
    Whole call begins p s (.inl q) s'
  | finish {p : π} {s s' : σ} {r : ρ} (hcall : call p s = (.inr r, s')) :
    Whole call begins p s (.inr r) s'
  | goOn {p q : π} {s s' s'' : σ} {out : π ⊕ ρ} (hcall : call p s = (.inl q, s'))
    (hq : begins q = false) (hrest : Whole call begins q s' out s'') :
    Whole call begins p s out s''

/-- Units one after the other. -/
abbrev Serial (call : Caller σ π ρ) (begins : π → Bool) : σ → List (Entry ι π ρ) → σ → Prop :=
  Path fun s e s' => Whole call begins e.2.1 s e.2.2 s'

/-- A unit that goes on has changed nothing, and would go on so at any later time. -/
structure Steady (call : Caller σ π ρ) (begins : π → Bool) (Later : σ → σ → Prop) : Prop where
  refl : ∀ s, Later s s
  trans : ∀ {s t r}, Later s t → Later t r → Later s r
  later : ∀ p s, Later s (call p s).2
  looks : ∀ p s q, (call p s).1 = .inl q → begins q = false →
    (call p s).2 = s ∧ ∀ t, Later s t → call p t = (.inl q, t)

variable {call : Caller σ π ρ} {begins : π → Bool} {Later : σ → σ → Prop}

/-! ## Runs are serial -/

/-- From `s` on, a unit that is where this one is ends like one that is begun now. -/
def Flight.Ready (call : Caller σ π ρ) (begins : π → Bool) (Later : σ → σ → Prop) (s : σ)
    (f : Flight π) : Prop :=
  ∀ t, Later s t → ∀ out t', Whole call begins f.now t out t' → Whole call begins f.began t out t'

theorem Flight.Ready.mono (h : Steady call begins Later) {s s' : σ} {f : Flight π}
    (hf : f.Ready call begins Later s) (hs : Later s s') : f.Ready call begins Later s' :=
  fun t ht => hf t (h.trans hs ht)

theorem Flight.ready_of_eq (s : σ) (p : π) : (⟨p, p⟩ : Flight π).Ready call begins Later s :=
  fun _ _ _ _ hw => hw

/-- A call within a unit keeps it ready. -/
theorem Flight.Ready.goOn (h : Steady call begins Later) {s s' : σ} {f : Flight π} {q : π}
    (hf : f.Ready call begins Later s) (hcall : call f.now s = (.inl q, s'))
    (hq : begins q = false) :
    s' = s ∧ (⟨f.began, q⟩ : Flight π).Ready call begins Later s := by
  have hnext : (call f.now s).1 = .inl q := by rw [hcall]
  obtain ⟨hstate, hlater⟩ := h.looks f.now s q hnext hq
  rw [hcall] at hstate
  refine ⟨hstate, fun t ht out t' hw => ?_⟩
  exact hf t ht out t' (.goOn (hlater t ht) hq hw)

/-- What holds on the floor: the ended units were done one after the other, the others could
    be done now. -/
structure Settled (call : Caller σ π ρ) (begins : π → Bool) (Later : σ → σ → Prop) (s₀ : σ)
    (m : Floor ι σ π ρ) : Prop where
  serial : Serial call begins s₀ m.ended m.state
  ready : ∀ i f, m.slots i = some f → f.Ready call begins Later m.state

/-- What a slot holds after an update. -/
theorem of_update {slots : ι → Option (Flight π)} {i j : ι} {o : Option (Flight π)} {f : Flight π}
    (h : Function.update slots i o j = some f) : o = some f ∨ slots j = some f := by
  by_cases hj : j = i
  · subst hj
    rw [Function.update_self] at h
    exact Or.inl h
  · rw [Function.update_of_ne hj] at h
    exact Or.inr h

theorem Settled.step (h : Steady call begins Later) {s₀ : σ} {m m' : Floor ι σ π ρ}
    {t : Turn ι π} (hm : Settled call begins Later s₀ m) (hstep : Step call begins m t m') :
    Settled call begins Later s₀ m' := by
  obtain ⟨hserial, hready⟩ := hm
  cases hstep with
  | start i p hfree hp =>
    refine ⟨hserial, fun j f hf => ?_⟩
    rcases of_update hf with hnew | hold
    · cases hnew
      exact Flight.ready_of_eq m.state p
    · exact hready j f hold
  | goOn i f q s hf hcall hq =>
    obtain ⟨rfl, hnow⟩ := (hready i f hf).goOn h hcall hq
    refine ⟨hserial, fun j g hg => ?_⟩
    rcases of_update hg with hnew | hold
    · cases hnew
      exact hnow
    · exact hready j g hold
  | passOn i f q s hf hcall hq =>
    have hlater : Later m.state s := by simpa [hcall] using h.later f.now m.state
    have hunit := hready i f hf m.state (h.refl _) _ _ (.passOn hcall hq)
    refine ⟨hserial.snoc hunit, fun j g hg => ?_⟩
    rcases of_update hg with hnew | hold
    · cases hnew
      exact Flight.ready_of_eq s q
    · exact (hready j g hold).mono h hlater
  | finish i f r s hf hcall =>
    have hlater : Later m.state s := by simpa [hcall] using h.later f.now m.state
    have hunit := hready i f hf m.state (h.refl _) _ _ (.finish hcall)
    refine ⟨hserial.snoc hunit, fun j g hg => ?_⟩
    rcases of_update hg with hnew | hold
    · cases hnew
    · exact (hready j g hold).mono h hlater

/-- **Every run is as good as a serial one.** -/
theorem serial_of_run (h : Steady call begins Later) {s : σ} {turns : List (Turn ι π)}
    {m : Floor ι σ π ρ} (hrun : Path (Step call begins) (.fresh s) turns m) :
    Serial call begins s m.ended m.state :=
  (hrun.invariant (I := Settled call begins Later s) (fun _ _ _ hm => hm.step h)
    ⟨.nil s, fun _ _ hf => nomatch hf⟩).serial

/-! ## One slot -/

/-- What was started in a slot, the units that have ended there, and the one under way: one after
    the other, each going on as the next or ending with a result. -/
inductive Thread : List π → List (π × (π ⊕ ρ)) → Option π → Prop
  | idle : Thread [] [] none
  | start {ps : List π} {es : List (π × (π ⊕ ρ))} (p : π) (h : Thread ps es none) :
    Thread (ps ++ [p]) es (some p)
  | passOn {ps : List π} {es : List (π × (π ⊕ ρ))} {p : π} (q : π) (h : Thread ps es (some p)) :
    Thread ps (es ++ [(p, .inl q)]) (some q)
  | finish {ps : List π} {es : List (π × (π ⊕ ρ))} {p : π} (r : ρ) (h : Thread ps es (some p)) :
    Thread ps (es ++ [(p, .inr r)]) none

/-- What holds of the processes that are started, and of those that units go on as. -/
theorem Thread.forall {ps : List π} {es : List (π × (π ⊕ ρ))} {o : Option π}
    (h : Thread ps es o) {P : π → Prop} (hstart : ∀ p ∈ ps, P p)
    (hpass : ∀ p q, (p, .inl q) ∈ es → P p → P q) :
    (∀ e ∈ es, P e.1) ∧ ∀ p, o = some p → P p := by
  induction h with
  | idle => exact ⟨fun _ h => absurd h List.not_mem_nil, fun _ h => nomatch h⟩
  | @start ps es p _ ih =>
    obtain ⟨hended, -⟩ := ih (fun q hq => hstart q (List.mem_append_left _ hq)) hpass
    refine ⟨hended, fun q hq => ?_⟩
    cases hq
    exact hstart p (by simp)
  | @passOn ps es p q _ ih =>
    obtain ⟨hended, hnow⟩ := ih hstart fun a b hab => hpass a b (List.mem_append_left _ hab)
    refine ⟨fun e he => ?_, fun r hr => ?_⟩
    · rcases List.mem_append.mp he with he | he
      · exact hended e he
      · rw [List.mem_singleton.mp he]
        exact hnow p rfl
    · cases hr
      exact hpass p q (by simp) (hnow p rfl)
  | @finish ps es p r _ ih =>
    obtain ⟨hended, hnow⟩ := ih hstart fun a b hab => hpass a b (List.mem_append_left _ hab)
    refine ⟨fun e he => ?_, fun _ h => nomatch h⟩
    rcases List.mem_append.mp he with he | he
    · exact hended e he
    · rw [List.mem_singleton.mp he]
      exact hnow p rfl

/-- The processes that were started in a slot. -/
def startedIn (i : ι) (turns : List (Turn ι π)) : List π :=
  turns.filterMap fun
    | .start j p => if j = i then some p else none
    | .call _ => none

/-- The units that have ended in a slot. -/
def endedIn (i : ι) (ended : List (Entry ι π ρ)) : List (π × (π ⊕ ρ)) :=
  ended.filterMap fun e => if e.1 = i then some e.2 else none

/-- The results in a slot. -/
def resultsIn (i : ι) (ended : List (Entry ι π ρ)) : List ρ :=
  (endedIn i ended).filterMap fun e => e.2.getRight?

theorem endedIn_snoc (i : ι) (ended : List (Entry ι π ρ)) (e : Entry ι π ρ) :
    endedIn i (ended ++ [e]) = endedIn i ended ++ if e.1 = i then [e.2] else [] := by
  unfold endedIn
  rw [List.filterMap_append]
  by_cases he : e.1 = i <;> simp [he]

theorem startedIn_snoc (i : ι) (turns : List (Turn ι π)) (t : Turn ι π) :
    startedIn i (turns ++ [t]) = startedIn i turns ++ startedIn i [t] :=
  List.filterMap_append

/-- A unit that has ended in one slot leaves the threads of the others alone. -/
theorem Thread.of_other {i j : ι} {ps : List π} {m : Floor ι σ π ρ} {o : Option (Flight π)}
    {x : π × (π ⊕ ρ)} (hj : j ≠ i)
    (h : Thread ps (endedIn j m.ended) ((m.slots j).map Flight.began)) :
    Thread ps (endedIn j (m.ended ++ [(i, x)]))
      ((Function.update m.slots i o j).map Flight.began) := by
  rw [Function.update_of_ne hj, endedIn_snoc, if_neg (fun heq => hj heq.symm), List.append_nil]
  exact h

theorem Thread.step {m m' : Floor ι σ π ρ} {t : Turn ι π} {ps : List π} (j : ι)
    (h : Thread ps (endedIn j m.ended) ((m.slots j).map Flight.began))
    (hstep : Step call begins m t m') :
    Thread (ps ++ startedIn j [t]) (endedIn j m'.ended) ((m'.slots j).map Flight.began) := by
  have hcall (i : ι) : ps ++ startedIn j [(.call i : Turn ι π)] = ps := List.append_nil ps
  cases hstep with
  | start i p hfree hp =>
    dsimp only
    by_cases hj : j = i
    · subst hj
      rw [hfree] at h
      have hstarted : startedIn j [(.start j p : Turn ι π)] = [p] := by simp [startedIn]
      rw [hstarted, Function.update_self]
      exact .start p h
    · have hstarted : startedIn j [(.start i p : Turn ι π)] = [] := by
        simpa [startedIn] using fun heq : i = j => hj heq.symm
      rw [hstarted, List.append_nil, Function.update_of_ne hj]
      exact h
  | goOn i f q s hf _ _ =>
    rw [hcall]
    dsimp only
    by_cases hj : j = i
    · subst hj
      rw [hf] at h
      rw [Function.update_self]
      exact h
    · rw [Function.update_of_ne hj]
      exact h
  | passOn i f q s hf _ _ =>
    rw [hcall]
    dsimp only
    by_cases hj : j = i
    · subst hj
      rw [hf] at h
      rw [Function.update_self, endedIn_snoc, if_pos rfl]
      exact .passOn q h
    · exact h.of_other hj
  | finish i f r s hf _ =>
    rw [hcall]
    dsimp only
    by_cases hj : j = i
    · subst hj
      rw [hf] at h
      rw [Function.update_self, endedIn_snoc, if_pos rfl]
      exact .finish r h
    · exact h.of_other hj

/-- **Nothing is lost or made up**: a slot's units are those that were started there. -/
theorem thread_of_run {s : σ} {turns : List (Turn ι π)} {m : Floor ι σ π ρ}
    (hrun : Path (Step call begins) (.fresh s) turns m) (i : ι) :
    Thread (startedIn i turns) (endedIn i m.ended) ((m.slots i).map Flight.began) := by
  have hgeneral : ∀ {m₀ m : Floor ι σ π ρ} {turns : List (Turn ι π)},
      Path (Step call begins) m₀ turns m → ∀ ps : List π,
      Thread ps (endedIn i m₀.ended) ((m₀.slots i).map Flight.began) →
      Thread (ps ++ startedIn i turns) (endedIn i m.ended) ((m.slots i).map Flight.began) := by
    intro m₀ m turns hpath
    induction hpath with
    | nil m =>
      intro ps hps
      rw [show startedIn i ([] : List (Turn ι π)) = [] from rfl, List.append_nil]
      exact hps
    | @cons m₁ m₂ m₃ t ts hstep _ ih =>
      intro ps hps
      have hcons : startedIn i (t :: ts) = startedIn i [t] ++ startedIn i ts :=
        List.filterMap_append (l := [t])
      rw [hcons, ← List.append_assoc]
      exact ih _ (hps.step i hstep)
  exact hgeneral hrun [] .idle

theorem resultsIn_snoc (i : ι) (ended : List (Entry ι π ρ)) (e : Entry ι π ρ) :
    resultsIn i (ended ++ [e]) =
      resultsIn i ended ++ if e.1 = i then e.2.2.getRight?.toList else [] := by
  obtain ⟨j, p, out⟩ := e
  unfold resultsIn
  rw [endedIn_snoc, List.filterMap_append]
  split
  · cases out <;> rfl
  · rfl

/-- What a call leaves on the floor. -/
theorem Step.of_call {m m' : Floor ι σ π ρ} {i : ι} (hstep : Step call begins m (.call i) m') :
    ∃ f, m.slots i = some f ∧ m'.state = (call f.now m.state).2 ∧
      (∀ j, j ≠ i → m'.slots j = m.slots j) ∧
      ∀ q, (call f.now m.state).1 = .inl q ↔ ∃ g, m'.slots i = some g ∧ g.now = q := by
  cases hstep with
  | goOn _ f q s hf hcall _ | passOn _ f q s hf hcall _ =>
    refine ⟨f, hf, by rw [hcall], fun j hj => Function.update_of_ne hj _ _, fun q' => ?_⟩
    dsimp only
    rw [Function.update_self, hcall]
    constructor
    · intro h
      cases h
      exact ⟨_, rfl, rfl⟩
    · rintro ⟨g, hg, rfl⟩
      cases hg
      rfl
  | finish _ f r s hf hcall =>
    refine ⟨f, hf, by rw [hcall], fun j hj => Function.update_of_ne hj _ _, fun q => ?_⟩
    dsimp only
    rw [Function.update_self, hcall]
    exact ⟨fun h => (by cases h), fun ⟨g, hg, _⟩ => (by cases hg)⟩

theorem Step.of_start {m m' : Floor ι σ π ρ} {i : ι} {p : π}
    (hstep : Step call begins m (.start i p) m') :
    m'.state = m.state ∧ m'.slots = Function.update m.slots i (some ⟨p, p⟩) := by
  cases hstep
  exact ⟨rfl, rfl⟩

/-- A call after which the process goes on gives no result. -/
theorem Step.results_of_inl {m m' : Floor ι σ π ρ} {i : ι}
    (hstep : Step call begins m (.call i) m') {f : Flight π} (hf : m.slots i = some f) {q : π}
    (hnext : (call f.now m.state).1 = .inl q) (j : ι) :
    resultsIn j m'.ended = resultsIn j m.ended := by
  cases hstep with
  | goOn _ _ _ _ _ _ _ => rfl
  | passOn _ g q' s hg hcall _ =>
    rw [resultsIn_snoc]
    split <;> exact List.append_nil _
  | finish _ g r s hg hcall =>
    rw [hf] at hg
    cases hg
    rw [hcall] at hnext
    cases hnext

/-- A call with which the process ends gives its result. -/
theorem Step.results_of_inr {m m' : Floor ι σ π ρ} {i : ι}
    (hstep : Step call begins m (.call i) m') {f : Flight π} (hf : m.slots i = some f) {r : ρ}
    (hnext : (call f.now m.state).1 = .inr r) (j : ι) :
    resultsIn j m'.ended = resultsIn j m.ended ++ if i = j then [r] else [] := by
  have hother : ∀ {g : Flight π} {q : π} {s : σ}, m.slots i = some g →
      call g.now m.state = (.inl q, s) → False := by
    intro g q s hg hcall
    rw [hf] at hg
    cases hg
    rw [hcall] at hnext
    cases hnext
  cases hstep with
  | goOn _ g q' s hg hcall _ => exact (hother hg hcall).elim
  | passOn _ g q' s hg hcall _ => exact (hother hg hcall).elim
  | finish _ g r' s hg hcall =>
    rw [hf] at hg
    cases hg
    rw [hcall] at hnext
    cases hnext
    exact resultsIn_snoc j m.ended _

/-! ## Two systems in step -/

variable {τ π' ρ' : Type} {call' : Caller τ π' ρ'} {begins' : π' → Bool}

/-- Calls on related states by related processes come out related. -/
structure Alike (call : Caller σ π ρ) (begins : π → Bool) (call' : Caller τ π' ρ')
    (begins' : π' → Bool) (R : σ → τ → Prop) (P : π → π' → Prop) (Q : ρ → ρ' → Prop) : Prop where
  begins : ∀ {p p'}, P p p' → begins p = begins' p'
  call : ∀ {p p' s t}, P p p' → R s t →
    Sum.LiftRel P Q (call p s).1 (call' p' t).1 ∧ R (call p s).2 (call' p' t).2

/-- The same turn, for a process that is related. -/
inductive Turn.Alike (P : π → π' → Prop) : Turn ι π → Turn ι π' → Prop
  | start (i : ι) {p : π} {p' : π'} (h : P p p') : Turn.Alike P (.start i p) (.start i p')
  | call (i : ι) : Turn.Alike P (.call i) (.call i)

/-- Two units of one slot, with related processes and results. -/
structure Entry.Alike (P : π → π' → Prop) (Q : ρ → ρ' → Prop) (e : Entry ι π ρ)
    (e' : Entry ι π' ρ') : Prop where
  slot : e.1 = e'.1
  began : P e.2.1 e'.2.1
  out : Sum.LiftRel P Q e.2.2 e'.2.2

/-- Two floors, slot by slot and entry by entry. -/
structure Floor.Alike (R : σ → τ → Prop) (P : π → π' → Prop) (Q : ρ → ρ' → Prop)
    (m : Floor ι σ π ρ) (m' : Floor ι τ π' ρ') : Prop where
  state : R m.state m'.state
  slots : ∀ i, Option.Rel (fun f f' => P f.began f'.began ∧ P f.now f'.now) (m.slots i)
    (m'.slots i)
  ended : List.Forall₂ (Entry.Alike P Q) m.ended m'.ended

variable {R : σ → τ → Prop} {P : π → π' → Prop} {Q : ρ → ρ' → Prop}

omit [DecidableEq ι] in
theorem Floor.Alike.fresh {s : σ} {t : τ} (h : R s t) :
    (Floor.fresh s : Floor ι σ π ρ).Alike R P Q (Floor.fresh t) :=
  ⟨h, fun _ => .none, .nil⟩

/-- Slots stay related when one of them is updated in both. -/
theorem rel_update {S : Flight π → Flight π' → Prop} {slots : ι → Option (Flight π)}
    {slots' : ι → Option (Flight π')} (h : ∀ i, Option.Rel S (slots i) (slots' i)) (i : ι)
    {o : Option (Flight π)} {o' : Option (Flight π')} (ho : Option.Rel S o o') (j : ι) :
    Option.Rel S (Function.update slots i o j) (Function.update slots' i o' j) := by
  by_cases hj : j = i
  · subst hj
    rw [Function.update_self, Function.update_self]
    exact ho
  · rw [Function.update_of_ne hj, Function.update_of_ne hj]
    exact h j

/-- The slot of the other floor has a flight too. -/
theorem exists_flight {S : Flight π → Flight π' → Prop} {o : Option (Flight π)}
    {o' : Option (Flight π')} {f : Flight π} (h : Option.Rel S o o') (ho : o = some f) :
    ∃ f', o' = some f' ∧ S f f' := by
  cases h with
  | some hS =>
    cases ho
    exact ⟨_, rfl, hS⟩
  | none => cases ho

/-- **Related turns keep floors related.** -/
theorem Alike.step (h : Alike call begins call' begins' R P Q) {m₁ m₂ : Floor ι σ π ρ}
    {m₁' : Floor ι τ π' ρ'} {t : Turn ι π} {t' : Turn ι π'} (hm : m₁.Alike R P Q m₁')
    (ht : Turn.Alike P t t') (hstep : Step call begins m₁ t m₂) :
    ∃ m₂', Step call' begins' m₁' t' m₂' ∧ m₂.Alike R P Q m₂' := by
  obtain ⟨hstate, hslots, hended⟩ := hm
  -- the other system's call at the same place
  have hother : ∀ i f, m₁.slots i = some f → ∃ f' next' s', m₁'.slots i = some f' ∧
      P f.began f'.began ∧ call' f'.now m₁'.state = (next', s') ∧
      Sum.LiftRel P Q (call f.now m₁.state).1 next' ∧ R (call f.now m₁.state).2 s' := by
    intro i f hf
    obtain ⟨f', hf', hbegan, hnow⟩ := exists_flight (hslots i) hf
    obtain ⟨hnext, hnew⟩ := h.call hnow hstate
    exact ⟨f', _, _, hf', hbegan, rfl, hnext, hnew⟩
  cases hstep with
  | start i p hfree hp =>
    cases ht with
    | @start _ _ p' hpp =>
      have hp' : begins' p' = true := (h.begins hpp).symm.trans hp
      have hfree' : m₁'.slots i = none := by
        have hrel := hslots i
        rw [hfree] at hrel
        generalize m₁'.slots i = o' at hrel
        cases hrel
        rfl
      exact ⟨_, .start i p' hfree' hp', hstate, rel_update hslots i (.some ⟨hpp, hpp⟩), hended⟩
  | goOn i f q s hf hcall hq =>
    cases ht
    obtain ⟨f', next', s', hf', hbegan, hcall', hnext, hnew⟩ := hother i f hf
    rw [hcall] at hnext hnew
    cases hnext with
    | @inl _ q' hqq =>
      have hq' : begins' q' = false := (h.begins hqq).symm.trans hq
      exact ⟨_, .goOn i f' q' s' hf' hcall' hq', hnew,
        rel_update hslots i (.some ⟨hbegan, hqq⟩), hended⟩
  | passOn i f q s hf hcall hq =>
    cases ht
    obtain ⟨f', next', s', hf', hbegan, hcall', hnext, hnew⟩ := hother i f hf
    rw [hcall] at hnext hnew
    cases hnext with
    | @inl _ q' hqq =>
      have hq' : begins' q' = true := (h.begins hqq).symm.trans hq
      exact ⟨_, .passOn i f' q' s' hf' hcall' hq', hnew,
        rel_update hslots i (.some ⟨hqq, hqq⟩),
        List.rel_append hended (.cons ⟨rfl, hbegan, .inl hqq⟩ .nil)⟩
  | finish i f r s hf hcall =>
    cases ht
    obtain ⟨f', next', s', hf', hbegan, hcall', hnext, hnew⟩ := hother i f hf
    rw [hcall] at hnext hnew
    cases hnext with
    | @inr _ r' hrr =>
      exact ⟨_, .finish i f' r' s' hf' hcall', hnew, rel_update hslots i .none,
        List.rel_append hended (.cons ⟨rfl, hbegan, .inr hrr⟩ .nil)⟩

/-- **Systems whose calls are alike run alike**: the turns of one can be taken by the other. -/
theorem alike_of_run (h : Alike call begins call' begins' R P Q) {m₁ m₂ : Floor ι σ π ρ}
    {m₁' : Floor ι τ π' ρ'} {ts : List (Turn ι π)} {ts' : List (Turn ι π')}
    (hm : m₁.Alike R P Q m₁') (hts : List.Forall₂ (Turn.Alike P) ts ts')
    (hrun : Path (Step call begins) m₁ ts m₂) :
    ∃ m₂', Path (Step call' begins') m₁' ts' m₂' ∧ m₂.Alike R P Q m₂' := by
  induction hrun generalizing m₁' ts' with
  | nil m =>
    cases hts
    exact ⟨m₁', .nil _, hm⟩
  | cons hstep _ ih =>
    cases hts with
    | cons ht hts =>
      obtain ⟨m', hstep', hm'⟩ := h.step hm ht hstep
      obtain ⟨m'', hpath, hm''⟩ := ih hm' hts
      exact ⟨m'', .cons hstep' hpath, hm''⟩

end Calls

end TinTin.Lib
