/-
  The session store as a finite map.

  A run adds and removes sessions and changes ratchets through `get_mut`, for any addressees and in
  any order.

  * `getMut_eq`: `get_mut` hands out the session that `get` returns.
  * `holds_run`: along a run the sessions are a map from addressees to sessions.
  * `store_refines_map`: what the store has after a run, in terms of the run.
-/
import TinTin.Core.Session
import TinTin.Lib.Keyed

namespace TinTin.Core

open TinTin.Lib

variable {Key : Type}

/-! ## Operations -/

/-- The remote user and device of a session. -/
def Session.address (s : Session Key) : String × UInt32 := (s.remoteUserId, s.remoteDeviceId)

/-- `iter_mut().find(..)`: the first element for which `p` holds, and the list with another one in
    its place. -/
def findMut {α : Type} (p : α → Bool) : List α → Option (α × (α → List α))
  | [] => none
  | a :: rest =>
    if p a then some (a, fun a' => a' :: rest)
    else (findMut p rest).map fun r => (r.1, fun a' => a :: r.2 a')

namespace SessionStore

/-- `SessionStore::get_mut`: the session, and the store after a change of it. -/
def getMut (st : SessionStore Key) (remoteUserId : String) (deviceId : UInt32) :
    Option (Session Key × (Session Key → SessionStore Key)) :=
  (findMut (isFor remoteUserId deviceId) st.sessions).map fun r => (r.1, fun s => ⟨r.2 s⟩)

end SessionStore

/-- A use of the store. -/
inductive SessionOp (Key : Type)
  | add (session : Session Key)
  | remove (remoteUserId : String) (deviceId : UInt32)
  /-- `get_mut`, and a change of the ratchet if there is a session -/
  | getMut (remoteUserId : String) (deviceId : UInt32) (change : Ratchet Key → Ratchet Key)

/-- The addressee of an operation. -/
def SessionOp.address : SessionOp Key → String × UInt32
  | .add session => session.address
  | .remove remoteUserId deviceId => (remoteUserId, deviceId)
  | .getMut remoteUserId deviceId _ => (remoteUserId, deviceId)

/-- What an operation does to the session of the addressee, where it neither adds nor removes it. -/
def SessionOp.change (address : String × UInt32) : SessionOp Key → Session Key → Session Key
  | .getMut remoteUserId deviceId change, s =>
    if (remoteUserId, deviceId) = address then { s with ratchet := change s.ratchet } else s
  | _, s => s

namespace SessionStore

/-- The store after an operation. -/
def step (st : SessionStore Key) : SessionOp Key → SessionStore Key
  | .add session => st.add session
  | .remove remoteUserId deviceId => st.remove remoteUserId deviceId
  | .getMut remoteUserId deviceId change =>
    match st.getMut remoteUserId deviceId with
    | none => st
    | some (s, put) => put { s with ratchet := change s.ratchet }

/-- The store after a run. -/
def run (ops : List (SessionOp Key)) : SessionStore Key := ops.foldl step new

theorem run_snoc (ops : List (SessionOp Key)) (op : SessionOp Key) :
    run (ops ++ [op]) = (run ops).step op := by
  unfold run
  rw [List.foldl_append]
  rfl

/-- **The session was added for the addressee last**, and not removed since; the changes of its
    ratchet since have led to `s`. -/
def IsLive (ops : List (SessionOp Key)) (address : String × UInt32) (s : Session Key) : Prop :=
  ∃ before s₀ since, ops = before ++ .add s₀ :: since ∧ s₀.address = address ∧
    (∀ s', .add s' ∈ since → s'.address ≠ address) ∧ .remove address.1 address.2 ∉ since ∧
    since.foldl (fun s op => op.change address s) s₀ = s

/-! ## References -/

theorem findMut_eq {p : Session Key → Bool} (l : List (Session Key)) :
    findMut p l = (l.find? p).map fun s => (s, fun s' => updateFirst p (fun _ => s') l) := by
  induction l with
  | nil => rfl
  | cons s rest ih =>
    unfold findMut
    by_cases h : p s = true
    · simp [h, updateFirst]
    · simp [h, updateFirst, ih, Function.comp_def]

/-- **`get_mut` hands out what `get` returns.** -/
theorem getMut_eq (st : SessionStore Key) (u : String) (d : UInt32) :
    st.getMut u d = (st.get u d).map fun s => (s, fun s' => st.update u d fun _ => s') := by
  unfold getMut get update
  rw [findMut_eq, Option.map_map]
  rfl

theorem updateFirst_congr {p : Session Key → Bool} {f : Session Key → Session Key}
    {l : List (Session Key)} {s : Session Key} (h : l.find? p = some s) :
    updateFirst p (fun _ => f s) l = updateFirst p f l := by
  induction l with
  | nil => rfl
  | cons a rest ih =>
    by_cases hp : p a = true
    · rw [List.find?_cons_of_pos hp] at h
      cases h
      simp [updateFirst, hp]
    · rw [List.find?_cons_of_neg hp] at h
      simp [updateFirst, hp, ih h]

theorem updateFirst_none {p : Session Key → Bool} (f : Session Key → Session Key)
    {l : List (Session Key)} (h : l.find? p = none) : updateFirst p f l = l := by
  induction l with
  | nil => rfl
  | cons a rest ih =>
    have hp : ¬ p a = true := List.find?_eq_none.mp h a List.mem_cons_self
    rw [List.find?_cons_of_neg hp] at h
    simp [updateFirst, hp, ih h]

/-- A change of the ratchet through the reference. -/
theorem step_getMut (st : SessionStore Key) (u : String) (d : UInt32)
    (change : Ratchet Key → Ratchet Key) :
    st.step (.getMut u d change) =
      st.update u d fun s => { s with ratchet := change s.ratchet } := by
  unfold step
  dsimp only
  rw [getMut_eq]
  unfold get update
  cases h : st.sessions.find? (isFor u d) with
  | none => rw [updateFirst_none _ h]; rfl
  | some s =>
    rw [← updateFirst_congr h]
    rfl

/-! ## The map -/

theorem isFor_eq (u : String) (d : UInt32) (s : Session Key) :
    isFor u d s = decide (s.address = (u, d)) := by
  rw [Bool.eq_iff_iff, isFor_iff, decide_eq_true_iff]
  exact Prod.mk.injEq .. ▸ Iff.rfl

/-- What an operation does to the map. -/
def edit : SessionOp Key → Edit (Session Key) (String × UInt32)
  | .add session => .put session
  | .remove remoteUserId deviceId => .drop (remoteUserId, deviceId)
  | .getMut remoteUserId deviceId change =>
    .alter (remoteUserId, deviceId) fun s => { s with ratchet := change s.ratchet }

theorem address_updateFirst (p : Session Key → Bool) {f : Session Key → Session Key}
    (hf : ∀ s, (f s).address = s.address) (l : List (Session Key)) :
    (updateFirst p f l).map Session.address = l.map Session.address := by
  induction l with
  | nil => rfl
  | cons s rest ih =>
    by_cases hp : p s = true
    · simp [updateFirst, hp, hf]
    · simp [updateFirst, hp, ih]

/-- **An operation does to the sessions what it does to the map.** -/
theorem holds_step {st : SessionStore Key} {m : String × UInt32 → Option (Session Key)}
    (h : Holds Session.address st.sessions m) (op : SessionOp Key) :
    Holds Session.address (st.step op).sessions ((edit op).apply Session.address m) := by
  have hfor : ∀ (u : String) (d : UInt32),
      (isFor u d : Session Key → Bool) = fun s => decide (s.address = (u, d)) :=
    fun u d => funext (isFor_eq u d)
  cases op with
  | add session =>
    have hput := h.put session
    show Holds _ (st.sessions.filter (fun s =>
      !isFor session.remoteUserId session.remoteDeviceId s) ++ [session]) _
    rw [hfor]
    exact hput
  | remove u d =>
    have hdrop := h.drop (u, d)
    show Holds _ (st.sessions.filter fun s => !isFor u d s) _
    rw [hfor]
    exact hdrop
  | getMut u d change =>
    rw [step_getMut]
    have hkept : ∀ s : Session Key,
        ({ s with ratchet := change s.ratchet } : Session Key).remoteUserId = s.remoteUserId ∧
          ({ s with ratchet := change s.ratchet } : Session Key).remoteDeviceId =
            s.remoteDeviceId := fun _ => ⟨rfl, rfl⟩
    have hkeys := address_updateFirst (isFor u d)
      (f := fun s => { s with ratchet := change s.ratchet }) (fun _ => rfl) st.sessions
    refine h.alter hkeys ?_ fun k hk => ?_
    · have hself := get_update_self st u d _ hkept
      unfold get at hself
      rw [hfor] at hself
      exact hself
    · have hne : ¬ (u = k.1 ∧ d = k.2) := fun heq => hk (Prod.ext heq.1 heq.2).symm
      have hother := get_update_of_ne st hne hkept
      unfold get at hother
      rw [hfor k.1 k.2] at hother
      exact hother

/-- **Along a run** the sessions are a map from addressees to sessions. -/
theorem holds_run (ops : List (SessionOp Key)) :
    Holds Session.address (run ops).sessions (content Session.address (ops.map edit)) := by
  induction ops using List.reverseRecOn with
  | nil => exact .nil
  | append_singleton ops op ih =>
    rw [run_snoc, List.map_append, List.map_singleton, content_snoc]
    exact holds_step ih op

theorem settles_iff {op : SessionOp Key} {k : String × UInt32} :
    (edit op).Settles Session.address k ↔
      (∃ s, op = .add s ∧ s.address = k) ∨ op = .remove k.1 k.2 := by
  cases op with
  | add s => simp [edit, Edit.Settles]
  | remove u d => simp [edit, Edit.Settles, Prod.ext_iff]
  | getMut u d change => simp [edit, Edit.Settles]

theorem alteration_edit (k : String × UInt32) (op : SessionOp Key) :
    (edit op).alteration k = op.change k := by
  cases op with
  | add s => rfl
  | remove u d => rfl
  | getMut u d change =>
    funext s
    show (if (u, d) = k then _ else id) s = if (u, d) = k then _ else s
    split <;> rfl

theorem altered_edit (k : String × UInt32) (ops : List (SessionOp Key)) (s : Session Key) :
    altered k (ops.map edit) s = ops.foldl (fun s op => op.change k s) s := by
  unfold altered
  rw [List.foldl_map]
  congr 1
  funext s op
  rw [alteration_edit]

/-- The map, in terms of the run. -/
theorem content_eq_some_iff_isLive {ops : List (SessionOp Key)} {k : String × UInt32}
    {s : Session Key} : content Session.address (ops.map edit) k = some s ↔ IsLive ops k s := by
  rw [content_eq_some_iff]
  constructor
  · rintro ⟨before, s₀, since, hops, hkey, hsince, haltered⟩
    obtain ⟨front, rest, rfl, -, hrest⟩ := List.map_eq_append_iff.mp hops
    obtain ⟨op, since, rfl, hop, rfl⟩ := List.map_eq_cons_iff.mp hrest
    rw [altered_edit] at haltered
    cases op with
    | add s₁ =>
      cases hop
      refine ⟨front, s₀, since, rfl, hkey, fun s' hs' heq => ?_, fun hremove => ?_, haltered⟩
      · exact hsince _ (List.mem_map_of_mem hs') (settles_iff.mpr (Or.inl ⟨s', rfl, heq⟩))
      · exact hsince _ (List.mem_map_of_mem hremove) (settles_iff.mpr (Or.inr rfl))
    | remove u d => cases hop
    | getMut u d change => cases hop
  · rintro ⟨front, s₀, since, rfl, hkey, hadd, hremove, haltered⟩
    refine ⟨front.map edit, s₀, since.map edit, ?_, hkey, fun e he hsettles => ?_, ?_⟩
    · rw [List.map_append, List.map_cons]
      rfl
    · obtain ⟨op, hop, rfl⟩ := List.mem_map.mp he
      rcases settles_iff.mp hsettles with ⟨s', rfl, heq⟩ | rfl
      · exact hadd s' hop heq
      · exact hremove hop
    · rw [altered_edit]
      exact haltered

theorem get_eq (ops : List (SessionOp Key)) (u : String) (d : UInt32) :
    (run ops).get u d = content Session.address (ops.map edit) (u, d) := by
  rw [← (holds_run ops).find]
  unfold get
  rw [funext (isFor_eq u d)]
  rfl

/-- An operation for one addressee leaves what is there for the others. -/
theorem get_step_of_ne (st : SessionStore Key) {op : SessionOp Key} {u : String} {d : UInt32}
    (h : op.address ≠ (u, d)) : (st.step op).get u d = st.get u d := by
  cases op with
  | add s => exact get_add_of_ne st fun heq => h (Prod.ext heq.1 heq.2)
  | remove u' d' =>
    show (st.sessions.filter fun s => !isFor u' d' s).find? (isFor u d) = _
    unfold get
    rw [funext (isFor_eq u d), funext (isFor_eq u' d')]
    exact Holds.find_filter_of_ne (Ne.symm h)
  | getMut u' d' change =>
    rw [step_getMut]
    exact get_update_of_ne st (fun heq => h (Prod.ext heq.1 heq.2)) fun _ => ⟨rfl, rfl⟩

/-- **The store is a map from addressees to sessions.** After any run from `new` of `add`, `remove`
    and changes of ratchets through `get_mut`, there is at most one session for a remote user and
    device; `get` and `get_mut` return the session that was added for the two last and not removed
    since, with the changes since; an operation for others leaves that alone; and `len` is the number
    of pairs for which there is a session. -/
theorem store_refines_map (ops : List (SessionOp Key)) :
    ((run ops).sessions.map Session.address).Nodup ∧
    (∀ u d s, (run ops).get u d = some s ↔ IsLive ops (u, d) s) ∧
    (∀ u d, ((run ops).getMut u d).map Prod.fst = (run ops).get u d) ∧
    (∀ op u d, SessionOp.address op ≠ (u, d) → ((run ops).step op).get u d = (run ops).get u d) ∧
    ∃ live : Finset (String × UInt32), (∀ p, p ∈ live ↔ ∃ s, IsLive ops p s) ∧
      (run ops).len = live.card := by
  refine ⟨(holds_run ops).nodup, fun u d s => ?_, fun u d => ?_,
    fun op u d h => get_step_of_ne _ h, ?_⟩
  · rw [get_eq]
    exact content_eq_some_iff_isLive
  · rw [getMut_eq, Option.map_map]
    exact Option.map_id' ..
  · obtain ⟨live, hlive, hlen⟩ := (holds_run ops).length_eq
    refine ⟨live, fun p => ?_, hlen⟩
    rw [hlive, Option.isSome_iff_exists]
    exact exists_congr fun s => content_eq_some_iff_isLive

end SessionStore

end TinTin.Core
