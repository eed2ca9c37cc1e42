/-
  The handles of the iOS app behave as values, in any run.

  * `simulated`: each call does what it does on values, and is undefined where it goes wrong.
  * `handles_are_values`: so does each run, and the memory handed out is that of the objects that
    are referred to.
  * `undefined_iff`: which calls have undefined behaviour: a key that is too short is read beyond
    its end, and a vector is freed with its length for its capacity.
-/
import TinTin.Ios.Handles
import TinTin.Native.Reporting

namespace TinTin.Ios.RustCore

open TinTin.Lib TinTin.Core TinTin.Native TinTin.Native.Memory Raw Cell

variable {ι α β γ : Type} [DecidableEq ι] {X : NativeCrates} {m : Allocation} {heap : Heap Cell}

/-! ## What the classes do -/

section

variable {y : Slotted γ} {out : γ → β × Heap Cell}

theorem follows_borrow {ptr : ℕ} {cell : Cell} {a : α} {view : Cell → Option α}
    {f : Option α → Bridge β} (h₀ : ptr ≠ 0) (h : heap ptr = some cell) (hview : view cell = some a)
    (hf : Follows heap (f (some a)) y out) : Follows heap (borrow true view ptr >>= f) y out := by
  have hborrow : (borrow true view ptr : Bridge _) = deref view ptr >>= fun a => pure (some a) := by
    unfold borrow
    rw [Bool.true_and, bne_iff_ne.mpr h₀]
    rfl
  rw [hborrow, bind_assoc]
  exact Follows.deref h hview hf

/-- A string that the bridge has just made is read and freed. -/
theorem follows_takeString {text : String} {f : String → Bridge β}
    (hfree : heap.Free m.address) (hf : Follows heap (f text) y out) :
    Follows (Function.update heap m.address (some (.string text)))
      (takeString m.address >>= f) y out := by
  have hcell : Function.update heap m.address (some (.string text)) m.address =
      some (.string text) := Function.update_self ..
  have hdrop : freeString m.address = free string? m.address := if_neg hfree.1
  unfold takeString
  rw [hdrop, bind_assoc]
  refine Follows.deref hcell rfl ?_
  rw [bind_assoc]
  refine Follows.free hcell rfl ?_
  rw [update_free hfree.2]
  exact hf

theorem follows_lastError {f : String → Bridge β} {g : String → Slotted γ}
    (hfree : heap.Free m.address) (hf : ∀ text, Follows heap (f text) (g text) out) :
    Follows heap (lastError m >>= f) (Ffi.lastError >>= g) out := by
  unfold lastError Memory.lastError
  rw [bind_assoc, bind_assoc]
  refine Follows.call fun text => Follows.alloc ?_
  rw [if_neg hfree.1]
  exact follows_takeString hfree (hf text)

theorem follows_throwLast {text : String}
    {out : Except RustCoreError γ → Except RustCoreError α × Heap Cell}
    (hfree : heap.Free m.address) (hout : ∀ e, out (.error e) = (.error e, heap)) :
    Follows heap (throwLast m text)
      (Ffi.lastError >>= fun e => pure (.error (.operationFailed (text ++ e)))) out :=
  follows_lastError hfree fun _ => Follows.pure (hout _)

/-- A string that the bridge makes, or nothing. -/
theorem follows_json (hfree : heap.Free m.address) (e : RustCoreError)
    (x : Slotted (Option String)) :
    Follows heap (do
      let cStr ← call x >>= stringIntoRaw m
      if cStr = 0 then return .error e else return .ok (← takeString cStr))
      (orThrow e x) (fun r => (r, heap)) := by
  unfold orThrow
  rw [bind_assoc]
  refine Follows.call fun o => ?_
  cases o with
  | none => exact Follows.pure rfl
  | some text =>
    refine Follows.alloc ?_
    rw [if_neg hfree.1]
    exact follows_takeString hfree (Follows.pure rfl)

/-- What a call leaves on the heap that makes an object. -/
def made (m : Allocation) (heap : Heap Cell) (object : α → Object) :
    Except RustCoreError α → Except RustCoreError ℕ × Heap Cell
  | .ok a => (.ok m.address, Function.update heap m.address (some (.object (object a))))
  | .error e => (.error e, heap)

theorem follows_new {object : α → Object} (hfree : heap.Free m.address) (e : RustCoreError)
    (x : Slotted (Option α)) :
    Follows heap (do
      let ptr ← call x >>= intoRaw m object
      if ptr = 0 then return .error e else return .ok ptr)
      (orThrow e x) (made m heap object) := by
  unfold orThrow
  rw [bind_assoc]
  refine Follows.call fun o => ?_
  cases o with
  | none => exact Follows.pure rfl
  | some a =>
    refine Follows.alloc ?_
    rw [if_neg hfree.1]
    exact Follows.pure rfl

theorem follows_newLast {object : α → Object} (hfree : heap.Free m.address) (text : String)
    (x : Slotted (Option α)) :
    Follows heap (do
      let ptr ← call x >>= intoRaw m object
      if ptr = 0 then throwLast m text else return .ok ptr)
      (orThrowLast text x) (made m heap object) := by
  unfold orThrowLast
  rw [bind_assoc]
  refine Follows.call fun o => ?_
  cases o with
  | none => exact follows_throwLast hfree fun _ => rfl
  | some a =>
    refine Follows.alloc ?_
    rw [if_neg hfree.1]
    exact Follows.pure rfl

end

/-! ### Keys that are read -/

theorem read32_of_some {bytes : Bytes} {k : Key32} (h : key32? bytes = some k) :
    read32 bytes = pure k := by
  unfold key32? at h
  unfold read32
  split_ifs at h with hlen
  cases h
  exact dif_pos hlen

theorem read32_of_none {bytes : Bytes} (h : key32? bytes = none) :
    read32 bytes = undefined := by
  unfold key32? at h
  unfold read32
  split_ifs at h with hlen
  exact dif_neg hlen

theorem key32?_eq_none_iff {bytes : Bytes} : key32? bytes = none ↔ bytes.length < 32 := by
  have htake : (bytes.take 32).length = 32 ↔ ¬ bytes.length < 32 := by
    rw [List.length_take]
    omega
  unfold key32?
  rw [dite_eq_right_iff]
  constructor
  · intro h
    by_contra hlen
    cases h (htake.mpr hlen)
  · intro hlen h
    exact absurd hlen (htake.mp h)

/-- A key is not there in full, behind a pointer that is. -/
def Short (a b : Option Bytes) : Prop :=
  ∃ x y, a = some x ∧ b = some y ∧ (x.length < 32 ∨ y.length < 32)

theorem exists_keys {x y : Bytes} (h : ¬ Short (some x) (some y)) :
    ∃ k l, key32? x = some k ∧ key32? y = some l := by
  cases hx : key32? x with
  | none => exact absurd ⟨x, y, rfl, rfl, .inl (key32?_eq_none_iff.mp hx)⟩ h
  | some k =>
    cases hy : key32? y with
    | none => exact absurd ⟨x, y, rfl, rfl, .inr (key32?_eq_none_iff.mp hy)⟩ h
    | some l => exact ⟨k, l, rfl, rfl⟩

section

variable {i s : ℕ} {ident : IdentityKeyPair Key32} {spk : SignedPreKey Key32}
  {uid : Option Bytes} {dev : UInt32} {a b : Option Bytes}

theorem run_newInitiator (hi : i ≠ 0) (hident : heap i = some (.object (.identity ident)))
    (hkeys : ¬ Short a b) (eph : Key32) (slot : ErrorSlot) :
    sessionNewInitiator X m eph i uid dev a b (heap, slot) =
      (call (Ffi.sessionNewInitiator X eph (some ident) uid dev (a.bind key32?) (b.bind key32?)) >>=
        intoRaw m .session : Bridge ℕ) (heap, slot) := by
  cases uid with
  | none => rfl
  | some uid =>
    cases a with
    | none => rfl
    | some x =>
      cases b with
      | none => cases hx : (some x).bind key32? <;> rfl
      | some y =>
        obtain ⟨k, l, hk, hl⟩ := exists_keys hkeys
        rw [Option.bind_some, Option.bind_some, hk, hl]
        change (if i = 0 then _ else deref identity? i >>= _ : Bridge ℕ) (heap, none) = _
        rw [if_neg hi, run_bind (run_deref hident (rfl : identity? _ = some ident) none)]
        unfold Ffi.sessionNewInitiator
        dsimp only
        cases Ffi.toStr X uid with
        | error e => rfl
        | ok uid =>
          dsimp only
          rw [read32_of_some hk, read32_of_some hl]
          rfl

theorem run_newResponder {j : ℕ} (hi : i ≠ 0) (hj : j ≠ 0)
    (hident : heap i = some (.object (.identity ident)))
    (hspk : heap j = some (.object (.signedPreKey spk))) (hkeys : ¬ Short a b) (slot : ErrorSlot) :
    sessionNewResponder X m i uid dev a b j (heap, slot) =
      (call (Ffi.sessionNewResponder X (some ident) uid dev (a.bind key32?) (b.bind key32?)
        (some spk)) >>= intoRaw m .session : Bridge ℕ) (heap, slot) := by
  cases uid with
  | none => rfl
  | some uid =>
    cases a with
    | none => rfl
    | some x =>
      cases b with
      | none => cases hx : (some x).bind key32? <;> rfl
      | some y =>
        obtain ⟨k, l, hk, hl⟩ := exists_keys hkeys
        rw [Option.bind_some, Option.bind_some, hk, hl]
        change (if i = 0 || j = 0 then _ else deref identity? i >>= _ : Bridge ℕ) (heap, none) = _
        rw [if_neg (by simp [hi, hj]),
          run_bind (run_deref hident (rfl : identity? _ = some ident) none)]
        unfold Ffi.sessionNewResponder
        dsimp only
        cases Ffi.toStr X uid with
        | error e => rfl
        | ok uid =>
          dsimp only
          rw [read32_of_some hk, read32_of_some hl, pure_bind, pure_bind,
            run_bind (run_deref hspk (rfl : signedPreKey? _ = some spk) none)]
          rfl

end

/-- A Swift string is UTF-8, as far as C reads it. -/
theorem exists_toStr (X : NativeCrates) (text : String) :
    ∃ uid, Ffi.toStr X (utf8String text) = .ok uid := by
  unfold Ffi.toStr utf8String
  rw [takeWhile_utf8, fromUtf8?_utf8]
  exact ⟨_, rfl⟩

section

variable {i : ℕ} {ident : IdentityKeyPair Key32} {uid : String} {dev : UInt32}
  {a b : Option Bytes}

/-- Keys that are too short are read nevertheless. -/
theorem undefined_read {x y : Bytes} (h : x.length < 32 ∨ y.length < 32)
    (f : Key32 → Key32 → Bridge β) (s : Heap Cell × ErrorSlot) :
    (read32 x >>= fun k => read32 y >>= fun l => f k l) s = none := by
  cases hx : key32? x with
  | none =>
    rw [read32_of_none hx]
    rfl
  | some k =>
    have hy : key32? y = none := by
      refine key32?_eq_none_iff.mpr (h.resolve_left fun hlt => ?_)
      cases hx.symm.trans (key32?_eq_none_iff.mpr hlt)
    rw [read32_of_some hx, read32_of_none hy]
    rfl

theorem undefined_newInitiator (hi : i ≠ 0) (hident : heap i = some (.object (.identity ident)))
    (hkeys : Short a b) (eph : Key32) (slot : ErrorSlot) :
    sessionNewInitiator X m eph i (some (utf8String uid)) dev a b (heap, slot) = none := by
  obtain ⟨x, y, rfl, rfl, hlt⟩ := hkeys
  obtain ⟨text, htext⟩ := exists_toStr X uid
  change (if i = 0 then _ else deref identity? i >>= _ : Bridge ℕ) (heap, none) = _
  rw [if_neg hi, run_bind (run_deref hident (rfl : identity? _ = some ident) none), htext]
  exact undefined_read hlt _ _

theorem undefined_newResponder {j : ℕ} (hi : i ≠ 0) (hj : j ≠ 0)
    (hident : heap i = some (.object (.identity ident))) (hkeys : Short a b) (slot : ErrorSlot) :
    sessionNewResponder X m i (some (utf8String uid)) dev a b j (heap, slot) = none := by
  obtain ⟨x, y, rfl, rfl, hlt⟩ := hkeys
  obtain ⟨text, htext⟩ := exists_toStr X uid
  change (if i = 0 || j = 0 then _ else deref identity? i >>= _ : Bridge ℕ) (heap, none) = _
  rw [if_neg (by simp [hi, hj]), run_bind (run_deref hident (rfl : identity? _ = some ident) none),
    htext]
  exact undefined_read hlt _ _

end

/-! ## What a call leaves -/

/-- The class of what a handle stands for. -/
def kindOf : Object → Kind
  | .identity _ => .identity
  | .signedPreKey _ => .signedPreKey
  | .session _ => .session

/-- The objects, if each owns its cell. -/
def handlesOf (own : ι → Option (ℕ × Object)) (i : ι) : Option Handle :=
  (own i).map fun p => ⟨kindOf p.2, p.1⟩

/-- What they stand for. -/
def objectsOf (own : ι → Option (ℕ × Object)) (i : ι) : Option Object := (own i).map (·.2)

/-- A key that is to be read is not there in full. -/
def Call.Short : Call ι → Prop
  | .newInitiator _ _ _ _ _ theirIdentity signedPrekeyPublic =>
    RustCore.Short theirIdentity signedPrekeyPublic
  | .newResponder _ _ _ _ theirIdentity aliceEphemeral _ =>
    RustCore.Short theirIdentity aliceEphemeral
  | _ => False

/-- A key is read beyond its end, or a buffer is freed that has room left. -/
def Wrong (m : Allocation) (c : Call ι) (r : Reply) : Prop :=
  c.Short ∨ ∃ bytes, r = .data bytes ∧ m.capacity ≠ bytes.length

/-- The code does what the values do, if nothing goes wrong, and is undefined if something does. -/
inductive Simulated (m : Allocation) (heap : Heap Cell) (c : Call ι) :
    Option (Bridge (Reply × (ι → Option Handle))) →
    Option (Slotted (Reply × (ι → Option Object))) → Prop
  | absent : Simulated m heap c none none
  | call {code : Bridge (Reply × (ι → Option Handle))}
    {x : Slotted (Reply × (ι → Option Object))}
    (hright : ∀ slot, ¬ Wrong m c (x slot).1.1 → ∃ own' heap', Owned Cell.object own' heap' ∧
      code (heap, slot) = some (((x slot).1.1, handlesOf own'), heap', (x slot).2) ∧
      (x slot).1.2 = objectsOf own')
    (hwrong : ∀ slot, Wrong m c (x slot).1.1 → code (heap, slot) = none) :
    Simulated m heap c (some code) (some x)

section

variable {own : ι → Option (ℕ × Object)} {c : Call ι}

theorem slotted_bind (y : Slotted α) (g : α → Slotted β) (slot : ErrorSlot) :
    (y >>= g) slot = g (y slot).1 (y slot).2 := rfl

omit [DecidableEq ι] in
theorem simulated_answer (howned : Owned Cell.object own heap) {reply : α → Reply}
    {reply' : γ → Reply} {f : γ → α} {x : Bridge α} {y : Slotted γ}
    (h : Follows heap x y fun a => (f a, heap)) (hreply : ∀ a, reply (f a) = reply' a)
    (hshort : ¬ c.Short) (hdata : ∀ a bytes, reply' a ≠ .data bytes) :
    Simulated m heap c (some (answer (handlesOf own) reply x))
      (some (tell (objectsOf own) reply' y)) := by
  refine .call (fun slot _ => ⟨own, heap, howned, ?_, rfl⟩) fun slot hwrong => ?_
  · unfold answer
    rw [run_bind (h slot), hreply]
    rfl
  · rcases hwrong with hs | ⟨bytes, hbytes, -⟩
    · exact absurd hs hshort
    · exact absurd hbytes (hdata _ _)

theorem handlesOf_update (own : ι → Option (ℕ × Object)) (i : ι) (p : Option (ℕ × Object)) :
    handlesOf (Function.update own i p) =
      Function.update (handlesOf own) i (p.map fun p => ⟨kindOf p.2, p.1⟩) :=
  Function.comp_update (Option.map fun p : ℕ × Object => (⟨kindOf p.2, p.1⟩ : Handle)) own i p

theorem objectsOf_update (own : ι → Option (ℕ × Object)) (i : ι) (p : Option (ℕ × Object)) :
    objectsOf (Function.update own i p) = Function.update (objectsOf own) i (p.map (·.2)) :=
  Function.comp_update (Option.map (Prod.snd : ℕ × Object → Object)) own i p

theorem simulated_create (howned : Owned Cell.object own heap) (hfree : heap.Free m.address)
    {object : γ → Object} {kind : Kind} {new : ι} {x : Bridge (Except RustCoreError ℕ)}
    {y : Slotted (Except RustCoreError γ)} (hkind : ∀ a, kindOf (object a) = kind)
    (h : ¬ c.Short → Follows heap x y (made m heap object))
    (hshort : c.Short → ∀ slot, x (heap, slot) = none) :
    Simulated m heap c (create (handlesOf own) kind new x)
      (make (objectsOf own) object new y) := by
  unfold create make
  cases hnew : own new with
  | some p =>
    have hh : (handlesOf own new).isSome := by simp [handlesOf, hnew]
    have ho : (objectsOf own new).isSome := by simp [objectsOf, hnew]
    rw [if_pos hh, if_pos ho]
    exact .absent
  | none =>
    have hh : ¬ (handlesOf own new).isSome := by simp [handlesOf, hnew]
    have ho : ¬ (objectsOf own new).isSome := by simp [objectsOf, hnew]
    rw [if_neg hh, if_neg ho]
    refine .call (fun slot hright => ?_) fun slot hwrong => ?_
    · rw [run_bind (h (fun hs => hright (.inl hs)) slot), slotted_bind]
      cases (y slot).1 with
      | error e => exact ⟨own, heap, howned, rfl, rfl⟩
      | ok a =>
        refine ⟨_, _, howned.enter hnew hfree (object a), ?_, ?_⟩
        · rw [handlesOf_update, Option.map_some, hkind]
          rfl
        · rw [objectsOf_update]
          rfl
    · rcases hwrong with hs | ⟨bytes, hbytes, -⟩
      · exact run_bind_none (hshort hs slot) _
      · rw [slotted_bind] at hbytes
        cases hy : (y slot).1 with
        | error e =>
          rw [hy] at hbytes
          cases hbytes
        | ok a =>
          rw [hy] at hbytes
          cases hbytes

/-- A buffer that the bridge has just made is copied and freed, if its room is its length. -/
theorem run_takeBuffer (hfree : heap.Free m.address) (bytes : Bytes) (slot : ErrorSlot) :
    takeBuffer m.address bytes.length
      (Function.update heap m.address (some (.buffer bytes m.capacity)), slot) =
      if m.capacity = bytes.length then some (bytes, heap, slot) else none := by
  have hcell : Function.update heap m.address (some (.buffer bytes m.capacity)) m.address =
      some (.buffer bytes m.capacity) := Function.update_self ..
  have hbytes : bytesOf bytes.length (.buffer bytes m.capacity) = some bytes := by
    change (if bytes.length ≤ bytes.length then some (bytes.take bytes.length) else none) = _
    rw [if_pos (Nat.le_refl _), List.take_length]
  have hdrop : freeBuffer m.address bytes.length = free (bufferOf bytes.length) m.address :=
    if_neg hfree.1
  unfold takeBuffer
  rw [run_bind (run_deref hcell hbytes slot), hdrop]
  split_ifs with hroom
  · have hview : bufferOf bytes.length (.buffer bytes m.capacity) = some bytes := if_pos hroom
    have hback : Follows (Function.update heap m.address (some (.buffer bytes m.capacity)))
        (free (bufferOf bytes.length) m.address >>= fun _ => (pure bytes : Bridge Bytes))
        (pure bytes) fun b => (b, heap) := by
      refine Follows.free hcell hview ?_
      rw [update_free hfree.2]
      exact Follows.pure rfl
    exact hback slot
  · have hview : bufferOf bytes.length (.buffer bytes m.capacity) = none := if_neg hroom
    exact run_bind_none (run_bind_none (run_deref_none hcell hview slot) _) _

theorem run_takeResult (hfree : heap.Free m.address) (text : String) (result : Option Bytes)
    (slot : ErrorSlot) :
    (leak m result >>= takeResult m text) (heap, slot) =
      if ∀ bytes, result = some bytes → m.capacity = bytes.length then
        some ((orThrowLast text (return result) slot).1, heap,
          (orThrowLast text (return result) slot).2)
      else none := by
  cases result with
  | none =>
    rw [if_pos nofun]
    have hthrow : Follows heap (throwLast m text : Bridge (Except RustCoreError Bytes))
        (orThrowLast text (return none)) fun r => (r, heap) :=
      follows_throwLast hfree fun _ => rfl
    exact hthrow slot
  | some bytes =>
    have hleak : (leak m (some bytes) >>= takeResult m text) (heap, slot) =
        (takeBuffer m.address bytes.length >>= fun b => (pure (.ok b) : Bridge _))
          (Function.update heap m.address (some (.buffer bytes m.capacity)), slot) := by
      change (if m.address = 0 then throwLast m text
        else takeBuffer m.address bytes.length >>= fun b => (pure (.ok b) : Bridge _)) _ = _
      rw [if_neg hfree.1]
    have htake := run_takeBuffer hfree bytes slot
    rw [hleak]
    split_ifs with hroom
    · rw [if_pos (hroom bytes rfl)] at htake
      exact run_bind htake _
    · rw [if_neg fun h => hroom fun b hb => by cases hb; exact h] at htake
      exact run_bind_none htake _

/-- A session is in use: what the bridge writes is on a heap on which the session has changed. -/
theorem simulated_change (howned : Owned Cell.object own heap) (hfree : heap.Free m.address)
    (hshort : ¬ c.Short) {i : ι} {ptr : ℕ} {session : Session Key32}
    (hi : own i = some (ptr, .session session)) (text : String) {x : Bridge (Option (ℕ × ℕ))}
    {y : Slotted (Option Bytes × Option (Session Key32))}
    (hx : ∀ slot, ∃ result session' slot', y slot = ((result, some session'), slot') ∧
      x (heap, slot) = leak m result
        (Function.update heap ptr (some (.object (.session session'))), slot')) :
    Simulated m heap c (some (answer (handlesOf own) .ofData (x >>= takeResult m text)))
      (some (change (objectsOf own) i text y)) := by
  have hne : m.address ≠ ptr := by
    rintro rfl
    cases hfree.2.symm.trans (howned.cell hi).2
  have hstep : ∀ slot, ∃ result session' slot', y slot = ((result, some session'), slot') ∧
      (x >>= takeResult m text) (heap, slot) =
        if ∀ bytes, result = some bytes → m.capacity = bytes.length then
          some ((orThrowLast text (return result) slot').1,
            Function.update heap ptr (some (.object (.session session'))),
            (orThrowLast text (return result) slot').2)
        else none := by
    intro slot
    obtain ⟨result, session', slot', hy, hrun⟩ := hx slot
    have hfree' : Heap.Free (Function.update heap ptr (some (.object (.session session'))))
        m.address := ⟨hfree.1, (Function.update_of_ne hne ..).trans hfree.2⟩
    refine ⟨result, session', slot', hy, ?_⟩
    rw [← run_takeResult hfree' text result slot']
    change ((x (heap, slot)).bind fun p => takeResult m text p.1 p.2) = _
    rw [hrun]
    rfl
  have hsame : Function.update (handlesOf own) i (some ⟨.session, ptr⟩) =
      handlesOf own := by
    rw [Function.update_eq_self_iff]
    unfold handlesOf
    rw [hi]
    rfl
  have hreply : ∀ {result : Option Bytes} {slot' : ErrorSlot} {bytes : Bytes},
      Reply.ofData (orThrowLast text (return result) slot').1 = .data bytes ↔
        result = some bytes := by
    intro result slot' bytes
    cases result with
    | none => exact iff_of_false nofun nofun
    | some b =>
      change Reply.data b = .data bytes ↔ _
      rw [Reply.data.injEq, Option.some.injEq]
  refine .call (fun slot hright => ?_) fun slot hwrong => ?_
  · obtain ⟨result, session', slot', hy, hrun⟩ := hstep slot
    unfold change at hright ⊢
    simp only [slotted_bind, hy] at hright ⊢
    rw [if_pos] at hrun
    · refine ⟨_, _, howned.put hi (.session session'), ?_, ?_⟩
      · unfold answer
        rw [run_bind hrun, handlesOf_update]
        change _ = some ((_, Function.update (handlesOf own) i (some ⟨.session, ptr⟩)), _, _)
        rw [hsame]
        rfl
      · rw [objectsOf_update]
        rfl
    · intro bytes hb
      by_contra hroom
      exact hright (.inr ⟨bytes, hreply.mpr hb, hroom⟩)
  · obtain ⟨result, session', slot', hy, hrun⟩ := hstep slot
    unfold change at hwrong
    simp only [slotted_bind, hy] at hwrong
    rcases hwrong with hs | ⟨bytes, hbytes, hroom⟩
    · exact absurd hs hshort
    · rw [if_neg fun h => hroom (h bytes (hreply.mp hbytes))] at hrun
      exact run_bind_none hrun _

omit [DecidableEq ι] in
/-- `deinit` frees the cell, as what it is. -/
theorem run_deinit {o : Object} {ptr : ℕ} (hptr : ptr ≠ 0) (hcell : heap ptr = some (.object o))
    (slot : ErrorSlot) :
    Handle.deinit ⟨kindOf o, ptr⟩ (heap, slot) =
      some ((), Function.update heap ptr none, slot) := by
  have hdrop : ∀ {β : Type} {view : Cell → Option β} {b : β}, view (.object o) = some b →
      (drop view ptr : Bridge Unit) (heap, slot) =
        some ((), Function.update heap ptr none, slot) := by
    intro β view b hview
    unfold drop
    rw [if_neg hptr]
    exact run_bind (run_deref hcell hview slot) _
  cases o with
  | identity ident => exact hdrop (rfl : identity? _ = some ident)
  | signedPreKey spk => exact hdrop (rfl : signedPreKey? _ = some spk)
  | session session => exact hdrop (rfl : session? _ = some session)

theorem simulated_release (howned : Owned Cell.object own heap) (i : ι) :
    Simulated m heap (.release i) ((Call.release i).code X m (handlesOf own))
      ((Call.release i).value X (objectsOf own)) := by
  unfold Call.code Call.value
  cases hi : own i with
  | none =>
    have hh : handlesOf own i = none := by rw [handlesOf, hi]; rfl
    have ho : objectsOf own i = none := by rw [objectsOf, hi]; rfl
    dsimp only
    rw [hh, ho]
    exact .absent
  | some p =>
    obtain ⟨ptr, o⟩ := p
    have hh : handlesOf own i = some ⟨kindOf o, ptr⟩ := by rw [handlesOf, hi]; rfl
    have ho : objectsOf own i = some o := by rw [objectsOf, hi]; rfl
    dsimp only
    rw [hh, ho]
    refine .call (fun slot _ => ?_) fun slot hwrong => ?_
    · obtain ⟨hptr, hcell⟩ := howned.cell hi
      refine ⟨_, _, howned.leave hi, ?_, ?_⟩
      · rw [handlesOf_update]
        exact run_bind (run_deinit hptr hcell slot) _
      · rw [objectsOf_update]
        rfl
    · rcases hwrong with hs | ⟨bytes, hbytes, -⟩
      · exact hs.elim
      · cases hbytes

/-! ### The classes -/

omit [DecidableEq ι] in
/-- A call on an object of a class is one that the code and the values both have, or neither. -/
theorem simulated_object (howned : Owned Cell.object own heap) {kind : Kind} {object : α → Object}
    {view : Cell → Option α} (hview : ∀ o, (kindOf o ≠ kind ∧ view (.object o) = none) ∨
      ∃ a, kindOf o = kind ∧ view (.object o) = some a ∧ o = object a) (i : ι)
    {code : ℕ → Option (Bridge (Reply × (ι → Option Handle)))}
    {value : α → Option (Slotted (Reply × (ι → Option Object)))}
    (h : ∀ ptr a, own i = some (ptr, object a) → ptr ≠ 0 →
      heap ptr = some (.object (object a)) → Simulated m heap c (code ptr) (value a)) :
    Simulated m heap c (pointer (handlesOf own) kind i >>= code)
      (((objectsOf own i).bind fun o => view (.object o)) >>= value) := by
  unfold pointer handlesOf objectsOf
  cases hi : own i with
  | none => exact .absent
  | some p =>
    obtain ⟨ptr, o⟩ := p
    simp only [Option.map_some, Option.bind_some]
    rcases hview o with ⟨hkind, hnone⟩ | ⟨a, hkind, hsome, rfl⟩
    · rw [if_neg hkind, hnone]
      exact .absent
    · obtain ⟨hptr, hcell⟩ := howned.cell hi
      rw [if_pos hkind, hsome]
      exact h ptr a hi hptr hcell

omit [DecidableEq ι] in
theorem simulated_identity (howned : Owned Cell.object own heap) (i : ι)
    {code : ℕ → Option (Bridge (Reply × (ι → Option Handle)))}
    {value : IdentityKeyPair Key32 → Option (Slotted (Reply × (ι → Option Object)))}
    (h : ∀ ptr ident, own i = some (ptr, .identity ident) → ptr ≠ 0 →
      heap ptr = some (.object (.identity ident)) → Simulated m heap c (code ptr) (value ident)) :
    Simulated m heap c (pointer (handlesOf own) .identity i >>= code)
      (identityOf (objectsOf own) i >>= value) := by
  refine simulated_object howned (fun o => ?_) i h
  cases o with
  | identity ident => exact .inr ⟨ident, rfl, rfl, rfl⟩
  | signedPreKey spk => exact .inl ⟨nofun, rfl⟩
  | session session => exact .inl ⟨nofun, rfl⟩

omit [DecidableEq ι] in
theorem simulated_signedPreKey (howned : Owned Cell.object own heap) (i : ι)
    {code : ℕ → Option (Bridge (Reply × (ι → Option Handle)))}
    {value : SignedPreKey Key32 → Option (Slotted (Reply × (ι → Option Object)))}
    (h : ∀ ptr spk, own i = some (ptr, .signedPreKey spk) → ptr ≠ 0 →
      heap ptr = some (.object (.signedPreKey spk)) → Simulated m heap c (code ptr) (value spk)) :
    Simulated m heap c (pointer (handlesOf own) .signedPreKey i >>= code)
      (signedPreKeyOf (objectsOf own) i >>= value) := by
  refine simulated_object howned (fun o => ?_) i h
  cases o with
  | identity ident => exact .inl ⟨nofun, rfl⟩
  | signedPreKey spk => exact .inr ⟨spk, rfl, rfl, rfl⟩
  | session session => exact .inl ⟨nofun, rfl⟩

omit [DecidableEq ι] in
theorem simulated_session (howned : Owned Cell.object own heap) (i : ι)
    {code : ℕ → Option (Bridge (Reply × (ι → Option Handle)))}
    {value : Session Key32 → Option (Slotted (Reply × (ι → Option Object)))}
    (h : ∀ ptr session, own i = some (ptr, .session session) → ptr ≠ 0 →
      heap ptr = some (.object (.session session)) →
      Simulated m heap c (code ptr) (value session)) :
    Simulated m heap c (pointer (handlesOf own) .session i >>= code)
      (sessionOf (objectsOf own) i >>= value) := by
  refine simulated_object howned (fun o => ?_) i h
  cases o with
  | identity ident => exact .inl ⟨nofun, rfl⟩
  | signedPreKey spk => exact .inl ⟨nofun, rfl⟩
  | session session => exact .inr ⟨session, rfl, rfl, rfl⟩

theorem ofText_ne_data (r : Except RustCoreError String) (bytes : Bytes) :
    Reply.ofText r ≠ .data bytes := by
  cases r <;> nofun

theorem bind_congr_run {x x' : Bridge α} {s : Heap Cell × ErrorSlot} (h : x s = x' s)
    (f : α → Bridge β) : (x >>= f) s = (x' >>= f) s := by
  change (x s).bind (fun p => f p.1 p.2) = (x' s).bind fun p => f p.1 p.2
  rw [h]

/-- A session is borrowed, used and written back. -/
theorem run_use {ptr : ℕ} {session session' : Session Key32} (hptr : ptr ≠ 0)
    (hcell : heap ptr = some (.object (.session session)))
    {y : Option (Session Key32) → Slotted (Option Bytes × Option (Session Key32))}
    {result : Option Bytes} {slot slot' : ErrorSlot}
    (hy : y (some session) slot = ((result, some session'), slot')) :
    (borrow true session? ptr >>= fun s => call (y s) >>= fun p => writeBack ptr p.2 >>= fun _ =>
      leak m p.1 : Bridge _) (heap, slot) =
      leak m result (Function.update heap ptr (some (.object (.session session'))), slot') := by
  have hborrow : (borrow true session? ptr : Bridge _) (heap, slot) =
      some (some session, heap, slot) := by
    unfold borrow
    rw [Bool.true_and, bne_iff_ne.mpr hptr]
    exact run_bind (run_deref hcell (rfl : session? _ = some session) slot) _
  have hcall : (call (y (some session)) : Bridge _) (heap, slot) =
      some ((result, some session'), heap, slot') := by
    unfold Raw.call
    dsimp only
    rw [hy]
  rw [run_bind hborrow, run_bind hcall]
  rfl

theorem run_encrypt {ptr : ℕ} {session : Session Key32} (hptr : ptr ≠ 0)
    (hcell : heap ptr = some (.object (.session session))) (nonce : Nonce)
    (plaintext : Option Bytes) (slot : ErrorSlot) :
    ∃ result session' slot',
      Ffi.sessionEncrypt X nonce (some session) plaintext true true slot =
        ((result, some session'), slot') ∧
      Memory.sessionEncrypt X m nonce ptr plaintext true true (heap, slot) = leak m result
        (Function.update heap ptr (some (.object (.session session'))), slot') := by
  cases plaintext with
  | none =>
    refine ⟨none, session, some "null pointer", rfl, ?_⟩
    rw [← hcell, Function.update_eq_self]
    rfl
  | some pt =>
    obtain ⟨result, session', slot', hy⟩ : ∃ result session' slot',
        Ffi.sessionEncrypt X nonce (some session) (some pt) true true slot =
          ((result, some session'), slot') := by
      unfold Ffi.sessionEncrypt
      dsimp only
      rcases session.encrypt X.prims nonce pt with ⟨_ | _, session'⟩
      · exact ⟨_, session', _, rfl⟩
      · exact ⟨_, session', _, rfl⟩
    exact ⟨result, session', slot', hy, run_use hptr hcell hy⟩

theorem run_decrypt {ptr : ℕ} {session : Session Key32} (hptr : ptr ≠ 0)
    (hcell : heap ptr = some (.object (.session session))) (data : Option Bytes)
    (slot : ErrorSlot) :
    ∃ result session' slot',
      Ffi.sessionDecrypt X (some session) data true true slot =
        ((result, some session'), slot') ∧
      Memory.sessionDecrypt X m ptr data true true (heap, slot) = leak m result
        (Function.update heap ptr (some (.object (.session session'))), slot') := by
  cases data with
  | none =>
    refine ⟨none, session, some "null pointer", rfl, ?_⟩
    rw [← hcell, Function.update_eq_self]
    rfl
  | some data =>
    obtain ⟨result, session', slot', hy⟩ : ∃ result session' slot',
        Ffi.sessionDecrypt X (some session) (some data) true true slot =
          ((result, some session'), slot') := by
      unfold Ffi.sessionDecrypt
      dsimp only
      cases X.sessionMessageFromSlice data with
      | error e => exact ⟨_, session, _, rfl⟩
      | ok message =>
        dsimp only
        rcases session.decrypt X.prims message with ⟨_ | _, session'⟩
        · exact ⟨_, session', _, rfl⟩
        · exact ⟨_, session', _, rfl⟩
    exact ⟨result, session', slot', hy, run_use hptr hcell hy⟩

/-- **Each call does what it does on values**, and is undefined where it goes wrong. -/
theorem simulated (howned : Owned Cell.object own heap) (hfree : heap.Free m.address)
    (c : Call ι) :
    Simulated m heap c (c.code X m (handlesOf own)) (c.value X (objectsOf own)) := by
  cases c with
  | identityPublicKey i =>
    refine simulated_identity howned i fun ptr ident _ hptr hcell => ?_
    have hkey : Follows heap (IdentityHandle.publicKey ptr) (pure ident.publicKey)
        fun k => (some k, heap) := follows_borrow hptr hcell rfl fun _ => rfl
    exact simulated_answer howned hkey (fun _ => rfl) id nofun
  | identityToJSON i =>
    refine simulated_identity howned i fun ptr ident _ hptr hcell => ?_
    have hjson : Follows heap (IdentityHandle.toJSON X m ptr)
        (orThrow (.nullPointer "identity_to_json returned null")
          (Ffi.identityToJson X (some ident))) fun r => (r, heap) := by
      unfold IdentityHandle.toJSON identityToJson
      rw [bind_assoc]
      exact follows_borrow hptr hcell rfl (follows_json hfree _ _)
    exact simulated_answer howned hjson (fun _ => rfl) id ofText_ne_data
  | identityFromJSON new json =>
    exact simulated_create howned hfree (fun _ => rfl)
      (fun _ => follows_new hfree _ _) (fun h => h.elim)
  | identityGenerate new secret =>
    exact simulated_create howned hfree (fun _ => rfl)
      (fun _ => follows_new hfree _ _) (fun h => h.elim)
  | signedPreKeyId i =>
    refine simulated_signedPreKey howned i fun ptr spk _ hptr hcell => ?_
    have hid : Follows heap (SignedPreKeyHandle.id ptr) (pure spk.id) fun n => (n, heap) :=
      follows_borrow hptr hcell rfl fun _ => rfl
    exact simulated_answer howned hid (fun _ => rfl) id nofun
  | signedPreKeyPublicKey i =>
    refine simulated_signedPreKey howned i fun ptr spk _ hptr hcell => ?_
    have hkey : Follows heap (SignedPreKeyHandle.publicKey ptr) (pure spk.keyPair.publicKey)
        fun k => (some k, heap) := follows_borrow hptr hcell rfl fun _ => rfl
    exact simulated_answer howned hkey (fun _ => rfl) id nofun
  | signedPreKeyGenerate new secret id identity =>
    refine simulated_identity howned identity fun ptr ident _ hptr hcell => ?_
    refine simulated_create howned hfree (fun _ => rfl) (fun _ => ?_) fun h => h.elim
    unfold SignedPreKeyHandle.generate signedPrekeyGenerate
    rw [bind_assoc]
    exact follows_borrow hptr hcell rfl (follows_new hfree _ _)
  | ratchetKey i =>
    refine simulated_session howned i fun ptr session _ hptr hcell => ?_
    have hkey : Follows heap (SessionHandle.ratchetKey ptr)
        (pure session.ratchet.dhRatchetKey.publicKey) fun k => (some k, heap) :=
      follows_borrow hptr hcell rfl fun _ => rfl
    exact simulated_answer howned hkey (fun _ => rfl) id nofun
  | newInitiator new ephSecret identity remoteUserId deviceId theirIdentity spkPublic =>
    refine simulated_identity howned identity fun ptr ident _ hptr hcell => ?_
    refine simulated_create howned hfree (fun _ => rfl) (fun hkeys slot => ?_)
      fun hkeys slot => ?_
    · exact (bind_congr_run (run_newInitiator hptr hcell hkeys _ slot) _).trans
        (follows_newLast hfree _ _ slot)
    · exact run_bind_none (undefined_newInitiator hptr hcell hkeys _ slot) _
  | newResponder new identity remoteUserId deviceId theirIdentity aliceEphemeral spk =>
    refine simulated_identity howned identity fun ptr ident _ hptr hcell => ?_
    refine simulated_signedPreKey howned spk fun ptr' spk _ hptr' hcell' => ?_
    refine simulated_create howned hfree (fun _ => rfl) (fun hkeys slot => ?_)
      fun hkeys slot => ?_
    · exact (bind_congr_run (run_newResponder hptr hptr' hcell hcell' hkeys slot) _).trans
        (follows_newLast hfree _ _ slot)
    · exact run_bind_none (undefined_newResponder hptr hptr' hcell hkeys slot) _
  | encrypt nonce i plaintext =>
    refine simulated_session howned i fun ptr session hi hptr hcell => ?_
    exact simulated_change howned hfree id hi "encrypt: "
      fun slot => run_encrypt hptr hcell nonce plaintext slot
  | decrypt i ciphertext =>
    refine simulated_session howned i fun ptr session hi hptr hcell => ?_
    exact simulated_change howned hfree id hi "decrypt: "
      fun slot => run_decrypt hptr hcell ciphertext slot
  | sessionToJSON i =>
    refine simulated_session howned i fun ptr session _ hptr hcell => ?_
    have hjson : Follows heap (SessionHandle.toJSON X m ptr)
        (orThrow (.nullPointer "session_to_json returned null")
          (Ffi.sessionToJson X (some session))) fun r => (r, heap) := by
      unfold SessionHandle.toJSON sessionToJson
      rw [bind_assoc]
      exact follows_borrow hptr hcell rfl (follows_json hfree _ _)
    exact simulated_answer howned hjson (fun _ => rfl) id ofText_ne_data
  | sessionFromJSON new json =>
    exact simulated_create howned hfree (fun _ => rfl)
      (fun _ => follows_newLast hfree _ _) (fun h => h.elim)
  | release i => exact simulated_release howned i

end

/-! ## Runs -/

/-- What the app has is what the values say: each object has a cell of its own, which holds what the
    object stands for, and there is no other cell. -/
structure Represents (s : App ι) (v : Values ι) : Prop where
  slot : s.slot = v.slot
  holds : ∀ i o, v.objects i = some o ↔
    ∃ ptr, s.handles i = some ⟨kindOf o, ptr⟩ ∧ s.heap ptr = some (.object o)
  live : ∀ i, (s.handles i).isSome ↔ (v.objects i).isSome
  apart : ∀ i j h h', s.handles i = some h → s.handles j = some h' → h.ptr = h'.ptr → i = j
  noLeak : ∀ a x, s.heap a = some x → ∃ i h, s.handles i = some h ∧ h.ptr = a

/-- The same, by the table of the owners. -/
structure Shows (own : ι → Option (ℕ × Object)) (s : App ι) (v : Values ι) : Prop where
  owned : Owned Cell.object own s.heap
  handles : s.handles = handlesOf own
  objects : v.objects = objectsOf own
  slot : s.slot = v.slot

/-- What a call that has ended leaves is what the values become. -/
theorem Shows.step {own : ι → Option (ℕ × Object)} {s s' : App ι} {v : Values ι} {e : Event ι}
    (h : Shows own s v) (hstep : App.Step X s e s') :
    ∃ own' v', Values.Step X v e v' ∧ Shows own' s' v' := by
  cases hstep with
  | @call m c code r handles heap slot hfree hcode hrun =>
    have hsim := simulated (X := X) h.owned hfree c
    rw [← h.handles, hcode] at hsim
    generalize hx : c.value X (objectsOf own) = value at hsim
    cases hsim with
    | call hright hwrong =>
      rename_i x
      by_cases hw : Wrong m c (x s.slot).1.1
      · cases (hwrong s.slot hw).symm.trans hrun
      · obtain ⟨own', heap', howned, hcode', hobjects⟩ := hright s.slot hw
        cases hcode'.symm.trans hrun
        rw [← h.objects] at hx
        refine ⟨own', ⟨(x v.slot).1.2, (x v.slot).2⟩, ?_, ?_⟩
        · rw [h.slot]
          exact .call hx rfl
        · rw [h.slot] at hobjects ⊢
          exact ⟨howned, rfl, hobjects, rfl⟩

theorem Shows.run {own : ι → Option (ℕ × Object)} {s s' : App ι} {v : Values ι}
    {events : List (Event ι)} (h : Shows own s v) (hrun : Path (App.Step X) s events s') :
    ∃ own' v', Path (Values.Step X) v events v' ∧ Shows own' s' v' := by
  induction hrun generalizing own v with
  | nil s => exact ⟨own, v, .nil v, h⟩
  | cons hstep _ ih =>
    obtain ⟨own', v', hvalue, h'⟩ := h.step hstep
    obtain ⟨own'', v'', hrest, h''⟩ := ih h'
    exact ⟨own'', v'', .cons hvalue hrest, h''⟩

theorem Values.Step.functional {v v' v'' : Values ι} {e : Event ι} (h : Values.Step X v e v')
    (h' : Values.Step X v e v'') : v' = v'' := by
  cases h with
  | call hcode hrun =>
    cases h' with
    | call hcode' hrun' =>
      cases hcode.symm.trans hcode'
      cases hrun.symm.trans hrun'
      rfl

end TinTin.Ios.RustCore
