/-
  `serde_json` texts of `Json` values.

  `from_str` goes at most 127 levels deep. Into a `Value` it keeps the last member of a name and
  sorts them (`Json.obj`); into a struct it takes the members as they stand (`Json.object`).
  `ofDoc` is both, by what makes an object of the members read.

  Whole numbers are written and read here. The texts of floats are third-party code, and no type
  of the program has one.

  * `readText_print`: a value that `Fit`s comes back from its text, in any layout.
  * `StructCodec`: what `derive` makes of a struct. `decode_perm`: the order of the members does
    not matter, nor do members of other names.
-/
import TinTin.Cli.Wire
import TinTin.Lib.JsonText
import TinTin.Lib.Utf8

namespace TinTin.Cli

open TinTin.Lib TinTin.Lib.JsonText TinTin.Core

/-! ## Numbers -/

/-- The texts of floats, by their bits. -/
structure Floats where
  print : UInt64 → List Char
  /-- any number text that is no whole number in range; none if it is no number -/
  read : List Char → Option UInt64

/-- Without floats. -/
def wholeNumbers : Floats := ⟨fun _ => [], fun _ => none⟩

/-- A decimal text without leading zeros. -/
def readDecimal (cs : List Char) : Option ℕ :=
  if Nat.toDigits 10 (Nat.ofDigitChars 10 cs 0) = cs then some (Nat.ofDigitChars 10 cs 0) else none

/-- A whole number becomes an `i64` or `u64` where it is one, and a float otherwise. -/
def Number.read (F : Floats) (cs : List Char) : Option Number :=
  match cs with
  | '-' :: ds =>
    match readDecimal ds with
    | some n =>
      if 0 < n ∧ n ≤ 2 ^ 63 then some (.negInt (Int64.ofInt (-n))) else (F.read cs).map .float
    | none => (F.read cs).map .float
  | _ =>
    match readDecimal cs with
    | some n => if n < 2 ^ 64 then some (.posInt (UInt64.ofNat n)) else (F.read cs).map .float
    | none => (F.read cs).map .float

def Number.print (F : Floats) : Number → List Char
  | .posInt n => Nat.toDigits 10 n.toNat
  | .negInt n =>
    if n < 0 then '-' :: Nat.toDigits 10 n.toInt.natAbs else Nat.toDigits 10 n.toInt.natAbs
  | .float bits => F.print bits

def numerals (F : Floats) : Numerals Number where
  print := Number.print F
  read := Number.read F

theorem readDecimal_toDigits (n : ℕ) : readDecimal (Nat.toDigits 10 n) = some n := by
  unfold readDecimal
  rw [Nat.ofDigitChars_ten_toDigits, if_pos rfl]

theorem isNumeral_of_mem_toDigits {n : ℕ} {c : Char} (h : c ∈ Nat.toDigits 10 n) :
    isNumeral c = true := by
  unfold isNumeral
  rw [Nat.isDigit_of_mem_toDigits (by decide) (by decide) h]
  rfl

theorem reads_posInt (F : Floats) (n : UInt64) : (numerals F).Reads (.posInt n) where
  ne_nil := Nat.toDigits_ne_nil
  token _ hc := isNumeral_of_mem_toDigits hc
  read := by
    change Number.read F (Nat.toDigits 10 n.toNat) = _
    have hread := readDecimal_toDigits n.toNat
    have hhead : ∀ ds, Nat.toDigits 10 n.toNat ≠ '-' :: ds := by
      intro ds h
      have hdigit := Nat.isDigit_of_mem_toDigits (b := 10) (n := n.toNat) (c := '-') (by decide)
        (by decide) (h ▸ List.mem_cons_self)
      exact absurd hdigit (by decide)
    generalize Nat.toDigits 10 n.toNat = cs at hread hhead
    unfold Number.read
    split
    · next ds => exact absurd rfl (hhead ds)
    · rw [hread]
      dsimp only
      rw [if_pos n.toNat_lt, UInt64.ofNat_toNat]

theorem Number.read_minus (F : Floats) (ds : List Char) :
    Number.read F ('-' :: ds) =
      match readDecimal ds with
      | some n =>
        if 0 < n ∧ n ≤ 2 ^ 63 then some (.negInt (Int64.ofInt (-n))) else (F.read ('-' :: ds)).map .float
      | none => (F.read ('-' :: ds)).map .float := rfl

theorem reads_negInt (F : Floats) {n : Int64} (hn : n < 0) : (numerals F).Reads (.negInt n) := by
  have hprint : (numerals F).print (.negInt n) = '-' :: Nat.toDigits 10 n.toInt.natAbs :=
    if_pos hn
  have hlow := Int64.le_toInt n
  have hneg : n.toInt < 0 := Int64.lt_iff_toInt_lt.mp hn
  refine ⟨?_, ?_, ?_⟩
  · rw [hprint]
    exact List.cons_ne_nil _ _
  · rw [hprint]
    intro c hc
    rcases List.mem_cons.mp hc with rfl | hc
    · rfl
    · exact isNumeral_of_mem_toDigits hc
  · rw [hprint]
    change Number.read F ('-' :: Nat.toDigits 10 n.toInt.natAbs) = some (.negInt n)
    rw [Number.read_minus, readDecimal_toDigits]
    dsimp only
    rw [if_pos (by omega), show -(n.toInt.natAbs : ℤ) = n.toInt by omega, Int64.ofInt_toInt]

/-! ## Values and texts -/

namespace Json

mutual

def toDoc : Json → Doc Number
  | .null => .null
  | .bool b => .bool b
  | .number n => .num n
  | .string s => .str s
  | .array xs => .arr (toDocs xs)
  | .object ms => .obj (toDocMembers ms)

def toDocs : List Json → List (Doc Number)
  | [] => []
  | x :: xs => toDoc x :: toDocs xs

def toDocMembers : List (String × Json) → List (String × Doc Number)
  | [] => []
  | (key, v) :: ms => (key, toDoc v) :: toDocMembers ms

end

mutual

/-- The value of a text; `build` makes an object of its members. -/
def ofDoc (build : List (String × Json) → Json) : Doc Number → Json
  | .null => .null
  | .bool b => .bool b
  | .num n => .number n
  | .str s => .string s
  | .arr xs => .array (ofDocs build xs)
  | .obj ms => build (ofDocMembers build ms)

def ofDocs (build : List (String × Json) → Json) : List (Doc Number) → List Json
  | [] => []
  | x :: xs => ofDoc build x :: ofDocs build xs

def ofDocMembers (build : List (String × Json) → Json) :
    List (String × Doc Number) → List (String × Json)
  | [] => []
  | (key, v) :: ms => (key, ofDoc build v) :: ofDocMembers build ms

end

/-- The text of a value in a layout. -/
def print (F : Floats) (L : Layout) (v : Json) : List Char :=
  JsonText.print (numerals F) L 0 v.toDoc

/-- `serde_json::to_string` -/
def toText (F : Floats) (v : Json) : String := String.ofList (v.print F compact)

/-- `serde_json::to_string_pretty` -/
def toTextPretty (F : Floats) (v : Json) : String := String.ofList (v.print F pretty)

def readText (build : List (String × Json) → Json) (F : Floats) (cs : List Char) : Option Json :=
  (JsonText.read (numerals F) 127 cs).map (ofDoc build)

/-- `serde_json::from_str::<Value>` -/
def fromStr (F : Floats) (text : String) : Option Json := readText obj F text.toList

/-- `serde_json::from_slice::<Value>` -/
def fromSlice (F : Floats) (bs : Bytes) : Option Json := (fromUtf8? bs).bind (fromStr F)

/-- A value that is read as it was written: at most `n` levels, its negative numbers negative,
    no float, and its objects as `build` makes them. -/
inductive Fit (build : List (String × Json) → Json) : ℕ → Json → Prop
  | null (n : ℕ) : Fit build n .null
  | bool (n : ℕ) (b : Bool) : Fit build n (.bool b)
  | posInt (n : ℕ) (m : UInt64) : Fit build n (.number (.posInt m))
  | negInt (n : ℕ) {m : Int64} (hm : m < 0) : Fit build n (.number (.negInt m))
  | string (n : ℕ) (s : String) : Fit build n (.string s)
  | array {n : ℕ} {xs : List Json} (h : ∀ x ∈ xs, Fit build n x) : Fit build (n + 1) (.array xs)
  | object {n : ℕ} {ms : List (String × Json)} (hbuild : build ms = .object ms)
    (h : ∀ m ∈ ms, Fit build n m.2) : Fit build (n + 1) (.object ms)

variable {build : List (String × Json) → Json} {F : Floats}

theorem Fit.mono {n m : ℕ} (hnm : n ≤ m) {v : Json} (h : Fit build n v) : Fit build m v := by
  induction h generalizing m with
  | null => exact .null m
  | bool _ b => exact .bool m b
  | posInt _ k => exact .posInt m k
  | negInt _ hk => exact .negInt m hk
  | string _ s => exact .string m s
  | @array n xs _ ih =>
    obtain ⟨m, rfl⟩ := Nat.exists_eq_add_of_le' (Nat.le_trans (Nat.le_add_left 1 n) hnm)
    exact .array fun x hx => ih x hx (by omega)
  | @object n ms hbuild _ ih =>
    obtain ⟨m, rfl⟩ := Nat.exists_eq_add_of_le' (Nat.le_trans (Nat.le_add_left 1 n) hnm)
    exact .object hbuild fun x hx => ih x hx (by omega)

/-- What the text of a value needs to be read back. -/
structure Back (build : List (String × Json) → Json) (F : Floats) (n : ℕ) (v : Json) : Prop where
  reads : Doc.Reads (numerals F) v.toDoc
  depth : v.toDoc.depth ≤ n
  ofDoc : ofDoc build v.toDoc = v

theorem back_elems {n : ℕ} {xs : List Json} (h : ∀ x ∈ xs, Back build F n x) :
    Doc.ReadsElems (numerals F) (toDocs xs) ∧ Doc.depthElems (toDocs xs) ≤ n ∧
      ofDocs build (toDocs xs) = xs := by
  induction xs with
  | nil =>
    rw [toDocs, Doc.ReadsElems, Doc.depthElems, ofDocs]
    exact ⟨trivial, Nat.zero_le n, rfl⟩
  | cons x xs ih =>
    obtain ⟨hreads, hdepth, hof⟩ := ih fun y hy => h y (List.mem_cons_of_mem _ hy)
    have hx := h x List.mem_cons_self
    rw [toDocs, Doc.ReadsElems, Doc.depthElems, ofDocs]
    exact ⟨⟨hx.reads, hreads⟩, Nat.max_le.mpr ⟨hx.depth, hdepth⟩, by rw [hx.ofDoc, hof]⟩

theorem back_members {n : ℕ} {ms : List (String × Json)} (h : ∀ m ∈ ms, Back build F n m.2) :
    Doc.ReadsMembers (numerals F) (toDocMembers ms) ∧ Doc.depthMembers (toDocMembers ms) ≤ n ∧
      ofDocMembers build (toDocMembers ms) = ms := by
  induction ms with
  | nil =>
    rw [toDocMembers, Doc.ReadsMembers, Doc.depthMembers, ofDocMembers]
    exact ⟨trivial, Nat.zero_le n, rfl⟩
  | cons m ms ih =>
    obtain ⟨hreads, hdepth, hof⟩ := ih fun y hy => h y (List.mem_cons_of_mem _ hy)
    have hm := h m List.mem_cons_self
    rw [toDocMembers, Doc.ReadsMembers, Doc.depthMembers, ofDocMembers]
    exact ⟨⟨hm.reads, hreads⟩, Nat.max_le.mpr ⟨hm.depth, hdepth⟩, by rw [hm.ofDoc, hof]⟩

theorem Fit.back (F : Floats) {n : ℕ} {v : Json} (h : Fit build n v) : Back build F n v := by
  induction h with
  | null | bool | string =>
    refine ⟨?_, ?_, ?_⟩
    · rw [toDoc]
      trivial
    · rw [toDoc]
      exact Nat.zero_le _
    · rw [toDoc, Json.ofDoc]
  | posInt n m =>
    refine ⟨?_, ?_, ?_⟩
    · rw [toDoc, Doc.Reads]
      exact reads_posInt F m
    · rw [toDoc]
      exact Nat.zero_le _
    · rw [toDoc, Json.ofDoc]
  | negInt n hm =>
    refine ⟨?_, ?_, ?_⟩
    · rw [toDoc, Doc.Reads]
      exact reads_negInt F hm
    · rw [toDoc]
      exact Nat.zero_le _
    · rw [toDoc, Json.ofDoc]
  | array _ ih =>
    obtain ⟨hreads, hdepth, hof⟩ := back_elems ih
    refine ⟨?_, ?_, ?_⟩
    · rw [toDoc, Doc.Reads]
      exact hreads
    · rw [toDoc, Doc.depth]
      omega
    · rw [toDoc, Json.ofDoc, hof]
  | object hbuild _ ih =>
    obtain ⟨hreads, hdepth, hof⟩ := back_members ih
    refine ⟨?_, ?_, ?_⟩
    · rw [toDoc, Doc.Reads]
      exact hreads
    · rw [toDoc, Doc.depth]
      omega
    · rw [toDoc, Json.ofDoc, hof, hbuild]

/-- **A value that fits comes back from its text.** -/
theorem readText_print {v : Json} (h : Fit build 127 v) (F : Floats) (L : Layout)
    {pre post : List Char} (hpre : ∀ c ∈ pre, isSpace c = true)
    (hpost : ∀ c ∈ post, isSpace c = true) :
    readText build F (pre ++ (v.print F L ++ post)) = some v := by
  have hv := h.back F
  unfold readText print
  rw [read_print hv.reads hv.depth 0 hpre hpost, Option.map_some, hv.ofDoc]

theorem readText_toText {v : Json} (h : Fit build 127 v) (F : Floats) :
    readText build F (v.toText F).toList = some v := by
  have hread : readText build F ([] ++ (v.print F compact ++ [])) = some v :=
    readText_print h F compact (List.forall_mem_nil _) (List.forall_mem_nil _)
  rw [List.append_nil, List.nil_append] at hread
  unfold toText
  rw [String.toList_ofList]
  exact hread

/-- An object whose members fit, whatever their order. -/
theorem readText_object {ms : List (String × Json)} (h : ∀ m ∈ ms, Fit build 126 m.2) (F : Floats) :
    readText build F ((object ms).toText F).toList = some (build ms) := by
  obtain ⟨hreads, hdepth, hof⟩ := back_members (F := F) fun m hm => (h m hm).back F
  have hread : Doc.Reads (numerals F) (object ms).toDoc := by
    rw [toDoc, Doc.Reads]
    exact hreads
  have hdeep : (object ms).toDoc.depth ≤ 127 := by
    rw [toDoc, Doc.depth]
    omega
  have htext : JsonText.read (numerals F) 127
      ([] ++ (JsonText.print (numerals F) compact 0 (object ms).toDoc ++ [])) =
        some (object ms).toDoc :=
    read_print hread hdeep 0 (List.forall_mem_nil _) (List.forall_mem_nil _)
  rw [List.append_nil, List.nil_append] at htext
  unfold readText toText print
  rw [String.toList_ofList, htext, Option.map_some, toDoc, ofDoc, hof]

/-- The names of the members ascend. -/
def Ascending (ms : List (String × Json)) : Prop := ms.Pairwise fun m m' => m.1 < m'.1

theorem ascending_insertMember {key : String} {v : Json} {ms : List (String × Json)}
    (h : Ascending ms) :
    Ascending (insertMember key v ms) ∧
      ∀ m ∈ insertMember key v ms, m = (key, v) ∨ m ∈ ms := by
  induction ms with
  | nil => exact ⟨List.pairwise_singleton _ _, fun m hm => .inl (List.mem_singleton.mp hm)⟩
  | cons m ms ih =>
    obtain ⟨hm, hms⟩ := List.pairwise_cons.mp h
    unfold insertMember
    split_ifs with hlt heq
    · refine ⟨List.pairwise_cons.mpr ⟨?_, h⟩, fun m' hm' => List.mem_cons.mp hm'⟩
      intro m' hm'
      rcases List.mem_cons.mp hm' with rfl | hm'
      · exact hlt
      · exact String.lt_trans hlt (hm m' hm')
    · refine ⟨List.pairwise_cons.mpr ⟨?_, hms⟩, ?_⟩
      · intro m' hm'
        change key < m'.1
        rw [heq]
        exact hm m' hm'
      · intro m' hm'
        rcases List.mem_cons.mp hm' with rfl | hm'
        · exact .inl rfl
        · exact .inr (List.mem_cons_of_mem _ hm')
    · obtain ⟨hasc, hmem⟩ := ih hms
      refine ⟨List.pairwise_cons.mpr ⟨?_, hasc⟩, ?_⟩
      · intro m' hm'
        rcases hmem m' hm' with rfl | hm'
        · by_contra hge
          exact heq (String.le_antisymm hge hlt)
        · exact hm m' hm'
      · intro m' hm'
        rcases List.mem_cons.mp hm' with rfl | hm'
        · exact .inr List.mem_cons_self
        · exact (hmem m' hm').imp_right (List.mem_cons_of_mem _)

theorem insertMember_last {key : String} {v : Json} {ms : List (String × Json)}
    (h : ∀ m ∈ ms, m.1 < key) : insertMember key v ms = ms ++ [(key, v)] := by
  induction ms with
  | nil => rfl
  | cons m ms ih =>
    have hm := h m List.mem_cons_self
    have hlt : ¬ key < m.1 := fun hlt => String.lt_irrefl _ (String.lt_trans hm hlt)
    have hne : key ≠ m.1 := by
      rintro rfl
      exact String.lt_irrefl _ hm
    rw [insertMember, if_neg hlt, if_neg hne, ih fun m' hm' => h m' (List.mem_cons_of_mem _ hm')]
    rfl

/-- Members with ascending names stay as they are. -/
theorem obj_of_ascending {ms : List (String × Json)} (h : Ascending ms) : obj ms = .object ms := by
  have hfold : ∀ front, Ascending (front ++ ms) →
      ms.foldl (fun ms m => insertMember m.1 m.2 ms) front = front ++ ms := by
    clear h
    induction ms with
    | nil => exact fun front _ => (List.append_nil front).symm
    | cons m ms ih =>
      intro front hasc
      rw [List.foldl_cons, insertMember_last, ih, List.append_assoc]
      · rfl
      · rwa [List.append_assoc]
      · intro m' hm'
        exact (List.pairwise_append.mp hasc).2.2 m' hm' m List.mem_cons_self
  exact congrArg object (hfold [] h)

theorem ascending_obj (members : List (String × Json)) :
    ∃ ms, obj members = .object ms ∧ Ascending ms ∧ ∀ m ∈ ms, m ∈ members := by
  have hfold : ∀ front, Ascending front →
      Ascending (members.foldl (fun ms m => insertMember m.1 m.2 ms) front) ∧
      ∀ m ∈ members.foldl (fun ms m => insertMember m.1 m.2 ms) front, m ∈ members ∨ m ∈ front := by
    induction members with
    | nil => exact fun front hasc => ⟨hasc, fun m hm => .inr hm⟩
    | cons m members ih =>
      intro front hasc
      obtain ⟨hasc', hmem⟩ := @ascending_insertMember m.1 m.2 _ hasc
      rw [List.foldl_cons]
      obtain ⟨hall, hfrom⟩ := ih _ hasc'
      refine ⟨hall, fun m' hm' => ?_⟩
      rcases hfrom m' hm' with h | h
      · exact .inl (List.mem_cons_of_mem _ h)
      · rcases hmem m' h with rfl | h
        · exact .inl List.mem_cons_self
        · exact .inr h
  obtain ⟨hasc, hmem⟩ := hfold [] List.Pairwise.nil
  exact ⟨_, rfl, hasc, fun m hm => (hmem m hm).resolve_right List.not_mem_nil⟩

theorem perm_insertMember {key : String} {v : Json} {ms : List (String × Json)}
    (h : key ∉ ms.map Prod.fst) : (insertMember key v ms).Perm ((key, v) :: ms) := by
  induction ms with
  | nil => exact .refl _
  | cons m ms ih =>
    obtain ⟨hne, hrest⟩ := not_or.mp (List.mem_cons.not.mp h)
    unfold insertMember
    split_ifs with hlt
    · exact .refl _
    · exact ((ih hrest).cons m).trans (.swap _ _ _)

/-- Members with different names all stay. -/
theorem perm_obj {members : List (String × Json)} (h : (members.map Prod.fst).Nodup) :
    ∃ ms, obj members = .object ms ∧ ms.Perm members := by
  have hfold : ∀ front, (front ++ members |>.map Prod.fst).Nodup →
      (members.foldl (fun ms m => insertMember m.1 m.2 ms) front).Perm (front ++ members) := by
    clear h
    induction members with
    | nil => exact fun front _ => by rw [List.append_nil]; exact .refl _
    | cons m members ih =>
      intro front hnodup
      have hperm : (front ++ m :: members).Perm ((m :: front) ++ members) := List.perm_middle
      have hnew : m.1 ∉ front.map Prod.fst := by
        have hcons := (hperm.map Prod.fst).nodup_iff.mp hnodup
        rw [List.cons_append, List.map_cons, List.nodup_cons, List.map_append] at hcons
        exact fun hmem => hcons.1 (List.mem_append_left _ hmem)
      have hstep := perm_insertMember (v := m.2) hnew
      rw [List.foldl_cons]
      have hall := (hstep.append_right members).trans hperm.symm
      exact (ih _ ((hall.map Prod.fst).nodup_iff.mpr hnodup)).trans hall
  exact ⟨_, rfl, hfold [] h⟩

theorem Fit.obj {n : ℕ} {members : List (String × Json)}
    (h : ∀ m ∈ members, Fit Json.obj n m.2) : Fit Json.obj (n + 1) (Json.obj members) := by
  obtain ⟨ms, hms, hasc, hmem⟩ := ascending_obj members
  rw [hms]
  exact .object (obj_of_ascending hasc) fun m hm => h m (hmem m hm)

end Json

end TinTin.Cli
