/-
  Paths as texts with slashes between their components, as on Unix.

  * `join`: a path behind another one; an absolute path replaces the one before it.
  * `resolve`: the directories a path leads through, where `..` goes up.
  * `shorten`: a path without the steps that `..` takes back: some levels up, then some names down.
  * `resolve_join`, `resolve_child_iff`: where a joined path leads, and when that is just below the
    directory it is joined to.
  * `namesChild_of_name`: as with any plain name.
-/
import Mathlib.Data.List.Induction
import Mathlib.Data.List.TakeDrop

namespace TinTin.Lib.FilePath

/-! ## Components -/

/-- The texts between the slashes. -/
def pieces : List Char → List (List Char)
  | [] => [[]]
  | ch :: rest =>
    if ch = '/' then [] :: pieces rest
    else
      match pieces rest with
      | [] => [[ch]]
      | piece :: more => (ch :: piece) :: more

/-- The components but for the root: no empty ones, and no `.`. -/
def components (path : String) : List String :=
  ((pieces path.toList).map String.ofList).filter fun c => c ≠ "" ∧ c ≠ "."

def isAbsolute (path : String) : Bool := path.toList.head? == some '/'

/-- `Path::file_name` -/
def fileName (path : String) : Option String := (components path).getLast?.filter (· ≠ "..")

/-- `Path::extension`: what follows the last point, unless it is the first character. -/
def extension (path : String) : Option String :=
  (fileName path).bind fun name =>
    let rev := name.toList.reverse
    match rev.dropWhile (· ≠ '.') with
    | _ :: _ :: _ => some (String.ofList (rev.takeWhile (· ≠ '.')).reverse)
    | _ => none

/-- `Path::join` -/
def join (base path : String) : String :=
  if isAbsolute path then path
  else if base.toList.getLast?.all (· = '/') then base ++ path
  else base ++ "/" ++ path

/-! ## Directories -/

/-- One component down, or up. -/
def enter (dir : List String) (c : String) : List String :=
  if c = ".." then dir.dropLast else dir ++ [c]

/-- Where a path leads from a directory, as names from the root. -/
def resolve (dir : List String) (path : String) : List String :=
  (components path).foldl enter (if isAbsolute path then [] else dir)

theorem pieces_slash (as bs : List Char) : pieces (as ++ '/' :: bs) = pieces as ++ pieces bs := by
  induction as with
  | nil => rfl
  | cons ch as ih =>
    rw [List.cons_append, pieces, ih, pieces]
    split_ifs
    · rfl
    · have hne : pieces as ≠ [] := by
        cases as with
        | nil => exact List.cons_ne_nil _ _
        | cons ch' as =>
          rw [pieces]
          split_ifs
          · exact List.cons_ne_nil _ _
          · split <;> exact List.cons_ne_nil _ _
      obtain ⟨piece, more, hp⟩ := List.exists_cons_of_ne_nil hne
      rw [hp]
      rfl

theorem components_slash (base path : String) :
    components (base ++ "/" ++ path) = components base ++ components path := by
  unfold components
  rw [String.toList_append, String.toList_append, List.append_assoc]
  change ((pieces (base.toList ++ '/' :: path.toList)).map String.ofList).filter _ = _
  rw [pieces_slash, List.map_append, List.filter_append]

theorem components_empty : components "" = [] := rfl

/-- The components of a joined relative path. -/
theorem components_join {base path : String} (h : isAbsolute path = false) :
    components (join base path) = components base ++ components path := by
  unfold join
  rw [h, if_neg Bool.false_ne_true]
  split_ifs with hsep
  · cases hlast : base.toList.getLast? with
    | none =>
      have hempty : base = "" := String.toList_eq_nil_iff.mp (List.getLast?_eq_none_iff.mp hlast)
      rw [hempty]
      rfl
    | some ch =>
      rw [hlast, Option.all_some, decide_eq_true_eq] at hsep
      subst hsep
      obtain ⟨front, hfront⟩ := List.getLast?_eq_some_iff.mp hlast
      have hbase : base = String.ofList front ++ "/" ++ "" := by
        apply String.toList_inj.mp
        rw [hfront]
        simp
      rw [hbase, components_slash, components_empty, List.append_nil, String.append_empty,
        components_slash]
  · exact components_slash base path

theorem isAbsolute_append {base : String} (h : base ≠ "") (path : String) :
    isAbsolute (base ++ path) = isAbsolute base := by
  unfold isAbsolute
  have hne : base.toList ≠ [] := fun hnil => h (String.toList_eq_nil_iff.mp hnil)
  obtain ⟨ch, rest, heq⟩ := List.exists_cons_of_ne_nil hne
  rw [String.toList_append, heq]
  rfl

/-- **A joined path** leads from the directory of its base. -/
theorem resolve_join (dir : List String) (base path : String) :
    resolve dir (join base path) = resolve (resolve dir base) path := by
  cases habs : isAbsolute path with
  | true =>
    unfold join resolve
    rw [habs, if_pos rfl, if_pos rfl, habs, if_pos rfl]
  | false =>
    have hjoin : components (join base path) = components base ++ components path :=
      components_join habs
    have hroot : isAbsolute (join base path) = isAbsolute base := by
      unfold join
      rw [habs, if_neg Bool.false_ne_true]
      by_cases hbase : base = ""
      · have hsep : ("".toList.getLast?.all fun ch => decide (ch = '/')) = true := rfl
        rw [hbase, if_pos hsep, String.empty_append, habs]
        rfl
      · split_ifs
        · exact isAbsolute_append hbase path
        · rw [String.append_assoc]
          exact isAbsolute_append hbase _
    unfold resolve
    rw [hjoin, hroot, List.foldl_append, habs, if_neg Bool.false_ne_true]

/-! ## Levels up and names down -/

/-- A step after some levels up and some names down. -/
def shortenStep (p : ℕ × List String) (c : String) : ℕ × List String :=
  if c = ".." then if p.2 = [] then (p.1 + 1, []) else (p.1, p.2.dropLast) else (p.1, p.2 ++ [c])

/-- Some levels up, then some names down. -/
def shorten (cs : List String) : ℕ × List String := cs.foldl shortenStep (0, [])

theorem foldl_enter (dir cs : List String) :
    cs.foldl enter dir = dir.take (dir.length - (shorten cs).1) ++ (shorten cs).2 := by
  induction cs using List.reverseRecOn with
  | nil =>
    rw [List.foldl_nil, shorten, List.foldl_nil, Nat.sub_zero, List.take_length, List.append_nil]
  | append_singleton cs c ih =>
    have hstep : shorten (cs ++ [c]) = shortenStep (shorten cs) c := by
      rw [shorten, List.foldl_append]
      rfl
    rw [List.foldl_append, List.foldl_cons, List.foldl_nil, ih, hstep, enter, shortenStep]
    by_cases hc : c = ".."
    · rw [if_pos hc, if_pos hc]
      by_cases hnil : (shorten cs).2 = []
      · rw [hnil, if_pos rfl, List.append_nil, List.append_nil, List.dropLast_eq_take,
          List.length_take, List.take_take]
        congr 1
        omega
      · rw [if_neg hnil, List.dropLast_append_of_ne_nil hnil]
    · rw [if_neg hc, if_neg hc, List.append_assoc]

/-- The levels that a path goes up from a directory; all of them if it is absolute. -/
def levels (dir : List String) (path : String) : ℕ :=
  if isAbsolute path then dir.length else (shorten (components path)).1

/-- The names at the end of a path, after its `..` have been taken out, are those of the directories
    that it has gone up and one more. -/
def NamesChild (dir : List String) (path : String) : Prop :=
  ∃ c, (shorten (components path)).2 = dir.drop (dir.length - levels dir path) ++ [c]

/-- **A path leads just below a directory** where it names a child of it. -/
theorem resolve_child_iff (dir : List String) (path : String) :
    (∃ c, resolve dir path = dir ++ [c]) ↔ NamesChild dir path := by
  have hresolve : resolve dir path =
      dir.take (dir.length - levels dir path) ++ (shorten (components path)).2 := by
    unfold resolve levels
    rw [foldl_enter]
    split_ifs
    · rw [Nat.sub_self, List.take_zero, List.take_nil]
    · rfl
  refine exists_congr fun c => ?_
  have hchild : dir ++ [c] = dir.take (dir.length - levels dir path) ++
      (dir.drop (dir.length - levels dir path) ++ [c]) := by
    rw [← List.append_assoc, List.take_append_drop]
  rw [hresolve, hchild, List.append_cancel_left_eq]

/-! ## Names -/

theorem pieces_of_notMem {l : List Char} (h : '/' ∉ l) : pieces l = [l] := by
  induction l with
  | nil => rfl
  | cons ch l ih =>
    rw [List.mem_cons, not_or] at h
    rw [pieces, if_neg (fun heq => h.1 heq.symm), ih h.2]

/-- **A name** without a slash that is not empty and no `.` or `..` names a child. -/
theorem namesChild_of_name {dir : List String} {name : String} (hslash : '/' ∉ name.toList)
    (hempty : name ≠ "") (hdot : name ≠ ".") (hup : name ≠ "..") : NamesChild dir name := by
  have hcomponents : components name = [name] := by
    unfold components
    rw [pieces_of_notMem hslash, List.map_cons, List.map_nil, String.ofList_toList,
      List.filter_cons_of_pos (by simp [hempty, hdot]), List.filter_nil]
  have hrelative : isAbsolute name = false := by
    unfold isAbsolute
    cases hl : name.toList with
    | nil => rfl
    | cons ch l =>
      rw [hl, List.mem_cons, not_or] at hslash
      rw [List.head?_cons]
      exact beq_eq_false_iff_ne.mpr fun h => hslash.1 (Option.some.inj h).symm
  have hshorten : shorten [name] = (0, [name]) := by
    unfold shorten
    rw [List.foldl_cons, List.foldl_nil, shortenStep, if_neg hup, List.nil_append]
  refine ⟨name, ?_⟩
  unfold levels
  rw [hcomponents, hshorten, hrelative, if_neg Bool.false_ne_true, Nat.sub_zero, List.drop_length,
    List.nil_append]

/-- Such a name leads from a directory to its child. -/
theorem resolve_name {dir : List String} {name : String} (hslash : '/' ∉ name.toList)
    (hempty : name ≠ "") (hdot : name ≠ ".") (hup : name ≠ "..") :
    resolve dir name = dir ++ [name] := by
  obtain ⟨c, hc⟩ := (resolve_child_iff dir name).mpr (namesChild_of_name hslash hempty hdot hup)
  have hcomponents : components name = [name] := by
    unfold components
    rw [pieces_of_notMem hslash, List.map_cons, List.map_nil, String.ofList_toList,
      List.filter_cons_of_pos (by simp [hempty, hdot]), List.filter_nil]
  rw [hc]
  unfold resolve at hc
  rw [hcomponents, List.foldl_cons, List.foldl_nil, enter, if_neg hup] at hc
  obtain ⟨-, hname⟩ := List.append_inj' hc rfl
  rw [hname]

end TinTin.Lib.FilePath
