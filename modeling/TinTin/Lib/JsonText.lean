/-
  JSON texts of nested values, over any kind of number.

  `print L` writes a value in a layout: `compact`, or `pretty` with two blanks a level.
  `read` takes any text of one value: white space between tokens, every escape, members in any
  number under one name. Like other readers it goes so many levels deep and no deeper.

  How a number is written and read is a parameter (`Numerals`); `Reads` says of a number that
  its text is one token and comes back.

  * `read_print`: a value comes back from its text, in every layout, if it is not too deep.
  * `compact_printable`: a compact text has no control character, so no line break.
-/
import TinTin.Lib.FlatJson
import Mathlib.Data.List.TakeWhile

namespace TinTin.Lib.JsonText

open FlatJson (escape unescape quoteTail)

universe u

/-- A value, with the members of an object in the order of the text. -/
inductive Doc (ν : Type u)
  | null
  | bool (b : Bool)
  | num (n : ν)
  | str (s : String)
  | arr (elems : List (Doc ν))
  | obj (members : List (String × Doc ν))

/-- How numbers are written and read. -/
structure Numerals (ν : Type u) where
  print : ν → List Char
  read : List Char → Option ν

/-- The characters that numbers are made of. -/
def isNumeral (c : Char) : Bool :=
  c.isDigit || c == '-' || c == '+' || c == '.' || c == 'e' || c == 'E'

def isSpace (c : Char) : Bool := c == ' ' || c == '\n' || c == '\t' || c == '\r'

variable {ν : Type u}

/-- The text of a number is one token, and is read back. -/
structure Numerals.Reads (N : Numerals ν) (n : ν) : Prop where
  ne_nil : N.print n ≠ []
  token : ∀ c ∈ N.print n, isNumeral c = true
  read : N.read (N.print n) = some n

namespace Doc

/-! ## Measures -/

mutual

/-- The levels of arrays and objects. -/
def depth : Doc ν → ℕ
  | .arr xs => depthElems xs + 1
  | .obj ms => depthMembers ms + 1
  | _ => 0

def depthElems : List (Doc ν) → ℕ
  | [] => 0
  | x :: xs => max (depth x) (depthElems xs)

def depthMembers : List (String × Doc ν) → ℕ
  | [] => 0
  | (_, v) :: ms => max (depth v) (depthMembers ms)

end

mutual

/-- The steps that reading takes. -/
def cost : Doc ν → ℕ
  | .arr (x :: xs) => cost x + costElems xs + 1
  | .obj ((_, v) :: ms) => cost v + costMembers ms + 1
  | _ => 1

def costElems : List (Doc ν) → ℕ
  | [] => 1
  | x :: xs => cost x + costElems xs + 1

def costMembers : List (String × Doc ν) → ℕ
  | [] => 1
  | (_, v) :: ms => cost v + costMembers ms + 1

end

mutual

/-- All numbers of the value are read back. -/
def Reads (N : Numerals ν) : Doc ν → Prop
  | .num n => N.Reads n
  | .arr xs => ReadsElems N xs
  | .obj ms => ReadsMembers N ms
  | _ => True

def ReadsElems (N : Numerals ν) : List (Doc ν) → Prop
  | [] => True
  | x :: xs => Reads N x ∧ ReadsElems N xs

def ReadsMembers (N : Numerals ν) : List (String × Doc ν) → Prop
  | [] => True
  | (_, v) :: ms => Reads N v ∧ ReadsMembers N ms

end

end Doc

/-! ## Writing -/

/-- The white space of a text: before an element or a closing bracket, by the level, and behind
    a colon. -/
structure Layout where
  pad : ℕ → List Char
  gap : List Char
  pad_space : ∀ k, ∀ c ∈ pad k, isSpace c = true
  gap_space : ∀ c ∈ gap, isSpace c = true

/-- No white space. -/
def compact : Layout where
  pad _ := []
  gap := []
  pad_space _ := List.forall_mem_nil _
  gap_space := List.forall_mem_nil _

/-- An element a line, with two blanks a level. -/
def pretty : Layout where
  pad k := '\n' :: List.replicate (2 * k) ' '
  gap := [' ']
  pad_space k := by
    intro c hc
    rcases List.mem_cons.mp hc with rfl | hc
    · rfl
    · rw [List.eq_of_mem_replicate hc]
      rfl
  gap_space := by
    intro c hc
    rw [List.mem_singleton.mp hc]
    rfl

variable (N : Numerals ν) (L : Layout)

/-- A name and its colon. -/
def printKey (key : String) : List Char := '"' :: quoteTail key ++ ':' :: L.gap

mutual

/-- The text of a value at a level. -/
def print : ℕ → Doc ν → List Char
  | _, .null => ['n', 'u', 'l', 'l']
  | _, .bool true => ['t', 'r', 'u', 'e']
  | _, .bool false => ['f', 'a', 'l', 's', 'e']
  | _, .num n => N.print n
  | _, .str s => '"' :: quoteTail s
  | _, .arr [] => ['[', ']']
  | k, .arr (x :: xs) => '[' :: (L.pad (k + 1) ++ print (k + 1) x ++ printElems k xs)
  | _, .obj [] => ['{', '}']
  | k, .obj ((key, v) :: ms) =>
    '{' :: (L.pad (k + 1) ++ printKey L key ++ print (k + 1) v ++ printMembers k ms)

/-- What comes behind an element. -/
def printElems : ℕ → List (Doc ν) → List Char
  | k, [] => L.pad k ++ [']']
  | k, x :: xs => ',' :: (L.pad (k + 1) ++ print (k + 1) x ++ printElems k xs)

/-- What comes behind a member. -/
def printMembers : ℕ → List (String × Doc ν) → List Char
  | k, [] => L.pad k ++ ['}']
  | k, (key, v) :: ms =>
    ',' :: (L.pad (k + 1) ++ printKey L key ++ print (k + 1) v ++ printMembers k ms)

end

/-! ## Reading -/

def skipSpace (cs : List Char) : List Char := cs.dropWhile isSpace

/-- The value of a hexadecimal digit, in either case. -/
def hexDigit (c : Char) : Option ℕ :=
  if c.isDigit then some (c.toNat - 48)
  else if 'a' ≤ c ∧ c ≤ 'f' then some (c.toNat - 87)
  else if 'A' ≤ c ∧ c ≤ 'F' then some (c.toNat - 55)
  else none

/-- The number behind `\u`. -/
def hexFour (a b c d : Char) : Option ℕ := do
  return 4096 * (← hexDigit a) + 256 * (← hexDigit b) + 16 * (← hexDigit c) + (← hexDigit d)

/-- The character of two halves behind `\u`. -/
def joinSurrogates (high low : ℕ) : Char :=
  Char.ofNat (0x10000 + (high - 0xD800) * 0x400 + (low - 0xDC00))

/-- The characters up to the closing quote, and what follows it. -/
def readString : List Char → Option (List Char × List Char)
  | [] => none
  | '"' :: rest => some ([], rest)
  | '\\' :: 'u' :: a :: b :: c :: d :: rest =>
    match hexFour a b c d with
    | none => none
    | some n =>
      if 0xDC00 ≤ n ∧ n < 0xE000 then none
      else if 0xD800 ≤ n ∧ n < 0xDC00 then
        match rest with
        | '\\' :: 'u' :: a :: b :: c :: d :: rest =>
          match hexFour a b c d with
          | none => none
          | some m =>
            if 0xDC00 ≤ m ∧ m < 0xE000 then
              (readString rest).map fun p => (joinSurrogates n m :: p.1, p.2)
            else none
        | _ => none
      else (readString rest).map fun p => (Char.ofNat n :: p.1, p.2)
  | '\\' :: '/' :: rest => (readString rest).map fun p => ('/' :: p.1, p.2)
  | '\\' :: e :: rest =>
    match unescape e with
    | none => none
    | some c => (readString rest).map fun p => (c :: p.1, p.2)
  | c :: rest =>
    if c.toNat < 32 then none else (readString rest).map fun p => (c :: p.1, p.2)

/-- What follows a literal. -/
def literal (lit cs : List Char) : Option (List Char) :=
  if lit.isPrefixOf cs then some (cs.drop lit.length) else none

/-- A name, its colon and what follows. -/
def readKey (cs : List Char) : Option (String × List Char) :=
  match skipSpace cs with
  | '"' :: rest =>
    match readString rest with
    | none => none
    | some (key, rest) =>
      match skipSpace rest with
      | ':' :: rest => some (String.ofList key, rest)
      | _ => none
  | _ => none

/-- The number at the front of a text. -/
def readNumber (cs : List Char) : Option (Doc ν × List Char) :=
  (N.read (cs.takeWhile isNumeral)).map fun n => (.num n, cs.dropWhile isNumeral)

mutual

/-- In so many steps, and so many levels down: the value at the front of a text, and what
    follows it. -/
def readValue : ℕ → ℕ → List Char → Option (Doc ν × List Char)
  | 0, _, _ => none
  | f + 1, d, cs =>
    match skipSpace cs with
    | [] => none
    | c :: rest =>
      if c = '"' then (readString rest).map fun p => (.str (String.ofList p.1), p.2)
      else if c = '[' then
        if d = 0 then none
        else if (skipSpace rest).head? = some ']' then some (.arr [], (skipSpace rest).tail)
        else
          match readValue f (d - 1) rest with
          | none => none
          | some (x, rest) =>
            (readElems f (d - 1) rest).map fun p => (.arr (x :: p.1), p.2)
      else if c = '{' then
        if d = 0 then none
        else if (skipSpace rest).head? = some '}' then some (.obj [], (skipSpace rest).tail)
        else
          match readKey rest with
          | none => none
          | some (key, rest) =>
            match readValue f (d - 1) rest with
            | none => none
            | some (v, rest) =>
              (readMembers f (d - 1) rest).map fun p => (.obj ((key, v) :: p.1), p.2)
      else if c = 'n' then (literal ['u', 'l', 'l'] rest).map (.null, ·)
      else if c = 't' then (literal ['r', 'u', 'e'] rest).map (.bool true, ·)
      else if c = 'f' then (literal ['a', 'l', 's', 'e'] rest).map (.bool false, ·)
      else readNumber N (c :: rest)

/-- The elements behind one. -/
def readElems : ℕ → ℕ → List Char → Option (List (Doc ν) × List Char)
  | 0, _, _ => none
  | f + 1, d, cs =>
    match skipSpace cs with
    | ']' :: rest => some ([], rest)
    | ',' :: rest =>
      match readValue f d rest with
      | none => none
      | some (x, rest) => (readElems f d rest).map fun p => (x :: p.1, p.2)
    | _ => none

/-- The members behind one. -/
def readMembers : ℕ → ℕ → List Char → Option (List (String × Doc ν) × List Char)
  | 0, _, _ => none
  | f + 1, d, cs =>
    match skipSpace cs with
    | '}' :: rest => some ([], rest)
    | ',' :: rest =>
      match readKey rest with
      | none => none
      | some (key, rest) =>
        match readValue f d rest with
        | none => none
        | some (v, rest) => (readMembers f d rest).map fun p => ((key, v) :: p.1, p.2)
    | _ => none

end

/-- The value that a text is, at most `levels` deep. -/
def read (levels : ℕ) (cs : List Char) : Option (Doc ν) :=
  match readValue N (cs.length + 1) levels cs with
  | none => none
  | some (v, rest) => if skipSpace rest = [] then some v else none

/-! ## Tokens come back -/

variable {N L}

theorem skipSpace_append {pre : List Char} (h : ∀ c ∈ pre, isSpace c = true) (cs : List Char) :
    skipSpace (pre ++ cs) = skipSpace cs :=
  List.dropWhile_append_of_pos h

theorem skipSpace_cons {c : Char} (h : isSpace c = false) (cs : List Char) :
    skipSpace (c :: cs) = c :: cs := by
  unfold skipSpace
  rw [List.dropWhile_cons, h]
  rfl

theorem hexDigit_digitChar : ∀ d < 16, hexDigit (Nat.digitChar d) = some d := by decide

theorem hexFour_low {n : ℕ} (hn : n < 256) :
    hexFour '0' '0' (Nat.digitChar (n / 16)) (Nat.digitChar (n % 16)) = some n := by
  unfold hexFour
  rw [hexDigit_digitChar (n / 16) (by omega), hexDigit_digitChar (n % 16) (by omega),
    show hexDigit '0' = some 0 from rfl]
  simp only [Option.bind_eq_bind, Option.bind_some, Option.pure_def, Option.some.injEq]
  omega

theorem readString_escape (c : Char) (rest : List Char) :
    readString (escape c ++ rest) = (readString rest).map fun p => (c :: p.1, p.2) := by
  unfold escape
  split_ifs with h₁ h₂ h₃ h₄ h₅ h₆ h₇ h₈
  · subst h₁
    rfl
  · subst h₂
    rfl
  · subst h₃
    rfl
  · subst h₄
    rfl
  · subst h₅
    rfl
  · subst h₆
    rfl
  · subst h₇
    rfl
  · simp only [List.cons_append, List.nil_append]
    rw [readString, hexFour_low (by omega)]
    dsimp only
    rw [if_neg (by omega), if_neg (by omega), Char.ofNat_toNat]
  · simp only [List.cons_append, List.nil_append]
    rw [readString, if_neg h₈]
    · exact h₁
    · exact fun _ _ _ _ _ h => absurd h h₂
    · exact fun _ h => absurd h h₂
    · exact fun _ _ h => absurd h h₂

theorem readString_quoteTail (s : String) (rest : List Char) :
    readString (quoteTail s ++ rest) = some (s.toList, rest) := by
  unfold quoteTail
  rw [List.append_assoc]
  generalize s.toList = cs
  induction cs with
  | nil => rfl
  | cons c cs ih =>
    rw [List.flatMap_cons, List.append_assoc, readString_escape, ih]
    rfl

theorem readKey_quote (rest : List Char) :
    readKey ('"' :: rest) =
      match readString rest with
      | none => none
      | some (key, rest) =>
        match skipSpace rest with
        | ':' :: rest => some (String.ofList key, rest)
        | _ => none := rfl

theorem readKey_printKey {pre : List Char} (hpre : ∀ c ∈ pre, isSpace c = true) (key : String)
    (rest : List Char) :
    readKey (pre ++ (printKey L key ++ rest)) = some (key, L.gap ++ rest) := by
  have hskip : readKey (pre ++ (printKey L key ++ rest)) = readKey (printKey L key ++ rest) := by
    unfold readKey
    rw [skipSpace_append hpre]
  rw [hskip, printKey, List.cons_append, List.cons_append, readKey_quote, List.append_assoc,
    readString_quoteTail, List.cons_append]
  dsimp only
  rw [skipSpace_cons rfl, String.ofList_toList]
  rfl

/-- What follows a number ends it. -/
def EndsToken (rest : List Char) : Prop := ∀ c ∈ rest.head?, isNumeral c = false

theorem endsToken_append {pre rest : List Char} (hpre : ∀ c ∈ pre, isSpace c = true)
    (hrest : EndsToken rest) : EndsToken (pre ++ rest) := by
  cases pre with
  | nil => exact hrest
  | cons c pre =>
    intro c' hc'
    cases hc'
    have hc := hpre c List.mem_cons_self
    unfold isSpace at hc
    simp only [Bool.or_eq_true, beq_iff_eq] at hc
    rcases hc with ((rfl | rfl) | rfl) | rfl <;> rfl

theorem endsToken_cons {c : Char} (hc : isNumeral c = false) (rest : List Char) :
    EndsToken (c :: rest) := by
  intro c' hc'
  cases hc'
  exact hc

theorem endsToken_printElems (k : ℕ) (xs : List (Doc ν)) (rest : List Char) :
    EndsToken (printElems N L k xs ++ rest) := by
  cases xs with
  | nil =>
    rw [printElems, List.append_assoc]
    exact endsToken_append (L.pad_space k) (endsToken_cons rfl _)
  | cons x xs =>
    rw [printElems]
    exact endsToken_cons rfl _

theorem endsToken_printMembers (k : ℕ) (ms : List (String × Doc ν)) (rest : List Char) :
    EndsToken (printMembers N L k ms ++ rest) := by
  cases ms with
  | nil =>
    rw [printMembers, List.append_assoc]
    exact endsToken_append (L.pad_space k) (endsToken_cons rfl _)
  | cons m ms =>
    rw [printMembers]
    exact endsToken_cons rfl _

theorem readNumber_print {n : ν} (hn : N.Reads n) {rest : List Char} (hrest : EndsToken rest) :
    readNumber N (N.print n ++ rest) = some (.num n, rest) := by
  have hstop : rest.takeWhile isNumeral = [] ∧ rest.dropWhile isNumeral = rest := by
    cases rest with
    | nil => exact ⟨rfl, rfl⟩
    | cons c rest =>
      have hc := hrest c rfl
      rw [List.takeWhile_cons, List.dropWhile_cons, hc]
      exact ⟨rfl, rfl⟩
  unfold readNumber
  rw [List.takeWhile_append_of_pos hn.token, List.dropWhile_append_of_pos hn.token, hstop.1,
    hstop.2, List.append_nil, hn.read]
  rfl

/-! ## Values come back -/

theorem cost_pos (v : Doc ν) : 0 < v.cost := by
  cases v with
  | arr xs => cases xs <;> simp [Doc.cost]
  | obj ms => cases ms <;> simp [Doc.cost]
  | _ => simp [Doc.cost]

theorem readValue_bracket {pre rest : List Char} (hpre : ∀ c ∈ pre, isSpace c = true)
    {f d : ℕ} (hd : 0 < d) (hrest : (skipSpace rest).head? ≠ some ']') :
    readValue N (f + 1) d (pre ++ '[' :: rest) =
      match readValue N f (d - 1) rest with
      | none => none
      | some (x, rest) => (readElems N f (d - 1) rest).map fun p => (.arr (x :: p.1), p.2) := by
  rw [readValue, skipSpace_append hpre, skipSpace_cons rfl]
  dsimp only
  rw [if_neg (by decide), if_pos rfl, if_neg (by omega), if_neg hrest]

theorem readValue_brace {pre rest : List Char} (hpre : ∀ c ∈ pre, isSpace c = true)
    {f d : ℕ} (hd : 0 < d) (hrest : (skipSpace rest).head? ≠ some '}') :
    readValue N (f + 1) d (pre ++ '{' :: rest) =
      match readKey rest with
      | none => none
      | some (key, rest) =>
        match readValue N f (d - 1) rest with
        | none => none
        | some (v, rest) =>
          (readMembers N f (d - 1) rest).map fun p => (.obj ((key, v) :: p.1), p.2) := by
  rw [readValue, skipSpace_append hpre, skipSpace_cons rfl]
  dsimp only
  rw [if_neg (by decide), if_neg (by decide), if_pos rfl, if_neg (by omega), if_neg hrest]

theorem readElems_comma (f d : ℕ) (rest : List Char) :
    readElems N (f + 1) d (',' :: rest) =
      match readValue N f d rest with
      | none => none
      | some (x, rest) => (readElems N f d rest).map fun p => (x :: p.1, p.2) := by
  rw [readElems, skipSpace_cons rfl]
  rfl

theorem readMembers_comma (f d : ℕ) (rest : List Char) :
    readMembers N (f + 1) d (',' :: rest) =
      match readKey rest with
      | none => none
      | some (key, rest) =>
        match readValue N f d rest with
        | none => none
        | some (v, rest) => (readMembers N f d rest).map fun p => ((key, v) :: p.1, p.2) := by
  rw [readMembers, skipSpace_cons rfl]
  rfl

/-- A value's text begins with a character that is neither white space nor a closing bracket. -/
theorem print_head {v : Doc ν} (hv : v.Reads N) (k : ℕ) :
    ∃ c cs, print N L k v = c :: cs ∧ isSpace c = false ∧ c ≠ ']' ∧ c ≠ '}' := by
  cases v with
  | null => exact ⟨'n', _, by rw [print], rfl, by decide, by decide⟩
  | bool b =>
    cases b with
    | true => exact ⟨'t', _, by rw [print], rfl, by decide, by decide⟩
    | false => exact ⟨'f', _, by rw [print], rfl, by decide, by decide⟩
  | str s => exact ⟨'"', _, by rw [print], rfl, by decide, by decide⟩
  | arr xs => cases xs <;> exact ⟨'[', _, by rw [print], rfl, by decide, by decide⟩
  | obj ms => cases ms <;> exact ⟨'{', _, by rw [print], rfl, by decide, by decide⟩
  | num n =>
    rw [Doc.Reads] at hv
    obtain ⟨c, cs, hc⟩ := List.exists_cons_of_ne_nil hv.ne_nil
    have htoken := hv.token c (hc ▸ List.mem_cons_self)
    refine ⟨c, cs, by rw [print, hc], ?_, ?_, ?_⟩
    · by_contra hspace
      unfold isSpace at hspace
      simp only [Bool.not_eq_false, Bool.or_eq_true, beq_iff_eq] at hspace
      rcases hspace with ((rfl | rfl) | rfl) | rfl <;> cases htoken
    · rintro rfl
      cases htoken
    · rintro rfl
      cases htoken

theorem skipSpace_print {pre : List Char} (hpre : ∀ c ∈ pre, isSpace c = true) {v : Doc ν}
    (hv : v.Reads N) (k : ℕ) (rest : List Char) :
    (skipSpace (pre ++ (print N L k v ++ rest))).head? ≠ some ']' := by
  obtain ⟨c, cs, hc, hspace, hclose, -⟩ := print_head (L := L) hv k
  rw [skipSpace_append hpre, hc, List.cons_append, skipSpace_cons hspace, List.head?_cons]
  exact fun h => hclose (Option.some.inj h)

theorem skipSpace_printKey {pre : List Char} (hpre : ∀ c ∈ pre, isSpace c = true) (key : String)
    (rest : List Char) : (skipSpace (pre ++ (printKey L key ++ rest))).head? ≠ some '}' := by
  unfold printKey
  rw [skipSpace_append hpre, List.cons_append, List.cons_append, skipSpace_cons rfl,
    List.head?_cons]
  decide

mutual

theorem readValue_print : ∀ (v : Doc ν) (k f d : ℕ) {pre rest : List Char},
    (∀ c ∈ pre, isSpace c = true) → v.Reads N → v.depth ≤ d → v.cost ≤ f → EndsToken rest →
    readValue N f d (pre ++ (print N L k v ++ rest)) = some (v, rest)
  | v, _, 0, _, _, _, _, _, _, hf, _ => absurd hf (Nat.not_le_of_lt (cost_pos v))
  | .null, _, f + 1, _, _, _, hpre, _, _, _, _ => by
    rw [readValue, skipSpace_append hpre, print, List.cons_append, skipSpace_cons rfl]
    rfl
  | .bool true, _, f + 1, _, _, _, hpre, _, _, _, _ => by
    rw [readValue, skipSpace_append hpre, print, List.cons_append, skipSpace_cons rfl]
    rfl
  | .bool false, _, f + 1, _, _, _, hpre, _, _, _, _ => by
    rw [readValue, skipSpace_append hpre, print, List.cons_append, skipSpace_cons rfl]
    rfl
  | .str s, _, f + 1, _, _, rest, hpre, _, _, _, _ => by
    rw [readValue, skipSpace_append hpre, print, List.cons_append, skipSpace_cons rfl]
    dsimp only
    rw [if_pos rfl, readString_quoteTail, Option.map_some, String.ofList_toList]
  | .num n, k, f + 1, _, _, rest, hpre, hv, _, _, hrest => by
    rw [Doc.Reads] at hv
    rw [print, readValue, skipSpace_append hpre]
    obtain ⟨c, cs, hc⟩ := List.exists_cons_of_ne_nil hv.ne_nil
    have htoken := hv.token c (hc ▸ List.mem_cons_self)
    have hne : ∀ c', isNumeral c' = false → c ≠ c' := by
      rintro c' hc' rfl
      rw [htoken] at hc'
      cases hc'
    have hspace : isSpace c = false := by
      unfold isSpace
      simp [hne ' ' rfl, hne '\n' rfl, hne '\t' rfl, hne '\r' rfl]
    have hread := readNumber_print hv hrest
    rw [hc, List.cons_append] at hread ⊢
    rw [skipSpace_cons hspace]
    dsimp only
    rw [if_neg (hne '"' rfl), if_neg (hne '[' rfl), if_neg (hne '{' rfl), if_neg (hne 'n' rfl),
      if_neg (hne 't' rfl), if_neg (hne 'f' rfl), hread]
  | .arr [], _, f + 1, d, _, _, hpre, _, hd, _, _ => by
    rw [Doc.depth] at hd
    rw [readValue, skipSpace_append hpre, print, List.cons_append, skipSpace_cons rfl]
    dsimp only
    rw [if_neg (by decide), if_pos rfl, if_neg (by omega)]
    rfl
  | .arr (x :: xs), k, f + 1, d, _, rest, hpre, hv, hd, hf, _ => by
    rw [Doc.Reads, Doc.ReadsElems] at hv
    rw [Doc.depth, Doc.depthElems] at hd
    rw [Doc.cost] at hf
    have hx := readValue_print x (k + 1) f (d - 1) (L.pad_space (k + 1)) hv.1 (by omega) (by omega) (endsToken_printElems (N := N) (L := L) k xs rest)
    have hxs : readElems N f (d - 1) (printElems N L k xs ++ rest) = some (xs, rest) :=
      readElems_print xs k f (d - 1) hv.2 (by omega) (by omega)
    rw [print, List.cons_append, List.append_assoc, List.append_assoc,
      readValue_bracket hpre (by omega) (skipSpace_print (L.pad_space _) hv.1 _ _), hx]
    dsimp only
    rw [hxs]
    rfl
  | .obj [], _, f + 1, d, _, _, hpre, _, hd, _, _ => by
    rw [Doc.depth] at hd
    rw [readValue, skipSpace_append hpre, print, List.cons_append, skipSpace_cons rfl]
    dsimp only
    rw [if_neg (by decide), if_neg (by decide), if_pos rfl, if_neg (by omega)]
    rfl
  | .obj ((key, v) :: ms), k, f + 1, d, _, rest, hpre, hv, hd, hf, _ => by
    rw [Doc.Reads, Doc.ReadsMembers] at hv
    rw [Doc.depth, Doc.depthMembers] at hd
    rw [Doc.cost] at hf
    have hx := readValue_print v (k + 1) f (d - 1) L.gap_space hv.1 (by omega)
      (by omega) (endsToken_printMembers (N := N) (L := L) k ms rest)
    have hms : readMembers N f (d - 1) (printMembers N L k ms ++ rest) = some (ms, rest) :=
      readMembers_print ms k f (d - 1) hv.2 (by omega) (by omega)
    rw [print, List.cons_append, List.append_assoc, List.append_assoc, List.append_assoc,
      readValue_brace hpre (by omega) (skipSpace_printKey (L.pad_space _) _ _),
      readKey_printKey (L.pad_space _)]
    dsimp only
    rw [hx]
    dsimp only
    rw [hms]
    rfl

theorem readElems_print : ∀ (xs : List (Doc ν)) (k f d : ℕ) {rest : List Char},
    Doc.ReadsElems N xs → Doc.depthElems xs ≤ d → Doc.costElems xs ≤ f →
    readElems N f d (printElems N L k xs ++ rest) = some (xs, rest)
  | [], _, 0, _, _, _, _, hf => by
    rw [Doc.costElems] at hf
    omega
  | [], k, f + 1, _, _, _, _, _ => by
    rw [readElems, printElems, List.append_assoc, skipSpace_append (L.pad_space k),
      List.singleton_append, skipSpace_cons rfl]
    rfl
  | x :: xs, _, 0, _, _, _, _, hf => by
    rw [Doc.costElems] at hf
    omega
  | x :: xs, k, f + 1, d, rest, hv, hd, hf => by
    rw [Doc.ReadsElems] at hv
    rw [Doc.depthElems] at hd
    rw [Doc.costElems] at hf
    have hx := readValue_print x (k + 1) f d (L.pad_space (k + 1)) hv.1
      (by omega) (by omega) (endsToken_printElems (N := N) (L := L) k xs rest)
    have hxs : readElems N f d (printElems N L k xs ++ rest) = some (xs, rest) :=
      readElems_print xs k f d hv.2 (by omega) (by omega)
    rw [printElems, List.cons_append, List.append_assoc, List.append_assoc, readElems_comma, hx]
    dsimp only
    rw [hxs]
    rfl

theorem readMembers_print : ∀ (ms : List (String × Doc ν)) (k f d : ℕ) {rest : List Char},
    Doc.ReadsMembers N ms → Doc.depthMembers ms ≤ d → Doc.costMembers ms ≤ f →
    readMembers N f d (printMembers N L k ms ++ rest) = some (ms, rest)
  | [], _, 0, _, _, _, _, hf => by
    rw [Doc.costMembers] at hf
    omega
  | [], k, f + 1, _, _, _, _, _ => by
    rw [readMembers, printMembers, List.append_assoc, skipSpace_append (L.pad_space k),
      List.singleton_append, skipSpace_cons rfl]
    rfl
  | (key, v) :: ms, _, 0, _, _, _, _, hf => by
    rw [Doc.costMembers] at hf
    omega
  | (key, v) :: ms, k, f + 1, d, rest, hv, hd, hf => by
    rw [Doc.ReadsMembers] at hv
    rw [Doc.depthMembers] at hd
    rw [Doc.costMembers] at hf
    have hx := readValue_print v (k + 1) f d L.gap_space hv.1 (by omega)
      (by omega) (endsToken_printMembers (N := N) (L := L) k ms rest)
    have hms : readMembers N f d (printMembers N L k ms ++ rest) = some (ms, rest) :=
      readMembers_print ms k f d hv.2 (by omega) (by omega)
    rw [printMembers, List.cons_append, List.append_assoc, List.append_assoc, List.append_assoc,
      readMembers_comma, readKey_printKey (L.pad_space _)]
    dsimp only
    rw [hx]
    dsimp only
    rw [hms]
    rfl

end

mutual

/-- A text is at least as long as reading it takes steps. -/
theorem cost_le_length : ∀ (v : Doc ν) (k : ℕ), v.Reads N → v.cost ≤ (print N L k v).length
  | .null, _, _ => by simp [Doc.cost, print]
  | .bool true, _, _ => by simp [Doc.cost, print]
  | .bool false, _, _ => by simp [Doc.cost, print]
  | .str _, _, _ => by simp [Doc.cost, print]
  | .num n, _, hv => by
    rw [Doc.Reads] at hv
    rw [print, Doc.cost]
    · exact List.length_pos_iff.mpr hv.ne_nil
    · exact fun _ _ => nofun
    · exact fun _ _ _ => nofun
  | .arr [], _, _ => by simp [Doc.cost, print]
  | .arr (x :: xs), k, hv => by
    rw [Doc.Reads, Doc.ReadsElems] at hv
    have hx := cost_le_length x (k + 1) hv.1
    have hxs := costElems_le_length xs k hv.2
    rw [Doc.cost, print, List.length_cons, List.length_append, List.length_append]
    omega
  | .obj [], _, _ => by simp [Doc.cost, print]
  | .obj ((key, v) :: ms), k, hv => by
    rw [Doc.Reads, Doc.ReadsMembers] at hv
    have hx := cost_le_length v (k + 1) hv.1
    have hms := costMembers_le_length ms k hv.2
    rw [Doc.cost, print, List.length_cons, List.length_append, List.length_append]
    omega

theorem costElems_le_length : ∀ (xs : List (Doc ν)) (k : ℕ), Doc.ReadsElems N xs →
    Doc.costElems xs ≤ (printElems N L k xs).length
  | [], _, _ => by simp [Doc.costElems, printElems]
  | x :: xs, k, hv => by
    rw [Doc.ReadsElems] at hv
    have hx := cost_le_length x (k + 1) hv.1
    have hxs := costElems_le_length xs k hv.2
    rw [Doc.costElems, printElems, List.length_cons, List.length_append, List.length_append]
    omega

theorem costMembers_le_length : ∀ (ms : List (String × Doc ν)) (k : ℕ), Doc.ReadsMembers N ms →
    Doc.costMembers ms ≤ (printMembers N L k ms).length
  | [], _, _ => by simp [Doc.costMembers, printMembers]
  | (key, v) :: ms, k, hv => by
    rw [Doc.ReadsMembers] at hv
    have hx := cost_le_length v (k + 1) hv.1
    have hms := costMembers_le_length ms k hv.2
    rw [Doc.costMembers, printMembers, List.length_cons, List.length_append, List.length_append]
    omega

end

/-- **A value comes back from its text**, in any layout and with white space around it. -/
theorem read_print {levels : ℕ} {v : Doc ν} (hv : v.Reads N) (hlevels : v.depth ≤ levels)
    (k : ℕ) {pre post : List Char} (hpre : ∀ c ∈ pre, isSpace c = true)
    (hpost : ∀ c ∈ post, isSpace c = true) :
    read N levels (pre ++ (print N L k v ++ post)) = some v := by
  have hends : EndsToken post := by
    have hnil : EndsToken [] := fun _ h => by cases h
    have h := endsToken_append hpost hnil
    rwa [List.append_nil] at h
  have hcost := cost_le_length (L := L) v k hv
  unfold read
  rw [readValue_print v k _ levels hpre hv hlevels
    (by rw [List.length_append, List.length_append]; omega) hends]
  dsimp only
  rw [skipSpace, if_pos (List.dropWhile_eq_nil_iff.mpr hpost)]

/-! ## Compact texts -/

/-- No control character. -/
def Printable (cs : List Char) : Prop := ∀ c ∈ cs, 32 ≤ c.toNat

instance decidablePrintable (cs : List Char) : Decidable (Printable cs) :=
  List.decidableBAll (fun c : Char => 32 ≤ c.toNat) cs

theorem printable_append {cs ds : List Char} :
    Printable (cs ++ ds) ↔ Printable cs ∧ Printable ds := List.forall_mem_append

theorem printable_cons {c : Char} {cs : List Char} :
    Printable (c :: cs) ↔ 32 ≤ c.toNat ∧ Printable cs := List.forall_mem_cons

theorem printable_nil : Printable [] := List.forall_mem_nil _

theorem digitChar_printable : ∀ d < 16, 32 ≤ (Nat.digitChar d).toNat := by decide

theorem printable_escape (c : Char) : Printable (escape c) := by
  unfold escape
  split_ifs with h₁ h₂ h₃ h₄ h₅ h₆ h₇ h₈
  · decide
  · decide
  · decide
  · decide
  · decide
  · decide
  · decide
  · simp only [printable_cons]
    exact ⟨by decide, by decide, by decide, by decide, digitChar_printable _ (by omega),
      digitChar_printable _ (by omega), printable_nil⟩
  · intro c' hc'
    rw [List.mem_singleton.mp hc']
    omega

theorem printable_quoteTail (s : String) : Printable (quoteTail s) := by
  unfold quoteTail
  refine printable_append.mpr ⟨fun c hc => ?_, by decide⟩
  obtain ⟨c', -, hc'⟩ := List.mem_flatMap.mp hc
  exact printable_escape c' c hc'

theorem printable_printKey (key : String) : Printable (printKey compact key) := by
  unfold printKey
  exact printable_append.mpr
    ⟨printable_cons.mpr ⟨by decide, printable_quoteTail key⟩, by decide⟩

theorem isNumeral_printable {c : Char} (h : isNumeral c = true) : 32 ≤ c.toNat := by
  unfold isNumeral at h
  simp only [Bool.or_eq_true, beq_iff_eq] at h
  rcases h with ((((h | rfl) | rfl) | rfl) | rfl) | rfl
  · have hlow : (48 : UInt32) ≤ c.val := by
      unfold Char.isDigit at h
      exact of_decide_eq_true (Bool.and_eq_true_iff.mp h).1
    have : 48 ≤ c.toNat := UInt32.le_iff_toNat_le.mp hlow
    omega
  all_goals decide

mutual

/-- **A compact text has no control character.** -/
theorem compact_printable : ∀ (v : Doc ν) (k : ℕ), v.Reads N → Printable (print N compact k v)
  | .null, _, _ => by
    rw [print]
    decide
  | .bool true, _, _ => by
    rw [print]
    decide
  | .bool false, _, _ => by
    rw [print]
    decide
  | .str s, _, _ => by
    rw [print]
    exact printable_cons.mpr ⟨by decide, printable_quoteTail s⟩
  | .num n, _, hv => by
    rw [Doc.Reads] at hv
    rw [print]
    exact fun c hc => isNumeral_printable (hv.token c hc)
  | .arr [], _, _ => by
    rw [print]
    decide
  | .arr (x :: xs), k, hv => by
    rw [Doc.Reads, Doc.ReadsElems] at hv
    rw [print]
    exact printable_cons.mpr ⟨by decide, printable_append.mpr
      ⟨compact_printable x (k + 1) hv.1, printable_elems xs k hv.2⟩⟩
  | .obj [], _, _ => by
    rw [print]
    decide
  | .obj ((key, v) :: ms), k, hv => by
    rw [Doc.Reads, Doc.ReadsMembers] at hv
    rw [print]
    exact printable_cons.mpr ⟨by decide, printable_append.mpr ⟨printable_append.mpr
      ⟨printable_printKey key, compact_printable v (k + 1) hv.1⟩, printable_members ms k hv.2⟩⟩

theorem printable_elems : ∀ (xs : List (Doc ν)) (k : ℕ), Doc.ReadsElems N xs →
    Printable (printElems N compact k xs)
  | [], _, _ => by
    rw [printElems]
    exact printable_cons.mpr ⟨by decide, printable_nil⟩
  | x :: xs, k, hv => by
    rw [Doc.ReadsElems] at hv
    rw [printElems]
    exact printable_cons.mpr ⟨by decide, printable_append.mpr
      ⟨compact_printable x (k + 1) hv.1, printable_elems xs k hv.2⟩⟩

theorem printable_members : ∀ (ms : List (String × Doc ν)) (k : ℕ), Doc.ReadsMembers N ms →
    Printable (printMembers N compact k ms)
  | [], _, _ => by
    rw [printMembers]
    exact printable_cons.mpr ⟨by decide, printable_nil⟩
  | (key, v) :: ms, k, hv => by
    rw [Doc.ReadsMembers] at hv
    rw [printMembers]
    exact printable_cons.mpr ⟨by decide, printable_append.mpr ⟨printable_append.mpr
      ⟨printable_printKey key, compact_printable v (k + 1) hv.1⟩, printable_members ms k hv.2⟩⟩

end

end TinTin.Lib.JsonText
