/-
  JSON texts of flat objects: the members hold null, booleans, natural numbers and strings.

  The text is the compact one: no white space, the short escapes where JSON has one, `\u00xx`
  for the other control characters. The reader takes such texts and no others.

  * `FlatJson.read_print`: an object comes back from its text.
-/
import Mathlib.Data.List.Basic

namespace TinTin.Lib.FlatJson

/-- A value without members or elements. -/
inductive Scalar
  | null
  | bool (b : Bool)
  | nat (n : ℕ)
  | str (s : String)
  deriving DecidableEq, Repr

/-! ## Strings -/

/-- A character inside a quoted string. -/
def escape (c : Char) : List Char :=
  if c = '"' then ['\\', '"']
  else if c = '\\' then ['\\', '\\']
  else if c = '\n' then ['\\', 'n']
  else if c = '\r' then ['\\', 'r']
  else if c = '\t' then ['\\', 't']
  else if c = '\x08' then ['\\', 'b']
  else if c = '\x0c' then ['\\', 'f']
  else if c.toNat < 32 then
    ['\\', 'u', '0', '0', Nat.digitChar (c.toNat / 16), Nat.digitChar (c.toNat % 16)]
  else [c]

/-- The text of a string, after its opening quote. -/
def quoteTail (s : String) : List Char := s.toList.flatMap escape ++ ['"']

/-- The character after a backslash. -/
def unescape : Char → Option Char
  | '"' => some '"'
  | '\\' => some '\\'
  | 'n' => some '\n'
  | 'r' => some '\r'
  | 't' => some '\t'
  | 'b' => some '\x08'
  | 'f' => some '\x0c'
  | _ => none

/-- The value of a hexadecimal digit. -/
def hexVal (c : Char) : ℕ := if c.isDigit then c.toNat - 48 else c.toNat - 87

theorem hexVal_digitChar : ∀ d < 16, hexVal (Nat.digitChar d) = d := by decide

/-- The characters up to the closing quote, and what follows it. -/
def unquote : List Char → Option (List Char × List Char)
  | '"' :: rest => some ([], rest)
  | '\\' :: 'u' :: '0' :: '0' :: a :: b :: rest =>
    (unquote rest).map fun p => (Char.ofNat (16 * hexVal a + hexVal b) :: p.1, p.2)
  | '\\' :: e :: rest =>
    match unescape e with
    | none => none
    | some c => (unquote rest).map fun p => (c :: p.1, p.2)
  | c :: rest => (unquote rest).map fun p => (c :: p.1, p.2)
  | [] => none

theorem unquote_escape (c : Char) (rest : List Char) :
    unquote (escape c ++ rest) = (unquote rest).map fun p => (c :: p.1, p.2) := by
  unfold escape
  split_ifs with h₁ h₂ h₃ h₄ h₅ h₆ h₇ h₈
  · subst h₁
    rfl
  · subst h₂
    rfl
  · subst h₃
    rfl
  · subst h₄
    rfl
  · subst h₅
    rfl
  · subst h₆
    rfl
  · subst h₇
    rfl
  · have hc : Char.ofNat (16 * hexVal (Nat.digitChar (c.toNat / 16)) +
        hexVal (Nat.digitChar (c.toNat % 16))) = c := by
      rw [hexVal_digitChar _ (by omega), hexVal_digitChar _ (by omega), Nat.div_add_mod,
        Char.ofNat_toNat]
    simp only [List.cons_append, List.nil_append]
    rw [unquote, hc]
  · simp only [List.cons_append, List.nil_append]
    rw [unquote]
    · exact fun h => h₁ h
    · intro a b r h
      exact absurd h h₂
    · intro e r h
      exact absurd h h₂

theorem unquote_quoteTail (s : String) (rest : List Char) :
    unquote (quoteTail s ++ rest) = some (s.toList, rest) := by
  unfold quoteTail
  rw [List.append_assoc]
  generalize s.toList = cs
  induction cs with
  | nil => rfl
  | cons c cs ih =>
    rw [List.flatMap_cons, List.append_assoc, unquote_escape, ih]
    rfl

/-! ## Scalars -/

/-- The text of a scalar. -/
def printScalar : Scalar → List Char
  | .null => ['n', 'u', 'l', 'l']
  | .bool true => ['t', 'r', 'u', 'e']
  | .bool false => ['f', 'a', 'l', 's', 'e']
  | .nat n => Nat.toDigits 10 n
  | .str s => '"' :: quoteTail s

/-- The scalar at the front of a text, and what follows it. -/
def readScalar : List Char → Option (Scalar × List Char)
  | '"' :: rest => (unquote rest).map fun p => (.str (String.ofList p.1), p.2)
  | 'n' :: 'u' :: 'l' :: 'l' :: rest => some (.null, rest)
  | 't' :: 'r' :: 'u' :: 'e' :: rest => some (.bool true, rest)
  | 'f' :: 'a' :: 'l' :: 's' :: 'e' :: rest => some (.bool false, rest)
  | cs =>
    match cs.takeWhile Char.isDigit with
    | [] => none
    | d :: ds => some (.nat (Nat.ofDigitChars 10 (d :: ds) 0), cs.dropWhile Char.isDigit)

/-- What follows a number ends it. -/
def EndsNumber (rest : List Char) : Prop := rest.head?.all (!·.isDigit) = true

theorem readScalar_digit {d : Char} {ds rest : List Char} (hd : d.isDigit = true)
    (hds : ∀ c ∈ ds, c.isDigit = true) (hrest : EndsNumber rest) :
    readScalar (d :: ds ++ rest) = some (.nat (Nat.ofDigitChars 10 (d :: ds) 0), rest) := by
  have hall : ∀ c ∈ d :: ds, c.isDigit = true := by
    intro c hc
    rcases List.mem_cons.mp hc with rfl | hc
    · exact hd
    · exact hds c hc
  have hstop : rest.takeWhile Char.isDigit = [] ∧ rest.dropWhile Char.isDigit = rest := by
    cases rest with
    | nil => exact ⟨rfl, rfl⟩
    | cons c rest =>
      have hc : c.isDigit = false := by simpa [EndsNumber] using hrest
      constructor
      · rw [List.takeWhile_cons, hc]
        rfl
      · rw [List.dropWhile_cons, hc]
        rfl
  have htake : (d :: ds ++ rest).takeWhile Char.isDigit = d :: ds := by
    rw [List.takeWhile_append_of_pos hall, hstop.1, List.append_nil]
  have hdrop : (d :: ds ++ rest).dropWhile Char.isDigit = rest := by
    rw [List.dropWhile_append_of_pos hall, hstop.2]
  rw [List.cons_append] at htake hdrop ⊢
  unfold readScalar
  split
  · next h => exact absurd ((List.cons.inj h).1 ▸ hd) (by decide)
  · next h => exact absurd ((List.cons.inj h).1 ▸ hd) (by decide)
  · next h => exact absurd ((List.cons.inj h).1 ▸ hd) (by decide)
  · next h => exact absurd ((List.cons.inj h).1 ▸ hd) (by decide)
  · rw [htake, hdrop]

theorem readScalar_printScalar (v : Scalar) {rest : List Char} (hrest : EndsNumber rest) :
    readScalar (printScalar v ++ rest) = some (v, rest) := by
  cases v with
  | null => rfl
  | bool b => cases b <;> rfl
  | str s =>
    rw [printScalar, List.cons_append, readScalar, unquote_quoteTail, Option.map_some,
      String.ofList_toList]
  | nat n =>
    rw [printScalar]
    have hdigits : ∀ c ∈ Nat.toDigits 10 n, c.isDigit = true := fun c hc =>
      Nat.isDigit_of_mem_toDigits (by decide) (by decide) hc
    have hval : Nat.ofDigitChars 10 (Nat.toDigits 10 n) 0 = n := Nat.ofDigitChars_ten_toDigits
    cases hn : Nat.toDigits 10 n with
    | nil => exact absurd hn Nat.toDigits_ne_nil
    | cons d ds =>
      rw [hn] at hdigits hval
      rw [readScalar_digit (hdigits d List.mem_cons_self)
        (fun c hc => hdigits c (List.mem_cons_of_mem _ hc)) hrest, hval]

/-! ## Objects -/

/-- The text of a member. -/
def printMember (m : String × Scalar) : List Char :=
  '"' :: quoteTail m.1 ++ ':' :: printScalar m.2

/-- The text of an object after a member. -/
def printRest : List (String × Scalar) → List Char
  | [] => ['}']
  | m :: ms => ',' :: printMember m ++ printRest ms

/-- The text of an object. -/
def printChars : List (String × Scalar) → List Char
  | [] => ['{', '}']
  | m :: ms => '{' :: printMember m ++ printRest ms

/-- The text of an object. -/
def print (ms : List (String × Scalar)) : String := String.ofList (printChars ms)

/-- The member at the front of a text, and what follows it. -/
def readMember : List Char → Option ((String × Scalar) × List Char)
  | '"' :: rest =>
    match unquote rest with
    | some (key, ':' :: rest) =>
      (readScalar rest).map fun p => ((String.ofList key, p.1), p.2)
    | _ => none
  | _ => none

/-- At most that many members, up to the end of the text. -/
def readMembers : ℕ → List Char → Option (List (String × Scalar))
  | 0, _ => none
  | n + 1, cs =>
    match readMember cs with
    | some (m, ['}']) => some [m]
    | some (m, ',' :: rest) => (readMembers n rest).map (m :: ·)
    | _ => none

/-- The object that a text is. -/
def readChars : List Char → Option (List (String × Scalar))
  | ['{', '}'] => some []
  | '{' :: rest => readMembers rest.length rest
  | _ => none

/-- The object that a text is. -/
def read (text : String) : Option (List (String × Scalar)) := readChars text.toList

theorem readMember_printMember (m : String × Scalar) {rest : List Char}
    (hrest : EndsNumber rest) : readMember (printMember m ++ rest) = some (m, rest) := by
  unfold printMember
  rw [List.cons_append, List.cons_append, List.append_assoc, readMember, unquote_quoteTail,
    List.cons_append]
  change Option.map _ (readScalar (printScalar m.2 ++ rest)) = _
  rw [readScalar_printScalar m.2 hrest, Option.map_some, String.ofList_toList]

theorem endsNumber_printRest (ms : List (String × Scalar)) : EndsNumber (printRest ms) := by
  cases ms <;> rfl

theorem length_printRest (ms : List (String × Scalar)) : ms.length < (printRest ms).length := by
  induction ms with
  | nil => decide
  | cons m ms ih =>
    rw [printRest, List.length_append, List.length_cons, List.length_cons]
    omega

theorem readMembers_print (ms : List (String × Scalar)) :
    ∀ (m : String × Scalar) (n : ℕ), ms.length < n →
      readMembers n (printMember m ++ printRest ms) = some (m :: ms) := by
  induction ms with
  | nil =>
    intro m n hn
    obtain ⟨n, rfl⟩ := Nat.exists_eq_succ_of_ne_zero (by omega : n ≠ 0)
    rw [readMembers, readMember_printMember m (endsNumber_printRest [])]
    rfl
  | cons m' ms ih =>
    intro m n hn
    obtain ⟨n, rfl⟩ := Nat.exists_eq_succ_of_ne_zero (by omega : n ≠ 0)
    rw [readMembers, readMember_printMember m (endsNumber_printRest (m' :: ms)), printRest,
      List.cons_append]
    change Option.map _ (readMembers n (printMember m' ++ printRest ms)) = _
    rw [ih m' n (by rw [List.length_cons] at hn; omega), Option.map_some]

/-- **An object comes back from its text.** -/
theorem read_print (ms : List (String × Scalar)) : read (print ms) = some ms := by
  unfold read print
  rw [String.toList_ofList]
  cases ms with
  | nil => rfl
  | cons m ms =>
    have hne : printMember m ++ printRest ms ≠ ['}'] := by
      intro h
      have : (printMember m ++ printRest ms).length = 1 := by rw [h]; rfl
      rw [List.length_append, printMember, List.length_append, List.length_cons] at this
      have := length_printRest ms
      omega
    rw [printChars, List.cons_append]
    unfold readChars
    split
    · next h => exact absurd (List.cons.inj h).2 hne
    · next h =>
      rw [← (List.cons.inj h).2]
      apply readMembers_print
      have := length_printRest ms
      rw [List.length_append]
      omega
    · next h => exact absurd rfl (h _)

end TinTin.Lib.FlatJson
