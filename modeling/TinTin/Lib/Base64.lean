/-
  Bytes as texts: Base64 with the standard alphabet and padding, and lowercase hexadecimal.

  * `Base64.decodeChars_encodeChars`, `Hex.decodeChars_encodeChars`: bytes come back from
    their digits (`Base64.codec`, `Hex.codec`).
-/
import TinTin.Lib.Codec

namespace TinTin.Lib

/-! ## Base64 -/

namespace Base64

/-- The digits `A-Z`, `a-z`, `0-9`, `+`, `/`. -/
def digits : List Char :=
  "ABCDEFGHIJKLMNOPQRSTUVWXYZabcdefghijklmnopqrstuvwxyz0123456789+/".toList

def digit (n : ℕ) : Char := digits.getD n '='

/-- The value of a digit; none for the padding. -/
def value (c : Char) : Option ℕ := digits.idxOf? c

theorem value_digit : ∀ n < 64, value (digit n) = some n := by decide

theorem value_pad : value '=' = none := by decide

/-- Four digits for three bytes. -/
def encodeChars : List UInt8 → List Char
  | a :: b :: c :: rest =>
    digit (a.toNat / 4) :: digit (a.toNat % 4 * 16 + b.toNat / 16) ::
      digit (b.toNat % 16 * 4 + c.toNat / 64) :: digit (c.toNat % 64) :: encodeChars rest
  | [a, b] =>
    [digit (a.toNat / 4), digit (a.toNat % 4 * 16 + b.toNat / 16), digit (b.toNat % 16 * 4), '=']
  | [a] => [digit (a.toNat / 4), digit (a.toNat % 4 * 16), '=', '=']
  | [] => []

def byte₁ (w x : ℕ) : UInt8 := UInt8.ofNat (w * 4 + x / 16)
def byte₂ (x y : ℕ) : UInt8 := UInt8.ofNat (x % 16 * 16 + y / 4)
def byte₃ (y z : ℕ) : UInt8 := UInt8.ofNat (y % 4 * 64 + z)

def decodeChars : List Char → Option (List UInt8)
  | w :: x :: y :: z :: rest =>
    match value w, value x, value y, value z with
    | some w, some x, some y, some z =>
      (decodeChars rest).map ([byte₁ w x, byte₂ x y, byte₃ y z] ++ ·)
    | some w, some x, some y, none =>
      if z = '=' ∧ rest = [] ∧ y % 4 = 0 then some [byte₁ w x, byte₂ x y] else none
    | some w, some x, none, none =>
      if y = '=' ∧ z = '=' ∧ rest = [] ∧ x % 16 = 0 then some [byte₁ w x] else none
    | _, _, _, _ => none
  | [] => some []
  | _ => none

theorem byte₁_eq (a : UInt8) {n : ℕ} (hn : n < 16) :
    byte₁ (a.toNat / 4) (a.toNat % 4 * 16 + n) = a := by
  unfold byte₁
  rw [show a.toNat / 4 * 4 + (a.toNat % 4 * 16 + n) / 16 = a.toNat by omega, UInt8.ofNat_toNat]

theorem byte₂_eq (a b : UInt8) {n : ℕ} (hn : n < 4) :
    byte₂ (a.toNat % 4 * 16 + b.toNat / 16) (b.toNat % 16 * 4 + n) = b := by
  have := b.toNat_lt
  unfold byte₂
  rw [show (a.toNat % 4 * 16 + b.toNat / 16) % 16 * 16 + (b.toNat % 16 * 4 + n) / 4 = b.toNat by
    omega, UInt8.ofNat_toNat]

theorem byte₃_eq (b c : UInt8) :
    byte₃ (b.toNat % 16 * 4 + c.toNat / 64) (c.toNat % 64) = c := by
  have := c.toNat_lt
  unfold byte₃
  rw [show (b.toNat % 16 * 4 + c.toNat / 64) % 4 * 64 + c.toNat % 64 = c.toNat by omega,
    UInt8.ofNat_toNat]

theorem decodeChars_encodeChars (bs : List UInt8) : decodeChars (encodeChars bs) = some bs := by
  induction bs using encodeChars.induct with
  | case1 a b c rest ih =>
    have := a.toNat_lt
    have := b.toNat_lt
    have := c.toNat_lt
    rw [encodeChars, decodeChars, value_digit _ (by omega), value_digit _ (by omega),
      value_digit _ (by omega), value_digit _ (by omega)]
    dsimp only
    rw [ih, byte₁_eq a (by omega), byte₂_eq a b (by omega), byte₃_eq]
    rfl
  | case2 a b =>
    have := a.toNat_lt
    have := b.toNat_lt
    rw [encodeChars, decodeChars, value_digit _ (by omega), value_digit _ (by omega),
      value_digit _ (by omega), value_pad]
    dsimp only
    have hy := byte₂_eq a b (show 0 < 4 by omega)
    rw [Nat.add_zero] at hy
    rw [if_pos ⟨rfl, rfl, by omega⟩, byte₁_eq a (by omega), hy]
  | case3 a =>
    have := a.toNat_lt
    rw [encodeChars, decodeChars, value_digit _ (by omega), value_digit _ (by omega), value_pad]
    dsimp only
    have hx := byte₁_eq a (show 0 < 16 by omega)
    rw [Nat.add_zero] at hx
    rw [if_pos ⟨rfl, rfl, rfl, by omega⟩, hx]
  | case4 => rfl

/-- Bytes as a text in Base64. -/
def codec : Codec (List UInt8) String where
  encode bs := String.ofList (encodeChars bs)
  decode text := decodeChars text.toList
  decode_encode bs := by rw [String.toList_ofList, decodeChars_encodeChars]

end Base64

/-! ## Hexadecimal -/

namespace Hex

/-- The value of a lowercase digit. -/
def value (c : Char) : Option ℕ := "0123456789abcdef".toList.idxOf? c

theorem value_digitChar : ∀ n < 16, value (Nat.digitChar n) = some n := by decide

/-- Two digits for a byte. -/
def encodeChars (bs : List UInt8) : List Char :=
  bs.flatMap fun b => [Nat.digitChar (b.toNat / 16), Nat.digitChar (b.toNat % 16)]

def decodeChars : List Char → Option (List UInt8)
  | x :: y :: rest =>
    match value x, value y with
    | some x, some y => (decodeChars rest).map (UInt8.ofNat (x * 16 + y) :: ·)
    | _, _ => none
  | [] => some []
  | _ => none

theorem decodeChars_encodeChars (bs : List UInt8) : decodeChars (encodeChars bs) = some bs := by
  induction bs with
  | nil => rfl
  | cons b bs ih =>
    have := b.toNat_lt
    have hb : UInt8.ofNat (b.toNat / 16 * 16 + b.toNat % 16) = b := by
      rw [show b.toNat / 16 * 16 + b.toNat % 16 = b.toNat by omega, UInt8.ofNat_toNat]
    unfold encodeChars at ih ⊢
    rw [List.flatMap_cons, List.cons_append, List.cons_append, List.nil_append, decodeChars,
      value_digitChar _ (by omega), value_digitChar _ (by omega)]
    dsimp only
    rw [ih, hb, Option.map_some]

/-- Bytes as a text of two digits each. -/
def codec : Codec (List UInt8) String where
  encode bs := String.ofList (encodeChars bs)
  decode text := decodeChars text.toList
  decode_encode bs := by rw [String.toList_ofList, decodeChars_encodeChars]

end Hex

end TinTin.Lib
