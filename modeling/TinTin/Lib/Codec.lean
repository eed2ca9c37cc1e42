/-
  Serialisers with a left inverse.

  * `Codec α β`: an encoder and a partial decoder that reads back what was encoded. The
    round trip is a field, so a codec that loses data cannot be built.
  * `Codec.comp`: codecs compose. `Codec.tagged`: a codec that not every string is code of.
  * `Codec.natBytes`, `Codec.ofEncodable`: every encodable type has a codec into byte
    strings (base-256 digits of its number).
-/
import Mathlib.Data.Nat.Digits.Defs
import Mathlib.Logic.Encodable.Basic
import Mathlib.Logic.Equiv.Basic

namespace TinTin.Lib

universe u v w

/-- An encoder with a partial decoder that reads back what was encoded. -/
structure Codec (α : Type u) (β : Type v) where
  encode : α → β
  decode : β → Option α
  decode_encode : ∀ a, decode (encode a) = some a

namespace Codec

attribute [simp] Codec.decode_encode

variable {α : Type u} {β : Type v} {γ : Type w}

/-- Encode in two stages. -/
def comp (C : Codec α β) (D : Codec β γ) : Codec α γ where
  encode a := D.encode (C.encode a)
  decode c := (D.decode c).bind C.decode
  decode_encode a := by simp

/-- A codec that marks what it encodes, and reads nothing else. -/
def tagged [DecidableEq β] (t : β) (C : Codec α (List β)) : Codec α (List β) where
  encode a := t :: C.encode a
  decode
    | [] => none
    | b :: bs => if b = t then C.decode bs else none
  decode_encode a := by simp

/-- A natural number as its base-256 digits, least significant first. -/
def natBytes : Codec ℕ (List UInt8) where
  encode n := (Nat.digits 256 n).map UInt8.ofNat
  decode bs := some (Nat.ofDigits 256 (bs.map UInt8.toNat))
  decode_encode n := by
    have hround : ((Nat.digits 256 n).map UInt8.ofNat).map UInt8.toNat = Nat.digits 256 n := by
      rw [List.map_map]
      conv_rhs => rw [← List.map_id (Nat.digits 256 n)]
      apply List.map_congr_left
      intro d hd
      have hlt : d < 256 := Nat.digits_lt_base (by norm_num) hd
      simp [Function.comp, Nat.mod_eq_of_lt hlt]
    rw [hround, Nat.ofDigits_digits]

/-- A codec into byte strings for any encodable type. -/
def ofEncodable (α : Type u) [Encodable α] : Codec α (List UInt8) where
  encode a := natBytes.encode (Encodable.encode a)
  decode bs := (natBytes.decode bs).bind Encodable.decode
  decode_encode a := by simp

end Codec

end TinTin.Lib
