/-
  Little-endian numbers of a fixed width, and fields of a byte sequence.

  * `readLe_leBytes`: a number is read back modulo the range of its width.
  * `field_append`: a field of a concatenation, by the lengths before it.
-/
import Mathlib.Data.Nat.Notation
import Mathlib.Algebra.Order.Ring.Nat

namespace TinTin.Lib

/-! ## Numbers -/

/-- The low `width` bytes of a number, the lowest first. -/
def leBytes : ℕ → ℕ → List UInt8
  | 0, _ => []
  | width + 1, n => UInt8.ofNat n :: leBytes width (n / 256)

/-- The number of a byte sequence, the lowest byte first. -/
def readLe : List UInt8 → ℕ
  | [] => 0
  | b :: bs => b.toNat + 256 * readLe bs

theorem length_leBytes (width n : ℕ) : (leBytes width n).length = width := by
  induction width generalizing n with
  | zero => rfl
  | succ width ih => rw [leBytes, List.length_cons, ih]

theorem readLe_leBytes (width n : ℕ) : readLe (leBytes width n) = n % 256 ^ width := by
  induction width generalizing n with
  | zero => rw [leBytes, readLe, Nat.pow_zero, Nat.mod_one]
  | succ width ih =>
    have hlow : (UInt8.ofNat n).toNat = n % 256 := UInt8.toNat_ofNat'
    rw [leBytes, readLe, ih, hlow, Nat.pow_succ', Nat.mod_mul]

theorem readLe_leBytes_of_lt {width n : ℕ} (h : n < 256 ^ width) :
    readLe (leBytes width n) = n := by
  rw [readLe_leBytes, Nat.mod_eq_of_lt h]

/-! ## Fields -/

variable {α : Type}

/-- The `n` elements from place `i` on. -/
def field (i n : ℕ) (l : List α) : List α := (l.drop i).take n

/-- **A field of a concatenation**: the block that follows so many elements. -/
theorem field_flatten (blocks : List (List α)) (rest : List α) (k : ℕ) (hk : k < blocks.length) :
    field (blocks.take k).flatten.length blocks[k].length (blocks.flatten ++ rest) = blocks[k] := by
  have hsplit : blocks.flatten =
      (blocks.take k).flatten ++ (blocks[k] ++ (blocks.drop (k + 1)).flatten) := by
    rw [← List.flatten_cons, ← List.drop_eq_getElem_cons hk, ← List.flatten_append,
      List.take_append_drop]
  unfold field
  rw [hsplit, List.append_assoc, List.drop_left, List.append_assoc, List.take_left]

end TinTin.Lib
