/-
  UTF-8 texts as byte strings, and lossy decoding.

  * `utf8 s`: the bytes of a text.
  * `fromUtf8? bs`: the text of `bs`, if it is one.
  * `fromUtf8Lossy bs`: the text of `bs`, with U+FFFD in place of each maximal part that
    begins a character and is not one.
  * `fromUtf8Lossy_utf8`: a text comes back from its bytes.
  * `takeWhile_utf8`: what is read of a text that a byte 0 ends.
-/
import Mathlib.Data.List.Basic

namespace TinTin.Lib

/-- The bytes of a text. -/
def utf8 (s : String) : List UInt8 := s.toList.flatMap String.utf8EncodeChar

/-- The character at the front of a byte string, if its bytes begin with one. -/
def decodeChar? (bs : List UInt8) : Option Char := bs.toByteArray.utf8DecodeChar? 0

/-- The byte continues a character. -/
def isCont (b : UInt8) : Bool := 0x80 ≤ b && b ≤ 0xBF

/-- The second byte may follow the lead byte of a three-byte character. -/
def fitsThree (b₁ b₂ : UInt8) : Bool :=
  if b₁ = 0xE0 then 0xA0 ≤ b₂ && b₂ ≤ 0xBF
  else if b₁ = 0xED then 0x80 ≤ b₂ && b₂ ≤ 0x9F
  else 0xE1 ≤ b₁ && b₁ ≤ 0xEF && isCont b₂

/-- The second byte may follow the lead byte of a four-byte character. -/
def fitsFour (b₁ b₂ : UInt8) : Bool :=
  if b₁ = 0xF0 then 0x90 ≤ b₂ && b₂ ≤ 0xBF
  else if b₁ = 0xF4 then 0x80 ≤ b₂ && b₂ ≤ 0x8F
  else 0xF1 ≤ b₁ && b₁ ≤ 0xF3 && isCont b₂

/-- The length of the part that one U+FFFD stands for, where no character begins: as far as
    the bytes begin one, and at least one byte. -/
def badLength : List UInt8 → ℕ
  | b₁ :: b₂ :: b₃ :: _ =>
    if fitsFour b₁ b₂ then (if isCont b₃ then 3 else 2)
    else if fitsThree b₁ b₂ then 2
    else 1
  | [b₁, b₂] => if fitsFour b₁ b₂ || fitsThree b₁ b₂ then 2 else 1
  | _ => 1

theorem badLength_pos (bs : List UInt8) : 0 < badLength bs := by
  unfold badLength
  split
  · split_ifs <;> decide
  · split_ifs <;> decide
  · decide

/-- The characters of a byte string, U+FFFD included. -/
def lossyChars (bs : List UInt8) : List Char :=
  if _h : bs = [] then []
  else
    match decodeChar? bs with
    | some c => c :: lossyChars (bs.drop c.utf8Size)
    | none => '\uFFFD' :: lossyChars (bs.drop (badLength bs))
termination_by bs.length
decreasing_by
  all_goals
    have := List.length_pos_iff.mpr _h
    rw [List.length_drop]
  · have := c.utf8Size_pos
    omega
  · have := badLength_pos bs
    omega

/-- `String::from_utf8_lossy` -/
def fromUtf8Lossy (bs : List UInt8) : String := String.ofList (lossyChars bs)

/-- The text of a byte string that is one in UTF-8. -/
def fromUtf8? (bs : List UInt8) : Option String := String.fromUTF8? bs.toByteArray

/-- The bytes of a character, whatever follows, decode to it. -/
theorem decodeChar?_append (c : Char) (bs : List UInt8) :
    decodeChar? (String.utf8EncodeChar c ++ bs) = some c := by
  unfold decodeChar?
  rw [List.toByteArray_append]
  exact ByteArray.utf8DecodeChar?_utf8EncodeChar_append

theorem lossyChars_flatMap (cs : List Char) :
    lossyChars (cs.flatMap String.utf8EncodeChar) = cs := by
  induction cs with
  | nil =>
    rw [lossyChars]
    rfl
  | cons c cs ih =>
    have hne : String.utf8EncodeChar c ++ cs.flatMap String.utf8EncodeChar ≠ [] :=
      List.append_ne_nil_of_left_ne_nil String.utf8EncodeChar_ne_nil _
    rw [List.flatMap_cons, lossyChars, dif_neg hne, decodeChar?_append]
    dsimp only
    rw [List.drop_left' (String.length_utf8EncodeChar c), ih]

/-- **A text comes back from its bytes.** -/
theorem fromUtf8Lossy_utf8 (s : String) : fromUtf8Lossy (utf8 s) = s := by
  unfold fromUtf8Lossy utf8
  rw [lossyChars_flatMap, String.ofList_toList]

theorem toByteArray_utf8 (s : String) : (utf8 s).toByteArray = s.toByteArray := by
  rw [← String.utf8Encode_toList]
  rfl

theorem fromUtf8?_utf8 (s : String) : fromUtf8? (utf8 s) = some s := by
  unfold fromUtf8?
  rw [toByteArray_utf8, String.fromUTF8?, dif_pos s.isValidUTF8]
  rfl

theorem ne_zero_of_mem_utf8EncodeChar {c : Char} (h : c ≠ '\x00') {b : UInt8}
    (hb : b ∈ String.utf8EncodeChar c) : b ≠ 0 := by
  have hval : c.val.toNat ≠ 0 := fun h₀ => h (Char.ext (UInt32.toNat_inj.mp h₀))
  have hbyte : ∀ n, 0 < n % 256 → UInt8.ofNat n ≠ 0 := by
    intro n hn h₀
    have := congrArg UInt8.toNat h₀
    rw [UInt8.toNat_ofNat', UInt8.toNat_zero] at this
    omega
  unfold String.utf8EncodeChar at hb
  dsimp only at hb
  split_ifs at hb
  all_goals
    simp only [List.mem_cons, List.not_mem_nil, or_false] at hb
    rcases hb with rfl | rfl | rfl | rfl
    all_goals exact hbyte _ (by omega)

/-- Up to the first byte 0 lie the bytes of the text up to the first NUL. -/
theorem takeWhile_utf8 (s : String) :
    (utf8 s).takeWhile (· != 0) = utf8 (String.ofList (s.toList.takeWhile (· != '\x00'))) := by
  unfold utf8
  rw [String.toList_ofList]
  induction s.toList with
  | nil => rfl
  | cons c cs ih =>
    by_cases hc : c = '\x00'
    · subst hc
      rfl
    · have hall : ∀ b ∈ String.utf8EncodeChar c, (b != 0) = true := fun b hb =>
        bne_iff_ne.mpr (ne_zero_of_mem_utf8EncodeChar hc hb)
      have hkeep : (c != '\x00') = true := bne_iff_ne.mpr hc
      rw [List.takeWhile_cons, if_pos hkeep, List.flatMap_cons, List.flatMap_cons,
        List.takeWhile_append_of_pos hall, ih]

end TinTin.Lib
