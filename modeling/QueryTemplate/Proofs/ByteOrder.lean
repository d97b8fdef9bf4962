import Mathlib.Data.String.Basic
import Mathlib.Order.Monotone.Basic
import QueryTemplate.Text

/-! Strings are in the order of their bytes.

Characters compare as the bytes of their UTF-8 forms do, and no form is the start of another, so
that texts compare as their bytes do.
-/

set_option autoImplicit false

namespace QueryTemplate

def utf8Bytes (s : String) : List Nat := s.toUTF8.data.toList.map UInt8.toNat

namespace Text

def charBytes (c : Char) : List Nat := (String.utf8EncodeChar c).map UInt8.toNat

theorem charBytes_eq (c : Char) :
    charBytes c =
      let code := c.val.toNat
      if code ≤ 127 then [code]
      else if code ≤ 2047 then [code / 64 + 192, code % 64 + 128]
      else if code ≤ 65535 then [code / 4096 + 224, code / 64 % 64 + 128, code % 64 + 128]
      else [code / 262144 + 240, code / 4096 % 64 + 128, code / 64 % 64 + 128, code % 64 + 128] := by
  have bound : c.val.toNat < 0x110000 := by
    rcases c.valid with low | high
    · exact Nat.lt_trans low (by decide)
    · exact high.2
  simp only [charBytes, String.utf8EncodeChar]
  generalize c.val.toNat = code at *
  split_ifs <;> simp [UInt8.toNat_ofNat'] <;> omega

/-- Two numbers compare as their quotients do, and on equal quotients as their remainders. -/
theorem div_lt_or_mod_lt {first second : Nat} (less : first < second) (divisor : Nat) :
    first / divisor < second / divisor ∨
      first / divisor = second / divisor ∧ first % divisor < second % divisor := by
  have firstParts := Nat.div_add_mod first divisor
  have secondParts := Nat.div_add_mod second divisor
  rcases Nat.lt_or_eq_of_le (Nat.div_le_div_right (Nat.le_of_lt less)) with smaller | same
  · exact .inl smaller
  · rw [same] at firstParts
    exact .inr ⟨same, by omega⟩

/-- Texts whose first characters differ compare as the bytes of these, whatever follows. -/
theorem charBytes_append_lt {c d : Char} (less : c < d) (rest more : List Nat) :
    charBytes c ++ rest < charBytes d ++ more := by
  have codes : c.val.toNat < d.val.toNat := less
  simp only [charBytes_eq]
  generalize c.val.toNat = first at *
  generalize d.val.toNat = second at *
  have low := div_lt_or_mod_lt codes 64
  have middle := div_lt_or_mod_lt codes 4096
  have high := div_lt_or_mod_lt codes 262144
  -- A case for each pair of sizes.
  split_ifs <;> simp [List.cons_lt_cons_iff] <;> omega

theorem flatMap_charBytes_lt {first second : Text} (less : List.Lex (· < ·) first second) :
    first.flatMap charBytes < second.flatMap charBytes := by
  induction less with
  | @nil c rest =>
    have start := charBytes_eq c
    rw [List.flatMap_nil, List.flatMap_cons, start]
    dsimp only
    split_ifs <;> exact List.nil_lt_cons _ _
  | @cons c rest more _ ih =>
    rw [List.flatMap_cons, List.flatMap_cons]
    exact List.append_left_lt ih
  | @rel c rest d more smaller =>
    rw [List.flatMap_cons, List.flatMap_cons]
    exact charBytes_append_lt smaller _ _

end Text

theorem utf8Bytes_eq (s : String) : utf8Bytes s = s.toList.flatMap Text.charBytes := by
  have encoded : s.toUTF8 = s.toList.utf8Encode := by
    rw [← String.toByteArray_ofList, String.ofList_toList]
    rfl
  rw [utf8Bytes, encoded, List.utf8Encode, List.data_toByteArray, List.toList_toArray,
    List.map_flatMap]
  rfl

theorem strictMono_utf8Bytes : StrictMono utf8Bytes := by
  intro first second less
  rw [utf8Bytes_eq, utf8Bytes_eq]
  exact Text.flatMap_charBytes_lt (List.lex_lt.mpr (String.lt_iff_toList_lt.mp less))

end QueryTemplate
