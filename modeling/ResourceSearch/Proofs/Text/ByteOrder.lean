import Mathlib.Tactic.SplitIfs
import ResourceSearch.Dict

/-!
# The order of the bytes of texts

Texts are ordered by their characters, and this is the order of their bytes in UTF-8. A character of
fewer bytes starts with a smaller byte; characters of as many bytes spell their code points digit by
digit, so the first byte in which they differ decides (`encode_append_lt`). From there the order is
lexicographic on both sides.
-/

namespace ResourceSearch

/-- The bytes of a text in UTF-8. -/
def utf8Bytes (text : String) : List UInt8 :=
  text.toByteArray.data.toList

theorem utf8Bytes_eq_flatMap (text : String) :
    utf8Bytes text = text.toList.flatMap String.utf8EncodeChar := by
  rw [utf8Bytes, ← String.utf8Encode_toList, List.utf8Encode, List.data_toByteArray]

/-! ## One character -/

theorem ofNat_cons_lt_ofNat_cons_iff {m n : Nat} (hm : m < 256) (hn : n < 256)
    {bytes bytes' : List UInt8} :
    UInt8.ofNat m :: bytes < UInt8.ofNat n :: bytes' ↔ m < n ∨ m = n ∧ bytes < bytes' := by
  rw [List.cons_lt_cons_iff, UInt8.lt_iff_toNat_lt, ← UInt8.toNat_inj, UInt8.toNat_ofNat',
    UInt8.toNat_ofNat', Nat.mod_eq_of_lt hm, Nat.mod_eq_of_lt hn]

/-- Numbers are compared by their digits to the base 64, of which there are four. -/
theorem digits_lt_of_lt {m n : Nat} (h : m < n) :
    m / 262144 < n / 262144 ∨ m / 262144 = n / 262144 ∧
      (m / 4096 % 64 < n / 4096 % 64 ∨ m / 4096 % 64 = n / 4096 % 64 ∧
        (m / 64 % 64 < n / 64 % 64 ∨ m / 64 % 64 = n / 64 % 64 ∧ m % 64 < n % 64)) := by
  omega

theorem toNat_val_lt (c : Char) : c.val.toNat < 0x110000 := by
  rcases c.valid with h | h
  · exact Nat.lt_trans h (by decide)
  · exact h.2

theorem encode_append_lt {c c' : Char} (h : c < c') (bytes bytes' : List UInt8) :
    String.utf8EncodeChar c ++ bytes < String.utf8EncodeChar c' ++ bytes' := by
  have hlt : c.val.toNat < c'.val.toNat := h
  have hmax := toNat_val_lt c'
  simp only [String.utf8EncodeChar]
  generalize c.val.toNat = m at hlt
  generalize c'.val.toNat = n at hlt hmax
  have hdigits := digits_lt_of_lt hlt
  -- the first of four bytes has room for the whole digit
  have hm : m / 262144 % 8 = m / 262144 := Nat.mod_eq_of_lt (by omega)
  have hn : n / 262144 % 8 = n / 262144 := Nat.mod_eq_of_lt (by omega)
  split_ifs <;> simp only [List.cons_append, List.nil_append] <;>
    (repeat rw [ofNat_cons_lt_ofNat_cons_iff (by omega) (by omega)]) <;> omega

/-! ## Texts -/

theorem flatMap_encode_lt {cs cs' : List Char} (h : cs < cs') :
    cs.flatMap String.utf8EncodeChar < cs'.flatMap String.utf8EncodeChar := by
  induction cs generalizing cs' with
  | nil =>
    cases cs' with
    | nil => cases h
    | cons c' cs' =>
      rw [List.flatMap_nil, List.flatMap_cons]
      cases hencoded : String.utf8EncodeChar c' with
      | nil => exact absurd hencoded String.utf8EncodeChar_ne_nil
      | cons byte bytes => exact List.nil_lt_cons byte _
  | cons c cs ih =>
    cases cs' with
    | nil => cases h
    | cons c' cs' =>
      rw [List.flatMap_cons, List.flatMap_cons]
      obtain hlt | ⟨rfl, hlt⟩ := List.cons_lt_cons_iff.mp h
      · exact encode_append_lt hlt _ _
      · exact List.append_left_lt (ih hlt)

theorem utf8Bytes_lt_of_lt {text text' : String} (h : text < text') :
    utf8Bytes text < utf8Bytes text' := by
  rw [utf8Bytes_eq_flatMap, utf8Bytes_eq_flatMap]
  exact flatMap_encode_lt (String.lt_iff.mp h)

/-- **Byte order.** Texts are in the order of their bytes. -/
theorem utf8Bytes_lt_iff {text text' : String} :
    utf8Bytes text < utf8Bytes text' ↔ text < text' := by
  refine ⟨fun h ↦ Decidable.byContradiction fun hnot ↦ ?_, utf8Bytes_lt_of_lt⟩
  by_cases heq : text = text'
  · exact List.lt_irrefl _ (heq ▸ h)
  · obtain hlt | hlt := KeyOrder.lt_or_lt_of_ne heq
    · exact hnot hlt
    · exact List.lt_irrefl _ (List.lt_trans h (utf8Bytes_lt_of_lt hlt))

end ResourceSearch
