import ResourceSearch.Json.Printer
import ResourceSearch.Json.Reader

/-!
# Strings and numbers read back

A string is read back whatever it holds: what is escaped is spelled so that the reader undoes it.
A number is read back if it is whole and fits 64 bits; one with a fraction is rounded when it is
read, so it is left out here.

Each reader stops at the end of what it reads, so its lemma is stated for any text that follows.
Only a number could be prolonged by what stands behind it, hence `EndsNumber`.
-/

namespace ResourceSearch.Json

/-! ## Strings -/

theorem hexValue?_hexDigit {n : Nat} (h : n < 16) : hexValue? (hexDigit n) = some n := by
  have hall : ∀ n < 16, hexValue? (hexDigit n) = some n := by decide
  exact hall n h

theorem codeUnit?_hexDigit {n : Nat} (h : n < 0x20) :
    codeUnit? '0' '0' (hexDigit (n / 16)) (hexDigit (n % 16)) = some n := by
  have hzero : hexValue? '0' = some 0 := by decide
  rw [codeUnit?, hzero, hexValue?_hexDigit (by omega), hexValue?_hexDigit (by omega)]
  dsimp only
  rw [Option.some.injEq]
  omega

theorem readString_escapeChar (c : Char) (cs : List Char) :
    readString (escapeChar c ++ cs) = consContents c (readString cs) := by
  unfold escapeChar
  split
  case h_8 hquote hbackslash _ _ _ _ _ =>
    by_cases hcontrol : c.toNat < 0x20
    · -- A control character is no half of a surrogate pair.
      have hhigh : isHighSurrogate c.toNat = false := by
        rw [isHighSurrogate, Bool.and_eq_false_iff, decide_eq_false_iff_not]
        exact .inl (by omega)
      have hlow : isLowSurrogate c.toNat = false := by
        rw [isLowSurrogate, Bool.and_eq_false_iff, decide_eq_false_iff_not]
        exact .inl (by omega)
      rw [if_pos hcontrol]
      simp only [List.cons_append, List.nil_append]
      rw [readString, codeUnit?_hexDigit hcontrol]
      simp only [hhigh, hlow, Bool.false_eq_true, if_false, Char.ofNat_toNat]
    · rw [if_neg hcontrol, List.singleton_append, readString, if_neg hcontrol]
      · exact hquote
      · exact fun _ _ _ _ _ hc _ ↦ hbackslash hc
      · exact fun _ _ hc _ ↦ hbackslash hc
  all_goals rfl

/-- A string is read back up to its closing quote. -/
theorem readString_flatMap_escapeChar (text cs : List Char) :
    readString (text.flatMap escapeChar ++ '"' :: cs) = some (some text, cs) := by
  induction text with
  | nil => rfl
  | cons c text ih =>
    rw [List.flatMap_cons, List.append_assoc, readString_escapeChar, ih]
    rfl

/-! ## Numbers -/

/-- What may follow a number that is read up to its last digit. -/
def EndsNumber : List Char → Prop
  | [] => True
  | c :: _ => c.isDigit = false ∧ c ≠ '.' ∧ c ≠ 'e' ∧ c ≠ 'E'

theorem takeDigits_append {digits cs : List Char} (hdigits : ∀ c ∈ digits, c.isDigit = true)
    (hcs : EndsNumber cs) : takeDigits (digits ++ cs) = (digits, cs) := by
  have hcut : cs.takeWhile Char.isDigit = [] ∧ cs.dropWhile Char.isDigit = cs := by
    cases cs with
    | nil => exact ⟨rfl, rfl⟩
    | cons c cs =>
      rw [List.takeWhile_cons, List.dropWhile_cons, hcs.1]
      exact ⟨rfl, rfl⟩
  rw [takeDigits, List.takeWhile_append_of_pos hdigits, List.dropWhile_append_of_pos hdigits,
    hcut.1, hcut.2, List.append_nil]

theorem digits_toDigits {n : Nat} : ∀ c ∈ Nat.toDigits 10 n, c.isDigit = true :=
  fun _ hc ↦ Nat.isDigit_of_mem_toDigits (by decide) (by decide) hc

theorem head?_toDigits_ne_zero {n : Nat} (h : n ≠ 0) : (Nat.toDigits 10 n).head? ≠ some '0' := by
  induction n using Nat.strongRecOn with
  | ind n ih =>
    rw [Nat.toDigits_eq_if (by decide)]
    split
    · rw [List.head?_cons, ne_eq, Option.some.injEq, Nat.digitChar_eq_zero]
      exact h
    · have hfront := ih (n / 10) (by omega) (by omega)
      cases htens : Nat.toDigits 10 (n / 10) with
      | nil => exact absurd htens Nat.toDigits_ne_nil
      | cons c front =>
        rw [htens] at hfront
        exact hfront

theorem readWhole_toDigits (n : Nat) {cs : List Char} (hcs : EndsNumber cs) :
    readWhole (Nat.toDigits 10 n ++ cs) = some (Nat.toDigits 10 n, cs) := by
  rw [readWhole, takeDigits_append digits_toDigits hcs]
  by_cases hn : n = 0
  · rw [hn]
    rfl
  · have hhead := head?_toDigits_ne_zero hn
    split
    · rename_i heq
      exact absurd (Prod.mk.inj heq).1 Nat.toDigits_ne_nil
    · rename_i heq
      rw [(Prod.mk.inj heq).1] at hhead
      exact absurd rfl hhead
    · rename_i heq
      rw [(Prod.mk.inj heq).1, (Prod.mk.inj heq).2]

theorem readFraction_of_endsNumber {cs : List Char} (h : EndsNumber cs) :
    readFraction cs = some ([], cs) := by
  cases cs with
  | nil => rfl
  | cons c cs =>
    rw [readFraction]
    intro rest heq
    exact h.2.1 (List.cons.inj heq).1

theorem readExponent_of_endsNumber {cs : List Char} (h : EndsNumber cs) :
    readExponent cs = some (none, cs) := by
  cases cs with
  | nil => rfl
  | cons c cs =>
    rw [readExponent]
    · intro rest heq
      exact h.2.2.1 (List.cons.inj heq).1
    · intro rest heq
      exact h.2.2.2 (List.cons.inj heq).1

theorem readUnsigned_toDigits (negative : Bool) (n : Nat) {cs : List Char} (h : EndsNumber cs) :
    readUnsigned negative (Nat.toDigits 10 n ++ cs)
      = some (⟨negative, Nat.toDigits 10 n, [], none⟩, cs) := by
  rw [readUnsigned, readWhole_toDigits n h]
  simp only [readFraction_of_endsNumber h, readExponent_of_endsNumber h]

theorem le_ofDigitChars (digits : List Char) (n : Nat) : n ≤ Nat.ofDigitChars 10 digits n := by
  induction digits generalizing n with
  | nil => exact Nat.le_refl n
  | cons c digits ih =>
    rw [Nat.ofDigitChars_cons]
    exact Nat.le_trans (by omega) (ih _)

/-- Digits are collected to the number that they spell, if it fits. -/
theorem collect_eq_ofDigitChars {digits : List Char} {n : Nat}
    (h : Nat.ofDigitChars 10 digits n ≤ NumberLiteral.maxSignificand) :
    NumberLiteral.collect n digits = (Nat.ofDigitChars 10 digits n, []) := by
  induction digits generalizing n with
  | nil => rfl
  | cons c digits ih =>
    have hdigit : c.toNat - '0'.toNat = NumberLiteral.digitValue c := rfl
    rw [Nat.ofDigitChars_cons, Nat.mul_comm, hdigit] at h
    rw [NumberLiteral.collect, if_pos (Nat.le_trans (le_ofDigitChars digits _) h), ih h,
      Nat.ofDigitChars_cons, Nat.mul_comm 10, hdigit]

theorem collect_toDigits {n : Nat} (h : n ≤ NumberLiteral.maxSignificand) :
    NumberLiteral.collect 0 (Nat.toDigits 10 n) = (n, []) := by
  have hvalue : Nat.ofDigitChars 10 (Nat.toDigits 10 n) 0 = n := Nat.ofDigitChars_ten_toDigits
  rw [collect_eq_ofDigitChars (by rw [hvalue]; exact h), hvalue]

end ResourceSearch.Json

namespace ResourceSearch

/-- A whole number of 64 bits, signed or not. -/
def Number.IsWord : Number → Prop
  | .whole value => -0x8000000000000000 ≤ value ∧ value < 0x10000000000000000
  | .binary _ => False

namespace Json

theorem value?_toDigits {n : Nat} (h : n ≤ NumberLiteral.maxSignificand) :
    NumberLiteral.value? ⟨false, Nat.toDigits 10 n, [], none⟩ = some (.whole n) := by
  rw [NumberLiteral.value?, collect_toDigits h]
  rfl

theorem value?_neg_toDigits {n : Nat} (hpos : 0 < n) (h : n ≤ 0x8000000000000000) :
    NumberLiteral.value? ⟨true, Nat.toDigits 10 n, [], none⟩ = some (.whole (-n)) := by
  have hmax : NumberLiteral.maxSignificand = 0xFFFFFFFFFFFFFFFF := rfl
  have hhalf : UInt64.size / 2 = 0x8000000000000000 := rfl
  have hfits : (n = 0 || UInt64.size / 2 < n) = false := by
    rw [hhalf, Bool.or_eq_false_iff, decide_eq_false_iff_not, decide_eq_false_iff_not]
    omega
  rw [NumberLiteral.value?, collect_toDigits (by omega)]
  dsimp only
  rw [hfits]
  rfl

/-- A whole number of 64 bits is read back as it is. -/
theorem readNumber_toChars {number : Number} (h : number.IsWord) {cs : List Char}
    (hcs : EndsNumber cs) :
    ∃ literal, readNumber (number.toChars ++ cs) = some (literal, cs) ∧
      literal.value? = some number := by
  cases number with
  | binary value => cases h
  | whole value =>
    obtain ⟨hlow, hhigh⟩ := h
    rw [Number.toChars]
    by_cases hnegative : value < 0
    · rw [if_pos hnegative]
      refine ⟨_, readUnsigned_toDigits true value.natAbs hcs, ?_⟩
      rw [value?_neg_toDigits (by omega) (by omega)]
      exact congrArg (some ∘ Number.whole) (by omega)
    · have hmax : NumberLiteral.maxSignificand = 0xFFFFFFFFFFFFFFFF := rfl
      have hdigits := readUnsigned_toDigits false value.natAbs hcs
      rw [if_neg hnegative]
      refine ⟨⟨false, Nat.toDigits 10 value.natAbs, [], none⟩, ?_, ?_⟩
      · -- The first digit is no sign.
        cases hchars : Nat.toDigits 10 value.natAbs with
        | nil => exact absurd hchars Nat.toDigits_ne_nil
        | cons c digits =>
          rw [hchars] at hdigits
          rw [List.cons_append, readNumber]
          · exact hdigits
          · intro rest heq
            have hdigit := digits_toDigits c (hchars ▸ List.mem_cons_self)
            rw [(List.cons.inj heq).1] at hdigit
            cases hdigit
      · rw [value?_toDigits (by omega)]
        exact congrArg (some ∘ Number.whole) (by omega)

end Json

end ResourceSearch
