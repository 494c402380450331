import ResourceSearch.Proofs.Query.References

/-!
# Spelled text

Every character but the ampersand may be written as it is, and every one but zero by a reference to
its code point, with the digits of either base in any letter case and zeros in front; five have a
name besides. A text therefore has no end of spellings. Sanitizing does not see which of them was
chosen, so a quote is dropped however it is spelled.

## One pass, and no second one

A reference begins at an ampersand and ends at the first semicolon, and a spelling has no other
ampersands than those of its references. So the spelling of a character is decoded apart from
whatever follows it (`decodeAll_append_of_spells`), and what it stands for is not looked at again:
a spelled ampersand begins no reference.
-/

namespace ResourceSearch.Query

namespace CharacterReference

/-! ## Spellings -/

/-- Some digits spell a number in a base: after zeros in front, they are the digits of the number,
in any letter case. -/
def IsNumeral (base n : ℕ) (digits : List Char) : Prop :=
  ∃ zeros, digits.map Char.toLower = List.replicate zeros '0' ++ Nat.toDigits base n

/-- The ways to write a character. -/
inductive Spells (c : Char) : List Char → Prop
  | itself (h : c ≠ '&') : Spells c [c]
  | name {name : List Char} (h : (name, c) ∈ names) : Spells c ('&' :: (name ++ [';']))
  | decimal {digits : List Char} (hzero : c ≠ '\x00') (h : IsNumeral 10 c.toNat digits) :
      Spells c ('&' :: '#' :: (digits ++ [';']))
  | hexadecimal {digits : List Char} (hzero : c ≠ '\x00') (h : IsNumeral 16 c.toNat digits) :
      Spells c ('&' :: '#' :: 'x' :: (digits ++ [';']))

/-- A text written character by character, each in one of its ways. -/
inductive IsSpelling : List Char → List Char → Prop
  | nil : IsSpelling [] []
  | cons {c : Char} {text written spelled : List Char} (hc : Spells c written)
      (h : IsSpelling text spelled) : IsSpelling (c :: text) (written ++ spelled)

theorem IsSpelling.append {text spelled text' spelled' : List Char} (h : IsSpelling text spelled)
    (h' : IsSpelling text' spelled') : IsSpelling (text ++ text') (spelled ++ spelled') := by
  induction h with
  | nil => exact h'
  | cons hc _ ih =>
    rw [List.append_assoc]
    exact .cons hc ih

/-! ## Numerals -/

theorem toNat_toLower (c : Char) :
    c.toLower.toNat = if 65 ≤ c.toNat ∧ c.toNat ≤ 90 then c.toNat + 32 else c.toNat := by
  have hupper : (c.val ≥ 'A'.val ∧ c.val ≤ 'Z'.val) ↔ 65 ≤ c.toNat ∧ c.toNat ≤ 90 := by
    rw [ge_iff_le, UInt32.le_iff_toNat_le, UInt32.le_iff_toNat_le]
    rfl
  unfold Char.toLower
  split
  · rename_i h
    have hbound : c.val.toNat ≤ 90 := (hupper.mp h).2
    rw [if_pos (hupper.mp h)]
    change (c.val + 32).toNat = c.val.toNat + 32
    rw [UInt32.toNat_add]
    exact Nat.mod_eq_of_lt (by change c.val.toNat + 32 < _; omega)
  · rename_i h
    rw [if_neg (mt hupper.mpr h)]

section

variable {base : ℕ}

theorem digit?_toLower (c : Char) : digit? base c.toLower = digit? base c := by
  have hcase := toNat_toLower c
  simp only [digit?, Bool.and_eq_true, decide_eq_true_eq, Char.isDigit_iff_toNat, Char.le_def,
    UInt32.le_iff_toNat_le, Char.toNat_val, Char.reduceToNat]
  split at hcase
  · grind
  · rw [hcase]

theorem digit?_digitChar (hbase : base ≤ 16) {d : ℕ} (hd : d < base) :
    digit? base d.digitChar = some d := by
  have hvalue : ∀ d < 16, digit? 16 d.digitChar = some d := by decide
  have hd' := hvalue d (by omega)
  simp only [digit?] at hd' ⊢
  grind

theorem isAscii_of_digit? {c : Char} {d : ℕ} (h : digit? base c = some d) :
    decodePiece.isAscii c = true := by
  simp only [digit?, Bool.and_eq_true, decide_eq_true_eq, Char.isDigit_iff_toNat, Char.le_def,
    UInt32.le_iff_toNat_le, Char.toNat_val, Char.reduceToNat] at h
  rw [decodePiece.isAscii, Text.isAsciiAlphanumeric_iff]
  grind

theorem digitsFrom?_append (value : ℕ) (ds es : List Char) :
    digitsFrom? base value (ds ++ es)
      = (digitsFrom? base value ds).bind fun v ↦ digitsFrom? base v es := by
  induction ds generalizing value with
  | nil => rfl
  | cons d ds ih =>
    rw [List.cons_append, digitsFrom?, digitsFrom?]
    cases digit? base d with
    | none => rfl
    | some n => exact ih _

theorem digitsFrom?_map_toLower (value : ℕ) (ds : List Char) :
    digitsFrom? base value (ds.map Char.toLower) = digitsFrom? base value ds := by
  induction ds generalizing value with
  | nil => rfl
  | cons d ds ih =>
    rw [List.map_cons, digitsFrom?, digitsFrom?, digit?_toLower]
    cases digit? base d with
    | none => rfl
    | some n => exact ih _

theorem digitsFrom?_replicate_zero (hone : 1 < base) (hbase : base ≤ 16) (zeros : ℕ) :
    digitsFrom? base 0 (List.replicate zeros '0') = some 0 := by
  have hzero : digit? base '0' = some 0 := digit?_digitChar hbase (d := 0) (by omega)
  induction zeros with
  | zero => rfl
  | succ zeros ih =>
    rw [List.replicate_succ, digitsFrom?, hzero]
    dsimp only
    rw [Nat.zero_mul]
    exact ih

theorem digitsFrom?_toDigits (hone : 1 < base) (hbase : base ≤ 16) (n : ℕ) :
    digitsFrom? base 0 (Nat.toDigits base n) = some n := by
  induction n using Nat.strongRecOn with
  | ind n ih =>
    rw [Nat.toDigits_eq_if hone]
    split
    · rename_i hn
      rw [digitsFrom?, digit?_digitChar hbase hn]
      simp [digitsFrom?]
    · rename_i hn
      have hlt : n / base < n := Nat.div_lt_self (by omega) hone
      rw [digitsFrom?_append, ih _ hlt, Option.bind_some, digitsFrom?,
        digit?_digitChar hbase (Nat.mod_lt n (by omega))]
      dsimp only
      rw [digitsFrom?, Nat.div_add_mod']

theorem IsNumeral.ne_nil {n : ℕ} {digits : List Char} (h : IsNumeral base n digits) :
    digits ≠ [] := by
  rintro rfl
  obtain ⟨zeros, hdigits⟩ := h
  exact Nat.toDigits_ne_nil (List.append_eq_nil_iff.mp hdigits.symm).2

theorem IsNumeral.digitsFrom? (hone : 1 < base) (hbase : base ≤ 16) {n : ℕ} {digits : List Char}
    (h : IsNumeral base n digits) : digitsFrom? base 0 digits = some n := by
  obtain ⟨zeros, hdigits⟩ := h
  calc CharacterReference.digitsFrom? base 0 digits
      = CharacterReference.digitsFrom? base 0 (digits.map Char.toLower) :=
        (digitsFrom?_map_toLower 0 digits).symm
    _ = CharacterReference.digitsFrom? base 0
          (List.replicate zeros '0' ++ Nat.toDigits base n) := by rw [hdigits]
    _ = some n := by
      rw [digitsFrom?_append, digitsFrom?_replicate_zero hone hbase, Option.bind_some,
        digitsFrom?_toDigits hone hbase]

theorem IsNumeral.numeral? (hone : 1 < base) (hbase : base ≤ 16) {n : ℕ} {digits : List Char}
    (h : IsNumeral base n digits) : numeral? base digits = some n := by
  obtain ⟨d, ds, hds⟩ := List.exists_cons_of_ne_nil h.ne_nil
  rw [← h.digitsFrom? hone hbase, hds]
  rfl

theorem digit?_of_mem {digits : List Char} {value n : ℕ}
    (h : digitsFrom? base value digits = some n) {c : Char} (hc : c ∈ digits) :
    ∃ d, digit? base c = some d := by
  induction digits generalizing value with
  | nil => simp at hc
  | cons a digits ih =>
    rw [digitsFrom?] at h
    cases ha : digit? base a with
    | none => simp [ha] at h
    | some d =>
      rw [ha] at h
      rcases List.mem_cons.mp hc with rfl | hc
      · exact ⟨d, ha⟩
      · exact ih h hc

theorem IsNumeral.isAscii (hone : 1 < base) (hbase : base ≤ 16) {n : ℕ} {digits : List Char}
    (h : IsNumeral base n digits) : ∀ c ∈ digits, decodePiece.isAscii c = true := by
  intro c hc
  obtain ⟨d, hd⟩ := digit?_of_mem (h.digitsFrom? hone hbase) hc
  exact isAscii_of_digit? hd

end

/-! ## One reference -/

theorem ofCodePoint?_toNat {c : Char} (h : c ≠ '\x00') : ofCodePoint? c.toNat = some c := by
  have hzero : c.toNat ≠ 0 := fun hc ↦ h (Char.toNat_inj.mp hc)
  rw [ofCodePoint?, if_pos ⟨hzero, c.valid⟩, Char.ofNat_toNat]

theorem decode?_of_mem_names {name : List Char} {c : Char} (h : (name, c) ∈ names) :
    decode? false name = some c := by
  have hall : ∀ entry ∈ names, decode? false entry.1 = some entry.2 := by decide
  exact hall _ h

theorem decode?_decimal {c : Char} {digits : List Char} (hzero : c ≠ '\x00')
    (h : IsNumeral 10 c.toNat digits) : decode? true digits = some c := by
  -- a decimal numeral does not begin with the mark of the other base
  have hmark : ∀ rest, digits ≠ 'x' :: rest := by
    rintro rest rfl
    obtain ⟨d, hd⟩ := digit?_of_mem (h.digitsFrom? (by decide) (by decide)) List.mem_cons_self
    simp [digit?] at hd
  rw [decode?, if_pos rfl, h.numeral? (by decide) (by decide), Option.bind_some,
    ofCodePoint?_toNat hzero]
  exact hmark

theorem decode?_hexadecimal {c : Char} {digits : List Char} (hzero : c ≠ '\x00')
    (h : IsNumeral 16 c.toNat digits) : decode? true ('x' :: digits) = some c := by
  have hvalue : decode? true ('x' :: digits) = (numeral? 16 digits).bind ofCodePoint? := rfl
  rw [hvalue, h.numeral? (by decide) (by decide), Option.bind_some, ofCodePoint?_toNat hzero]

/-- A reference is decoded whatever follows its semicolon. -/
theorem decodeBody_append_semicolon {numeric : Bool} {body : List Char} {c : Char}
    (hbody : ∀ d ∈ body, decodePiece.isAscii d = true) (h : decode? numeric body = some c)
    (rest piece : List Char) : decodeBody numeric (body ++ ';' :: rest) piece = c :: rest := by
  have hend : decodePiece.isAscii ';' = false := by decide
  have htake : (body ++ ';' :: rest).takeWhile decodePiece.isAscii = body := by
    rw [List.takeWhile_append_of_pos hbody]
    simp [hend]
  have hdrop : (body ++ ';' :: rest).dropWhile decodePiece.isAscii = ';' :: rest := by
    rw [List.dropWhile_append_of_pos hbody]
    simp [hend]
  rw [decodeBody, htake, hdrop]
  cases body with
  | nil =>
    -- nothing between the marks denotes nothing
    have hnone : ∀ numeric, decode? numeric [] = none := by decide
    rw [hnone] at h
    cases h
  | cons d body =>
    rw [h]
    rfl

/-! ## A text -/

/-- What stands between an ampersand and the next one is a piece of its own. -/
theorem decodeAll_reference {piece rest : List Char} {c : Char} (hpiece : '&' ∉ piece)
    (h : ∀ after, decodePiece (piece ++ after) = c :: after) :
    decodeAll ('&' :: (piece ++ rest)) = c :: decodeAll rest := by
  obtain ⟨first, pieces, hrest⟩ := exists_splitOn_eq rest
  have hpieces : decodeAll ('&' :: (piece ++ rest))
      = ((piece ++ rest).splitOn '&').flatMap decodePiece :=
    decodeAll_append_ampersand [] (piece ++ rest)
  rw [hpieces, splitOn_append_of_not_mem hpiece hrest, List.flatMap_cons, h,
    decodeAll_of_splitOn hrest]
  rfl

/-- **A spelled character is decoded apart from what follows it.** -/
theorem decodeAll_append_of_spells {c : Char} {written : List Char} (h : Spells c written)
    (rest : List Char) : decodeAll (written ++ rest) = c :: decodeAll rest := by
  have hampersand : decodePiece.isAscii '&' = false := by decide
  have hascii : ∀ {cs : List Char}, (∀ d ∈ cs, decodePiece.isAscii d = true) → '&' ∉ cs := by
    intro cs hcs hmem
    rw [hcs _ hmem] at hampersand
    simp at hampersand
  cases h with
  | itself hc => exact decodeAll_append_of_not_mem (by simpa using hc.symm) rest
  | @name name hname =>
    have hletters : ∀ entry ∈ names, entry.1.all decodePiece.isAscii = true := by decide
    have hname' := List.all_eq_true.mp (hletters _ hname)
    rw [List.cons_append]
    refine decodeAll_reference (by simp [hascii hname']) fun after ↦ ?_
    have hsign : ∀ cs, name ++ ';' :: after ≠ '#' :: cs := by
      intro cs hcs
      cases name with
      | nil => simp at hcs
      | cons d name =>
        have hd := hname' d List.mem_cons_self
        rw [(List.cons.inj hcs).1] at hd
        exact absurd hd (by decide)
    rw [List.append_assoc, List.singleton_append, decodePiece_of_ne hsign,
      decodeBody_append_semicolon hname' (decode?_of_mem_names hname)]
  | @decimal digits hzero hdigits =>
    have hdigits' := hdigits.isAscii (by decide) (by decide)
    rw [List.cons_append]
    refine decodeAll_reference (by simp [hascii hdigits']) fun after ↦ ?_
    rw [List.cons_append, decodePiece_numberSign, List.append_assoc, List.singleton_append,
      decodeBody_append_semicolon hdigits' (decode?_decimal hzero hdigits)]
  | @hexadecimal digits hzero hdigits =>
    have hdigits' : ∀ d ∈ 'x' :: digits, decodePiece.isAscii d = true :=
      List.forall_mem_cons.mpr ⟨by decide, hdigits.isAscii (by decide) (by decide)⟩
    rw [List.cons_append]
    refine decodeAll_reference (by simpa using hascii hdigits') fun after ↦ ?_
    have hafter : '#' :: 'x' :: (digits ++ [';']) ++ after
        = '#' :: ('x' :: digits ++ ';' :: after) := by simp
    rw [hafter, decodePiece_numberSign,
      decodeBody_append_semicolon hdigits' (decode?_hexadecimal hzero hdigits)]

theorem decodeAll_of_isSpelling {text spelled : List Char} (h : IsSpelling text spelled) :
    decodeAll spelled = text := by
  induction h with
  | nil => rfl
  | cons hc _ ih => rw [decodeAll_append_of_spells hc, ih]

end CharacterReference

open CharacterReference (IsSpelling Spells)

/-! ## Sanitizing -/

/-- A text without its double and single quotes. -/
def withoutQuotes (cs : List Char) : List Char :=
  cs.filter fun c ↦ c ≠ '"' ∧ c ≠ '\''

/-- A text with every backslash written twice. -/
def doubleBackslashes (cs : List Char) : List Char :=
  cs.flatMap fun c ↦ if c = '\\' then ['\\', '\\'] else [c]

theorem withoutQuotes_append (cs ds : List Char) :
    withoutQuotes (cs ++ ds) = withoutQuotes cs ++ withoutQuotes ds :=
  List.filter_append cs ds

theorem withoutQuotes_cons_of_quote {c : Char} (h : c = '"' ∨ c = '\'') (cs : List Char) :
    withoutQuotes (c :: cs) = withoutQuotes cs :=
  List.filter_cons_of_neg (by rcases h with rfl | rfl <;> decide)

theorem withoutQuotes_cons {c : Char} (h : ¬ (c = '"' ∨ c = '\'')) (cs : List Char) :
    withoutQuotes (c :: cs) = c :: withoutQuotes cs :=
  List.filter_cons_of_pos (by simpa [not_or] using h)

theorem flatMap_cleanChar (cs : List Char) :
    cs.flatMap cleanChar = doubleBackslashes (withoutQuotes cs) := by
  induction cs with
  | nil => rfl
  | cons c cs ih =>
    rw [List.flatMap_cons, ih, cleanChar]
    by_cases hquote : c = '"' ∨ c = '\''
    · rw [if_pos (by simpa using hquote), withoutQuotes_cons_of_quote hquote]
      rfl
    · rw [if_neg (by simpa using hquote), withoutQuotes_cons hquote]
      rfl

theorem not_mem_withoutQuotes {c : Char} (h : c = '"' ∨ c = '\'') (cs : List Char) :
    c ∉ withoutQuotes cs := by
  intro hc
  have hne := List.of_mem_filter hc
  simp only [decide_eq_true_eq] at hne
  exact h.elim hne.1 hne.2

theorem not_mem_doubleBackslashes {c : Char} {cs : List Char} (h : c ∉ cs) :
    c ∉ doubleBackslashes cs := by
  intro hc
  obtain ⟨d, hd, hcd⟩ := List.mem_flatMap.mp hc
  have hsame : c = d := by
    split at hcd <;> simp_all
  exact h (hsame ▸ hd)

theorem sanitizeChars_of_isSpelling {text spelled : List Char} (h : IsSpelling text spelled) :
    sanitizeChars spelled = doubleBackslashes (withoutQuotes text) := by
  rw [sanitizeChars, CharacterReference.decodeAll_of_isSpelling h, flatMap_cleanChar]

/-- **Sanitizing does not see how a text is spelled.** Any spelling of a text is sanitized to the
text without its quotes and with its backslashes doubled, and parsed to the same blocks as any other
one. No quote is left, and a quote in any spelling might as well have been left out. -/
theorem sanitize_spelling {text spelled : String} (h : IsSpelling text.toList spelled.toList) :
    (sanitize spelled).toList = doubleBackslashes (withoutQuotes text.toList) ∧
    (∀ other : String, IsSpelling text.toList other.toList →
      sanitize other = sanitize spelled ∧ parse other = parse spelled) ∧
    ∀ quote, quote = '"' ∨ quote = '\'' →
      quote ∉ (sanitize spelled).toList ∧
      ∀ before mark after text₁ text₂ : List Char, IsSpelling text₁ before → Spells quote mark →
        IsSpelling text₂ after →
          sanitizeChars (before ++ mark ++ after) = sanitizeChars (before ++ after) := by
  have hclean : (sanitize spelled).toList = doubleBackslashes (withoutQuotes text.toList) := by
    rw [sanitize, String.toList_ofList, sanitizeChars_of_isSpelling h]
  refine ⟨hclean, ?_, fun quote hquote ↦ ⟨?_, ?_⟩⟩
  · intro other hother
    have hsame : sanitizeChars other.toList = sanitizeChars spelled.toList := by
      rw [sanitizeChars_of_isSpelling h, sanitizeChars_of_isSpelling hother]
    exact ⟨by rw [sanitize, sanitize, hsame], by rw [parse, parse, hsame]⟩
  · rw [hclean]
    exact not_mem_doubleBackslashes (not_mem_withoutQuotes hquote _)
  · intro before mark after text₁ text₂ hbefore hmark hafter
    have hwith : IsSpelling (text₁ ++ quote :: text₂) (before ++ (mark ++ after)) :=
      hbefore.append (.cons hmark hafter)
    have hwithout : IsSpelling (text₁ ++ text₂) (before ++ after) := hbefore.append hafter
    rw [List.append_assoc, sanitizeChars_of_isSpelling hwith,
      sanitizeChars_of_isSpelling hwithout, withoutQuotes_append, withoutQuotes_append,
      withoutQuotes_cons_of_quote hquote]

/-- A text with quotes, and with what would be a reference to one if its ampersand counted. -/
def quotedReference : String := "\"&quot;\\é'"

/-- The same text, with each kind of reference in it. -/
def spelledReference : String := "&#x022;&#00038;quot;&#x5C;&#xE9;&apos;"

theorem sanitize_spelledReference :
    IsSpelling quotedReference.toList spelledReference.toList ∧
      sanitize spelledReference = "&quot;\\\\é" ∧
      parse spelledReference = [⟨none, "&quot;\\\\é"⟩] := by
  have hword : IsSpelling "quot;".toList "quot;".toList := by
    have hletters := IsSpelling.cons (.itself (c := 'q') (by decide)) <|
      .cons (.itself (c := 'u') (by decide)) <| .cons (.itself (c := 'o') (by decide)) <|
      .cons (.itself (c := 't') (by decide)) <| .cons (.itself (c := ';') (by decide)) .nil
    exact hletters
  have hspelled : IsSpelling quotedReference.toList spelledReference.toList := by
    have hmarks := IsSpelling.cons (@Spells.hexadecimal '"' "022".toList (by decide) ⟨1, by decide⟩)
      <| .cons (@Spells.decimal '&' "00038".toList (by decide) ⟨3, by decide⟩) <| hword.append <|
      .cons (@Spells.hexadecimal '\\' "5C".toList (by decide) ⟨0, by decide⟩) <|
      .cons (@Spells.hexadecimal 'é' "E9".toList (by decide) ⟨0, by decide⟩) <|
      .cons (@Spells.name '\'' "apos".toList (by decide)) .nil
    exact hmarks
  have hclean := (sanitize_spelling hspelled).1
  refine ⟨hspelled, ?_, by decide⟩
  rw [← String.toList_inj, hclean]
  decide

end ResourceSearch.Query
