import Mathlib.Data.List.DropRight
import ResourceSearch.Proofs.Query.Fields
import ResourceSearch.Proofs.Query.Sanitized
import ResourceSearch.Proofs.Text.SmallForms

/-!
# The fields of parsed blocks

What a user types before a colon comes out of parsing as a field, and a field is written into the
query text outside phrases, as a name. So the engine must not find anything in it but a name.

A standard field is written as it was parsed, which is in lower case: it is one of the words
(`mem_standardFields_of_parsed`). A slug is made of letters and digits and marks that combine with
them. An encoded identifier is written as it stands, and it need not be encoded to the end: it has
no colon, since a field ends at the first one (`colon_not_mem_of_parsed`), but a slash that was left
in it is written too.
-/

namespace ResourceSearch

/-! ## White space -/

namespace Text

theorem isAlphanumeric_of_isBlank {c : Char} (h : isBlank c = true) :
    isAlphanumeric c = false := by
  have hcodes : c.toNat ∈ List.range' 9 5 ++ [0x20, 0x85, 0xA0, 0x1680] ++ List.range' 0x2000 11 ++
      [0x2028, 0x2029, 0x202F, 0x205F, 0x3000] := by
    simp only [isBlank, Bool.or_eq_true, Bool.and_eq_true, decide_eq_true_eq] at h
    simp only [List.mem_append, List.mem_range'_1, List.mem_cons, List.not_mem_nil, or_false]
    omega
  have hnone : ∀ n ∈ List.range' 9 5 ++ [0x20, 0x85, 0xA0, 0x1680] ++ List.range' 0x2000 11 ++
      [0x2028, 0x2029, 0x202F, 0x205F, 0x3000], inRanges alphanumericRanges n = false := by
    decide +kernel
  exact hnone _ hcodes

theorem isBlank_of_isAlphanumeric {c : Char} (h : isAlphanumeric c = true) : isBlank c = false := by
  by_contra hblank
  rw [Bool.not_eq_false] at hblank
  rw [isAlphanumeric_of_isBlank hblank] at h
  cases h

end Text

namespace Query

/-! ## Encoded identifiers -/

namespace Identifier

/-- Without its digit, or without underscores, there is no mark to replace. -/
theorem replaceMark_of_not_mem {digit c : Char} {meaning cs : List Char}
    (hc : c = digit ∨ c = '_') (h : c ∉ cs) : replaceMark digit meaning cs = cs := by
  fun_induction replaceMark digit meaning cs with
  | case1 rest ih =>
    rcases hc with rfl | rfl
    · simp at h
    · simp at h
  | case2 d rest hd ih => rw [ih (fun hmem ↦ h (List.mem_cons_of_mem _ hmem))]
  | case3 d rest hshape ih => rw [ih (fun hmem ↦ h (List.mem_cons_of_mem _ hmem))]
  | case4 => rfl

theorem decode_of_not_mem {cs : List Char} (h : '_' ∉ cs) : decode cs = cs := by
  simp only [decode, marks, List.foldl_cons, List.foldl_nil, replaceMark_of_not_mem (.inr rfl) h]

theorem colon_mem_of_isIdentifier {cs : List Char} (h : isIdentifier cs = true) : ':' ∈ cs := by
  obtain ⟨scheme, hscheme, hrest⟩ := List.any_eq_true.mp h
  rw [Bool.and_eq_true, List.isPrefixOf_iff_prefix] at hrest
  have hcolon : ∀ scheme ∈ schemes, ':' ∈ scheme := by decide
  exact hrest.1.subset (hcolon scheme hscheme)

/-- The digits of marks, and the colon that an identifier has without them. -/
def tellTales : List Char := [':', '2', '0', '1', '3', '4']

/-- Without digits of marks there is nothing to decode, and an identifier has a colon. -/
theorem exists_tellTale_of_isEncoded {cs : List Char} (h : isEncoded cs = true) :
    ∃ c ∈ tellTales, c ∈ cs := by
  by_contra hnone
  push Not at hnone
  have hdecode : decode cs = cs := by
    simp only [decode, marks, List.foldl_cons, List.foldl_nil]
    rw [replaceMark_of_not_mem (.inl rfl) (hnone '2' (by decide)),
      replaceMark_of_not_mem (.inl rfl) (hnone '0' (by decide)),
      replaceMark_of_not_mem (.inl rfl) (hnone '1' (by decide)),
      replaceMark_of_not_mem (.inl rfl) (hnone '3' (by decide)),
      replaceMark_of_not_mem (.inl rfl) (hnone '4' (by decide))]
  rw [isEncoded, hdecode] at h
  exact hnone ':' (by decide) (colon_mem_of_isIdentifier h)

end Identifier

theorem isStandardField_of_tellTale {field : String} {c : Char} (hc : c ∈ Identifier.tellTales)
    (hmem : c ∈ field.toList) : isStandardField field = false := by
  have hsmall : ∀ c ∈ Identifier.tellTales, Text.IsSmall c ∧ c ≠ 'Σ' :=
    List.all_iff_forall_prop.mp (by decide)
  have hwords : ∀ word ∈ standardFields, Identifier.tellTales.all (· ∉ word.toList) = true := by
    decide
  have hlower := Text.mem_lowercase (hsmall c hc).1 (hsmall c hc).2 hmem
  rw [isStandardField, decide_eq_false_iff_not]
  intro hword
  have hnot := List.all_iff_forall_prop.mp (hwords _ hword) c hc
  rw [String.toList_ofList] at hnot
  exact hnot hlower

theorem isStandardField_of_isEncoded {field : String}
    (h : Identifier.isEncoded field.toList = true) : isStandardField field = false := by
  obtain ⟨c, hc, hmem⟩ := Identifier.exists_tellTale_of_isEncoded h
  exact isStandardField_of_tellTale hc hmem

/-! ## From the text to the field -/

/-- Where a colon is passed over there is a backslash before it. -/
theorem backslash_mem_of_cutAtColon {escaped : Bool} {cs before after : List Char}
    (h : cutAtColon escaped cs = some (before, after)) (hcolon : ':' ∈ before) :
    escaped = true ∨ '\\' ∈ before := by
  induction cs generalizing escaped before with
  | nil => simp [cutAtColon] at h
  | cons c cs ih =>
    rw [cutAtColon] at h
    split at h
    · rename_i hslash
      obtain ⟨rest, rfl, -⟩ := consBefore_eq_some h
      exact .inr (hslash ▸ List.mem_cons_self)
    · split at h
      · obtain ⟨rfl, -⟩ := Prod.mk.inj (Option.some.inj h)
        simp at hcolon
      · rename_i hpassed
        obtain ⟨rest, rfl, hrest⟩ := consBefore_eq_some h
        rcases List.mem_cons.mp hcolon with rfl | hcolon
        · left
          simpa using hpassed
        · rcases ih hrest hcolon with hfalse | hmem
          · simp at hfalse
          · exact .inr (List.mem_cons_of_mem c hmem)

theorem mem_trim_of_mem {c : Char} {cs : List Char} (hc : Text.isBlank c = false) (h : c ∈ cs) :
    c ∈ Text.trim cs := by
  obtain ⟨before, after, hcs, hbefore, hafter⟩ := exists_eq_trim cs
  rw [hcs, List.mem_append, List.mem_append] at h
  rcases h with (h | h) | h
  · rw [hbefore c h] at hc
    cases hc
  · exact h
  · rw [hafter c h] at hc
    cases hc

theorem mem_of_mem_trim {c : Char} {cs : List Char} (h : c ∈ Text.trim cs) : c ∈ cs := by
  obtain ⟨before, after, hcs, -, -⟩ := exists_eq_trim cs
  rw [hcs]
  simp [h]

theorem trim_prefix_of_head {cs : List Char} (h : ∀ c ∈ cs.head?, Text.isBlank c = false) :
    Text.trim cs <+: cs := by
  have hstart : cs.dropWhile Text.isBlank = cs := by
    cases cs with
    | nil => rfl
    | cons c cs => exact List.dropWhile_cons_of_neg (by simp [h c rfl])
  rw [Text.trim, hstart]
  exact List.rdropWhile_prefix Text.isBlank cs

/-- Where the field of a block comes from. -/
theorem exists_cut_of_field {cs : List Char} {field : String}
    (h : (Block.ofChars cs).field = some field) :
    ∃ before after, cutAtColon false cs = some (before, after) ∧
      field.toList = normalizeField (Text.trim before) := by
  rw [Block.ofChars] at h
  split at h
  · cases h
  · cases hcut : cutAtColon false cs with
    | none =>
      rw [hcut] at h
      cases h
    | some pair =>
      obtain ⟨before, after⟩ := pair
      simp only [hcut] at h
      split at h
      · cases h
      · refine ⟨before, after, rfl, ?_⟩
        rw [← Option.some.inj h, String.toList_ofList]

theorem exists_cut_of_mem_parse {text : String} {block : Block} {field : String}
    (hblock : block ∈ parse text) (hfield : block.field = some field) :
    ∃ cs before after, cutAtColon false cs = some (before, after) ∧
      field.toList = normalizeField (Text.trim before) := by
  obtain ⟨cs, -, rfl⟩ := List.mem_map.mp hblock
  obtain ⟨before, after, hcut, hchars⟩ := exists_cut_of_field hfield
  exact ⟨cs, before, after, hcut, hchars⟩

/-- A character of ASCII other than a small letter was there before the text was lowered. -/
theorem mem_of_mem_lowercase {c : Char} {cs : List Char} (hc : c.toNat < 97)
    (h : c ∈ Text.lowercase cs) : c ∈ cs := by
  have key : ∀ cs before, c ∈ Text.lowerAfter before cs → c ∈ cs := by
    intro cs
    induction cs with
    | nil => exact fun before h ↦ h
    | cons d cs ih =>
      intro before h
      rw [Text.lowerAfter, List.mem_append] at h
      rcases h with h | h
      · have hsigmas : 97 ≤ 'ς'.toNat ∧ 97 ≤ 'σ'.toNat := by decide
        split at h
        · split at h
          · rw [List.mem_singleton.mp h] at hc
            omega
          · rw [List.mem_singleton.mp h] at hc
            omega
        · rcases Text.mem_lowerChar h with rfl | h | h
          · exact List.mem_cons_self
          · omega
          · omega
      · exact List.mem_cons_of_mem d (ih _ h)
  exact key cs [] h

/-- Normalizing a field does not bring such a character in, or lose one that is its own small
form. -/
theorem mem_normalizeField_iff {c : Char} {cs : List Char} (hsmall : Text.IsSmall c)
    (hc : c.toNat < 97) : c ∈ normalizeField cs ↔ c ∈ cs := by
  rw [normalizeField]
  split
  · rfl
  · have hsigma : c ≠ 'Σ' := fun heq ↦ Text.not_isSmall_sigma (heq ▸ hsmall)
    exact ⟨mem_of_mem_lowercase hc, Text.mem_lowercase hsmall hsigma⟩

/-- **No colon is left in an encoded field.** -/
theorem colon_not_mem_of_parsed {text : String} {block : Block} {field : String}
    (hblock : block ∈ parse text) (hfield : block.field = some field)
    (hencoded : Identifier.isEncoded field.toList = true) : ':' ∉ field.toList := by
  intro hcolon
  obtain ⟨cs, before, after, hcut, hchars⟩ := exists_cut_of_mem_parse hblock hfield
  rw [hchars, mem_normalizeField_iff (by decide) (by decide)] at hcolon
  rcases backslash_mem_of_cutAtColon hcut (mem_of_mem_trim hcolon) with hfalse | hslash
  · cases hfalse
  · -- a colon in the field was escaped, and no backslash is part of an identifier
    have hslash' : '\\' ∈ field.toList := by
      rw [hchars, mem_normalizeField_iff (by decide) (by decide)]
      exact mem_trim_of_mem (by decide) hslash
    rcases Identifier.isPathChar_of_mem_encoded hencoded hslash' with h | h
    · exact absurd h (by decide)
    · exact absurd h (by decide)

/-- **A standard field is written in lower case.** -/
theorem mem_standardFields_of_parsed {text : String} {block : Block} {field : String}
    (hblock : block ∈ parse text) (hfield : block.field = some field)
    (hstandard : isStandardField field = true) : field ∈ standardFields := by
  obtain ⟨cs, before, after, -, hchars⟩ := exists_cut_of_mem_parse hblock hfield
  have hlower : Text.lowercase field.toList = field.toList := by
    rw [normalizeField] at hchars
    split at hchars
    · rename_i hencoded
      rw [← hchars] at hencoded
      rw [isStandardField_of_isEncoded hencoded] at hstandard
      cases hstandard
    · rw [hchars, Text.lowercase_lowercase]
  rw [isStandardField, decide_eq_true_eq, hlower, String.ofList_toList] at hstandard
  exact hstandard

end Query

end ResourceSearch
