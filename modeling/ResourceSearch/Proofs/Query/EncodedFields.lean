import ResourceSearch.Proofs.Query.Encoding
import ResourceSearch.Proofs.Query.Names
import ResourceSearch.Proofs.Query.References

/-!
# Encoded identifiers as fields

The encoded form of an identifier holds nothing that sanitizing changes, no white space and no
colon. So in front of a colon and a term it is the field of the first block, up to its letter case,
and never a standard field. What happens to it then depends on one test: whether it is recognised,
which is to say whether decoding it gives an identifier. If so it is kept and written as it is, and
otherwise it is taken for a label.
-/

namespace ResourceSearch.Query

/-! ## A field in front of a query -/

theorem flatMap_cleanChar_of_not_mem {cs : List Char} (h : ∀ c ∈ unsafeChars, c ∉ cs) :
    cs.flatMap cleanChar = cs := by
  have hclean := sanitizeChars_of_not_mem h
  rwa [sanitizeChars, decodeAll_of_not_mem (h '&' (by decide))] at hclean

theorem sanitizeChars_append_of_not_mem {before : List Char} (h : ∀ c ∈ unsafeChars, c ∉ before)
    (after : List Char) : sanitizeChars (before ++ after) = before ++ sanitizeChars after := by
  rw [sanitizeChars, CharacterReference.decodeAll_append_of_not_mem (h '&' (by decide)),
    List.flatMap_append, flatMap_cleanChar_of_not_mem h]
  rfl

theorem splitChars_append_of_not_mem {before : List Char} (h : ' ' ∉ before)
    {after first : List Char} {parts : List (List Char)}
    (hafter : splitChars after = first :: parts) :
    splitChars (before ++ after) = (before ++ first) :: parts := by
  induction before with
  | nil => exact hafter
  | cons c before ih =>
    obtain ⟨hc, hbefore⟩ := List.ne_and_not_mem_of_not_mem_cons h
    have hstart : ∀ delimiter, IsDelimiter delimiter → ¬ delimiter <+: c :: (before ++ after) := by
      rintro _ ⟨a, n, d, -, rfl⟩ hfront
      exact hc (List.cons_prefix_cons.mp hfront).1
    rw [List.cons_append, splitChars_cons hstart, ih hbefore]
    rfl

/-- The first block of a query is the one of its first part, which a field and a colon belong to. -/
theorem exists_parse_eq_cons {field : List Char} (hsafe : ∀ c ∈ unsafeChars, c ∉ field)
    (hblank : ' ' ∉ field) (term : String) :
    ∃ (rest : List Char) (parts : List (List Char)), parse (String.ofList field ++ ":" ++ term)
      = Block.ofChars (field ++ ':' :: rest) :: parts.map Block.ofChars := by
  obtain ⟨rest, parts, hparts⟩ :=
    List.exists_cons_of_ne_nil (splitChars_ne_nil (sanitizeChars term.toList))
  refine ⟨rest, parts, ?_⟩
  have hfront : ∀ c ∈ unsafeChars, c ∉ field ++ [':'] := by
    intro c hc
    have hcolon : ':' ∉ unsafeChars := by decide
    rw [List.mem_append, not_or, List.mem_singleton]
    exact ⟨hsafe c hc, fun heq ↦ hcolon (heq ▸ hc)⟩
  have htext : (String.ofList field ++ ":" ++ term).toList = (field ++ [':']) ++ term.toList := by
    simp
  rw [parse, htext, sanitizeChars_append_of_not_mem hfront,
    splitChars_append_of_not_mem (by simp [hblank]) hparts, List.map_cons, List.append_assoc]
  rfl

theorem trim_of_not_isBlank {cs : List Char} (h : ∀ c ∈ cs, Text.isBlank c = false) :
    Text.trim cs = cs := by
  refine Text.isTrimmed_iff.mpr ⟨fun c hc ↦ h c (List.mem_of_mem_head? hc), fun c hc ↦ ?_⟩
  exact h c (List.mem_of_getLast? hc)

/-- The name of a scheme has no underscore, so a field with one begins no identifier. -/
theorem isIdentifier_trim_field {field : List Char} (hcolon : ':' ∉ field) (hmark : '_' ∈ field)
    (hblank : ∀ c ∈ field, Text.isBlank c = false) (rest : List Char) :
    Identifier.isIdentifier (Text.trim (field ++ ':' :: rest)) = false := by
  rw [Bool.eq_false_iff]
  intro h
  obtain ⟨scheme, hscheme, hprefix⟩ := List.any_eq_true.mp h
  rw [Bool.and_eq_true, List.isPrefixOf_iff_prefix] at hprefix
  have hne : field ≠ [] := List.ne_nil_of_mem hmark
  have hhead : ∀ c ∈ (field ++ ':' :: rest).head?, Text.isBlank c = false := by
    rw [List.head?_append_of_ne_nil field hne]
    exact fun c hc ↦ hblank c (List.mem_of_mem_head? hc)
  have hwhole : scheme <+: field ++ ':' :: rest := hprefix.1.trans (trim_prefix_of_head hhead)
  have hchars : ∀ scheme ∈ Identifier.schemes, ':' ∈ scheme ∧ '_' ∉ scheme := by decide
  obtain ⟨hcolon', hmark'⟩ := hchars scheme hscheme
  rcases Nat.le_total field.length scheme.length with hle | hle
  · have hfield := List.prefix_of_prefix_length_le (List.prefix_append field _) hwhole hle
    exact hmark' (hfield.subset hmark)
  · have hfield := List.prefix_of_prefix_length_le hwhole (List.prefix_append field _) hle
    exact hcolon (hfield.subset hcolon')

theorem field_ofChars {field : List Char} (hcolon : ':' ∉ field) (hmark : '_' ∈ field)
    (hslash : '\\' ∉ field) (hblank : ∀ c ∈ field, Text.isBlank c = false) (rest : List Char) :
    (Block.ofChars (field ++ ':' :: rest)).field
      = some (String.ofList (normalizeField field)) := by
  have hne : field ≠ [] := List.ne_nil_of_mem hmark
  rw [Block.ofChars, isIdentifier_trim_field hcolon hmark hblank, if_neg Bool.false_ne_true,
    cutAtColon_append hcolon hslash]
  dsimp only
  rw [trim_of_not_isBlank hblank, if_neg (by simpa using hne)]

/-! ## Encoded identifiers as fields -/

section

variable {u : List Char}

/-- A field that is parsed from the encoded form of an identifier is no standard field. -/
theorem isStandardField_normalizeField_encode (hidentifier : Identifier.isIdentifier u = true) :
    isStandardField (String.ofList (normalizeField (Identifier.encode u))) = false := by
  obtain ⟨-, c, hc, hmem⟩ :=
    Identifier.mem_encode_of_colon_mem (Identifier.colon_mem_of_isIdentifier hidentifier)
  have hdigit : ∀ c ∈ ['2', '4'], c ∈ Identifier.tellTales ∧ Text.IsSmall c ∧ c.toNat < 97 :=
    List.all_iff_forall_prop.mp (by decide)
  obtain ⟨htell, hsmall, hascii⟩ := hdigit c hc
  refine isStandardField_of_tellTale htell ?_
  rwa [String.toList_ofList, mem_normalizeField_iff hsmall hascii]

theorem propertyName_normalizeField_encode_iff (hidentifier : Identifier.isIdentifier u = true) :
    propertyName (String.ofList (normalizeField (Identifier.encode u)))
        = String.ofList (Identifier.encode u) ↔
      Identifier.isEncoded (Identifier.encode u) = true := by
  have hmark := (Identifier.mem_encode_of_colon_mem
    (Identifier.colon_mem_of_isIdentifier hidentifier)).1
  rw [propertyName]
  split
  · rename_i hencoded
    constructor
    · intro heq
      rwa [heq, String.toList_ofList] at hencoded
    · intro h
      rw [normalizeField, if_pos h]
  · rename_i hencoded
    refine iff_of_false ?_ ?_
    · intro heq
      have hnone := underscore_not_mem_slug (String.ofList (normalizeField (Identifier.encode u)))
      rw [heq, String.toList_ofList] at hnone
      exact hnone hmark
    · intro h
      rw [normalizeField, if_pos h, String.toList_ofList] at hencoded
      exact hencoded h

theorem plain_encode (hidentifier : Identifier.isIdentifier u = true) :
    (∀ c ∈ unsafeChars, c ∉ Identifier.encode u) ∧
      ∀ c ∈ Identifier.encode u, Text.isBlank c = false := by
  have hchars := fun c hc ↦ Identifier.isPathChar_of_mem_encode hidentifier (c := c) hc
  constructor
  · have hunsafe : ∀ c ∈ unsafeChars, ¬ (Identifier.isPathChar c = true ∨ c = '#') :=
      forall_mem_unsafeChars.mpr (by decide)
    exact fun c hc hmem ↦ hunsafe c hc (hchars c hmem)
  · intro c hc
    rcases hchars c hc with hpath | rfl
    · refine (isHarmless_of_isPathChar hpath ?_).1
      rintro rfl
      exact Identifier.colon_not_mem_encode u hc
    · decide

end

namespace Compiler

open Identifier (encode decode isEncoded isIdentifier signs Sign)

/-- **When encoded identifiers are decoded back.** The encoded form of an identifier without
underscores is decoded back exactly if it has no trap: no digit of a mark alone between two marks,
the first replaced after the mark of the digit and the second not before it. What is decoded back is
recognised. In front of a term, an encoded form that is recognised keeps its letter case, and it is
the name asked for in every widget exactly if it is recognised. -/
theorem encoded_identifier_iff {u : List Char} (hidentifier : isIdentifier u = true)
    (hunderscore : '_' ∉ u) :
    (decode (encode u) = u ↔
      ¬ ∃ d later, d :: later <:+ Identifier.marks ∧ ∃ a ∈ later, ∃ b ∈ d :: later,
        [.mark a, .plain d.1, .mark b] <:+: signs u) ∧
    (decode (encode u) = u → isEncoded (encode u) = true) ∧
    ∀ (compiler : Compiler) (query : UserQuery) (term : String),
      query.text = String.ofList (encode u) ++ ":" ++ term →
      compiler.index query ≠ Index.deliveryResults →
      ∃ block blocks tokens,
        parse query.text = block :: blocks ∧
        (isEncoded (encode u) = true → block.field = some (String.ofList (encode u))) ∧
        queryTextOf? (compiler.compile query).body
          = some (conjunction
              (Query.conditions (compiler.index query) (parse query.text) ++
                compiler.accessConditions (compiler.index query))) ∧
        read? (compiler.ownText query).toList = some tokens ∧
        fieldNames tokens = ((block.fields (compiler.index query)) ++
          blocks.flatMap (Block.fields (compiler.index query))).map String.toList ∧
        (isEncoded (encode u) = true ↔
          (block.fields (compiler.index query)).map String.toList
            = widgets.map fun widget ↦ (widget ++ "_" ++ String.ofList (encode u)).toList) := by
  refine ⟨?_, ?_, ?_⟩
  · rw [Identifier.decode_encode_eq_iff hunderscore,
      Identifier.hasTrap_iff (Identifier.isProper_of_mem_signs hunderscore)]
  · intro hdecode
    rwa [isEncoded, hdecode]
  · intro compiler query term htext hindex
    obtain ⟨hsafe, hblank⟩ := plain_encode hidentifier
    have hmark := (Identifier.mem_encode_of_colon_mem
      (Identifier.colon_mem_of_isIdentifier hidentifier)).1
    have hspace : ' ' ∉ encode u := fun hmem ↦ absurd (hblank ' ' hmem) (by decide)
    obtain ⟨rest, parts, hparse⟩ := exists_parse_eq_cons hsafe hspace term
    have hfield := field_ofChars (Identifier.colon_not_mem_encode u) hmark
      (hsafe '\\' (by decide)) hblank rest
    obtain ⟨tokens, hread, hnames⟩ :=
      exists_fieldNames_conditions (compiler.index query) query.text
    rw [← htext] at hparse
    refine ⟨_, _, tokens, hparse, ?_, ?_, hread, ?_, ?_⟩
    · intro hencoded
      rw [hfield, normalizeField, if_pos hencoded]
    · rw [queryTextOf?_compile, conditions_eq]
    · rw [hnames, hparse, List.flatMap_cons]
    · rw [Block.fields_of_some hindex hfield,
        isStandardField_normalizeField_encode hidentifier, if_neg Bool.false_ne_true,
        propertyFields_eq_iff, propertyName_normalizeField_encode_iff hidentifier]

/-- A query for an encoded identifier in which digits of marks stand alone between marks, but only
where they are no traps. -/
def versionedPath : UserQuery :=
  ⟨"http_2_h_0_1_1_4_1_x_4_3_1_y_3_B7:a AND b", "items", 0, 10, "label", .ascending⟩

theorem encoded_identifier_versionedPath :
    isIdentifier "http://h.1/4/x:3/y#B7".toList = true ∧ '_' ∉ "http://h.1/4/x:3/y#B7".toList ∧
    versionedPath.text
      = String.ofList (encode "http://h.1/4/x:3/y#B7".toList) ++ ":" ++ "a AND b" ∧
    index ⟨.builtIn, none⟩ versionedPath ≠ Index.deliveryResults ∧
    (¬ ∃ d later, d :: later <:+ Identifier.marks ∧ ∃ a ∈ later, ∃ b ∈ d :: later,
      [.mark a, .plain d.1, .mark b] <:+: signs "http://h.1/4/x:3/y#B7".toList) ∧
    ∃ block blocks, parse versionedPath.text = block :: blocks ∧
      block.field = some "http_2_h_0_1_1_4_1_x_4_3_1_y_3_B7" ∧
      (block.fields Index.items).map String.toList
        = widgets.map fun widget ↦
            (widget ++ "_" ++ "http_2_h_0_1_1_4_1_x_4_3_1_y_3_B7").toList := by
  have hidentifier : isIdentifier "http://h.1/4/x:3/y#B7".toList = true := by decide
  have hunderscore : '_' ∉ "http://h.1/4/x:3/y#B7".toList := by decide
  have htext : versionedPath.text
      = String.ofList (encode "http://h.1/4/x:3/y#B7".toList) ++ ":" ++ "a AND b" := by decide
  have hindex : index ⟨.builtIn, none⟩ versionedPath = Index.items := by decide
  have hother : index ⟨.builtIn, none⟩ versionedPath ≠ Index.deliveryResults := by
    rw [hindex]
    decide
  obtain ⟨htraps, hrecognised, hfields⟩ := encoded_identifier_iff hidentifier hunderscore
  have hdecode : decode (encode "http://h.1/4/x:3/y#B7".toList)
      = "http://h.1/4/x:3/y#B7".toList := by decide
  have hencoded := hrecognised hdecode
  obtain ⟨block, blocks, -, hparse, hfield, -, -, -, hnames⟩ :=
    hfields ⟨.builtIn, none⟩ versionedPath "a AND b" htext hother
  have hform : String.ofList (encode "http://h.1/4/x:3/y#B7".toList)
      = "http_2_h_0_1_1_4_1_x_4_3_1_y_3_B7" := by decide
  rw [hindex, hform] at hnames
  rw [hform] at hfield
  exact ⟨hidentifier, hunderscore, htext, hother, htraps.mp hdecode, block, blocks, hparse,
    hfield hencoded, hnames.mp hencoded⟩

/-- **Not every encoded identifier is decoded back**: in a path that is a number, the digit is taken
with the underscores of the marks around it. -/
theorem not_decode_encode_numberedPath :
    isIdentifier "http://a/2#b".toList = true ∧ '_' ∉ "http://a/2#b".toList ∧
    encode "http://a/2#b".toList = "http_2_a_1_2_3_b".toList ∧
    decode (encode "http://a/2#b".toList) = "http://a_1://3_b".toList ∧
    decode (encode "http://a/2#b".toList) ≠ "http://a/2#b".toList ∧
    isEncoded (encode "http://a/2#b".toList) = false := by
  decide

end Compiler

end ResourceSearch.Query
