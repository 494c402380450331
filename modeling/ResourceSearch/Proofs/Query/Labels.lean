import ResourceSearch.Proofs.Query.Names
import ResourceSearch.Proofs.Query.Printing

/-!
# Labels and their slugs

A property is stored under the slug of its label, and a query for the label asks for the slug of
what parsing has made of it. Parsing lowers the label as a text, a slug lowers what is left
character by character, so the two slugs are the same exactly if lowering twice comes to the same as
lowering once in the second way.

## Where the two ways part

Letters stay letters when they are lowered, so mostly both slugs keep the same characters, and the
small forms of small forms are themselves. There are two exceptions (`slug_lowercase_iff`). A
capital I with a dot leaves its dot behind as a mark, which is part of a small form in one slug and
passed over in the other one. And the sigma at the end of a word has a form of its own in texts
only. Besides, a label can become an encoded identifier by being lowered, and has no slug then.
-/

namespace ResourceSearch.Query

/-! ## Lowering before slugging -/

section

variable {cs : List Char}

/-- Without dots on capitals, lowering character by character does not change a slug. -/
theorem slugChars_flatMap_lowerChar (h : '\u0130' ∉ cs) {started pending : Bool} :
    slugChars started pending (cs.flatMap Text.lowerChar) = slugChars started pending cs := by
  induction cs generalizing started pending with
  | nil => rfl
  | cons c cs ih =>
    obtain ⟨hc, hcs⟩ := List.ne_and_not_mem_of_not_mem_cons h
    obtain ⟨d, hd, hsmall, hsame⟩ := Text.exists_lowerChar_eq (Ne.symm hc)
    rw [List.flatMap_cons, hd, List.singleton_append, slugChars, slugChars, hsame, ih hcs, ih hcs,
      hsmall, hd]

/-- Where a text and its lower case have the same slug, every sigma was lowered to its form within
words. -/
theorem lowercase_eq_flatMap_of_slugChars (h : '\u0130' ∉ cs) {started pending : Bool}
    (hslug : slugChars started pending (Text.lowercase cs) = slugChars started pending cs) :
    Text.lowercase cs = cs.flatMap Text.lowerChar := by
  -- the letters and digits of both texts are compared one by one
  have key : ∀ cs before, '\u0130' ∉ cs →
      ((Text.lowerAfter before cs).filter Text.isAlphanumeric).flatMap Text.lowerChar
        = (cs.filter Text.isAlphanumeric).flatMap Text.lowerChar →
      Text.lowerAfter before cs = cs.flatMap Text.lowerChar := by
    intro cs
    induction cs with
    | nil => exact fun _ _ _ ↦ rfl
    | cons c cs ih =>
      intro before hdotted heq
      obtain ⟨hc, hcs⟩ := List.ne_and_not_mem_of_not_mem_cons hdotted
      obtain ⟨s, hs, hsmall, hsame⟩ := Text.exists_lowerAfter_cons (Ne.symm hc) before cs
      obtain ⟨d, hd, -, -⟩ := Text.exists_lowerChar_eq (Ne.symm hc)
      rw [hs, List.filter_cons, List.filter_cons, hsame] at heq
      by_cases halpha : Text.isAlphanumeric c = true
      · rw [if_pos halpha, if_pos halpha, List.flatMap_cons, List.flatMap_cons, hsmall, hd] at heq
        obtain ⟨hhead, htail⟩ := List.cons.inj heq
        rw [hs, List.flatMap_cons, hd, ih _ hcs htail, hhead, List.singleton_append]
      · rw [if_neg halpha, if_neg halpha] at heq
        have hsigma : c ≠ 'Σ' := by
          rintro rfl
          exact halpha (by decide)
        rw [Text.lowerAfter_cons hsigma, List.flatMap_cons, ih _ hcs heq]
  have hfilter := congrArg (List.filter (· ≠ '-')) hslug
  rw [filter_slugChars, filter_slugChars] at hfilter
  exact key cs [] h hfilter

/-- **When lowering first does not change a slug.** -/
theorem slugChars_lowercase_iff {started pending : Bool} :
    slugChars started pending (Text.lowercase cs) = slugChars started pending cs ↔
      '\u0130' ∉ cs ∧ ¬ Text.HasFinalSigma cs := by
  constructor
  · intro hslug
    have hdotted : '\u0130' ∉ cs := by
      rw [← dot_mem_slugChars_iff, ← hslug, dot_mem_slugChars_iff]
      exact fun hmem ↦ Text.not_isSmall_dotted (Text.isSmall_of_mem_lowercase hmem)
    exact ⟨hdotted, Text.lowercase_eq_flatMap_iff.mp
      (lowercase_eq_flatMap_of_slugChars hdotted hslug)⟩
  · rintro ⟨hdotted, hsigma⟩
    rw [Text.lowercase_eq_flatMap_iff.mpr hsigma, slugChars_flatMap_lowerChar hdotted]

end

theorem slug_lowercase_iff (label : String) :
    slug (String.ofList (Text.lowercase label.toList)) = slug label ↔
      '\u0130' ∉ label.toList ∧ ¬ Text.HasFinalSigma label.toList := by
  rw [← String.toList_inj, toList_slug, toList_slug, String.toList_ofList, slugChars_lowercase_iff]

/-! ## Fields that are asked for by their labels -/

/-- The marks of an encoded identifier are not those of a slug. -/
theorem ne_slug_of_isEncoded {field : String} (hencoded : Identifier.isEncoded field.toList = true)
    (hcolon : ':' ∉ field.toList) (label : String) : field ≠ slug label := by
  rintro rfl
  rw [Identifier.isEncoded, Identifier.decode_of_not_mem (underscore_not_mem_slug label)]
    at hencoded
  exact hcolon (Identifier.colon_mem_of_isIdentifier hencoded)

theorem isStandardField_lowercase (field : List Char) :
    isStandardField (String.ofList (Text.lowercase field))
      = isStandardField (String.ofList field) := by
  rw [isStandardField, isStandardField, String.toList_ofList, String.toList_ofList,
    Text.lowercase_lowercase]

theorem parse_of_not_hasDelimiter {text : String} (hsafe : ∀ c ∈ unsafeChars, c ∉ text.toList)
    (hdelimiter : ¬ HasDelimiter text.toList) : parse text = [Block.ofChars text.toList] := by
  rw [parse, sanitizeChars_of_not_mem hsafe, splitChars_eq_singleton_iff.mpr hdelimiter,
    List.map_singleton]

theorem ofChars_label {label term : List Char} (hcolon : ':' ∉ label) (hslash : '\\' ∉ label)
    (hblank : Text.trim label ≠ []) (hencoded : Identifier.isEncoded (Text.trim label) = false)
    (hidentifier : Identifier.isIdentifier (Text.trim (label ++ ':' :: term)) = false) :
    Block.ofChars (label ++ ':' :: term)
      = ⟨some (String.ofList (Text.lowercase (Text.trim label))),
          String.ofList (Text.trim term)⟩ := by
  rw [Block.ofChars, hidentifier, if_neg Bool.false_ne_true, cutAtColon_append hcolon hslash]
  dsimp only
  rw [if_neg (by simpa using hblank), normalizeField, hencoded, if_neg Bool.false_ne_true]

theorem propertyName_lowercase_eq_iff {label : String} (hcolon : ':' ∉ label.toList) :
    propertyName (String.ofList (Text.lowercase (Text.trim label.toList))) = slug label ↔
      Identifier.isEncoded (Text.lowercase (Text.trim label.toList)) = false ∧
        '\u0130' ∉ label.toList ∧ ¬ Text.HasFinalSigma (Text.trim label.toList) := by
  have hdotted : '\u0130' ∉ Text.trim label.toList ↔ '\u0130' ∉ label.toList :=
    not_congr ⟨mem_of_mem_trim, mem_trim_of_mem (by decide)⟩
  have hslug := slug_lowercase_iff (String.ofList (Text.trim label.toList))
  rw [String.toList_ofList, slug_trim, hdotted] at hslug
  rw [← hslug, propertyName, String.toList_ofList]
  by_cases hencoded : Identifier.isEncoded (Text.lowercase (Text.trim label.toList)) = true
  · rw [if_pos hencoded, hencoded]
    refine iff_of_false (ne_slug_of_isEncoded ?_ ?_ label) (by simp)
    · rwa [String.toList_ofList]
    · rw [String.toList_ofList]
      exact fun hmem ↦ hcolon (mem_of_mem_trim (mem_of_mem_lowercase (by decide) hmem))
  · rw [if_neg hencoded, and_iff_right (by simpa using hencoded)]

namespace Compiler

/-- **When a query for a label asks for the slug of the label.** A label, a colon and a term ask for
one property under each widget, unless the whole is an identifier between white space. The property
is the one that is stored under the slug of the label exactly if, besides, lowering the label does
not make an encoded identifier of it, and lowers neither a capital I with a dot nor a sigma at the
end of a word. -/
theorem fieldNames_label_iff (compiler : Compiler) {query : UserQuery} {label term : String}
    (htext : query.text = label ++ ":" ++ term)
    (hindex : compiler.index query ≠ Index.deliveryResults)
    (hcolon : ':' ∉ label.toList) (hsafe : ∀ c ∈ unsafeChars, c ∉ query.text.toList)
    (hdelimiter : ¬ HasDelimiter query.text.toList)
    (hblank : Text.trim label.toList ≠ [])
    (hstandard : isStandardField (String.ofList (Text.trim label.toList)) = false)
    (hencoded : Identifier.isEncoded (Text.trim label.toList) = false) :
    queryTextOf? (compiler.compile query).body
        = some (conjunction
            (Query.conditions (compiler.index query) (parse query.text) ++
              compiler.accessConditions (compiler.index query))) ∧
    ∃ tokens, read? (compiler.ownText query).toList = some tokens ∧
      (Identifier.isIdentifier (Text.trim query.text.toList) = false →
        ∃ name, fieldNames tokens = widgets.map fun widget ↦ (widget ++ "_" ++ name).toList) ∧
      (fieldNames tokens = widgets.map (fun widget ↦ (widget ++ "_" ++ slug label).toList) ↔
        Identifier.isIdentifier (Text.trim query.text.toList) = false ∧
        Identifier.isEncoded (Text.lowercase (Text.trim label.toList)) = false ∧
        '\u0130' ∉ label.toList ∧ ¬ Text.HasFinalSigma (Text.trim label.toList)) := by
  obtain ⟨tokens, hread, hnames⟩ := exists_fieldNames_conditions (compiler.index query) query.text
  rw [parse_of_not_hasDelimiter hsafe hdelimiter, List.flatMap_singleton] at hnames
  have hchars : query.text.toList = label.toList ++ ':' :: term.toList := by
    simp [htext]
  refine ⟨by rw [queryTextOf?_compile, conditions_eq], tokens, hread, ?_⟩
  rw [hnames]
  by_cases hwhole : Identifier.isIdentifier (Text.trim query.text.toList) = true
  · -- an identifier is looked for as it is, in no field
    have hnone : (Block.ofChars query.text.toList).field = none := by
      rw [Block.ofChars, if_pos hwhole]
    rw [hwhole, Block.fields_of_none hnone]
    exact ⟨by simp, iff_of_false (by simp [widgets]) (by simp)⟩
  · rw [Bool.not_eq_true] at hwhole
    have hfield : (Block.ofChars query.text.toList).field
        = some (String.ofList (Text.lowercase (Text.trim label.toList))) := by
      have hslash : '\\' ∉ label.toList := fun hmem ↦
        hsafe '\\' (by decide) (by simp [hchars, hmem])
      rw [hchars] at hwhole ⊢
      rw [ofChars_label hcolon hslash hblank hencoded hwhole]
    rw [Block.fields_of_some hindex hfield, isStandardField_lowercase, hstandard,
      if_neg Bool.false_ne_true, propertyFields_eq_iff, propertyName_lowercase_eq_iff hcolon,
      and_iff_right hwhole]
    exact ⟨fun _ ↦ ⟨_, propertyFields_eq_iff.mpr rfl⟩, Iff.rfl⟩

/-- A query for a label in capitals, with a sigma that ends no word. -/
def capitalLabel : UserQuery :=
  ⟨" ΣΟΦΟΙ : a:b ", "items", 0, 10, "label", .ascending⟩

theorem fieldNames_capitalLabel :
    capitalLabel.text = " ΣΟΦΟΙ " ++ ":" ++ " a:b " ∧
    index ⟨.builtIn, none⟩ capitalLabel ≠ Index.deliveryResults ∧
    ':' ∉ " ΣΟΦΟΙ ".toList ∧ (∀ c ∈ unsafeChars, c ∉ capitalLabel.text.toList) ∧
    ¬ HasDelimiter capitalLabel.text.toList ∧
    Text.trim " ΣΟΦΟΙ ".toList ≠ [] ∧
    isStandardField (String.ofList (Text.trim " ΣΟΦΟΙ ".toList)) = false ∧
    Identifier.isEncoded (Text.trim " ΣΟΦΟΙ ".toList) = false ∧
    ∃ tokens, read? (ownText ⟨.builtIn, none⟩ capitalLabel).toList = some tokens ∧
      fieldNames tokens = widgets.map fun widget ↦ (widget ++ "_" ++ "σοφοι").toList := by
  have htext : capitalLabel.text = " ΣΟΦΟΙ " ++ ":" ++ " a:b " := by decide
  have hindex : index ⟨.builtIn, none⟩ capitalLabel ≠ Index.deliveryResults := by decide
  have hcolon : ':' ∉ " ΣΟΦΟΙ ".toList := by decide
  have hsafe : ∀ c ∈ unsafeChars, c ∉ capitalLabel.text.toList :=
    forall_mem_unsafeChars.mpr (by decide)
  have hdelimiter : ¬ HasDelimiter capitalLabel.text.toList := by decide
  have hblank : Text.trim " ΣΟΦΟΙ ".toList ≠ [] := by decide
  have hstandard : isStandardField (String.ofList (Text.trim " ΣΟΦΟΙ ".toList)) = false := by
    decide
  have hencoded : Identifier.isEncoded (Text.trim " ΣΟΦΟΙ ".toList) = false := by decide
  have hslug : slug " ΣΟΦΟΙ " = "σοφοι" := by decide
  obtain ⟨-, tokens, hread, -, hnames⟩ := fieldNames_label_iff ⟨.builtIn, none⟩ htext hindex
    hcolon hsafe hdelimiter hblank hstandard hencoded
  refine ⟨htext, hindex, hcolon, hsafe, hdelimiter, hblank, hstandard, hencoded, tokens, hread, ?_⟩
  rw [hnames.mpr (by decide), hslug]

/-- A query for a label in capitals, with a sigma that ends a word. -/
def finalSigma : UserQuery :=
  ⟨"ΟΔΟΣ:x", "items", 0, 10, "label", .ascending⟩

/-- **Not every label is asked for by its slug.** -/
theorem not_fieldNames_finalSigma :
    (':' ∉ "ΟΔΟΣ".toList ∧ (∀ c ∈ unsafeChars, c ∉ finalSigma.text.toList) ∧
      ¬ HasDelimiter finalSigma.text.toList ∧ Text.trim "ΟΔΟΣ".toList ≠ [] ∧
      isStandardField (String.ofList (Text.trim "ΟΔΟΣ".toList)) = false ∧
      Identifier.isEncoded (Text.trim "ΟΔΟΣ".toList) = false ∧
      Identifier.isIdentifier (Text.trim finalSigma.text.toList) = false ∧
      index ⟨.builtIn, none⟩ finalSigma = Index.items) ∧
    ∃ (text : String) (tokens : List Token),
      queryTextOf? (compile ⟨.builtIn, none⟩ finalSigma).body = some text ∧
      read? text.toList = some tokens ∧
      fieldNames tokens = (widgets.map fun widget ↦ (widget ++ "_" ++ "οδος").toList) ∧
      fieldNames tokens ≠ widgets.map fun widget ↦ (widget ++ "_" ++ slug "ΟΔΟΣ").toList := by
  have hparse : parse finalSigma.text = [⟨some "οδος", "x"⟩] := by decide
  have hstandard : isStandardField "οδος" = false := by decide
  have hname : propertyName "οδος" = "οδος" := by decide
  obtain ⟨tokens, hread, hnames⟩ := exists_fieldNames_conditions Index.items finalSigma.text
  rw [hparse, List.flatMap_singleton, Block.fields_of_some (by decide) rfl, hstandard,
    if_neg Bool.false_ne_true] at hnames
  refine ⟨?_, _, tokens, rfl, hread, hnames.trans (propertyFields_eq_iff.mpr hname), ?_⟩
  · exact ⟨by decide, forall_mem_unsafeChars.mpr (by decide), by decide, by decide, by decide,
      by decide, by decide, by decide⟩
  · intro hasked
    have hslug := propertyFields_eq_iff.mp (hnames.symm.trans hasked)
    rw [hname] at hslug
    exact absurd hslug (by decide)

end Compiler

end ResourceSearch.Query
