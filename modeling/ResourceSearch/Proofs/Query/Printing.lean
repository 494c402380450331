import Mathlib.Data.List.DropRight
import ResourceSearch.Proofs.Query.Splitting

/-!
# Printing blocks

A block can be written down again: a term by itself, or a field, a colon and the term. Parsing
changes what users type in many ways, so only a block in the form that parsing gives it, a canonical
one, can be found again in its text; and then it is, also among others that it is joined with.

## One step at a time

Each step of parsing leaves canonical text alone. Sanitizing finds nothing to change where there is
no quote, backslash or ampersand, and cutting at the delimiter undoes joining by `Splitting`. What
is left is a statement about a single block, `ofChars_text`: the test for identifiers comes before
the cut at the colon, the first colon is the one behind the field, and there is nothing to trim or
to put in lower case.
-/

namespace ResourceSearch

/-! ## Trimmed text -/

namespace Text

/-- There is no white space at the ends of a text. -/
def IsTrimmed (cs : List Char) : Prop :=
  trim cs = cs

instance (cs : List Char) : Decidable (IsTrimmed cs) :=
  inferInstanceAs (Decidable (trim cs = cs))

theorem isTrimmed_iff {cs : List Char} :
    IsTrimmed cs ↔ (∀ c ∈ cs.head?, isBlank c = false) ∧ ∀ c ∈ cs.getLast?, isBlank c = false := by
  have hstart : cs.dropWhile isBlank = cs ↔ ∀ c ∈ cs.head?, isBlank c = false := by
    cases cs with
    | nil => simp
    | cons c cs => simp [List.dropWhile_eq_self_iff]
  have hend : dropEndWhile isBlank cs = cs ↔ ∀ c ∈ cs.getLast?, isBlank c = false := by
    change cs.rdropWhile isBlank = cs ↔ _
    rcases List.eq_nil_or_concat cs with rfl | ⟨init, last, rfl⟩
    · simp
    · simp [List.rdropWhile_eq_self_iff]
  rw [← hstart, ← hend, IsTrimmed, trim]
  constructor
  · intro h
    -- Nothing is lost on the whole, so nothing is lost at the start.
    have hback : cs.dropWhile isBlank <:+ cs := List.dropWhile_suffix isBlank
    have hfront : dropEndWhile isBlank (cs.dropWhile isBlank) <+: cs.dropWhile isBlank :=
      List.rdropWhile_prefix isBlank _
    have hle := hfront.length_le
    rw [h] at hle
    have hself := hback.eq_of_length_le hle
    exact ⟨hself, by rwa [hself] at h⟩
  · rintro ⟨hstart, hend⟩
    rw [hstart, hend]

/-- Two trimmed texts with a character between them that is no white space, the first of them not
empty. -/
theorem IsTrimmed.append_cons {before after : List Char} {c : Char} (hbefore : IsTrimmed before)
    (hne : before ≠ []) (hc : isBlank c = false) (hafter : IsTrimmed after) :
    IsTrimmed (before ++ c :: after) := by
  rw [isTrimmed_iff] at hbefore hafter ⊢
  constructor
  · rw [List.head?_append_of_ne_nil before hne]
    exact hbefore.1
  · rw [List.getLast?_append_cons]
    cases after with
    | nil => simpa using hc
    | cons d after =>
      rw [List.getLast?_cons_cons]
      exact hafter.2

end Text

namespace Query

/-! ## Text that is left as it is -/

theorem decodeAll_of_not_mem {cs : List Char} (h : '&' ∉ cs) :
    CharacterReference.decodeAll cs = cs := by
  rw [CharacterReference.decodeAll, List.splitOn_eq_singleton h]
  exact List.append_nil cs

theorem cleanChar_of_ne {c : Char} (hdouble : c ≠ '"') (hsingle : c ≠ '\'') (hslash : c ≠ '\\') :
    cleanChar c = [c] := by
  rw [cleanChar, if_neg (by simp [hdouble, hsingle]), if_neg hslash]

/-- The characters that sanitizing changes, or that begin what it changes. -/
def unsafeChars : List Char := ['"', '\'', '\\', '&']

theorem forall_mem_unsafeChars {p : Char → Prop} :
    (∀ c ∈ unsafeChars, p c) ↔ p '"' ∧ p '\'' ∧ p '\\' ∧ p '&' := by
  simp [unsafeChars]

theorem sanitizeChars_of_not_mem {cs : List Char} (h : ∀ c ∈ unsafeChars, c ∉ cs) :
    sanitizeChars cs = cs := by
  rw [sanitizeChars, decodeAll_of_not_mem (h '&' (by decide))]
  calc cs.flatMap cleanChar
      = cs.flatMap fun c ↦ [c] := by
        refine List.flatMap_congr fun c hc ↦ cleanChar_of_ne ?_ ?_ ?_
        · rintro rfl
          exact h '"' (by decide) hc
        · rintro rfl
          exact h '\'' (by decide) hc
        · rintro rfl
          exact h '\\' (by decide) hc
    _ = cs := List.flatMap_singleton' cs

theorem cutAtColon_of_not_mem {cs : List Char} (h : ':' ∉ cs) (escaped : Bool) :
    cutAtColon escaped cs = none := by
  induction cs generalizing escaped with
  | nil => rfl
  | cons c cs ih =>
    obtain ⟨hc, hcs⟩ := List.ne_and_not_mem_of_not_mem_cons h
    rw [cutAtColon, ih hcs, ih hcs]
    by_cases hslash : c = '\\'
    · rw [if_pos hslash]
      rfl
    · rw [if_neg hslash, if_neg (by simp [hc.symm])]
      rfl

theorem cutAtColon_append {before : List Char} (hcolon : ':' ∉ before) (hslash : '\\' ∉ before)
    (after : List Char) : cutAtColon false (before ++ ':' :: after) = some (before, after) := by
  induction before with
  | nil => rfl
  | cons c before ih =>
    obtain ⟨hc, hbefore⟩ := List.ne_and_not_mem_of_not_mem_cons hcolon
    obtain ⟨hc', hbefore'⟩ := List.ne_and_not_mem_of_not_mem_cons hslash
    rw [List.cons_append, cutAtColon, if_neg hc'.symm, if_neg (by simp [hc.symm]),
      ih hbefore hbefore']
    rfl

/-! ## Blocks as text -/

namespace Block

/-- A block as a user would type it. -/
def text (block : Block) : String :=
  match block.field with
  | none => block.term
  | some field => field ++ ":" ++ block.term

/-- A block in the form that parsing gives to it. -/
def IsCanonical : Block → Prop
  | ⟨none, term⟩ =>
    Text.IsTrimmed term.toList ∧
      (Identifier.isIdentifier term.toList = true ∨ ':' ∉ term.toList)
  | ⟨some field, term⟩ =>
    (field ≠ "" ∧ Text.IsTrimmed field.toList ∧ ':' ∉ field.toList ∧
      (Text.lowercase field.toList = field.toList ∨ Identifier.isEncoded field.toList = true)) ∧
      Text.IsTrimmed term.toList ∧
      Identifier.isIdentifier (text ⟨some field, term⟩).toList = false

instance : DecidablePred IsCanonical
  | ⟨none, _⟩ => inferInstanceAs (Decidable (_ ∧ (_ ∨ _)))
  | ⟨some _, _⟩ => inferInstanceAs (Decidable ((_ ∧ _ ∧ _ ∧ (_ ∨ _)) ∧ _ ∧ _))

theorem normalizeField_of_canonical {field : List Char}
    (h : Text.lowercase field = field ∨ Identifier.isEncoded field = true) :
    normalizeField field = field := by
  rw [normalizeField]
  split
  · rfl
  · rename_i hencoded
    exact h.resolve_right hencoded

/-- **A canonical block is found again in its text.** -/
theorem ofChars_text {block : Block} (h : block.IsCanonical) (hslash : '\\' ∉ block.text.toList) :
    ofChars block.text.toList = block := by
  obtain ⟨field, term⟩ := block
  cases field with
  | none =>
    obtain ⟨htrim, hform⟩ := h
    change ofChars term.toList = _
    rw [ofChars, htrim, String.ofList_toList]
    rcases hform with hidentifier | hcolon
    · rw [if_pos hidentifier]
    · rw [cutAtColon_of_not_mem hcolon, ite_self]
  | some field =>
    obtain ⟨⟨hne, hfield, hcolon, hcase⟩, hterm, hidentifier⟩ := h
    have htext : (text ⟨some field, term⟩).toList = field.toList ++ ':' :: term.toList := by
      simp [text]
    have hnonempty : field.toList ≠ [] := by simpa using hne
    have htrim : Text.IsTrimmed (field.toList ++ ':' :: term.toList) :=
      hfield.append_cons hnonempty (by decide) hterm
    have hcut : cutAtColon false (field.toList ++ ':' :: term.toList)
        = some (field.toList, term.toList) :=
      cutAtColon_append hcolon (fun hmem ↦ hslash (by simp [htext, hmem])) term.toList
    rw [htext] at hidentifier ⊢
    rw [ofChars, htrim, hidentifier, hcut, if_neg Bool.false_ne_true]
    dsimp only
    rw [hfield, hterm, normalizeField_of_canonical hcase, if_neg (by simpa using hne),
      String.ofList_toList, String.ofList_toList]

end Block

/-! ## Queries as text -/

theorem not_mem_intercalate {c : Char} {sep : List Char} {texts : List (List Char)}
    (hsep : c ∉ sep) (htexts : ∀ text ∈ texts, c ∉ text) : c ∉ sep.intercalate texts := by
  induction texts with
  | nil => exact List.not_mem_nil
  | cons text texts ih =>
    obtain ⟨htext, hrest⟩ := List.forall_mem_cons.mp htexts
    cases texts with
    | nil => rwa [List.intercalate_singleton]
    | cons next texts =>
      rw [List.intercalate_cons_cons, List.mem_append, List.mem_append, not_or, not_or]
      exact ⟨⟨htext, hsep⟩, ih hrest⟩

/-- **Parsing inverts printing.** The texts of canonical blocks, joined by the delimiter, are parsed
to these blocks, if there is nothing in them to sanitize and no delimiter to cut at, not even
together with the blank that follows. -/
theorem parse_intercalate_text {blocks : List Block} (hne : blocks ≠ [])
    (hcanonical : ∀ block ∈ blocks, block.IsCanonical)
    (hsafe : ∀ block ∈ blocks, ∀ c ∈ unsafeChars, c ∉ block.text.toList)
    (hdelimiter : ∀ block ∈ blocks, ¬ HasDelimiter (block.text.toList ++ [' '])) :
    parse (" AND ".intercalate (blocks.map Block.text)) = blocks := by
  have hsanitized : sanitizeChars (" AND ".intercalate (blocks.map Block.text)).toList
      = " AND ".toList.intercalate (blocks.map (·.text.toList)) := by
    rw [String.toList_intercalate, List.map_map]
    refine sanitizeChars_of_not_mem fun c hc ↦ not_mem_intercalate ?_ ?_
    · have hsep : ∀ c ∈ unsafeChars, c ∉ " AND ".toList :=
        forall_mem_unsafeChars.mpr (by decide)
      exact hsep c hc
    · exact List.forall_mem_map.mpr fun block hblock ↦ hsafe block hblock c hc
  have hsplit : splitChars (" AND ".toList.intercalate (blocks.map (·.text.toList)))
      = blocks.map (·.text.toList) := by
    refine splitChars_intercalate ⟨'A', 'N', 'D', rfl, rfl⟩ (by simpa using hne) ?_
    exact List.forall_mem_map.mpr hdelimiter
  rw [parse, hsanitized, hsplit, List.map_map]
  calc blocks.map (Block.ofChars ∘ (·.text.toList))
      = blocks.map id := by
        refine List.map_congr_left fun block hblock ↦ ?_
        exact Block.ofChars_text (hcanonical block hblock)
          (hsafe block hblock '\\' (by decide))
    _ = blocks := List.map_id blocks

/-- Blocks that come close to being read otherwise: an identifier with its colon, a term that begins
with the word of the delimiter, one with most of a delimiter at its end and with later colons, an
encoded identifier in mixed case, and nothing at all. -/
def borderlineBlocks : List Block :=
  [⟨none, "http://www.tao.lu/Ontologies/TAOItem.rdf#i1"⟩, ⟨none, "and AN"⟩,
    ⟨some "label", "and: x AN"⟩, ⟨some "http_2_host_1_Onto_3_Color", ""⟩, ⟨none, ""⟩]

theorem parse_borderlineBlocks :
    borderlineBlocks ≠ [] ∧
    (∀ block ∈ borderlineBlocks, block.IsCanonical) ∧
    (∀ block ∈ borderlineBlocks, ∀ c ∈ unsafeChars, c ∉ block.text.toList) ∧
    (∀ block ∈ borderlineBlocks, ¬ HasDelimiter (block.text.toList ++ [' '])) ∧
    parse ("http://www.tao.lu/Ontologies/TAOItem.rdf#i1 AND and AN AND label:and: x AN AND " ++
      "http_2_host_1_Onto_3_Color: AND ") = borderlineBlocks := by
  have hne : borderlineBlocks ≠ [] := by decide
  have hcanonical : ∀ block ∈ borderlineBlocks, block.IsCanonical := by decide +kernel
  have htexts : ∀ block ∈ borderlineBlocks, '"' ∉ block.text.toList ∧ '\'' ∉ block.text.toList ∧
      '\\' ∉ block.text.toList ∧ '&' ∉ block.text.toList := by decide +kernel
  have hsafe : ∀ block ∈ borderlineBlocks, ∀ c ∈ unsafeChars, c ∉ block.text.toList :=
    fun block hblock ↦ forall_mem_unsafeChars.mpr (htexts block hblock)
  have hdelimiter : ∀ block ∈ borderlineBlocks, ¬ HasDelimiter (block.text.toList ++ [' ']) := by
    decide +kernel
  refine ⟨hne, hcanonical, hsafe, hdelimiter, ?_⟩
  rw [← parse_intercalate_text hne hcanonical hsafe hdelimiter]
  rfl

end Query

end ResourceSearch
