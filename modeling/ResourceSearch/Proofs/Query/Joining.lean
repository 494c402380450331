import ResourceSearch.Proofs.Query.Isolation
import ResourceSearch.Proofs.Query.References

/-!
# Joining queries

Two queries that are joined by the word AND ask for what both of them ask for. Parsing does not see
the join, only the text that it leads to: a reference at the end of the first query or a delimiter
at either side of the word could reach into the other query, and quotes that are dropped could make
up a word that nobody typed.

## Why nothing reaches across

The word has a blank on either side. A blank is no part of a reference, so a text is decoded on its
two sides apart (`decodeAll_append_blank`), and so the sanitized text of the joined query is that of
the two queries with the same word between them. There it is a matter of delimiters alone, and
`splitChars_append_of_not_endsInWord` says that they are cut as they are one by one, unless the
first text ends in the word already. The blocks then follow each other, and so do their conditions.
-/

namespace ResourceSearch.Query

/-! ## Sanitizing on both sides of the word -/

theorem sanitizeChars_append_blank (before after : List Char) :
    sanitizeChars (before ++ ' ' :: after)
      = sanitizeChars before ++ ' ' :: sanitizeChars after := by
  have hblank : cleanChar ' ' = [' '] := cleanChar_of_ne (by decide) (by decide) (by decide)
  rw [sanitizeChars, CharacterReference.decodeAll_append_blank, List.flatMap_append,
    List.flatMap_cons, hblank]
  rfl

theorem sanitizeChars_of_isAnd {a n d : Char} (h : isAnd a n d = true) :
    sanitizeChars [a, n, d] = [a, n, d] := by
  simp only [isAnd, Bool.and_eq_true, Bool.or_eq_true, decide_eq_true_eq] at h
  obtain ⟨⟨ha, hn⟩, hd⟩ := h
  refine sanitizeChars_of_not_mem (forall_mem_unsafeChars.mpr ?_)
  rcases ha with rfl | rfl <;> rcases hn with rfl | rfl <;> rcases hd with rfl | rfl <;> decide

theorem sanitizeChars_append_delimiter {delimiter : List Char} (h : IsDelimiter delimiter)
    (before after : List Char) :
    sanitizeChars (before ++ delimiter ++ after)
      = sanitizeChars before ++ delimiter ++ sanitizeChars after := by
  obtain ⟨a, n, d, hand, rfl⟩ := h
  have hword : [a, n, d, ' '] ++ after = [a, n, d] ++ ' ' :: after := rfl
  rw [List.append_assoc, List.cons_append, sanitizeChars_append_blank, hword,
    sanitizeChars_append_blank, sanitizeChars_of_isAnd hand]
  simp

theorem parse_append {a word b : String} (hword : IsDelimiter word.toList)
    (h : ¬ EndsInWord (sanitize a).toList) : parse (a ++ word ++ b) = parse a ++ parse b := by
  rw [sanitize, String.toList_ofList] at h
  rw [parse, parse, parse, String.toList_append, String.toList_append,
    sanitizeChars_append_delimiter hword, splitChars_append_of_not_endsInWord h hword,
    List.map_append]

/-! ## Conditions of both -/

theorem conditions_append (index : String) (blocks others : List Block) :
    conditions index (blocks ++ others) = conditions index blocks ++ conditions index others := by
  rw [conditions, conditions, conditions]
  split
  · rw [resultConditions, List.filter_append, List.map_append]
    rfl
  · rw [List.map_append]

theorem parenthesized_ne_empty (text : String) : parenthesized text ≠ "" := by
  simp [parenthesized]

theorem ne_empty_of_mem_conditions {index condition : String} {blocks : List Block}
    (h : condition ∈ conditions index blocks) : condition ≠ "" := by
  rw [conditions] at h
  split at h
  · obtain ⟨block, -, rfl⟩ := List.mem_map.mp h
    exact parenthesized_ne_empty _
  · obtain ⟨block, -, rfl⟩ := List.mem_map.mp h
    rw [Block.condition]
    split
    · exact parenthesized_ne_empty _
    · split
      · exact parenthesized_ne_empty _
      · exact parenthesized_ne_empty _

theorem conjunction_eq_empty_iff {conditions : List String}
    (h : ∀ condition ∈ conditions, condition ≠ "") :
    conjunction conditions = "" ↔ conditions = [] := by
  constructor
  · intro hempty
    cases conditions with
    | nil => rfl
    | cons condition rest =>
      have hcondition : condition ≠ "" := h condition List.mem_cons_self
      cases rest with
      | nil => exact absurd (String.intercalate_singleton.symm.trans hempty) hcondition
      | cons next rest =>
        rw [conjunction, String.intercalate_cons_cons, String.append_eq_empty_iff,
          String.append_eq_empty_iff] at hempty
        exact absurd hempty.1.1 hcondition
  · rintro rfl
    rfl

/-- The text that asks for what two texts ask for; an empty one asks for nothing. -/
def bothTexts (first second : String) : String :=
  if first = "" then second
  else if second = "" then first
  else first ++ " AND " ++ second

theorem conjunction_append {first second : List String}
    (hfirst : ∀ condition ∈ first, condition ≠ "")
    (hsecond : ∀ condition ∈ second, condition ≠ "") :
    conjunction (first ++ second) = bothTexts (conjunction first) (conjunction second) := by
  rw [bothTexts]
  by_cases hnone : first = []
  · rw [if_pos ((conjunction_eq_empty_iff hfirst).mpr hnone), hnone, List.nil_append]
  · rw [if_neg (mt (conjunction_eq_empty_iff hfirst).mp hnone)]
    by_cases hnone' : second = []
    · rw [if_pos ((conjunction_eq_empty_iff hsecond).mpr hnone'), hnone', List.append_nil]
    · rw [if_neg (mt (conjunction_eq_empty_iff hsecond).mp hnone'), conjunction,
        String.intercalate_append_of_ne_nil hnone hnone']
      rfl

namespace Compiler

/-- **Joined queries ask for both.** If the first of two texts does not end in the word once it is
sanitized, then joining them by the word, in any letter case, joins their blocks; and without access
control the text that is compiled for an index is made up of the two texts in the same way, where a
text without conditions is left out. -/
theorem parse_and_compile_joined {a word b : String} (hword : IsDelimiter word.toList)
    (h : ¬ EndsInWord (sanitize a).toList) :
    parse (a ++ word ++ b) = parse a ++ parse b ∧
    ∀ (routing : RoutingTable) (query : UserQuery), ∃ first second : String,
      queryTextOf? (compile ⟨routing, none⟩ { query with text := a }).body = some first ∧
      queryTextOf? (compile ⟨routing, none⟩ { query with text := b }).body = some second ∧
      queryTextOf? (compile ⟨routing, none⟩ { query with text := a ++ word ++ b }).body
        = some (bothTexts first second) ∧
      (first = "" ↔ conditions ⟨routing, none⟩ { query with text := a } = []) ∧
      (second = "" ↔ conditions ⟨routing, none⟩ { query with text := b } = []) := by
  have hparse := parse_append hword h (b := b)
  refine ⟨hparse, fun routing query ↦ ?_⟩
  have hnonempty : ∀ text, ∀ condition ∈ conditions ⟨routing, none⟩ { query with text := text },
      condition ≠ "" := by
    intro text condition hcondition
    rw [conditions_none] at hcondition
    exact ne_empty_of_mem_conditions hcondition
  have hjoined : conditions ⟨routing, none⟩ { query with text := a ++ word ++ b }
      = conditions ⟨routing, none⟩ { query with text := a } ++
          conditions ⟨routing, none⟩ { query with text := b } := by
    rw [conditions_none, conditions_none, conditions_none, hparse, conditions_append]
  refine ⟨_, _, queryTextOf?_compile _ _, queryTextOf?_compile _ _, ?_,
    conjunction_eq_empty_iff (hnonempty a), conjunction_eq_empty_iff (hnonempty b)⟩
  rw [queryTextOf?_compile, hjoined, conjunction_append (hnonempty a) (hnonempty b)]

/-- A query for delivery results whose text is cut off in a reference. -/
def cutOff : UserQuery :=
  ⟨"parent_classes:x AND& y &am", "results", 0, 10, "label", .ascending⟩

theorem parse_joined_cutOff :
    IsDelimiter " aNd ".toList ∧ ¬ EndsInWord (sanitize cutOff.text).toList ∧
      parse (cutOff.text ++ " aNd " ++ "p; and y AND")
        = [⟨some "parent_classes", "x AND& y &am"⟩, ⟨none, "p;"⟩, ⟨none, "y AND"⟩] ∧
      queryTextOf? (compile ⟨.builtIn, none⟩
          { cutOff with text := cutOff.text ++ " aNd " ++ "p; and y AND" }).body
        = some "(\"p;\") AND (\"y AND\")" := by
  have hword : IsDelimiter " aNd ".toList := ⟨'a', 'N', 'd', by decide, by decide⟩
  have hend : ¬ EndsInWord (sanitize cutOff.text).toList := by decide +kernel
  obtain ⟨hparse, hcompile⟩ := parse_and_compile_joined (b := "p; and y AND") hword hend
  obtain ⟨first, second, hfirst, hsecond, hboth, -⟩ := hcompile .builtIn cutOff
  have hfirst' : queryTextOf? (compile ⟨.builtIn, none⟩ cutOff).body = some "" := by
    decide +kernel
  have hsecond' :
      queryTextOf? (compile ⟨.builtIn, none⟩ { cutOff with text := "p; and y AND" }).body
        = some "(\"p;\") AND (\"y AND\")" := by
    decide +kernel
  refine ⟨hword, hend, ?_, ?_⟩
  · rw [hparse]
    decide +kernel
  · obtain rfl := Option.some.inj (hfirst'.symm.trans hfirst)
    obtain rfl := Option.some.inj (hsecond'.symm.trans hsecond)
    exact hboth

end Compiler

end ResourceSearch.Query
