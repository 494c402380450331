import Mathlib.Data.List.Forall2
import ResourceSearch.Script

/-!
# The grammar of update scripts

What a script says is fixed by a grammar, apart from how scripts are printed. A literal stands in
single quotes, and a backslash in it escapes a quote or a backslash; a statement is one of three
templates around literals; statements are joined by blanks. Every printed script derives from the
grammar, and no text derives from it in two ways: names and values cannot be read as anything else,
whatever characters they are made of.

## Telling where a piece ends

A piece of a script is followed by other text, so reading a piece in one way is not enough: what it
is and where it ends have to follow from the text together. `SelfDelimiting` says this of a kind of
piece. Literals are, by induction on the text between the quotes; templates are if their literals
are; and pieces that are joined are found one by one, as long as what follows the last of them
starts neither like a separator nor like a piece.
-/

namespace ResourceSearch.Script

/-! ## The grammar -/

/-- `cs` stands between the quotes of a literal for `text`. -/
inductive SpellsContent : List Char → List Char → Prop
  | nil : SpellsContent [] []
  | plain {c : Char} {cs text : List Char} :
      c ≠ '\'' → c ≠ '\\' → SpellsContent cs text → SpellsContent (c :: cs) (c :: text)
  | escaped {c : Char} {cs text : List Char} :
      c = '\'' ∨ c = '\\' → SpellsContent cs text → SpellsContent ('\\' :: c :: cs) (c :: text)

/-- A literal: quotes around its content. -/
inductive SpellsLiteral : List Char → String → Prop
  | quoted {cs : List Char} {text : String} :
      SpellsContent cs text.toList → SpellsLiteral ('\'' :: cs ++ ['\'']) text

/-- A list of literals, with commas and blanks between them. -/
inductive SpellsValues : List Char → List String → Prop
  | joined {literals : List (List Char)} {values : List String} :
      List.Forall₂ SpellsLiteral literals values →
        SpellsValues (", ".toList.intercalate literals) values

inductive SpellsStatement : List Char → Statement → Prop
  | copy {cs ds : List Char} {source target : String} :
      SpellsLiteral cs target → SpellsLiteral ds source →
        SpellsStatement
          ("ctx._source[".toList ++ cs ++ "] = ctx._source[".toList ++ ds ++ "];".toList)
          (.copy source target)
  | remove {cs : List Char} {name : String} :
      SpellsLiteral cs name →
        SpellsStatement ("ctx._source.remove(".toList ++ cs ++ ");".toList) (.remove name)
  | assign {cs ds : List Char} {name : String} {values : List String} :
      SpellsLiteral cs name → SpellsValues ds values →
        SpellsStatement ("ctx._source[".toList ++ cs ++ "] = [".toList ++ ds ++ "];".toList)
          (.assign name values)

/-- A script: statements with blanks between them. -/
inductive Spells : List Char → Script → Prop
  | joined {statements : List (List Char)} {script : Script} :
      List.Forall₂ SpellsStatement statements script →
        Spells (" ".toList.intercalate statements) script

/-! ## Printed scripts derive from the grammar -/

theorem spellsContent_quoteChar (text : List Char) :
    SpellsContent (text.flatMap quoteChar) text := by
  induction text with
  | nil => exact .nil
  | cons c text ih =>
    rw [List.flatMap_cons, quoteChar]
    by_cases hc : c = '\\' ∨ c = '\''
    · rw [if_pos (by simpa using hc)]
      exact .escaped hc.symm ih
    · rw [if_neg (by simpa using hc)]
      exact .plain (fun h ↦ hc (.inr h)) (fun h ↦ hc (.inl h)) ih

theorem spellsLiteral_literal (text : String) : SpellsLiteral (literal text).toList text := by
  rw [literal, String.toList_ofList]
  exact .quoted (spellsContent_quoteChar text.toList)

theorem spellsValues_literals (values : List String) :
    SpellsValues (", ".intercalate (values.map literal)).toList values := by
  rw [String.toList_intercalate, List.map_map]
  refine .joined ?_
  rw [List.forall₂_map_left_iff, List.forall₂_same]
  exact fun value _ ↦ spellsLiteral_literal value

theorem spellsStatement_text (statement : Statement) :
    SpellsStatement statement.text.toList statement := by
  have hend : "];" = "]" ++ ";" := by decide
  cases statement with
  | copy source target =>
    have hmiddle : "] = ctx._source[" = "]" ++ " = " ++ "ctx._source[" := by decide
    have h := SpellsStatement.copy (spellsLiteral_literal target) (spellsLiteral_literal source)
    change SpellsStatement (fieldText target ++ " = " ++ fieldText source ++ ";").toList _
    simp only [hmiddle, hend, fieldText, String.toList_append, List.append_assoc] at h ⊢
    exact h
  | remove name =>
    have h := SpellsStatement.remove (spellsLiteral_literal name)
    change SpellsStatement ("ctx._source.remove(" ++ literal name ++ ");").toList _
    simp only [String.toList_append]
    exact h
  | assign name values =>
    have hmiddle : "] = [" = "]" ++ " = [" := by decide
    have h := SpellsStatement.assign (spellsLiteral_literal name) (spellsValues_literals values)
    change SpellsStatement
      (fieldText name ++ " = [" ++ ", ".intercalate (values.map literal) ++ "];").toList _
    simp only [hmiddle, fieldText, String.toList_append, List.append_assoc] at h ⊢
    exact h

theorem spells_text (script : Script) : Spells (text script).toList script := by
  rw [text, String.toList_intercalate, List.map_map]
  refine .joined ?_
  rw [List.forall₂_map_left_iff, List.forall₂_same]
  exact fun statement _ ↦ spellsStatement_text statement

/-! ## Pieces that show where they end -/

/-- A text that spells something does so in one way, and shows where it ends, whatever follows. -/
def SelfDelimiting {α : Type} (R : List Char → α → Prop) : Prop :=
  ∀ {cs ds rest rest' : List Char} {a b : α},
    R cs a → R ds b → cs ++ rest = ds ++ rest' → a = b ∧ rest = rest'

theorem SpellsContent.eq_of_append {cs ds a b rest rest' : List Char} (h : SpellsContent cs a)
    (h' : SpellsContent ds b) (heq : cs ++ '\'' :: rest = ds ++ '\'' :: rest') :
    a = b ∧ rest = rest' := by
  induction h generalizing ds b with
  | nil =>
    cases h' with
    | nil => exact ⟨rfl, (List.cons.inj heq).2⟩
    | plain hquote _ _ => exact absurd (List.cons.inj heq).1.symm hquote
    | escaped _ _ => exact absurd (List.cons.inj heq).1 (by decide)
  | plain hquote hslash _ ih =>
    cases h' with
    | nil => exact absurd (List.cons.inj heq).1 hquote
    | plain _ _ h' =>
      obtain ⟨rfl, htail⟩ := List.cons.inj heq
      obtain ⟨rfl, hrest⟩ := ih h' htail
      exact ⟨rfl, hrest⟩
    | escaped _ _ => exact absurd (List.cons.inj heq).1 hslash
  | escaped _ _ ih =>
    cases h' with
    | nil => exact absurd (List.cons.inj heq).1 (by decide)
    | plain _ hslash _ => exact absurd (List.cons.inj heq).1.symm hslash
    | escaped _ h' =>
      obtain ⟨rfl, htail⟩ := List.cons.inj (List.cons.inj heq).2
      obtain ⟨rfl, hrest⟩ := ih h' htail
      exact ⟨rfl, hrest⟩

theorem selfDelimiting_spellsLiteral : SelfDelimiting SpellsLiteral := by
  rintro _ _ rest rest' a b ⟨h⟩ ⟨h'⟩ heq
  rw [List.cons_append, List.cons_append, List.append_assoc, List.append_assoc] at heq
  obtain ⟨htext, hrest⟩ := h.eq_of_append h' (List.cons.inj heq).2
  exact ⟨String.toList_inj.mp htext, hrest⟩

/-! ### Joined pieces -/

section

variable {α : Type} {R : List Char → α → Prop} {sep rest rest' : List Char}
  {pieces pieces' : List (List Char)} {as bs : List α}

theorem intercalate_cons (sep piece : List Char) (pieces : List (List Char)) :
    sep.intercalate (piece :: pieces) = piece ++ pieces.flatMap (sep ++ ·) := by
  induction pieces generalizing piece with
  | nil => rw [List.intercalate_singleton, List.flatMap_nil, List.append_nil]
  | cons next pieces ih =>
    rw [List.intercalate_cons_cons, ih next, List.flatMap_cons]
    simp only [List.append_assoc]

/-- Pieces that stand behind separators each, up to a text that does not start with one. -/
theorem SelfDelimiting.eq_of_flatMap (hR : SelfDelimiting R) (h : List.Forall₂ R pieces as)
    (h' : List.Forall₂ R pieces' bs) (hrest : ∀ more, rest ≠ sep ++ more)
    (hrest' : ∀ more, rest' ≠ sep ++ more)
    (heq : pieces.flatMap (sep ++ ·) ++ rest = pieces'.flatMap (sep ++ ·) ++ rest') :
    as = bs ∧ rest = rest' := by
  induction h generalizing pieces' bs with
  | nil =>
    cases h' with
    | nil => exact ⟨rfl, heq⟩
    | cons _ _ =>
      rw [List.flatMap_cons, List.append_assoc, List.append_assoc] at heq
      exact absurd heq (hrest _)
  | cons hpiece _ ih =>
    cases h' with
    | nil =>
      rw [List.flatMap_cons, List.append_assoc, List.append_assoc] at heq
      exact absurd heq.symm (hrest' _)
    | cons hpiece' h' =>
      simp only [List.flatMap_cons, List.append_assoc] at heq
      obtain ⟨rfl, htail⟩ := hR hpiece hpiece' (List.append_cancel_left heq)
      obtain ⟨rfl, hend⟩ := ih h' htail
      exact ⟨rfl, hend⟩

/-- Pieces with separators between them, up to a text that starts neither with a separator nor with
a piece. -/
theorem SelfDelimiting.eq_of_intercalate (hR : SelfDelimiting R) (h : List.Forall₂ R pieces as)
    (h' : List.Forall₂ R pieces' bs) (hrest : ∀ more, rest ≠ sep ++ more)
    (hrest' : ∀ more, rest' ≠ sep ++ more) (hpieces : ∀ cs a more, R cs a → rest ≠ cs ++ more)
    (hpieces' : ∀ cs a more, R cs a → rest' ≠ cs ++ more)
    (heq : sep.intercalate pieces ++ rest = sep.intercalate pieces' ++ rest') :
    as = bs ∧ rest = rest' := by
  cases h with
  | nil =>
    cases h' with
    | nil => exact ⟨rfl, heq⟩
    | cons hpiece' _ =>
      rw [intercalate_cons, List.append_assoc] at heq
      exact absurd heq (hpieces _ _ _ hpiece')
  | cons hpiece h =>
    cases h' with
    | nil =>
      rw [intercalate_cons, List.append_assoc] at heq
      exact absurd heq.symm (hpieces' _ _ _ hpiece)
    | cons hpiece' h' =>
      rw [intercalate_cons, intercalate_cons, List.append_assoc, List.append_assoc] at heq
      obtain ⟨rfl, htail⟩ := hR hpiece hpiece' heq
      obtain ⟨rfl, hend⟩ := hR.eq_of_flatMap h h' hrest hrest' htail
      exact ⟨rfl, hend⟩

end

/-! ## No text derives in two ways -/

/-- A list of values is closed by a bracket, which neither a comma nor a literal starts with. -/
theorem SpellsValues.eq_of_append {cs ds rest rest' : List Char} {values values' : List String}
    (h : SpellsValues cs values) (h' : SpellsValues ds values')
    (heq : cs ++ ("];".toList ++ rest) = ds ++ ("];".toList ++ rest')) :
    values = values' ∧ rest = rest' := by
  obtain ⟨hliterals⟩ := h
  obtain ⟨hliterals'⟩ := h'
  have hcomma : ∀ rest more : List Char, "];".toList ++ rest ≠ ", ".toList ++ more := by
    intro rest more heq
    simp at heq
  have hquote : ∀ (rest : List Char) (cs : List Char) (value : String) (more : List Char),
      SpellsLiteral cs value → "];".toList ++ rest ≠ cs ++ more := by
    rintro rest _ value more ⟨-⟩ heq
    simp at heq
  obtain ⟨hvalues, hrest⟩ := selfDelimiting_spellsLiteral.eq_of_intercalate hliterals hliterals'
    (hcomma rest) (hcomma rest') (hquote rest) (hquote rest') heq
  exact ⟨hvalues, List.append_cancel_left hrest⟩

theorem selfDelimiting_spellsStatement : SelfDelimiting SpellsStatement := by
  intro _ _ rest rest' statement statement' h h' heq
  cases h with
  | copy htarget hsource =>
    cases h' with
    | copy htarget' hsource' =>
      simp only [List.append_assoc] at heq
      obtain ⟨rfl, hmiddle⟩ :=
        selfDelimiting_spellsLiteral htarget htarget' (List.append_cancel_left heq)
      obtain ⟨rfl, hend⟩ :=
        selfDelimiting_spellsLiteral hsource hsource' (List.append_cancel_left hmiddle)
      exact ⟨rfl, List.append_cancel_left hend⟩
    | remove _ => simp at heq
    | assign hname _ =>
      -- the templates agree up to what is written after the first literal
      simp only [List.append_assoc] at heq
      obtain ⟨-, hmiddle⟩ :=
        selfDelimiting_spellsLiteral htarget hname (List.append_cancel_left heq)
      simp at hmiddle
  | remove hname =>
    cases h' with
    | copy _ _ => simp at heq
    | remove hname' =>
      simp only [List.append_assoc] at heq
      obtain ⟨rfl, hend⟩ := selfDelimiting_spellsLiteral hname hname' (List.append_cancel_left heq)
      exact ⟨rfl, List.append_cancel_left hend⟩
    | assign _ _ => simp at heq
  | assign hname hvalues =>
    cases h' with
    | copy htarget _ =>
      simp only [List.append_assoc] at heq
      obtain ⟨-, hmiddle⟩ :=
        selfDelimiting_spellsLiteral hname htarget (List.append_cancel_left heq)
      simp at hmiddle
    | remove _ => simp at heq
    | assign hname' hvalues' =>
      simp only [List.append_assoc] at heq
      obtain ⟨rfl, hmiddle⟩ :=
        selfDelimiting_spellsLiteral hname hname' (List.append_cancel_left heq)
      obtain ⟨rfl, hrest⟩ := hvalues.eq_of_append hvalues' (List.append_cancel_left hmiddle)
      exact ⟨rfl, hrest⟩

theorem SpellsStatement.ne_nil {cs : List Char} {statement : Statement}
    (h : SpellsStatement cs statement) : cs ≠ [] := by
  cases h <;> simp

/-- **No script can be read in two ways.** -/
theorem Spells.unique {cs ds : List Char} {script script' : Script} (h : Spells cs script)
    (h' : Spells ds script') (heq : cs = ds) : script = script' := by
  obtain ⟨hstatements⟩ := h
  obtain ⟨hstatements'⟩ := h'
  have hblank : ∀ more : List Char, [] ≠ " ".toList ++ more := by
    intro more heq
    simp at heq
  have hstatement : ∀ (cs : List Char) (statement : Statement) (more : List Char),
      SpellsStatement cs statement → [] ≠ cs ++ more := by
    intro cs statement more h heq
    exact h.ne_nil (List.append_eq_nil_iff.mp heq.symm).1
  -- nothing follows the last statement
  have hend := congrArg (· ++ ([] : List Char)) heq
  exact (selfDelimiting_spellsStatement.eq_of_intercalate hstatements hstatements' hblank hblank
    hstatement hstatement hend).1

/-- A printed script says what was printed and nothing else. -/
theorem spells_text_iff {script script' : Script} :
    Spells (text script).toList script' ↔ script' = script := by
  constructor
  · intro h
    exact h.unique (spells_text script) rfl
  · rintro rfl
    exact spells_text script'

end ResourceSearch.Script
