import ResourceSearch.Proofs.Query.Isolation
import ResourceSearch.Proofs.Query.Slugs

/-!
# The names of fields in query text

Outside phrases, what stands before a colon is the name of a field, back to white space or a
parenthesis. Read in this way, the text that is compiled from a query names the fields that its
blocks ask for, in their order, and no others. The engine reads names in this way only if they have
none of the characters that it reserves; all names are safe except for encoded identifiers in which
a slash was left.

## Reading names part by part

As with phrases, a reader of names has to go on after a part as if it had just started. `Names` says
so of tokens, and `Compares` of the text that they are read from. Each template of a condition
leaves the reader at a phrase, at white space or at a parenthesis, where no name is going on.
-/

namespace ResourceSearch.Query

/-! ## Reading names -/

/-- Whether a character ends what could be a name. -/
def endsName (c : Char) : Bool :=
  c = '(' || c = ')' || Text.isBlank c

/-- The names before colons, for a reader that has read `name` since the last end of one. -/
def namesFrom (name : List Char) : List Token → List (List Char)
  | [] => []
  | .phrase _ :: rest => namesFrom [] rest
  | .mark c :: rest =>
    if c = ':' then name :: namesFrom [] rest
    else if endsName c then namesFrom [] rest
    else namesFrom (name ++ [c]) rest

/-- The names of fields among tokens. -/
def fieldNames (tokens : List Token) : List (List Char) :=
  namesFrom [] tokens

/-- Tokens that name fields, and leave a reader where no name is going on. -/
def Names (tokens : List Token) (names : List (List Char)) : Prop :=
  ∀ rest, namesFrom [] (tokens ++ rest) = names ++ namesFrom [] rest

theorem Names.append {ts us : List Token} {names names' : List (List Char)} (h : Names ts names)
    (h' : Names us names') : Names (ts ++ us) (names ++ names') := by
  intro rest
  rw [List.append_assoc, h, h', List.append_assoc]

theorem Names.fieldNames {ts : List Token} {names : List (List Char)} (h : Names ts names) :
    fieldNames ts = names := by
  have hnil := h []
  rwa [List.append_nil, namesFrom, List.append_nil] at hnil

/-- A text that can be part of query text, with the names of the fields in it. -/
def Compares (cs : List Char) (names : List (List Char)) : Prop :=
  ∃ tokens, Reads cs tokens ∧ Names tokens names

namespace Compares

variable {cs ds : List Char} {names names' : List (List Char)}

theorem append (h : Compares cs names) (h' : Compares ds names') :
    Compares (cs ++ ds) (names ++ names') := by
  obtain ⟨ts, hts, hnames⟩ := h
  obtain ⟨us, hus, hnames'⟩ := h'
  exact ⟨ts ++ us, hts.append hus, hnames.append hnames'⟩

theorem nil : Compares [] [] :=
  ⟨[], Reads.nil, fun _ ↦ rfl⟩

theorem separator {word : List Char} (hquote : '"' ∉ word)
    (h : ∀ rest, namesFrom [] (word.map .mark ++ rest) = namesFrom [] rest) : Compares word [] :=
  ⟨word.map .mark, Reads.marks hquote, h⟩

theorem phrase {term : String} (h : isInert false term.toList = true) :
    Compares (Query.phrase term).toList [] := by
  have htext : (Query.phrase term).toList = '"' :: term.toList ++ ['"'] := by
    simp [Query.phrase]
  rw [htext]
  exact ⟨[.phrase term.toList], Reads.phrase h, fun _ ↦ rfl⟩

theorem parenthesized {text : String} (h : Compares text.toList names) :
    Compares (Query.parenthesized text).toList names := by
  have htext : (Query.parenthesized text).toList = ['('] ++ text.toList ++ [')'] := by
    simp [Query.parenthesized]
  have hopen : Compares ['('] [] := separator (by decide) fun _ ↦ rfl
  have hclose : Compares [')'] [] := separator (by decide) fun _ ↦ rfl
  have hwhole := (hopen.append h).append hclose
  rwa [List.nil_append, List.append_nil, ← htext] at hwhole

theorem intercalate (hsep : Compares ds []) {texts : List (List Char)}
    {nameLists : List (List (List Char))} (h : List.Forall₂ Compares texts nameLists) :
    Compares (ds.intercalate texts) nameLists.flatten := by
  rw [← nil_intercalate]
  exact rel_intercalate nil append hsep h

end Compares

/-- What can be read as a name, up to a colon. -/
def IsName (name : List Char) : Prop :=
  ∀ c ∈ name, c ≠ ':' ∧ c ≠ '"' ∧ endsName c = false

theorem namesFrom_append_colon {name : List Char} (h : IsName name) (read : List Char)
    (rest : List Token) :
    namesFrom read ((name ++ [':']).map .mark ++ rest) = (read ++ name) :: namesFrom [] rest := by
  induction name generalizing read with
  | nil => simp [namesFrom]
  | cons c name ih =>
    obtain ⟨⟨hcolon, -, hends⟩, hname⟩ := List.forall_mem_cons.mp h
    rw [List.cons_append, List.map_cons, List.cons_append, namesFrom, if_neg hcolon, hends,
      if_neg Bool.false_ne_true, ih hname, List.append_assoc, List.singleton_append]

theorem Compares.fieldPhrase {field term : String} (hfield : IsName field.toList)
    (h : isInert false term.toList = true) :
    Compares (Query.fieldPhrase field term).toList [field.toList] := by
  have hname : Compares (field.toList ++ [':']) [field.toList] := by
    refine ⟨(field.toList ++ [':']).map .mark, Reads.marks ?_, namesFrom_append_colon hfield []⟩
    intro hquote
    rcases List.mem_append.mp hquote with hquote | hquote
    · exact (hfield '"' hquote).2.1 rfl
    · simp at hquote
  have htext : (Query.fieldPhrase field term).toList
      = field.toList ++ [':'] ++ (Query.phrase term).toList := by
    simp [Query.fieldPhrase]
  rw [htext]
  exact hname.append (Compares.phrase h)

/-! ## The fields of blocks -/

/-- The fields that a block asks for in an index; the index of delivery results knows none. -/
def Block.fields (index : String) (block : Block) : List String :=
  if index = Index.deliveryResults then []
  else
    match block.field with
    | none => []
    | some field => if isStandardField field then [field] else propertyFields field

theorem Block.fields_of_none {index : String} {block : Block} (hfield : block.field = none) :
    block.fields index = [] := by
  rw [Block.fields, hfield, ite_self]

theorem Block.fields_of_some {index field : String} {block : Block}
    (hindex : index ≠ Index.deliveryResults) (hfield : block.field = some field) :
    block.fields index = if isStandardField field then [field] else propertyFields field := by
  rw [Block.fields, if_neg hindex, hfield]

theorem propertyFields_eq_iff {field : String} {name : String} :
    (propertyFields field).map String.toList
        = widgets.map (fun widget ↦ (widget ++ "_" ++ name).toList) ↔
      propertyName field = name := by
  constructor
  · intro h
    have hhead : ("HTMLArea" ++ "_" ++ propertyName field).toList
        = ("HTMLArea" ++ "_" ++ name).toList := by
      have hfirst := congrArg List.head? h
      simpa [propertyFields, widgets] using hfirst
    simp only [String.toList_append] at hhead
    exact String.toList_inj.mp (List.append_cancel_left hhead)
  · rintro rfl
    rw [propertyFields, List.map_map]
    rfl

/-- The characters that the engine reserves, as far as a name could hold them. -/
def reserved : List Char :=
  ['+', '=', '&', '|', '>', '<', '!', '(', ')', '\x7b', '\x7d', '[', ']', '^', '"', '~', '*', '?',
    ':', '\\', '/']

/-- A name that the engine reads as a name. -/
def IsFieldSafe (name : List Char) : Prop :=
  ∀ c ∈ name, Text.isBlank c = false ∧ c ∉ reserved

/-- A character that the engine takes no note of in a name, unless it is a slash. -/
def IsHarmless (c : Char) : Prop :=
  Text.isBlank c = false ∧ (c ∈ reserved → c = '/')

instance : DecidablePred IsHarmless := fun _ ↦ inferInstanceAs (Decidable (_ ∧ (_ → _)))

theorem isFieldSafe_iff {name : List Char} (h : ∀ c ∈ name, IsHarmless c) :
    IsFieldSafe name ↔ '/' ∉ name := by
  constructor
  · exact fun hsafe hslash ↦ (hsafe '/' hslash).2 (by decide)
  · intro hslash c hc
    refine ⟨(h c hc).1, fun hreserved ↦ ?_⟩
    rw [(h c hc).2 hreserved] at hc
    exact hslash hc

theorem IsHarmless.endsName {c : Char} (h : IsHarmless c) :
    c ≠ ':' ∧ c ≠ '"' ∧ endsName c = false := by
  have hall : ∀ d ∈ [':', '"', '(', ')'], c ≠ d := by
    rintro d hd rfl
    have hnone : ∀ d ∈ [':', '"', '(', ')'], ¬ (d ∈ reserved → d = '/') :=
      List.all_iff_forall_prop.mp (by decide)
    exact hnone c hd h.2
  refine ⟨hall _ (by decide), hall _ (by decide), ?_⟩
  simp [Query.endsName, hall '(' (by decide), hall ')' (by decide), h.1]

theorem isHarmless_of_isAlphanumeric {c : Char} (h : Text.isAlphanumeric c = true) :
    IsHarmless c := by
  have hreserved : ∀ d ∈ reserved, Text.isAlphanumeric d = false :=
    List.all_iff_forall_prop.mp (by decide)
  refine ⟨Text.isBlank_of_isAlphanumeric h, fun hmem ↦ ?_⟩
  rw [hreserved c hmem] at h
  cases h

theorem isHarmless_of_isPathChar {c : Char} (h : Identifier.isPathChar c = true)
    (hcolon : c ≠ ':') : IsHarmless c := by
  have hreserved : ∀ d ∈ reserved, Identifier.isPathChar d = true → d = ':' ∨ d = '/' :=
    List.all_iff_forall_prop.mp (by decide)
  refine ⟨?_, fun hmem ↦ (hreserved c hmem h).resolve_left hcolon⟩
  have hcode : 45 ≤ c.toNat ∧ c.toNat ≤ 122 := by
    simp only [Identifier.isPathChar, Identifier.isFragmentChar, Bool.or_eq_true,
      decide_eq_true_eq] at h
    rcases h with (((((halpha | rfl) | rfl) | rfl) | rfl) | rfl)
    · have := Text.isAsciiAlphanumeric_iff.mp halpha
      omega
    all_goals decide
  simp only [Text.isBlank, Bool.or_eq_false_iff, Bool.and_eq_false_iff, decide_eq_false_iff_not]
  omega

/-- The words that names begin with, or consist of, have no other characters than fragments. -/
theorem isFragmentChar_of_mem_standardFields {word : String} (hword : word ∈ standardFields)
    {c : Char} (hc : c ∈ word.toList) : Identifier.isFragmentChar c = true := by
  have hwords : ∀ word ∈ standardFields, word.toList.all Identifier.isFragmentChar = true := by
    decide
  exact List.all_eq_true.mp (hwords word hword) c hc

theorem isFragmentChar_of_mem_widgets {widget : String} (hwidget : widget ∈ widgets) {c : Char}
    (hc : c ∈ (widget ++ "_").toList) : Identifier.isFragmentChar c = true := by
  have hwidgets : ∀ widget ∈ widgets,
      (widget ++ "_").toList.all Identifier.isFragmentChar = true := by
    decide
  exact List.all_eq_true.mp (hwidgets widget hwidget) c hc

theorem isHarmless_of_isFragmentChar {c : Char} (h : Identifier.isFragmentChar c = true) :
    IsHarmless c := by
  refine isHarmless_of_isPathChar (Identifier.isPathChar_of_isFragmentChar h) ?_
  rintro rfl
  exact absurd h (by decide)

theorem isHarmless_of_mem_slug {label : String} {c : Char} (h : c ∈ (slug label).toList) :
    IsHarmless c := by
  rcases mem_slug h with h | rfl | rfl
  · exact isHarmless_of_isAlphanumeric h
  · decide
  · decide

section

variable {text : String} {block : Block} {index : String}

theorem isHarmless_of_mem_propertyName {field : String} (hblock : block ∈ parse text)
    (hfield : block.field = some field) {c : Char} (hc : c ∈ (propertyName field).toList) :
    IsHarmless c := by
  rw [propertyName] at hc
  split at hc
  · rename_i hencoded
    rcases Identifier.isPathChar_of_mem_encoded hencoded hc with hpath | rfl
    · refine isHarmless_of_isPathChar hpath ?_
      rintro rfl
      exact colon_not_mem_of_parsed hblock hfield hencoded hc
    · decide
  · exact isHarmless_of_mem_slug hc

/-- **Names hold nothing that the engine reserves, but for slashes.** -/
theorem isHarmless_of_mem_fields {name : String} (hblock : block ∈ parse text)
    (hname : name ∈ block.fields index) {c : Char} (hc : c ∈ name.toList) : IsHarmless c := by
  by_cases hindex : index = Index.deliveryResults
  · rw [Block.fields, if_pos hindex] at hname
    cases hname
  · cases hfield : block.field with
    | none =>
      rw [Block.fields_of_none hfield] at hname
      cases hname
    | some field =>
      rw [Block.fields_of_some hindex hfield] at hname
      split at hname
      · rename_i hstandard
        rw [List.mem_singleton] at hname
        subst hname
        have hword := mem_standardFields_of_parsed hblock hfield hstandard
        exact isHarmless_of_isFragmentChar (isFragmentChar_of_mem_standardFields hword hc)
      · obtain ⟨widget, hwidget, rfl⟩ := List.mem_map.mp hname
        rw [String.toList_append, List.mem_append] at hc
        rcases hc with hc | hc
        · exact isHarmless_of_isFragmentChar (isFragmentChar_of_mem_widgets hwidget hc)
        · exact isHarmless_of_mem_propertyName hblock hfield hc

theorem slash_mem_propertyName_iff {field : String} :
    '/' ∈ (propertyName field).toList ↔
      Identifier.isEncoded field.toList = true ∧ '/' ∈ field.toList := by
  rw [propertyName]
  split
  · rename_i hencoded
    rw [hencoded]
    simp
  · rename_i hencoded
    exact iff_of_false (fun h ↦ absurd (mem_slug h) (by decide)) fun h ↦ hencoded h.1

theorem exists_slash_mem_fields_iff (hblock : block ∈ parse text)
    (hindex : index ≠ Index.deliveryResults) :
    (∃ name ∈ block.fields index, '/' ∈ name.toList) ↔
      ∃ field, block.field = some field ∧ Identifier.isEncoded field.toList = true ∧
        '/' ∈ field.toList := by
  cases hfield : block.field with
  | none => simp [Block.fields_of_none hfield]
  | some field =>
    rw [Block.fields_of_some hindex hfield]
    simp only [Option.some.injEq, exists_eq_left']
    split
    · rename_i hstandard
      have hword := mem_standardFields_of_parsed hblock hfield hstandard
      have hnot : '/' ∉ field.toList := fun hmem ↦
        absurd (isFragmentChar_of_mem_standardFields hword hmem) (by decide)
      refine iff_of_false ?_ fun h ↦ hnot h.2
      rintro ⟨name, hname, hmem⟩
      rw [List.mem_singleton] at hname
      exact hnot (hname ▸ hmem)
    · rw [← slash_mem_propertyName_iff]
      constructor
      · rintro ⟨name, hname, hmem⟩
        obtain ⟨widget, hwidget, rfl⟩ := List.mem_map.mp hname
        rw [String.toList_append, List.mem_append] at hmem
        exact hmem.resolve_left fun hmem ↦
          absurd (isFragmentChar_of_mem_widgets hwidget hmem) (by decide)
      · intro hmem
        have hwidget : "TextBox" ∈ widgets := by decide
        refine ⟨_, List.mem_map.mpr ⟨"TextBox", hwidget, rfl⟩, ?_⟩
        rw [String.toList_append, List.mem_append]
        exact .inr hmem

end

/-! ## Names in conditions -/

theorem compares_propertyFields {field term : String}
    (hnames : ∀ name ∈ propertyFields field, IsName name.toList)
    (hterm : isInert false term.toList = true) :
    Compares
      (" OR ".intercalate ((propertyFields field).map (fieldPhrase · term))).toList
      ((propertyFields field).map String.toList) := by
  have hall : List.Forall₂ Compares
      (((propertyFields field).map (fieldPhrase · term)).map String.toList)
      ((propertyFields field).map fun name ↦ [name.toList]) := by
    rw [List.map_map, forall₂_map_iff]
    exact fun name hname ↦ Compares.fieldPhrase (hnames name hname) hterm
  have hsep : Compares " OR ".toList [] := .separator (by decide) fun _ ↦ rfl
  have hjoined := Compares.intercalate hsep hall
  rwa [← List.flatMap_def, ← List.map_eq_flatMap, ← String.toList_intercalate] at hjoined

theorem compares_condition {text : String} {block : Block} (hblock : block ∈ parse text)
    {index : String} (hindex : index ≠ Index.deliveryResults) :
    Compares block.condition.toList ((block.fields index).map String.toList) := by
  have hterm := isInert_term_of_mem_parse hblock
  have hnames : ∀ name ∈ block.fields index, IsName name.toList :=
    fun name hname c hc ↦ (isHarmless_of_mem_fields hblock hname hc).endsName
  rw [Block.condition]
  cases hfield : block.field with
  | none =>
    rw [Block.fields_of_none hfield]
    exact (Compares.phrase hterm).parenthesized
  | some field =>
    rw [Block.fields_of_some hindex hfield] at hnames ⊢
    dsimp only
    split at hnames
    · rename_i hstandard
      rw [if_pos hstandard, if_pos hstandard]
      exact (Compares.fieldPhrase (hnames field (by simp)) hterm).parenthesized
    · rename_i hstandard
      rw [if_neg hstandard, if_neg hstandard]
      exact (compares_propertyFields hnames hterm).parenthesized

theorem compares_conditions (index text : String) :
    Compares (conjunction (conditions index (parse text))).toList
      (((parse text).flatMap (Block.fields index)).map String.toList) := by
  have hsep : Compares " AND ".toList [] := .separator (by decide) fun _ ↦ rfl
  rw [conjunction, String.toList_intercalate, conditions, List.map_flatMap]
  split
  · rename_i hindex
    have hnone :
        (parse text).flatMap (fun block ↦ (block.fields index).map String.toList) = [] := by
      refine List.flatMap_eq_nil_iff.mpr fun block _ ↦ ?_
      rw [Block.fields, if_pos hindex, List.map_nil]
    have hall : List.Forall₂ Compares
        ((resultConditions (parse text)).map String.toList)
        (((parse text).filter (·.field ≠ some parentClassesField)).map fun _ ↦ []) := by
      rw [resultConditions, List.map_map, forall₂_map_iff]
      intro block hblock
      have hterm := isInert_term_of_mem_parse (List.mem_of_mem_filter hblock)
      exact (Compares.phrase hterm).parenthesized
    have hjoined := Compares.intercalate hsep hall
    rw [hnone]
    rwa [List.flatten_eq_nil_iff.mpr (by simp)] at hjoined
  · rename_i hindex
    have hall : List.Forall₂ Compares (((parse text).map Block.condition).map String.toList)
        ((parse text).map fun block ↦ (block.fields index).map String.toList) := by
      rw [List.map_map, forall₂_map_iff]
      exact fun block hblock ↦ compares_condition hblock hindex
    rw [List.flatMap_def]
    exact Compares.intercalate hsep hall

/-- **The names in compiled text** are the fields of the blocks. -/
theorem exists_fieldNames_conditions (index text : String) :
    ∃ tokens, read? (conjunction (conditions index (parse text))).toList = some tokens ∧
      fieldNames tokens = ((parse text).flatMap (Block.fields index)).map String.toList := by
  obtain ⟨tokens, hreads, hnames⟩ := compares_conditions index text
  exact ⟨tokens, hreads.read?, hnames.fieldNames⟩

namespace Compiler

/-- What the blocks of a query contribute to the text that is compiled from it. -/
def ownText (compiler : Compiler) (query : UserQuery) : String :=
  conjunction (Query.conditions (compiler.index query) (parse query.text))

/-- **Which names are safe.** The text compiled from a query is the conjunction of what its blocks
contribute and of the access clause, where there is one. The names that the blocks contribute are
read as the fields of the blocks; they hold no white space and none of the reserved characters but
the slash, and no slash either exactly if none was left in a field that decodes to an identifier, or
the index knows no fields. -/
theorem fieldNames_safe_iff (compiler : Compiler) (query : UserQuery) :
    queryTextOf? (compiler.compile query).body
        = some (conjunction
            (Query.conditions (compiler.index query) (parse query.text) ++
              compiler.accessConditions (compiler.index query))) ∧
    ∃ tokens, read? (compiler.ownText query).toList = some tokens ∧
      fieldNames tokens
        = ((parse query.text).flatMap (Block.fields (compiler.index query))).map String.toList ∧
      (∀ name ∈ fieldNames tokens, ∀ c ∈ name,
        Text.isBlank c = false ∧ (c ∈ reserved → c = '/')) ∧
      ((∀ name ∈ fieldNames tokens, IsFieldSafe name) ↔
        compiler.index query = Index.deliveryResults ∨
          ∀ block ∈ parse query.text, ∀ field, block.field = some field →
            Identifier.isEncoded field.toList = true → '/' ∉ field.toList) := by
  obtain ⟨tokens, hread, hnames⟩ := exists_fieldNames_conditions (compiler.index query) query.text
  have hharmless : ∀ name ∈ fieldNames tokens, ∀ c ∈ name, IsHarmless c := by
    rw [hnames, List.forall_mem_map]
    intro name hname c hc
    obtain ⟨block, hblock, hname⟩ := List.mem_flatMap.mp hname
    exact isHarmless_of_mem_fields hblock hname hc
  refine ⟨?_, tokens, hread, hnames, hharmless, ?_⟩
  · rw [queryTextOf?_compile, conditions_eq]
  · have hslash : (∀ name ∈ fieldNames tokens, IsFieldSafe name) ↔
        ∀ block ∈ parse query.text, ¬ ∃ name ∈ block.fields (compiler.index query),
          '/' ∈ name.toList := by
      rw [forall₂_congr fun name hname ↦ isFieldSafe_iff (hharmless name hname), hnames]
      simp only [List.forall_mem_map, List.mem_flatMap]
      constructor
      · rintro h block hblock ⟨name, hname, hmem⟩
        exact h name ⟨block, hblock, hname⟩ hmem
      · rintro h name ⟨block, hblock, hname⟩ hmem
        exact h block hblock ⟨name, hname, hmem⟩
    rw [hslash]
    by_cases hindex : compiler.index query = Index.deliveryResults
    · refine iff_of_true ?_ (.inl hindex)
      rintro block - ⟨name, hname, -⟩
      rw [Block.fields, if_pos hindex] at hname
      cases hname
    · rw [or_iff_right hindex]
      refine forall₂_congr fun block hblock ↦ ?_
      rw [exists_slash_mem_fields_iff hblock hindex]
      simp only [not_exists, not_and]

/-- A query whose field is an encoded identifier but for one slash. -/
def partlyEncoded : UserQuery :=
  ⟨"http_2_a/b_3_c:x", "items", 0, 10, "label", .ascending⟩

/-- **Not every name is safe**: what was not encoded is written as it stands. -/
theorem not_isFieldSafe_partlyEncoded :
    ∃ (text : String) (tokens : List Token),
      queryTextOf? (compile ⟨.builtIn, none⟩ partlyEncoded).body = some text ∧
      read? text.toList = some tokens ∧
      "TextBox_http_2_a/b_3_c".toList ∈ fieldNames tokens ∧
      ¬ IsFieldSafe "TextBox_http_2_a/b_3_c".toList := by
  obtain ⟨tokens, hread, hnames⟩ := exists_fieldNames_conditions Index.items partlyEncoded.text
  refine ⟨_, tokens, rfl, hread, ?_, fun hsafe ↦ (hsafe '/' (by decide)).2 (by decide)⟩
  rw [hnames]
  decide

end Compiler

end ResourceSearch.Query
