import ResourceSearch.Proofs.Query.Fields
import ResourceSearch.Proofs.Query.Filtering
import ResourceSearch.Proofs.Query.Reading
import ResourceSearch.Proofs.Query.Sanitized

/-!
# Query isolation

Whatever a user types, the query text that is compiled from it reads as intended: the phrases are
the terms of its blocks, the groups are the conditions, and between two groups stands nothing but
the word that joins them. No text of a user closes a phrase, opens one, or gets outside the
condition that it belongs to.

## How the theorem is put together

A condition is built from phrases, from names of fields and from fixed text. `Encloses` says of a
text that it can stand inside a group and which phrases it has there; it is closed under everything
that the templates do, so each template is one line. The terms come from `Sanitized`, the names
from `Fields`.
-/

namespace ResourceSearch.Query

/-! ## Reading a phrase -/

/-- Inert text is read up to the quote that closes the phrase. The reader has just passed a
backslash that counts exactly when `odd` is set. -/
theorem readFrom_inert {odd : Bool} {cs : List Char} (h : isInert odd cs = true)
    (content rest : List Char) :
    readFrom (if odd then .escaped content else .inside content) (cs ++ '"' :: rest)
      = (readFrom .outside rest).map (.phrase (content ++ cs) :: ·) := by
  induction cs generalizing odd content with
  | nil =>
    -- an odd run at the end would escape the closing quote
    cases odd with
    | false => simp [readFrom]
    | true => simp [isInert] at h
  | cons c cs ih =>
    by_cases hc : c = '\\'
    · -- a backslash makes the run before the next character odd or even again
      rw [isInert, if_pos hc] at h
      have hrest := ih h (content ++ [c])
      rw [List.append_assoc, List.singleton_append] at hrest
      cases odd with
      | false => simpa [readFrom, hc] using hrest
      | true => simpa [readFrom, hc] using hrest
    · obtain ⟨rfl, hquote, hcs⟩ := (isInert_cons_of_ne hc).mp h
      have hrest := ih hcs (content ++ [c])
      rw [List.append_assoc, List.singleton_append] at hrest
      simpa [readFrom, hc, hquote] using hrest

theorem Reads.phrase {content : List Char} (h : isInert false content = true) :
    Reads ('"' :: content ++ ['"']) [.phrase content] := by
  intro rest
  have hinert := readFrom_inert h [] rest
  rw [List.append_assoc, List.singleton_append, List.cons_append, readFrom, if_pos rfl]
  simpa using hinert

/-! ## Text inside a group -/

/-- A text that can stand inside a group: it leaves a reader outside phrases and at the same
depth, and its phrases are `terms`. -/
def Encloses (cs : List Char) (terms : List (List Char)) : Prop :=
  ∃ tokens, Reads cs tokens ∧ Nested tokens ∧ phrases tokens = terms

namespace Encloses

variable {cs ds : List Char} {terms terms' : List (List Char)}

theorem append (h : Encloses cs terms) (h' : Encloses ds terms') :
    Encloses (cs ++ ds) (terms ++ terms') := by
  obtain ⟨ts, hts, hnested, rfl⟩ := h
  obtain ⟨us, hus, hnested', rfl⟩ := h'
  exact ⟨ts ++ us, hts.append hus, hnested.append hnested', phrases_append ts us⟩

theorem plain (h : ∀ c ∈ structural, c ∉ cs) : Encloses cs [] := by
  refine ⟨cs.map .mark, Reads.marks (h '"' (by decide)), Nested.of_flat ?_, phrases_map_mark cs⟩
  intro t ht
  obtain ⟨c, hc, rfl⟩ := List.mem_map.mp ht
  constructor
  · rintro ⟨⟩
    exact h '(' (by decide) hc
  · rintro ⟨⟩
    exact h ')' (by decide) hc

theorem phrase {term : String} (h : isInert false term.toList = true) :
    Encloses (Query.phrase term).toList [term.toList] := by
  refine ⟨[.phrase term.toList], ?_, Nested.of_flat (by simp [Flat]), rfl⟩
  have htext : (Query.phrase term).toList = '"' :: term.toList ++ ['"'] := by
    simp [Query.phrase]
  rw [htext]
  exact Reads.phrase h

theorem fieldPhrase {field term : String} (hfield : ∀ c ∈ structural, c ∉ field.toList)
    (h : isInert false term.toList = true) :
    Encloses (Query.fieldPhrase field term).toList [term.toList] := by
  rw [Query.fieldPhrase, String.toList_append, String.toList_append]
  exact ((plain hfield).append (plain (forall_mem_structural.mpr (by decide)))).append
    (phrase h)

theorem intercalate (hsep : Encloses ds []) {texts : List (List Char)}
    {termLists : List (List (List Char))} (h : List.Forall₂ Encloses texts termLists) :
    Encloses (ds.intercalate texts) termLists.flatten := by
  rw [← nil_intercalate]
  exact rel_intercalate (plain (by simp)) append hsep h

end Encloses

/-! ## Conditions -/

/-- A condition as a reader finds it: one group, with `terms` for its phrases. -/
def ReadsAsGroup (condition : List Char) (terms : List (List Char)) (tokens : List Token) : Prop :=
  Reads condition tokens ∧ IsGroup tokens ∧ phrases tokens = terms

theorem Encloses.exists_readsAsGroup {text : String} {terms : List (List Char)}
    (h : Encloses text.toList terms) :
    ∃ tokens, ReadsAsGroup (parenthesized text).toList terms tokens := by
  obtain ⟨ts, hts, hnested, rfl⟩ := h
  refine ⟨.mark '(' :: ts ++ [.mark ')'], ?_, ⟨ts, hnested, rfl⟩, ?_⟩
  · have htext : (parenthesized text).toList = ['('] ++ text.toList ++ [')'] := by
      simp [parenthesized]
    rw [htext]
    exact ((Reads.mark (by decide)).append hts).append (Reads.mark (by decide))
  · calc phrases (.mark '(' :: ts ++ [.mark ')'])
        = phrases (['('].map .mark) ++ phrases ts ++ phrases ([')'].map .mark) := by
          rw [← phrases_append, ← phrases_append]
          rfl
      _ = phrases ts := by simp only [phrases_map_mark, List.nil_append, List.append_nil]

theorem Encloses.parenthesized {text : String} {terms : List (List Char)}
    (h : Encloses text.toList terms) : Encloses (Query.parenthesized text).toList terms := by
  obtain ⟨tokens, hreads, hgroup, hphrases⟩ := h.exists_readsAsGroup
  exact ⟨tokens, hreads, hgroup.nested, hphrases⟩

/-- The blocks that make conditions on the documents of an index. -/
def keptBlocks (index : String) (blocks : List Block) : List Block :=
  if index = Index.deliveryResults then blocks.filter (·.field ≠ some "parent_classes")
  else blocks

/-- How often the term of a block is asked for in an index: once for each widget if the block
names a field that users have defined and the index knows fields. -/
def Block.copies (index : String) (block : Block) : ℕ :=
  if index = Index.deliveryResults then 1
  else
    match block.field with
    | none => 1
    | some field => if isStandardField field then 1 else 8

/-- The terms that a block asks for in an index. -/
def Block.terms (index : String) (block : Block) : List (List Char) :=
  List.replicate (block.copies index) block.term.toList

theorem encloses_propertyFields (field : String) {term : String}
    (h : isInert false term.toList = true) :
    Encloses
      (" OR ".intercalate ((propertyFields field).map (fieldPhrase · term))).toList
      (List.replicate 8 term.toList) := by
  have hall : List.Forall₂ Encloses
      (((propertyFields field).map (fieldPhrase · term)).map String.toList)
      ((propertyFields field).map fun _ ↦ [term.toList]) := by
    rw [List.map_map, forall₂_map_iff]
    exact fun name hname ↦
      Encloses.fieldPhrase (fun _ hc ↦ not_mem_of_mem_propertyFields hname hc) h
  have hwidgets : (propertyFields field).length = 8 := by simp [propertyFields, widgets]
  have hsep : Encloses " OR ".toList [] :=
    Encloses.plain (forall_mem_structural.mpr (by decide))
  have hjoined := hsep.intercalate hall
  rw [List.map_const', hwidgets, List.flatten_replicate_singleton] at hjoined
  rwa [String.toList_intercalate]

theorem exists_readsAsGroup_condition (block : Block)
    (h : isInert false block.term.toList = true) {index : String}
    (hindex : index ≠ Index.deliveryResults) :
    ∃ tokens, ReadsAsGroup block.condition.toList (block.terms index) tokens := by
  rw [Block.condition, Block.terms, Block.copies, if_neg hindex]
  cases block.field with
  | none => exact (Encloses.phrase h).exists_readsAsGroup
  | some field =>
    dsimp only
    split
    · rename_i hstandard
      exact (Encloses.fieldPhrase (fun _ hc ↦ not_mem_of_isStandardField hstandard hc)
        h).exists_readsAsGroup
    · exact (encloses_propertyFields field h).exists_readsAsGroup

/-- Every kept block makes one condition, which asks for the terms of the block. -/
theorem exists_readsAsGroup_conditions {index : String} {blocks : List Block}
    (h : ∀ block ∈ blocks, isInert false block.term.toList = true) :
    List.Forall₂ (fun condition terms ↦ ∃ tokens, ReadsAsGroup condition terms tokens)
      ((conditions index blocks).map String.toList)
      ((keptBlocks index blocks).map (Block.terms index)) := by
  rw [conditions, keptBlocks]
  split
  · rename_i hindex
    rw [resultConditions, List.map_map]
    refine forall₂_map_iff.mpr fun block hblock ↦ ?_
    have hterm := h block (List.mem_of_mem_filter hblock)
    rw [Block.terms, Block.copies, if_pos hindex]
    exact (Encloses.phrase hterm).exists_readsAsGroup
  · rename_i hindex
    rw [List.map_map, forall₂_map_iff]
    exact fun block hblock ↦ exists_readsAsGroup_condition block (h block hblock) hindex

/-! ## The access clause -/

theorem quoted_intercalate (principal : String) (principals : List String) :
    "\"" ++ "\" OR \"".intercalate (principal :: principals) ++ "\""
      = " OR ".intercalate ((principal :: principals).map phrase) := by
  induction principals generalizing principal with
  | nil => simp [phrase]
  | cons next principals ih =>
    have hsep : "\" OR \"" = "\"" ++ " OR " ++ "\"" := by decide
    rw [String.intercalate_cons_cons, List.map_cons, List.map_cons, String.intercalate_cons_cons,
      ← List.map_cons, ← ih next]
    simp only [phrase, hsep, String.append_assoc]

theorem accessClause_eq (user : User) :
    user.accessClause
      = parenthesized (readAccessField ++ ":" ++
          parenthesized (" OR ".intercalate (user.principals.map phrase))) := by
  rw [User.principals, ← quoted_intercalate]
  have hopen : ":(\"" = ":" ++ "(" ++ "\"" := by decide
  have hclose : "\"))" = "\"" ++ ")" ++ ")" := by decide
  simp only [User.accessClause, User.principals, parenthesized, hopen, hclose, String.append_assoc]

theorem exists_readsAsGroup_accessClause {user : User}
    (h : ∀ principal ∈ user.principals, '"' ∉ principal.toList ∧ '\\' ∉ principal.toList) :
    ∃ tokens, ReadsAsGroup user.accessClause.toList (user.principals.map String.toList) tokens := by
  have hall : List.Forall₂ Encloses ((user.principals.map phrase).map String.toList)
      (user.principals.map fun principal ↦ [principal.toList]) := by
    rw [List.map_map, forall₂_map_iff]
    intro principal hprincipal
    obtain ⟨hquote, hslash⟩ := h principal hprincipal
    exact Encloses.phrase (isInert_of_not_mem hquote hslash)
  have hsep : Encloses " OR ".toList [] :=
    Encloses.plain (forall_mem_structural.mpr (by decide))
  have hjoined := hsep.intercalate hall
  have hterms : (user.principals.map fun principal ↦ [principal.toList]).flatten
      = user.principals.map String.toList := by
    rw [← List.flatMap_def, ← List.map_eq_flatMap]
  rw [hterms, ← String.toList_intercalate] at hjoined
  have hfield : Encloses (readAccessField ++ ":").toList [] :=
    Encloses.plain (forall_mem_structural.mpr (by decide))
  rw [accessClause_eq]
  refine Encloses.exists_readsAsGroup ?_
  rw [String.toList_append]
  exact hfield.append hjoined.parenthesized

/-! ## Compiled queries -/

/-- Texts that read as groups are read as these groups when they are joined, with the joining word
and nothing else between them. -/
theorem read?_intercalate {texts : List (List Char)} {termLists : List (List (List Char))}
    (h : List.Forall₂ (fun text terms ↦ ∃ tokens, ReadsAsGroup text terms tokens)
      texts termLists) :
    ∃ (tokens : List Token) (groups : List (List Token)),
      read? (" AND ".toList.intercalate texts) = some tokens ∧
      phrases tokens = termLists.flatten ∧
      pieces? tokens = some ((groups.map Piece.group).intersperse (.bare (marks " AND "))) ∧
      groups.map (·.flatMap Token.text) = texts := by
  obtain ⟨groups, hreads, hgroups, hphrases⟩ : ∃ groups : List (List Token),
      List.Forall₂ Reads texts groups ∧
        (∀ group ∈ groups, IsGroup group) ∧ groups.map phrases = termLists := by
    induction h with
    | nil => exact ⟨[], .nil, by simp, rfl⟩
    | cons hhead htail ih =>
      obtain ⟨tokens, hreads, hgroup, hphrases⟩ := hhead
      obtain ⟨groups, hall, hgroups, hterms⟩ := ih
      refine ⟨tokens :: groups, .cons hreads hall, List.forall_mem_cons.mpr ⟨hgroup, hgroups⟩, ?_⟩
      rw [List.map_cons, hphrases, hterms]
  have hsep : Reads " AND ".toList (marks " AND ") := Reads.marks (by decide)
  have hflat : ∀ t ∈ marks " AND ", t ≠ .mark '(' ∧ t ≠ .mark ')' := by decide
  refine ⟨(marks " AND ").intercalate groups, groups, (hsep.intercalate hreads).read?, ?_,
    pieces?_intercalate hflat (by decide) hgroups, ?_⟩
  · rw [← hphrases]
    exact phrases_intercalate (phrases_map_mark _) groups
  · clear hgroups hphrases h
    induction hreads with
    | nil => rfl
    | cons hhead htail ih => rw [List.map_cons, ih, text_of_read? hhead.read?]

namespace Compiler

/-- The principals that the access clause of a query against an index names; none where the query
has no access clause. -/
def namedPrincipals (compiler : Compiler) (index : String) : List String :=
  match compiler.access with
  | some access =>
    if (access.verdict compiler.routing index).filtered then access.user.principals else []
  | none => []

/-- The condition on the reader, where a query against an index has one. -/
def accessConditions (compiler : Compiler) (index : String) : List String :=
  ((accessConditionsIn compiler.routing compiler.session? index).run []).1

theorem conditions_eq (compiler : Compiler) (query : UserQuery) :
    compiler.conditions query
      = Query.conditions (compiler.index query) (parse query.text) ++
          compiler.accessConditions (compiler.index query) := by
  rfl

theorem accessConditions_cases (compiler : Compiler) (index : String) :
    (compiler.accessConditions index = [] ∧ compiler.namedPrincipals index = []) ∨
      ∃ access, compiler.access = some access ∧
        compiler.accessConditions index = [access.user.accessClause] ∧
        compiler.namedPrincipals index = access.user.principals := by
  rw [accessConditions, session?, namedPrincipals]
  cases compiler.access with
  | none => exact .inl ⟨rfl, rfl⟩
  | some access =>
    have hconditions : ((accessConditionsIn compiler.routing
          (Option.map AccessControl.session (some access)) index).run []).1
        = if (access.verdict compiler.routing index).filtered then [access.user.accessClause]
          else [] :=
      congrArg Prod.fst (accessConditionsIn_some compiler.routing access.session index [])
    rw [hconditions]
    dsimp only
    split
    · exact .inr ⟨access, rfl, rfl, rfl⟩
    · exact .inl ⟨rfl, rfl⟩

theorem queryTextOf?_compile (compiler : Compiler) (query : UserQuery) :
    queryTextOf? (compiler.compile query).body
      = some (conjunction (compiler.conditions query)) := by
  rfl

/-- What the conditions of a query have for phrases, condition by condition. -/
theorem exists_readsAsGroup_compiled {compiler : Compiler} {query : UserQuery}
    (hprincipals : ∀ access, compiler.access = some access →
      ∀ principal ∈ access.user.principals,
        '"' ∉ principal.toList ∧ '\\' ∉ principal.toList) :
    List.Forall₂ (fun condition terms ↦ ∃ tokens, ReadsAsGroup condition terms tokens)
      ((compiler.conditions query).map String.toList)
      ((keptBlocks (compiler.index query) (parse query.text)).map
          (Block.terms (compiler.index query)) ++
        (compiler.accessConditions (compiler.index query)).map fun _ ↦
          (compiler.namedPrincipals (compiler.index query)).map String.toList) := by
  rw [conditions_eq, List.map_append]
  refine List.rel_append ?_ ?_
  · exact exists_readsAsGroup_conditions fun block hblock ↦ isInert_term_of_mem_parse hblock
  · rcases compiler.accessConditions_cases (compiler.index query) with
      ⟨hnone, -⟩ | ⟨access, haccess, hclause, hnamed⟩
    · rw [hnone]
      exact .nil
    · rw [hclause, hnamed]
      exact .cons (exists_readsAsGroup_accessClause (hprincipals access haccess)) .nil

/-- **Query isolation.** The text compiled from any query is read to its end outside phrases. Its
phrases are the terms of the kept blocks, once or eight times each, and the principals of the
access clause; its groups are the conditions, one after the other, and the joining word is all
that stands at depth zero. -/
theorem phrases_and_groups_of_compile (compiler : Compiler) (query : UserQuery)
    (hprincipals : ∀ access, compiler.access = some access →
      ∀ principal ∈ access.user.principals,
        '"' ∉ principal.toList ∧ '\\' ∉ principal.toList) :
    ∃ (text : String) (tokens : List Token) (groups : List (List Token)),
      queryTextOf? (compiler.compile query).body = some text ∧
      read? text.toList = some tokens ∧
      phrases tokens =
        (keptBlocks (compiler.index query) (parse query.text)).flatMap
            (fun block ↦
              List.replicate (block.copies (compiler.index query)) block.term.toList) ++
          (compiler.namedPrincipals (compiler.index query)).map String.toList ∧
      pieces? tokens = some ((groups.map Piece.group).intersperse (.bare (marks " AND "))) ∧
      groups.map (·.flatMap Token.text) = (compiler.conditions query).map String.toList := by
  obtain ⟨tokens, groups, hread, hphrases, hpieces, htexts⟩ :=
    read?_intercalate (exists_readsAsGroup_compiled hprincipals)
  rw [← String.toList_intercalate] at hread
  refine ⟨_, tokens, groups, queryTextOf?_compile compiler query, hread, ?_, hpieces, htexts⟩
  rw [hphrases, List.flatten_append, ← List.flatMap_def]
  congr 1
  rcases compiler.accessConditions_cases (compiler.index query) with
    ⟨hnone, hnamed⟩ | ⟨access, -, hclause, -⟩
  · rw [hnone, hnamed]
    rfl
  · rw [hclause]
    exact List.append_nil _

/-- A host where a user may read nothing but what names the user or a role of the user. -/
def restrictedAccess : AccessControl :=
  ⟨⟨fun _ _ ↦ ∅, true⟩, ⟨"urn:ann", ["urn:role"]⟩, "urn:probe"⟩

/-- A query that tries to close its phrase and its condition. -/
def breakingOut : UserQuery :=
  ⟨"label:a\") OR (b\\ AND Shoe:x\")", "items", 0, 10, "label", .ascending⟩

theorem phrases_of_breakingOut :
    (∀ access, some restrictedAccess = some access →
      ∀ principal ∈ access.user.principals,
        '"' ∉ principal.toList ∧ '\\' ∉ principal.toList) ∧
    ∃ (text : String) (tokens : List Token),
      queryTextOf? (compile ⟨.builtIn, some restrictedAccess⟩ breakingOut).body = some text ∧
      read? text.toList = some tokens ∧
      phrases tokens =
        "a) OR (b\\\\".toList :: List.replicate 8 "x)".toList
          ++ ["urn:ann".toList, "urn:role".toList] := by
  have hprincipals : ∀ access, some restrictedAccess = some access →
      ∀ principal ∈ access.user.principals,
        '"' ∉ principal.toList ∧ '\\' ∉ principal.toList := by
    rintro access ⟨⟩
    decide
  refine ⟨hprincipals, ?_⟩
  obtain ⟨text, tokens, _, htext, hread, hphrases, -, -⟩ :=
    phrases_and_groups_of_compile ⟨.builtIn, some restrictedAccess⟩ breakingOut hprincipals
  refine ⟨text, tokens, htext, hread, hphrases.trans ?_⟩
  decide +kernel

end Compiler

end ResourceSearch.Query
