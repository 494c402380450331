import ResourceSearch.Engine.Store
import ResourceSearch.Proofs.Engine.Calls
import ResourceSearch.Proofs.Query.Isolation
import ResourceSearch.Service

/-!
# The access clause as a conjunct

A service reaches the engine with a search in two ways: with a user's query, which it compiles, and
with a raw one, which it passes on. The first has the access clause among the conditions that are
joined, wherever a restricted user searches an index whose documents say who may read them. The
second has the clause only if the caller has put it there.

## Telling conjuncts apart

A text could be joined from conditions in more than one way if conditions were arbitrary texts. But
conditions are groups, and a text of groups is cut in one way, so what it was joined from can be
read off the text: `eq_of_conjunction_eq`. It follows that a condition which is not among those that
were joined is no conjunct of the text either.
-/

namespace ResourceSearch

namespace Query

/-! ## Conditions and conjuncts -/

/-- A text is read as one group, whatever comes after it. -/
def IsCondition (text : String) : Prop :=
  ∃ tokens, Reads text.toList tokens ∧ IsGroup tokens

/-- A condition is one of those that a text joins, and the others are conditions, too. -/
def HasConjunct (text condition : String) : Prop :=
  ∃ before after, (∀ other ∈ before ++ after, IsCondition other) ∧
    text = conjunction (before ++ condition :: after)

/-- The tokens of a piece, if it is a group. -/
def Piece.group? : Piece → Option (List Token)
  | bare _ => none
  | group tokens => some tokens

theorem filterMap_group?_intersperse (sep : List Token) (groups : List (List Token)) :
    ((groups.map Piece.group).intersperse (.bare sep)).filterMap Piece.group? = groups := by
  induction groups with
  | nil => rfl
  | cons group groups ih =>
    cases groups with
    | nil => rfl
    | cons next groups =>
      rw [List.map_cons] at ih
      rw [List.map_cons, List.map_cons, List.intersperse_cons_cons,
        List.filterMap_cons_some (by rfl), List.filterMap_cons_none (by rfl), ih]

theorem exists_groups_of_conjunction {conditions : List String}
    (h : ∀ condition ∈ conditions, IsCondition condition) :
    ∃ tokens pieces, read? (conjunction conditions).toList = some tokens ∧
      pieces? tokens = some pieces ∧
      (pieces.filterMap Piece.group?).map (·.flatMap Token.text)
        = conditions.map String.toList := by
  have hgroups : List.Forall₂ (fun text terms ↦ ∃ tokens, ReadsAsGroup text terms tokens)
      (conditions.map String.toList)
      (conditions.map fun condition ↦ phrases ((read? condition.toList).getD [])) := by
    rw [forall₂_map_iff]
    intro condition hcondition
    obtain ⟨tokens, hreads, hgroup⟩ := h condition hcondition
    exact ⟨tokens, hreads, hgroup, by rw [hreads.read?]; rfl⟩
  obtain ⟨tokens, groups, hread, -, hpieces, htexts⟩ := read?_intercalate hgroups
  rw [← String.toList_intercalate] at hread
  exact ⟨tokens, _, hread, hpieces, by rw [filterMap_group?_intersperse, htexts]⟩

theorem eq_of_conjunction_eq {conditions others : List String}
    (h : ∀ condition ∈ conditions, IsCondition condition) (h' : ∀ other ∈ others, IsCondition other)
    (heq : conjunction conditions = conjunction others) : conditions = others := by
  obtain ⟨tokens, pieces, hread, hpieces, htexts⟩ := exists_groups_of_conjunction h
  obtain ⟨tokens', pieces', hread', hpieces', htexts'⟩ := exists_groups_of_conjunction h'
  rw [← heq, hread, Option.some.injEq] at hread'
  rw [← hread', hpieces, Option.some.injEq] at hpieces'
  rw [← hpieces', htexts] at htexts'
  exact List.map_injective_iff.mpr (fun _ _ ↦ String.toList_inj.mp) htexts'

theorem hasConjunct_conjunction_iff {conditions : List String} {condition : String}
    (h : ∀ other ∈ conditions, IsCondition other) (hcondition : IsCondition condition) :
    HasConjunct (conjunction conditions) condition ↔ condition ∈ conditions := by
  constructor
  · rintro ⟨before, after, hothers, hconjunction⟩
    have hall : ∀ other ∈ before ++ condition :: after, IsCondition other := by
      intro other hother
      rcases List.mem_append.mp hother with hbefore | hafter
      · exact hothers other (List.mem_append_left after hbefore)
      · rcases List.mem_cons.mp hafter with rfl | hafter
        · exact hcondition
        · exact hothers other (List.mem_append_right before hafter)
    rw [eq_of_conjunction_eq h hall hconjunction]
    exact List.mem_append_right before List.mem_cons_self
  · intro hmem
    obtain ⟨before, after, rfl⟩ := List.append_of_mem hmem
    refine ⟨before, after, fun other hother ↦ h other ?_, rfl⟩
    rcases List.mem_append.mp hother with hbefore | hafter
    · exact List.mem_append_left _ hbefore
    · exact List.mem_append_right _ (List.mem_cons_of_mem condition hafter)

/-! ## The conditions of a query -/

theorem ReadsAsGroup.isCondition {text : String} {terms : List (List Char)} {tokens : List Token}
    (h : ReadsAsGroup text.toList terms tokens) : IsCondition text :=
  ⟨tokens, h.1, h.2.1⟩

theorem isCondition_of_mem_conditions {index text condition : String}
    (h : condition ∈ conditions index (parse text)) : IsCondition condition := by
  have hgroups := @exists_readsAsGroup_conditions index (parse text)
    fun block hblock ↦ isInert_term_of_mem_parse hblock
  rw [List.forall₂_map_left_iff] at hgroups
  have hall : List.Forall₂ (fun condition terms ↦ IsCondition condition ∧ True)
      (conditions index (parse text)) _ :=
    hgroups.imp fun _ _ ⟨_, hgroup⟩ ↦ ⟨hgroup.isCondition, trivial⟩
  exact ((List.forall₂_and_left _ _).mp hall).1 condition h

theorem isCondition_accessClause {user : User}
    (h : ∀ principal ∈ user.principals, '"' ∉ principal.toList ∧ '\\' ∉ principal.toList) :
    IsCondition user.accessClause := by
  obtain ⟨tokens, hgroup⟩ := exists_readsAsGroup_accessClause h
  exact hgroup.isCondition

end Query

/-! ## Restricted users -/

/-- The host keeps up to date who may read which documents, and does not let the user of its session
read everything. -/
def AccessControl.IsRestricted (access : AccessControl) : Prop :=
  access.permissions.supportsReverseLookup = true ∧
    grantsRead (access.permissions.rights access.user [access.probe]) access.probe = false

namespace Query.Compiler

theorem accessConditions_of_isRestricted {compiler : Compiler} {access : AccessControl}
    (haccess : compiler.access = some access) (h : access.IsRestricted) {index : String}
    (hindex : compiler.routing.isAccessControlled index = true) :
    compiler.accessConditions index = [access.user.accessClause] := by
  have hrestricts : access.session.Restricts compiler.routing index := ⟨hindex, h.1⟩
  have hanswer : grantsRead (access.session.probed []).1 access.session.probe = false := h.2
  have hclause := accessConditionsIn_of_restricts hrestricts []
  rw [if_neg (by rw [hanswer]; exact Bool.false_ne_true)] at hclause
  rw [accessConditions, session?, haccess]
  exact congrArg Prod.fst hclause

/-- Where a restricted user's query is filtered, the clause stands beside the user's own
conditions. -/
theorem hasConjunct_accessClause (compiler : Compiler) {access : AccessControl}
    (haccess : compiler.access = some access) (h : access.IsRestricted) {query : UserQuery}
    (hindex : compiler.routing.isAccessControlled (compiler.index query) = true) :
    HasConjunct (conjunction (compiler.conditions query)) access.user.accessClause := by
  refine ⟨Query.conditions (compiler.index query) (parse query.text), [], ?_, ?_⟩
  · rw [List.append_nil]
    exact fun other hother ↦ isCondition_of_mem_conditions hother
  · rw [conditions_eq, accessConditions_of_isRestricted haccess h hindex]

theorem queryTextOf?_compileRaw (index text : String) (offset limit : Nat) :
    queryTextOf? (compileRaw index text offset limit).body = some text := by
  rfl

end Query.Compiler

/-! ## The two ways to search -/

namespace Service

variable {σ : Type}

theorem calls_query (service : Service σ) (query : Query.UserQuery) (world : World σ) :
    (service.query query world).2.calls
      = world.calls ++ [.search (service.compiler.compile query)] := by
  rw [Service.query, Run.bind_apply, Run.calls_bind_of_silent fun answer after ↦ ?_,
    Run.calls_call, Run.calls_logAll]
  cases answer with
  | ok _ => rfl
  | error _ => rfl

theorem calls_search (service : Service σ) (query : RawQuery) (world : World σ) :
    (service.search query world).2.calls
      = world.calls ++
        [.search (Query.Compiler.compileRaw query.index query.text query.offset query.limit)] := by
  rw [Service.search]
  simp only [Run.bind_apply, Run.pure_apply, Run.log, Run.calls_call, Run.calls_logAll]

/-- **Where the access clause is a conjunct.** A restricted user's query of an index whose documents
say who may read them is sent with the access clause as a conjunct. A raw query is sent as it is,
and so has the clause for a conjunct exactly if the clause is one of its own conditions. -/
theorem hasConjunct_accessClause_of_calls (service : Service σ) {access : AccessControl}
    (haccess : service.access = some access) (h : access.IsRestricted) (world : World σ) :
    (∀ query : Query.UserQuery, ∃ (request : SearchRequest) (index text : String),
      (service.query query world).2.calls = world.calls ++ [.search request] ∧
      index = service.config.routing.indexForStructure query.resourceType ∧
      request.index = some index ∧
      Query.queryTextOf? request.body = some text ∧
      (service.config.routing.isAccessControlled index = true →
        Query.HasConjunct text access.user.accessClause)) ∧
    ∀ query : RawQuery, ∃ request : SearchRequest,
      (service.search query world).2.calls = world.calls ++ [.search request] ∧
      request.index = some query.index ∧
      Query.queryTextOf? request.body = some query.text ∧
      ((∀ condition ∈ query.conditions, Query.IsCondition condition) →
        (∀ principal ∈ access.user.principals,
          '"' ∉ principal.toList ∧ '\\' ∉ principal.toList) →
        (Query.HasConjunct query.text access.user.accessClause ↔
          access.user.accessClause ∈ query.conditions)) := by
  refine ⟨fun query ↦ ?_, fun query ↦ ?_⟩
  · exact ⟨_, _, _, service.calls_query query world, rfl, rfl,
      service.compiler.queryTextOf?_compile query,
      service.compiler.hasConjunct_accessClause haccess h⟩
  · refine ⟨_, service.calls_search query world, rfl,
      Query.Compiler.queryTextOf?_compileRaw _ _ _ _, fun hconditions hprincipals ↦ ?_⟩
    exact Query.hasConjunct_conjunction_iff hconditions
      (Query.isCondition_accessClause hprincipals)

/-- The service of a restricted user, with the built-in routing table. -/
def restricted : Service Store :=
  ⟨Store.engine, {}, some Query.Compiler.restrictedAccess⟩

theorem hasConjunct_accessClause_breakingOut :
    Query.Compiler.restrictedAccess.IsRestricted ∧
    ∃ (request : SearchRequest) (text : String),
      (restricted.query Query.Compiler.breakingOut (.start .empty .empty)).2.calls
        = [.search request] ∧
      Query.queryTextOf? request.body = some text ∧
      Query.HasConjunct text "(read_access:(\"urn:ann\" OR \"urn:role\"))" := by
  have hrestricted : Query.Compiler.restrictedAccess.IsRestricted := ⟨rfl, rfl⟩
  obtain ⟨request, index, text, hcalls, hindex, -, htext, hconjunct⟩ :=
    (restricted.hasConjunct_accessClause_of_calls rfl hrestricted (.start .empty .empty)).1
      Query.Compiler.breakingOut
  exact ⟨hrestricted, request, text, hcalls, htext, hconjunct (hindex ▸ by decide +kernel)⟩

/-- Items that mention a word, asked for in the engine's own syntax. -/
def rawItems : RawQuery :=
  { index := Index.items, conditions := ["(\"algebra\")"] }

/-- A restricted user's raw query of an index whose documents say who may read them goes out without
the access clause. -/
theorem not_hasConjunct_rawItems :
    Query.Compiler.restrictedAccess.IsRestricted ∧
    restricted.config.routing.isAccessControlled Index.items = true ∧
    ∃ (request : SearchRequest) (text : String),
      (restricted.search rawItems (.start .empty .empty)).2.calls = [.search request] ∧
      request.index = some Index.items ∧
      Query.queryTextOf? request.body = some text ∧
      ¬ Query.HasConjunct text Query.Compiler.restrictedAccess.user.accessClause := by
  refine ⟨⟨rfl, rfl⟩, by decide +kernel, _, _, restricted.calls_search rawItems _, rfl,
    Query.Compiler.queryTextOf?_compileRaw _ _ _ _, ?_⟩
  have halgebra : Query.IsCondition (Query.parenthesized (Query.phrase "algebra")) := by
    have hphrase : Query.Encloses (Query.phrase "algebra").toList ["algebra".toList] :=
      Query.Encloses.phrase (by decide)
    obtain ⟨tokens, hgroup⟩ := hphrase.exists_readsAsGroup
    exact hgroup.isCondition
  have hconditions : ∀ condition ∈ rawItems.conditions, Query.IsCondition condition := by
    intro condition hcondition
    rw [List.mem_singleton.mp hcondition]
    exact halgebra
  rw [RawQuery.text,
    Query.hasConjunct_conjunction_iff hconditions (Query.isCondition_accessClause (by decide))]
  decide +kernel

end Service

end ResourceSearch
