import Mathlib.Tactic.SplitIfs
import ResourceSearch.Definition.BuiltIn
import ResourceSearch.Proofs.Dict
import ResourceSearch.Proofs.Query.Filtering
import ResourceSearch.Proofs.Routing

/-!
# Filtered indices map the readers

A query is filtered by a clause about the field for readers, and an engine can answer it only where
this field is mapped. Queries are compiled and definitions are built in two places, so each has to
follow the routing table: a clause is appended only if the table marks the index that is searched
(`isAccessControlled_of_appendsAccessClause`), and the definition of an index has the field exactly
if the table marks the index (`mapping?_readAccessField`). No field of a built-in index has the name
of the field for readers, so what an index is called makes no difference.
-/

namespace ResourceSearch

/-! ## Fields of objects -/

theorem Dict.entries_insertAll {α : Type} (d : Dict String α) (added : List (String × α)) :
    (d.insertAll added).entries = Entries.insertAll d.entries added := by
  induction added generalizing d with
  | nil => rfl
  | cons entry rest ih => exact ih (d.insert entry.1 entry.2)

/-- Of fields of one name the last one stays. -/
theorem Json.field?_ofFields (fields : List (String × Json)) (name : String) :
    (Json.ofFields fields).field? name = Entries.get? name fields.reverse := by
  rw [← Dict.get?_ofList, Dict.get?, Dict.ofList, Dict.entries_insertAll]
  rfl

theorem Json.field?_ofDict (d : Dict String Json) (name : String) :
    (Json.ofDict d).field? name = d.get? name := rfl

/-! ## Mappings of the readers -/

/-- How an index is to store a field, if its definition says so. -/
def IndexDefinition.mapping? (definition : IndexDefinition) (field : String) : Option Json :=
  definition.body.path? ["mappings", "properties", field]

theorem Config.mapping?_definition (config : Config) (index field : String) :
    (config.definition index).mapping? field
      = (Mapping.properties config.routing index).get? field := by
  rw [IndexDefinition.mapping?, Config.definition]
  simp [Json.path?, Json.field?_ofFields, Json.field?_ofDict, Entries.get?]

/-- None of the fields that the built-in indices have is the one for readers. -/
theorem Mapping.get?_ofIndex_readAccessField (index : String) :
    Entries.get? readAccessField (Mapping.ofIndex index).reverse = none := by
  rw [Mapping.ofIndex]
  split_ifs <;> rfl

theorem Config.mapping?_readAccessField (config : Config) (index : String) :
    (config.definition index).mapping? readAccessField
      = if config.routing.isAccessControlled index then some Mapping.keyword else none := by
  have hbase : Entries.get? readAccessField Mapping.base.reverse = none := rfl
  rw [Config.mapping?_definition, Mapping.properties, Dict.get?_ofList, List.reverse_append,
    List.reverse_append, Entries.get?_append, Entries.get?_append,
    Mapping.get?_ofIndex_readAccessField, hbase, Option.or_none, Option.or_none]
  split <;> rfl

theorem Mapping.field?_keyword : Mapping.keyword.field? "type" = some (.string "keyword") := by
  rw [Mapping.keyword, Json.field?_ofFields]
  rfl

/-! ## Appended clauses -/

namespace Query.Compiler

variable {τ : Type} {routing : RoutingTable} {session : UserSession τ} {query : UserQuery}
  {state : τ}

/-- The request for a query asks, after everything else, for what the session's user may read. -/
def AppendsAccessClause (routing : RoutingTable) (session : UserSession τ) (query : UserQuery)
    (state : τ) : Prop :=
  queryTextOf? (compileIn routing (some session) query state).1.body
    = some (conjunction (conditions ⟨routing, none⟩ query ++ [session.user.accessClause]))

theorem length_conjunction_lt (conditions : List String) {condition : String}
    (h : 0 < condition.length) :
    (conjunction conditions).length < (conjunction (conditions ++ [condition])).length := by
  by_cases hnone : conditions = []
  · rw [hnone, List.nil_append, conjunction, conjunction, String.intercalate_singleton]
    exact h
  · rw [conjunction_append_singleton hnone, String.length_append, String.length_append]
    omega

theorem length_accessClause_pos (user : User) : 0 < user.accessClause.length := by
  have hclose : "\"))".length = 3 := rfl
  rw [User.accessClause, String.length_append, hclose]
  omega

theorem isAccessControlled_of_appendsAccessClause
    (h : AppendsAccessClause routing session query state) :
    routing.isAccessControlled (routing.indexForStructure query.resourceType) = true := by
  cases hindex : routing.isAccessControlled (routing.indexForStructure query.resourceType) with
  | true => rfl
  | false =>
    -- Without a clause the text is the shorter one, so it cannot be the same.
    have hnot : ¬ session.Restricts routing (routing.indexForStructure query.resourceType) :=
      fun hrestricts ↦ Bool.false_ne_true (hindex.symm.trans hrestricts.1)
    rw [AppendsAccessClause, compileIn_apply, accessConditionsIn_of_not_restricts hnot,
      List.append_nil, queryTextOf?_request, Option.some.injEq] at h
    have hlonger := length_conjunction_lt (conditions ⟨routing, none⟩ query)
      (length_accessClause_pos session.user)
    rw [← h] at hlonger
    exact absurd hlonger (Nat.lt_irrefl _)

end Query.Compiler

namespace Config

open Query.Compiler (compileIn AppendsAccessClause)

theorem map_index_definitions (config : Config) :
    config.definitions.map (·.index) = config.routing.physicalIndices := by
  rw [definitions, List.map_map]
  exact List.map_id _

/-- **What is filtered is mapped.** There is one built-in definition for each index that exists, in
the order of the indices. It maps the field for readers, to be matched as a whole, exactly if the
table marks its index. So whenever a clause about this field is appended to a query of an index that
is not the unclassified one, the index has a definition that maps the field. -/
theorem definitions_map_filtered (config : Config) :
    config.definitions.map (·.index) = config.routing.physicalIndices ∧
    config.routing.physicalIndices.Nodup ∧
    (∀ definition ∈ config.definitions,
      ((definition.mapping? readAccessField).isSome = true ↔
        config.routing.isAccessControlled definition.index = true) ∧
      ∀ mapping, definition.mapping? readAccessField = some mapping →
        mapping.field? "type" = some (.string "keyword")) ∧
    ∀ (τ : Type) (session : UserSession τ) (query : Query.UserQuery) (state : τ) (index : String),
      AppendsAccessClause config.routing session query state →
      (compileIn config.routing (some session) query state).1.index = some index →
      index ≠ unclassified →
        ∃ definition ∈ config.definitions, definition.index = index ∧
          ∃ mapping, definition.mapping? readAccessField = some mapping ∧
            mapping.field? "type" = some (.string "keyword") := by
  refine ⟨config.map_index_definitions, config.routing.nodup_physicalIndices, ?_, ?_⟩
  · intro definition hdefinition
    obtain ⟨index, -, rfl⟩ := List.mem_map.mp hdefinition
    have hindex : (config.definition index).index = index := rfl
    rw [config.mapping?_readAccessField, hindex]
    cases config.routing.isAccessControlled index with
    | false => exact ⟨by decide, nofun⟩
    | true =>
      refine ⟨by simp, ?_⟩
      rintro mapping hmapping
      cases hmapping
      exact Mapping.field?_keyword
  · intro τ session query state index happends hindex hne
    rw [Query.Compiler.compileIn_apply] at hindex
    obtain rfl : config.routing.indexForStructure query.resourceType = index :=
      Option.some.inj hindex
    refine ⟨config.definition (config.routing.indexForStructure query.resourceType),
      List.mem_map_of_mem ?_, rfl, Mapping.keyword, ?_, Mapping.field?_keyword⟩
    · exact RoutingTable.mem_physicalIndices_of_indexForStructure hne
    · rw [config.mapping?_readAccessField,
        Query.Compiler.isAccessControlled_of_appendsAccessClause happends, if_pos rfl]

/-- A table without classes. One of its marked indices goes by the name of a built-in one that is
not marked there, and nothing leads to the other. -/
def shelves : RoutingTable :=
  (((RoutingTable.ofClasses []).withStructure "shelf" Index.deliveries).withAccessControl
    Index.deliveries).withAccessControl "attic"

/-- A user whose host keeps the readers of documents up to date and grants nothing. -/
def outsider : UserSession Unit :=
  ⟨⟨fun _ _ ↦ pure ∅, true⟩, ⟨"urn:ann", []⟩, "urn:probe"⟩

def shelfQuery : Query.UserQuery :=
  ⟨"label:algebra", "shelf", 0, 10, "label", .ascending⟩

theorem definitions_map_filtered_shelves :
    AppendsAccessClause shelves outsider shelfQuery () ∧
    ∃ definition ∈ { ({} : Config) with routing := shelves }.definitions,
      definition.index = Index.deliveries ∧
      ∃ mapping, definition.mapping? readAccessField = some mapping ∧
        mapping.field? "type" = some (.string "keyword") := by
  have hrestricts :
      outsider.Restricts shelves (shelves.indexForStructure shelfQuery.resourceType) :=
    ⟨by decide +kernel, rfl⟩
  have hdenied : grantsRead (outsider.probed ()).1 outsider.probe = false := rfl
  have happends : AppendsAccessClause shelves outsider shelfQuery () := by
    rw [AppendsAccessClause, Query.Compiler.compileIn_apply,
      Query.Compiler.accessConditionsIn_of_restricts hrestricts, hdenied,
      Query.Compiler.queryTextOf?_request]
    rfl
  exact ⟨happends, (definitions_map_filtered { ({} : Config) with routing := shelves }).2.2.2
    Unit outsider shelfQuery () Index.deliveries happends (by rfl) (by decide)⟩

end Config

end ResourceSearch
