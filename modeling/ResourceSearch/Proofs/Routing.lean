import ResourceSearch.Proofs.Dict
import ResourceSearch.Routing

/-!
# Routes of types

A table routes a list of types by its earliest entry for one of them, so a list has a route exactly
if one of its types has an entry, and a list of one type goes where the type itself goes. A type
that comes with its ancestors goes where the first of them that has an entry leads (`LeadsTo`). No
entry of the built-in table leads to the unclassified index.

However an index is looked up in a table, by a class, by types, by ancestors or by a structure, it
is one of the indices that exist or the unclassified one.
-/

namespace ResourceSearch.RoutingTable

theorem hasClassSupport_iff {table : RoutingTable} {type : String} :
    table.hasClassSupport type = true ↔ ∃ route ∈ table.classes, route.resourceType = type := by
  rw [hasClassSupport, indexForClass?, Option.isSome_map, List.find?_isSome]
  simp only [decide_eq_true_eq]

theorem indexForTypes_singleton (table : RoutingTable) (type : String) :
    table.indexForTypes [type] = (table.indexForClass? type).getD unclassified := by
  rw [indexForTypes, indexForClass?]
  simp only [List.mem_singleton]
  cases table.classes.find? fun route ↦ decide (route.resourceType = type) <;> rfl

theorem index_ne_unclassified_of_mem_builtIn {route : Route} (h : route ∈ builtIn.classes) :
    route.index ≠ unclassified := by
  have hall : ∀ route ∈ builtIn.classes, route.index ≠ unclassified := by decide +kernel
  exact hall route h

theorem ne_unclassified_of_indexForClass?_builtIn {type index : String}
    (h : builtIn.indexForClass? type = some index) : index ≠ unclassified := by
  obtain ⟨route, hroute, rfl⟩ := Option.map_eq_some_iff.mp h
  exact index_ne_unclassified_of_mem_builtIn (List.mem_of_find?_eq_some hroute)

theorem indexForTypes_singleton_builtIn_iff {type index : String} :
    builtIn.indexForTypes [type] = index ∧ index ≠ unclassified ↔
      builtIn.indexForClass? type = some index := by
  rw [indexForTypes_singleton]
  cases hclass : builtIn.indexForClass? type with
  | none =>
    rw [Option.getD_none]
    refine iff_of_false ?_ nofun
    rintro ⟨hindex, hne⟩
    exact hne hindex.symm
  | some index' =>
    rw [Option.getD_some, Option.some.injEq]
    refine and_iff_left_of_imp ?_
    rintro rfl
    exact ne_unclassified_of_indexForClass?_builtIn hclass

theorem indexForTypes_builtIn_ne_unclassified {types : List String}
    (h : ∃ type ∈ types, builtIn.hasClassSupport type = true) :
    builtIn.indexForTypes types ≠ unclassified := by
  obtain ⟨type, htype, hentry⟩ := h
  obtain ⟨route, hroute, rfl⟩ := hasClassSupport_iff.mp hentry
  have hsome : (builtIn.classes.find? (·.resourceType ∈ types)).isSome :=
    List.find?_isSome.mpr ⟨route, hroute, decide_eq_true htype⟩
  obtain ⟨earliest, hearliest⟩ := Option.isSome_iff_exists.mp hsome
  rw [indexForTypes, hearliest]
  exact index_ne_unclassified_of_mem_builtIn (List.mem_of_find?_eq_some hearliest)

/-! ## The first candidate that has an entry -/

section

variable {table : RoutingTable} {type index : String} {ancestors candidates : List String}

/-- Whether an entry is the earliest one of a table for a type. -/
def IsEntryFor (table : RoutingTable) (type : String) (route : Route) : Prop :=
  ∃ before after, table.classes = before ++ route :: after ∧ route.resourceType = type ∧
    ∀ earlier ∈ before, earlier.resourceType ≠ type

theorem indexForClass?_eq_some_iff :
    table.indexForClass? type = some index ↔
      ∃ route, table.IsEntryFor type route ∧ route.index = index := by
  rw [indexForClass?, Option.map_eq_some_iff]
  refine exists_congr fun route ↦ and_congr_left fun _ ↦ ?_
  rw [List.find?_eq_some_iff_append, IsEntryFor]
  simp only [decide_eq_true_eq, Bool.not_eq_true', decide_eq_false_iff_not, ne_eq]
  constructor
  · rintro ⟨htype, before, after, hclasses, hbefore⟩
    exact ⟨before, after, hclasses, htype, hbefore⟩
  · rintro ⟨before, after, hclasses, htype, hbefore⟩
    exact ⟨htype, before, after, hclasses, hbefore⟩

theorem indexForClass?_eq_none_iff :
    table.indexForClass? type = none ↔ ∀ route ∈ table.classes, route.resourceType ≠ type := by
  rw [indexForClass?, Option.map_eq_none_iff, List.find?_eq_none]
  simp only [decide_eq_true_eq, ne_eq]

/-- Whether the first of some candidates that has an entry is served by an index. -/
def LeadsTo (table : RoutingTable) (candidates : List String) (index : String) : Prop :=
  ∃ passed candidate others route, candidates = passed ++ candidate :: others ∧
    (∀ other ∈ passed, ∀ route ∈ table.classes, route.resourceType ≠ other) ∧
    table.IsEntryFor candidate route ∧ route.index = index

theorem findSome?_indexForClass?_eq_some_iff :
    candidates.findSome? table.indexForClass? = some index ↔ table.LeadsTo candidates index := by
  rw [List.findSome?_eq_some_iff, LeadsTo]
  simp only [indexForClass?_eq_none_iff, indexForClass?_eq_some_iff]
  constructor
  · rintro ⟨passed, candidate, others, hcandidates, ⟨route, hroute, hindex⟩, hpassed⟩
    exact ⟨passed, candidate, others, route, hcandidates, hpassed, hroute, hindex⟩
  · rintro ⟨passed, candidate, others, route, hcandidates, hpassed, hroute, hindex⟩
    exact ⟨passed, candidate, others, hcandidates, ⟨route, hroute, hindex⟩, hpassed⟩

/-- A type and its ancestors lead to an index that exists exactly if this is the index that they are
looked up in. -/
theorem leadsTo_iff_indexForTypeOrAncestors_eq (hne : index ≠ unclassified) :
    table.LeadsTo (type :: ancestors) index ↔
      table.indexForTypeOrAncestors type ancestors = index := by
  rw [← findSome?_indexForClass?_eq_some_iff, indexForTypeOrAncestors]
  cases (type :: ancestors).findSome? table.indexForClass? with
  | none => exact iff_of_false nofun hne.symm
  | some found => rw [Option.some.injEq, Option.getD_some]

theorem indexForTypeOrAncestors_eq_unclassified_iff :
    table.indexForTypeOrAncestors type ancestors = unclassified ↔
      ∀ index, table.LeadsTo (type :: ancestors) index → index = unclassified := by
  constructor
  · intro h index hleads
    refine Decidable.byContradiction fun hne ↦ ?_
    rw [leadsTo_iff_indexForTypeOrAncestors_eq hne, h] at hleads
    exact hne hleads.symm
  · intro h
    refine Decidable.byContradiction fun hne ↦ ?_
    exact hne (h _ ((leadsTo_iff_indexForTypeOrAncestors_eq hne).mpr rfl))

end

/-! ## The indices that exist -/

theorem nodup_eraseDups : (names : List String) → names.eraseDups.Nodup
  | [] => List.nodup_nil
  | name :: names => by
    have hrest := nodup_eraseDups (names.filter fun other ↦ !other == name)
    rw [List.eraseDups_cons, List.nodup_cons]
    refine ⟨fun hmem ↦ ?_, hrest⟩
    have hother := (List.mem_filter.mp (List.mem_eraseDups.mp hmem)).2
    simp at hother
termination_by names => names.length
decreasing_by exact Nat.lt_succ_of_le (List.length_filter_le _ _)

theorem nodup_physicalIndices (table : RoutingTable) : table.physicalIndices.Nodup :=
  nodup_eraseDups _

variable {table : RoutingTable}

theorem mem_physicalIndices {index : String} :
    index ∈ table.physicalIndices ↔
      (index ∈ table.classes.map (·.index) ∨ index ∈ table.structures.values) ∧
        index ≠ unclassified := by
  rw [physicalIndices, List.mem_eraseDups, List.mem_filter, List.mem_append]
  simp only [isUnclassified, Bool.not_eq_true', decide_eq_false_iff_not, ne_eq]

theorem mem_physicalIndices_of_indexForClass? {type index : String}
    (h : table.indexForClass? type = some index) (hne : index ≠ unclassified) :
    index ∈ table.physicalIndices := by
  obtain ⟨route, hroute, rfl⟩ := Option.map_eq_some_iff.mp h
  have hmem := List.mem_map_of_mem (f := (·.index)) (List.mem_of_find?_eq_some hroute)
  exact mem_physicalIndices.mpr ⟨.inl hmem, hne⟩

theorem mem_physicalIndices_of_indexForTypes {types : List String}
    (h : table.indexForTypes types ≠ unclassified) :
    table.indexForTypes types ∈ table.physicalIndices := by
  rw [indexForTypes] at h ⊢
  cases hfind : table.classes.find? (·.resourceType ∈ types) with
  | none =>
    rw [hfind] at h
    exact absurd rfl h
  | some route =>
    rw [hfind] at h
    have hmem := List.mem_map_of_mem (f := (·.index)) (List.mem_of_find?_eq_some hfind)
    exact mem_physicalIndices.mpr ⟨.inl hmem, h⟩

/-- What is looked up exists, if all that can be found exists. -/
theorem getD_unclassified_mem {found : Option String} {indices : List String}
    (h : ∀ index, found = some index → index ≠ unclassified → index ∈ indices)
    (hne : found.getD unclassified ≠ unclassified) : found.getD unclassified ∈ indices := by
  cases found with
  | none => exact absurd rfl hne
  | some index => exact h index rfl hne

theorem mem_physicalIndices_of_indexForTypeOrAncestors {type : String} {ancestors : List String}
    (h : table.indexForTypeOrAncestors type ancestors ≠ unclassified) :
    table.indexForTypeOrAncestors type ancestors ∈ table.physicalIndices := by
  refine getD_unclassified_mem (fun index hindex hne ↦ ?_) h
  obtain ⟨candidate, -, hcandidate⟩ := List.exists_of_findSome?_eq_some hindex
  exact mem_physicalIndices_of_indexForClass? hcandidate hne

theorem mem_physicalIndices_of_indexForStructure {name : String}
    (h : table.indexForStructure name ≠ unclassified) :
    table.indexForStructure name ∈ table.physicalIndices := by
  refine getD_unclassified_mem (fun index hindex hne ↦ ?_) h
  -- A name that is no structure is looked up as a class.
  rcases Option.or_eq_some_iff.mp hindex with hstructure | ⟨-, hclass⟩
  · have hmem := List.mem_map_of_mem (f := Prod.snd) (Entries.mem_of_get?_eq_some hstructure)
    exact mem_physicalIndices.mpr ⟨.inr hmem, hne⟩
  · exact mem_physicalIndices_of_indexForClass? hclass hne

end ResourceSearch.RoutingTable
