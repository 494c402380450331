import ResourceSearch.Proofs.Routing

/-!
# Which entry decides

The types of a document are looked up together. The entries of the table are gone through in their
order, and the first one that is for any of the types decides, so the types are no more than a set.
A type and its ancestors are looked up one after the other. Here the candidates are gone through in
their order, the first one that has an entry decides, and the order of the table only says which of
several entries for that candidate counts.

## What makes no difference

The same entries are for a set of types however it is listed, and more entries are for a larger one,
so the first of them can only stand earlier (`IsEarliest.of_subset`). A candidate that has no entry
is passed over (`findSome?_filter_hasClassSupport`), and none is looked at after the one that
decides.
-/

namespace ResourceSearch.RoutingTable

/-! ## The order of the table -/

/-- An entry is the earliest of a table for any of some types, with these entries before it. -/
structure IsEarliest (table : RoutingTable) (types : List String) (before : List Route)
    (route : Route) : Prop where
  stands : before ++ [route] <+: table.classes
  serves : route.resourceType ∈ types
  none_before : ∀ earlier ∈ before, earlier.resourceType ∉ types

/-- Documents are routed by the set of their types and the order of the table. -/
structure RoutesByTable (table : RoutingTable) (indexOf : List String → String) : Prop where
  /-- The earliest entry for one of the types decides, if there is one. -/
  earliest : ∀ types,
    (∃ before route, table.IsEarliest types before route ∧ indexOf types = route.index) ∨
      (∀ route ∈ table.classes, route.resourceType ∉ types) ∧ indexOf types = unclassified
  /-- Neither the order of the types counts nor how often each is named. -/
  same_types : ∀ types types', (∀ type, type ∈ types' ↔ type ∈ types) →
    indexOf types' = indexOf types
  /-- With more types, the entry that decides stays where it is or stands earlier. -/
  more_types : ∀ types types' before route, types ⊆ types' →
    table.IsEarliest types before route →
      ∃ before' route', before' <+: before ∧ table.IsEarliest types' before' route' ∧
        indexOf types' = route'.index

section

variable {table : RoutingTable} {types types' : List String} {before front : List Route}
  {route : Route}

theorem indexForTypes_of_isEarliest (h : table.IsEarliest types before route) :
    table.indexForTypes types = route.index := by
  obtain ⟨after, hclasses⟩ := h.stands
  have hfind : table.classes.find? (·.resourceType ∈ types) = some route := by
    refine List.find?_eq_some_iff_append.mpr ⟨decide_eq_true h.serves, before, after, ?_, ?_⟩
    · rw [← hclasses, List.append_assoc, List.singleton_append]
    · intro earlier hearlier
      simpa using h.none_before earlier hearlier
  rw [indexForTypes, hfind]

theorem indexForTypes_of_forall_notMem
    (h : ∀ route ∈ table.classes, route.resourceType ∉ types) :
    table.indexForTypes types = unclassified := by
  have hfind : table.classes.find? (·.resourceType ∈ types) = none := by
    simpa using h
  rw [indexForTypes, hfind]

theorem exists_isEarliest_of_prefix (hfront : front <+: table.classes)
    (h : ∃ route ∈ front, route.resourceType ∈ types) :
    ∃ before route, before ++ [route] <+: front ∧ table.IsEarliest types before route := by
  obtain ⟨served, hserved, htype⟩ := h
  have hsome : (front.find? (·.resourceType ∈ types)).isSome :=
    List.find?_isSome.mpr ⟨served, hserved, decide_eq_true htype⟩
  obtain ⟨route, hroute⟩ := Option.isSome_iff_exists.mp hsome
  obtain ⟨hserves, before, after, rfl, hbefore⟩ := List.find?_eq_some_iff_append.mp hroute
  have hstands : before ++ [route] <+: before ++ route :: after := ⟨after, by simp⟩
  refine ⟨before, route, hstands, hstands.trans hfront, of_decide_eq_true hserves, ?_⟩
  intro earlier hearlier
  simpa using hbefore earlier hearlier

theorem IsEarliest.of_subset (h : table.IsEarliest types before route) (hmore : types ⊆ types') :
    ∃ before' route', before' <+: before ∧ table.IsEarliest types' before' route' := by
  obtain ⟨before', route', hwithin, hearliest⟩ :=
    exists_isEarliest_of_prefix h.stands ⟨route, by simp, hmore h.serves⟩
  refine ⟨before', route', ?_, hearliest⟩
  have hlength := hwithin.length_le
  rw [List.length_append, List.length_append] at hlength
  exact List.prefix_of_prefix_length_le ((List.prefix_append _ _).trans hwithin)
    (List.prefix_append _ _) (Nat.le_of_add_le_add_right hlength)

theorem indexForTypes_congr (h : ∀ type, type ∈ types' ↔ type ∈ types) :
    table.indexForTypes types' = table.indexForTypes types := by
  simp only [indexForTypes, h]

end

theorem routesByTable_indexForTypes (table : RoutingTable) :
    table.RoutesByTable table.indexForTypes where
  earliest := by
    intro types
    by_cases h : ∃ route ∈ table.classes, route.resourceType ∈ types
    · obtain ⟨before, route, -, hearliest⟩ := exists_isEarliest_of_prefix List.prefix_rfl h
      exact .inl ⟨before, route, hearliest, indexForTypes_of_isEarliest hearliest⟩
    · have hnone : ∀ route ∈ table.classes, route.resourceType ∉ types := fun route hroute htype ↦
        h ⟨route, hroute, htype⟩
      exact .inr ⟨hnone, indexForTypes_of_forall_notMem hnone⟩
  same_types := by
    intro types types' h
    exact indexForTypes_congr h
  more_types := by
    intro types types' before route hmore h
    obtain ⟨before', route', hbefore, hearliest⟩ := h.of_subset hmore
    exact ⟨before', route', hbefore, hearliest, indexForTypes_of_isEarliest hearliest⟩

/-! ## The order of the candidates -/

/-- Types are routed by the order in which they and their ancestors are named. -/
structure RoutesByCandidates (table : RoutingTable) (indexOf : String → List String → String) :
    Prop where
  /-- The first candidate that has an entry decides, if there is one. -/
  first : ∀ type ancestors,
    table.LeadsTo (type :: ancestors) (indexOf type ancestors) ∨
      (∀ candidate ∈ type :: ancestors, ∀ route ∈ table.classes,
        route.resourceType ≠ candidate) ∧ indexOf type ancestors = unclassified
  /-- Candidates without an entry can be put in and left out anywhere. -/
  same_routed : ∀ type ancestors type' ancestors',
    (type' :: ancestors').filter table.hasClassSupport
        = (type :: ancestors).filter table.hasClassSupport →
      indexOf type' ancestors' = indexOf type ancestors
  /-- What comes after a candidate that has an entry does not count. -/
  same_front : ∀ type ancestors type' ancestors' front candidate others others',
    table.hasClassSupport candidate = true →
    type :: ancestors = front ++ candidate :: others →
    type' :: ancestors' = front ++ candidate :: others' →
      indexOf type' ancestors' = indexOf type ancestors

section

variable {table : RoutingTable} {candidate : String} {front others : List String}

theorem findSome?_filter_hasClassSupport (table : RoutingTable) (candidates : List String) :
    (candidates.filter table.hasClassSupport).findSome? table.indexForClass?
      = candidates.findSome? table.indexForClass? := by
  induction candidates with
  | nil => rfl
  | cons candidate candidates ih =>
    by_cases hentry : table.hasClassSupport candidate = true
    · rw [List.filter_cons_of_pos hentry, List.findSome?_cons, List.findSome?_cons, ih]
    · have hnone : table.indexForClass? candidate = none := Option.not_isSome_iff_eq_none.mp hentry
      rw [List.filter_cons_of_neg hentry, ih, List.findSome?_cons, hnone]

/-- What decides is found in the front that ends with a candidate that has an entry. -/
theorem findSome?_append_cons (h : table.hasClassSupport candidate = true) :
    (front ++ candidate :: others).findSome? table.indexForClass?
      = (front.findSome? table.indexForClass?).or (table.indexForClass? candidate) := by
  obtain ⟨index, hindex⟩ := Option.isSome_iff_exists.mp h
  rw [List.findSome?_append, List.findSome?_cons, hindex]

end

theorem routesByCandidates_indexForTypeOrAncestors (table : RoutingTable) :
    table.RoutesByCandidates table.indexForTypeOrAncestors where
  first := by
    intro type ancestors
    rw [indexForTypeOrAncestors]
    cases hfound : (type :: ancestors).findSome? table.indexForClass? with
    | none =>
      refine .inr ⟨fun candidate hcandidate ↦ ?_, rfl⟩
      have hnone := List.findSome?_eq_none_iff.mp hfound candidate hcandidate
      exact indexForClass?_eq_none_iff.mp hnone
    | some index => exact .inl (findSome?_indexForClass?_eq_some_iff.mp hfound)
  same_routed := by
    intro type ancestors type' ancestors' h
    rw [indexForTypeOrAncestors, indexForTypeOrAncestors, ← findSome?_filter_hasClassSupport, h,
      findSome?_filter_hasClassSupport]
  same_front := by
    intro type ancestors type' ancestors' front candidate others others' hentry h h'
    rw [indexForTypeOrAncestors, indexForTypeOrAncestors, h, h', findSome?_append_cons hentry,
      findSome?_append_cons hentry]

/-- **The order of the table decides over types, the order of the candidates over ancestors.** Types
are routed by the earliest entry for one of them, whatever their order. A type with ancestors is
routed by the first of these candidates that has an entry. A single type is routed in both ways by
its own entry. -/
theorem routes_by_order (table : RoutingTable) :
    table.RoutesByTable table.indexForTypes ∧
    table.RoutesByCandidates table.indexForTypeOrAncestors ∧
    ∀ type, table.indexForTypes [type] = (table.indexForClass? type).getD unclassified ∧
      table.indexForTypeOrAncestors type [] = (table.indexForClass? type).getD unclassified := by
  refine ⟨routesByTable_indexForTypes table, routesByCandidates_indexForTypeOrAncestors table, ?_⟩
  intro type
  refine ⟨indexForTypes_singleton table type, ?_⟩
  rw [indexForTypeOrAncestors, List.findSome?_singleton]

/-- Items stand before tests in the built-in table, wherever a document names them. -/
example : builtIn.indexForTypes [ResourceClass.test, ResourceClass.item] = Index.items := by
  decide +kernel

end ResourceSearch.RoutingTable
