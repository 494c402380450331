import ResourceSearch.Proofs.Indexing.Batches
import ResourceSearch.Proofs.Script.Changes

/-!
# Documents that a schema change reaches

A document is stored in one index, that of the earliest entry of the table for one of its types. A
change is sent to one index as well, that of the earliest entry for the type it is made for. For a
document of one type these are the same entry. A document of several types may be stored where the
entry for another of them leads, and then the change passes it by, although it reports success.
-/

namespace ResourceSearch

namespace RoutingTable

variable {table : RoutingTable} {types : List String} {type index : String}

theorem indexForTypeOrAncestors_of_indexForClass? (h : table.indexForClass? type = some index)
    (ancestors : List String) : table.indexForTypeOrAncestors type ancestors = index := by
  rw [indexForTypeOrAncestors, List.findSome?_cons_of_isSome (by rw [h]; rfl), h]
  rfl

/-- Types that lead to an index lead there by the earliest entry for one of them. -/
theorem exists_earliest_of_indexForTypes (h : table.indexForTypes types ≠ unclassified) :
    ∃ before route after, table.classes = before ++ route :: after ∧
      route.resourceType ∈ types ∧ route.index = table.indexForTypes types ∧
      ∀ earlier ∈ before, earlier.resourceType ∉ types := by
  rw [indexForTypes] at h ⊢
  cases hfind : table.classes.find? (·.resourceType ∈ types) with
  | none =>
    rw [hfind] at h
    exact absurd rfl h
  | some route =>
    obtain ⟨hroute, before, after, hclasses, hbefore⟩ := List.find?_eq_some_iff_append.mp hfind
    refine ⟨before, route, after, hclasses, of_decide_eq_true hroute, rfl, ?_⟩
    intro earlier hearlier
    simpa using hbefore earlier hearlier

theorem exists_indexForClass?_of_indexForTypes (h : table.indexForTypes types ≠ unclassified) :
    ∃ type ∈ types, table.indexForClass? type = some (table.indexForTypes types) := by
  obtain ⟨before, route, after, hclasses, htype, hindex, hbefore⟩ :=
    exists_earliest_of_indexForTypes h
  refine ⟨route.resourceType, htype, ?_⟩
  -- No entry before it has one of the types, and so none has this type.
  have hfind : table.classes.find? (·.resourceType = route.resourceType) = some route := by
    refine List.find?_eq_some_iff_append.mpr ⟨decide_eq_true rfl, before, after, hclasses, ?_⟩
    intro earlier hearlier
    have hne : earlier.resourceType ≠ route.resourceType := fun heq ↦
      hbefore earlier hearlier (heq ▸ htype)
    simpa using hne
  rw [indexForClass?, hfind, ← hindex]
  rfl

end RoutingTable

namespace SchemaChange

/-- A change is sent to an index, whatever the engine answers. -/
def IsSentTo (change : SchemaChange) (routing : RoutingTable) (index : String) : Prop :=
  ∀ (σ : Type) (engine : Engine σ) (world : World σ), ∃ request : UpdateRequest,
    (change.run routing engine world).2.calls = world.calls ++ [.updateByQuery request] ∧
      request.index = index

variable {change : SchemaChange} {routing : RoutingTable} {index index' : String}

theorem isSentTo_iff :
    change.IsSentTo routing index ↔
      ∃ request, change.request? routing = some request ∧ request.index = index := by
  constructor
  · intro h
    obtain ⟨request, hcalls, hindex⟩ :=
      h Unit ⟨fun _ state ↦ (.ok .null, state)⟩ (.start () .empty)
    exact ⟨request, request?_of_calls_run hcalls, hindex⟩
  · rintro ⟨request, hrequest, hindex⟩ σ engine world
    refine ⟨request, ?_, hindex⟩
    rw [calls_run, hrequest]
    rfl

theorem isSentTo_iff_of_indexForClass? {update : ScriptedUpdate}
    (hupdate : change.update? = some update)
    (hentry : routing.indexForClass? update.resourceType = some index) :
    change.IsSentTo routing index' ↔ index' = index ∧ index ≠ unclassified := by
  have hindex : update.index routing = index :=
    RoutingTable.indexForTypeOrAncestors_of_indexForClass? hentry update.parentClasses
  rw [isSentTo_iff, request?, hupdate]
  dsimp only
  rw [hindex]
  by_cases hunclassified : index = unclassified
  · rw [if_pos hunclassified]
    refine iff_of_false ?_ fun h ↦ h.2 hunclassified
    rintro ⟨request, hrequest, -⟩
    cases hrequest
  · rw [if_neg hunclassified, and_iff_left hunclassified]
    constructor
    · rintro ⟨request, hrequest, rfl⟩
      cases hrequest
      exact hindex
    · rintro rfl
      exact ⟨update.request routing, rfl, hindex⟩

/-- **Which documents a schema change reaches.** A document that is accepted lies in the index of
the earliest entry for one of its types. A change for one of these types is sent to the index of the
entry for that type, unless this is the unclassified index, and to no other. So the change reaches
the document exactly if both entries lead to the same index, as they do if the document has no type
whose entry leads elsewhere. -/
theorem isSentTo_iff_of_accepted (indexer : Indexer) {document : IndexDocument} {item : BulkItem}
    (haccepted : indexer.item? document = some item) {types : List String}
    (htypes : document.types = .ok types) {type : String} (htype : type ∈ types) {index : String}
    (hentry : indexer.routing.indexForClass? type = some index) {change : SchemaChange}
    {update : ScriptedUpdate} (hupdate : change.update? = some update)
    (hresource : update.resourceType = type) :
    (∃ before route after, indexer.routing.classes = before ++ route :: after ∧
      route.resourceType ∈ types ∧ route.index = item.index ∧
      ∀ earlier ∈ before, earlier.resourceType ∉ types) ∧
    (∀ index', change.IsSentTo indexer.routing index' ↔ index' = index ∧ index ≠ unclassified) ∧
    (change.IsSentTo indexer.routing item.index ↔ item.index = index) ∧
    ((∀ other ∈ types, ∀ index', indexer.routing.indexForClass? other = some index' →
        index' = index) →
      change.IsSentTo indexer.routing item.index) := by
  have hne := Indexer.index_ne_unclassified haccepted
  have hitem : item.index = indexer.routing.indexForTypes types := by
    rw [Indexer.item?_of_types htypes] at haccepted
    split at haccepted
    · cases haccepted
    · cases haccepted
      rfl
  subst hresource
  have hsent : ∀ index', change.IsSentTo indexer.routing index' ↔
      index' = index ∧ index ≠ unclassified := fun _ ↦
    isSentTo_iff_of_indexForClass? hupdate hentry
  have hreached : change.IsSentTo indexer.routing item.index ↔ item.index = index := by
    rw [hsent]
    exact and_iff_left_of_imp fun heq ↦ heq ▸ hne
  rw [hitem] at hne hreached ⊢
  refine ⟨RoutingTable.exists_earliest_of_indexForTypes hne, hsent, hreached, fun hone ↦ ?_⟩
  obtain ⟨other, hother, hindex⟩ := RoutingTable.exists_indexForClass?_of_indexForTypes hne
  exact hreached.mpr (hone other hother _ hindex)

/-- A document with two types that are served by the same index, and one that is served by none. -/
def deliveryDocument : IndexDocument :=
  ⟨"a", .ofList [(typeField,
    .strings ["urn:exam", ResourceClass.assembledDelivery, ResourceClass.delivery])], ∅, ∅⟩

/-- A property of assembled deliveries is removed. -/
def deliveryRemoval : SchemaChange :=
  .remove ⟨"b", ResourceClass.assembledDelivery, [ResourceClass.item]⟩

theorem isSentTo_deliveryDocument :
    ∃ item, (Indexer.new .builtIn 100).item? deliveryDocument = some item ∧
      deliveryRemoval.IsSentTo .builtIn item.index := by
  obtain ⟨item, haccepted⟩ :
      ∃ item, (Indexer.new .builtIn 100).item? deliveryDocument = some item := ⟨_, rfl⟩
  have hentry : RoutingTable.builtIn.indexForClass? ResourceClass.assembledDelivery
      = some Index.deliveries := by decide +kernel
  have hone : ∀ other ∈ ["urn:exam", ResourceClass.assembledDelivery, ResourceClass.delivery],
      ∀ index', RoutingTable.builtIn.indexForClass? other = some index' →
        index' = Index.deliveries := by
    have hclasses : ∀ other ∈ ["urn:exam", ResourceClass.assembledDelivery, ResourceClass.delivery],
        RoutingTable.builtIn.indexForClass? other ∈ [none, some Index.deliveries] := by
      decide +kernel
    intro other hother index' hindex
    have hmem := hclasses other hother
    rw [hindex] at hmem
    simpa using hmem
  exact ⟨item, haccepted, (isSentTo_iff_of_accepted _ haccepted rfl (by simp) hentry rfl rfl).2.2.2
    hone⟩

/-- A document that is both an item and a test. -/
def sharedDocument : IndexDocument :=
  ⟨"a", .ofList [(typeField, .strings [ResourceClass.item, ResourceClass.test]),
    ("b", .string "x")], ∅, ∅⟩

/-- A property of tests gets another name. -/
def testRename : SchemaChange :=
  .rename [⟨"b", "c", ResourceClass.test, []⟩]

/-- The rename looks for tests among the tests, and this one lies among the items. It succeeds
all the same. -/
theorem not_isSentTo_sharedDocument :
    ∃ item types, (Indexer.new .builtIn 100).item? sharedDocument = some item ∧
      sharedDocument.types = .ok types ∧ ResourceClass.test ∈ types ∧
      RoutingTable.builtIn.hasClassSupport ResourceClass.test = true ∧
      item.index = Index.items ∧ testRename.IsSentTo .builtIn Index.tests ∧
      (∀ world : World Unit,
        (testRename.run .builtIn ⟨fun _ state ↦ (.ok .null, state)⟩ world).1 = .ok ()) ∧
      ¬ testRename.IsSentTo .builtIn item.index := by
  have hentry : RoutingTable.builtIn.indexForClass? ResourceClass.test = some Index.tests := by
    decide +kernel
  have hsent : ∀ index', testRename.IsSentTo .builtIn index' ↔
      index' = Index.tests ∧ Index.tests ≠ unclassified := fun _ ↦
    isSentTo_iff_of_indexForClass? rfl hentry
  refine ⟨_, _, rfl, rfl, by simp, by decide +kernel, rfl, (hsent _).mpr ⟨rfl, by decide⟩,
    fun _ ↦ rfl, ?_⟩
  rw [hsent]
  rintro ⟨hindex, -⟩
  exact absurd hindex (by decide +kernel)

end SchemaChange

end ResourceSearch
