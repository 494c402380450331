import ResourceSearch.Proofs.Document.Kinds
import ResourceSearch.Proofs.Indexing.Accounting
import ResourceSearch.Proofs.Routing

/-!
# Where the documents of resources go

A resource can be routed if its root type has an entry in the table, or one of its own types where
no root type is given. Whether it is then written to an index depends on the types that its document
stores. A kind that stores a list of types stores all that count, so such a resource is never lost.
The other kinds store the first type of the resource, whatever the root type and the other types
are: the resource is written exactly if this type has an entry.
-/

namespace ResourceSearch

/-- A resource has a document, which is sent to an index: it adds one to the documents that are sent
with any others, and nothing to those that are passed over or refused. -/
def Resource.IsQueuedTo (resource : Resource) (rootType : Option String) (indexer : Indexer)
    (index : String) : Prop :=
  ∃ document, resource.document? rootType = some document ∧
    indexer.item? document = some ⟨index, resource.uri, document.source⟩ ∧
    ∀ (σ : Type) (engine : Engine σ) (before after : List IndexDocument) (world : World σ),
      (indexer.run engine (before ++ document :: after) world).1.queued
          = (indexer.run engine (before ++ after) world).1.queued + 1 ∧
        (indexer.run engine (before ++ document :: after) world).1.skipped
          = (indexer.run engine (before ++ after) world).1.skipped ∧
        (indexer.run engine (before ++ document :: after) world).1.exceptions
          = (indexer.run engine (before ++ after) world).1.exceptions

namespace Resource

variable {resource : Resource} {rootType : Option String} {indexer : Indexer} {index : String}

/-- A resource is written to the index that serves the types which its document stores. -/
theorem isQueuedTo_iff :
    resource.IsQueuedTo rootType indexer index ↔
      (resource.kind rootType).accepts resource rootType = true ∧
        indexer.routing.indexForTypes ((resource.kind rootType).storedTypes resource rootType)
          = index ∧ index ≠ unclassified := by
  constructor
  · rintro ⟨document, hdocument, hitem, -⟩
    rw [document?_eq] at hdocument
    refine ⟨DocumentKind.accepts_of_document? hdocument, ?_, Indexer.index_ne_unclassified hitem⟩
    rw [Indexer.item?_of_types (DocumentKind.types_of_document? hdocument)] at hitem
    split at hitem
    · cases hitem
    · rw [Option.some.injEq, BulkItem.mk.injEq] at hitem
      exact hitem.1
  · rintro ⟨haccepts, hserves, hindex⟩
    obtain ⟨document, hdocument⟩ : ∃ document,
        (resource.kind rootType).document? resource rootType = some document :=
      ⟨_, DocumentKind.document?_of_accepts haccepts⟩
    have hitem : indexer.item? document = some ⟨index, resource.uri, document.source⟩ := by
      rw [Indexer.item?_of_types (DocumentKind.types_of_document? hdocument), hserves,
        if_neg hindex, DocumentKind.id_of_document? hdocument]
    exact ⟨document, hdocument, hitem, fun σ engine before after world ↦
      Indexer.stats_run_of_item? hitem engine before after world⟩

theorem ne_empty_of_hasClassSupport {type : String}
    (h : RoutingTable.builtIn.hasClassSupport type = true) : type ≠ "" := by
  rintro rfl
  exact absurd h (by decide +kernel)

theorem isQueuedTo_of_storesTypeList {n : Nat} (huri : resource.uri ≠ "")
    (hentry : ∃ type ∈ resource.typeList rootType,
      RoutingTable.builtIn.hasClassSupport type = true)
    (hlist : (resource.kind rootType).storesTypeList = true) :
    resource.IsQueuedTo rootType (.new .builtIn n)
      (RoutingTable.builtIn.indexForTypes (resource.typeList rootType)) := by
  have hrouted := RoutingTable.indexForTypes_builtIn_ne_unclassified hentry
  have hstored : (resource.kind rootType).storedTypes resource rootType
      = resource.typeList rootType := by
    rw [DocumentKind.storedTypes, hlist, if_pos rfl]
  obtain ⟨type, htype, hsupport⟩ := hentry
  rw [isQueuedTo_iff, DocumentKind.accepts_iff, hstored]
  exact ⟨⟨huri, type, htype, ne_empty_of_hasClassSupport hsupport⟩, rfl, hrouted⟩

theorem isQueuedTo_iff_of_firstType {n : Nat} (huri : resource.uri ≠ "")
    (hfirst : (resource.kind rootType).storesTypeList = false) :
    resource.IsQueuedTo rootType (.new .builtIn n) index ↔
      ∃ type, resource.firstType? = some type ∧
        RoutingTable.builtIn.indexForClass? type = some index := by
  have hstored : (resource.kind rootType).storedTypes resource rootType
      = resource.firstType?.toList := by
    rw [DocumentKind.storedTypes, hfirst, if_neg (by decide)]
  have htable : (Indexer.new .builtIn n).routing = RoutingTable.builtIn := rfl
  rw [isQueuedTo_iff, DocumentKind.accepts_iff, hstored, htable]
  cases htype : resource.firstType? with
  | none =>
    -- A resource without a first type has no document, so nothing is written.
    refine iff_of_false ?_ ?_
    · rintro ⟨⟨-, type, hmem, -⟩, -⟩
      cases hmem
    · rintro ⟨type, hsome, -⟩
      cases hsome
  | some type =>
    have hne := firstType?_ne_empty htype
    rw [Option.toList_some, RoutingTable.indexForTypes_singleton_builtIn_iff]
    constructor
    · rintro ⟨-, hindex⟩
      exact ⟨type, rfl, hindex⟩
    · rintro ⟨type', hsome, hindex⟩
      cases hsome
      exact ⟨⟨huri, type, List.mem_singleton_self type, hne⟩, hindex⟩

/-- **Where a resource goes that can be routed.** Let one of the types that count have an entry: the
root type if one is given, else one of the resource's own types. A kind that stores a list of types
writes the resource, to the index of the root type if one is given. Any other kind writes it to an
index exactly if this is the index of the resource's first type. -/
theorem isQueued_of_hasClassSupport (resource : Resource) (rootType : Option String) (n : Nat)
    (huri : resource.uri ≠ "")
    (hentry : ∃ type ∈ resource.typeList rootType,
      RoutingTable.builtIn.hasClassSupport type = true) :
    ((resource.kind rootType).storesTypeList = true →
      (∃ index, resource.IsQueuedTo rootType (.new .builtIn n) index) ∧
      ∀ root index, rootType = some root → root ≠ "" →
        RoutingTable.builtIn.indexForClass? root = some index →
          resource.IsQueuedTo rootType (.new .builtIn n) index) ∧
    ((resource.kind rootType).storesTypeList = false → ∀ index,
      resource.IsQueuedTo rootType (.new .builtIn n) index ↔
        ∃ type, resource.firstType? = some type ∧
          RoutingTable.builtIn.indexForClass? type = some index) := by
  refine ⟨fun hlist ↦ ?_, fun hfirst index ↦ isQueuedTo_iff_of_firstType huri hfirst⟩
  have hqueued := isQueuedTo_of_storesTypeList (n := n) huri hentry hlist
  refine ⟨⟨_, hqueued⟩, ?_⟩
  rintro root index rfl hroot hindex
  -- The root type is then the only one that counts.
  rw [typeList_of_root hroot,
    (RoutingTable.indexForTypes_singleton_builtIn_iff.mpr hindex).1] at hqueued
  exact hqueued

/-- A resource whose own type has no entry. -/
def customResource : Resource where
  uri := "a"
  label := "Algebra"
  types := ["urn:algebra"]
  classLabel := "Custom"
  propertyValue _ := none

theorem isQueued_customResource_test :
    customResource.IsQueuedTo (some ResourceClass.test) (.new .builtIn 100) Index.tests :=
  ((isQueued_of_hasClassSupport customResource (some ResourceClass.test) 100 (by decide)
    ⟨ResourceClass.test, .head _, by decide +kernel⟩).1 rfl).2 ResourceClass.test Index.tests rfl
      (by decide) (by decide +kernel)

/-- Given as an item, the same resource is passed over. -/
theorem skipped_customResource_item :
    customResource.uri ≠ "" ∧
      RoutingTable.builtIn.indexForClass? ResourceClass.item = some Index.items ∧
      ∃ document, customResource.document? (some ResourceClass.item) = some document ∧
        ∀ (σ : Type) (engine : Engine σ) (world : World σ),
          ((Indexer.new .builtIn 100).run engine [document] world).1.skipped = 1 ∧
            ((Indexer.new .builtIn 100).run engine [document] world).1.queued = 0 := by
  have hdocument : ∃ document,
      customResource.document? (some ResourceClass.item) = some document ∧
        (Indexer.new .builtIn 100).disposition document = .unrouted := by
    exact ⟨_, rfl, rfl⟩
  obtain ⟨document, hdocument, hunrouted⟩ := hdocument
  refine ⟨by decide, by decide +kernel, document, hdocument, fun σ engine world ↦ ?_⟩
  obtain ⟨-, hskipped, -, hqueued⟩ :=
    (Indexer.new .builtIn 100).accounts_run engine [document] world
  rw [List.countP_singleton, Indexer.passesOver, hunrouted] at hskipped
  rw [List.filterMap_cons, Indexer.item?, hunrouted] at hqueued
  exact ⟨hskipped, hqueued⟩

end Resource

end ResourceSearch
