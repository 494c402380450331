import ResourceSearch.Proofs.Document.Kinds
import ResourceSearch.Proofs.Indexing.Batches

/-!
# The readers that documents store

A query against an access-controlled index finds the documents that store a principal of the user
among their readers, so it finds what the user may read if every document of such an index stores
the readers of its resource. Three groups of fields have a say in what is stored: the body never
names readers, a kind may add the readers of the resource, and a kind may add properties of the
resource, among which one may be called like the field for the readers. Only the generic kind adds
the readers, and only if there are any; where a kind adds none, such a property takes their place.
-/

namespace ResourceSearch

/-- What a document of a resource should store as its readers: all of them, in order, and nothing if
there are none. -/
def Resource.readers? (resource : Resource) : Option Json :=
  if resource.readAccess = [] then none else some (.strings resource.readAccess)

theorem Resource.readers?_eq_none_iff {resource : Resource} :
    resource.readers? = none ↔ resource.readAccess = [] := by
  rw [readers?]
  by_cases hreaders : resource.readAccess = []
  · rw [if_pos hreaders]
    exact iff_of_true rfl hreaders
  · rw [if_neg hreaders]
    exact iff_of_false nofun hreaders

namespace DocumentKind

theorem get?_accessProperties (kind : DocumentKind) (resource : Resource) :
    (kind.accessProperties resource).get? readAccessField
      = if kind = .generic then resource.readers? else none := by
  cases kind with
  | generic =>
    rw [accessProperties, if_pos rfl, Resource.readers?]
    by_cases hreaders : resource.readAccess = []
    · rw [if_pos hreaders, if_pos (by simpa using hreaders)]
      rfl
    · rw [if_neg hreaders, if_neg (by simpa using hreaders), Dict.get?_ofList]
      rfl
  | item | testTaker | unclassified => rfl

/-- What a document of a kind stores as its readers. -/
theorem get?_source_readAccessField {kind : DocumentKind} {resource : Resource}
    {rootType : Option String} {document : IndexDocument}
    (h : kind.document? resource rootType = some document) :
    document.source.get? readAccessField
      = (if kind = .generic then resource.readers? else none).or
          ((kind.dynamicProperties resource).get? readAccessField) := by
  rw [document?_of_accepts (accepts_of_document? h), Option.some.injEq] at h
  subst h
  rw [IndexDocument.get?_source]
  dsimp only
  rw [get?_body_readAccessField, Option.or_none, get?_accessProperties]

end DocumentKind

namespace Resource

/-- **Which documents store their readers.** Documents of the generic kind do, unless the resource
has none and a property stands in for them. Test takers store what a property says. Items and
documents of no other kind store no readers at all. -/
theorem readers_stored_iff (resource : Resource) (rootType : Option String)
    {document : IndexDocument} (h : resource.document? rootType = some document) :
    document.source.get? readAccessField = resource.readers? ↔
      match resource.kind rootType with
      | .generic =>
        resource.readAccess = [] → resource.dynamicProperties.get? readAccessField = none
      | .testTaker => resource.dynamicProperties.get? readAccessField = resource.readers?
      | .item | .unclassified => resource.readAccess = [] := by
  rw [document?_eq] at h
  rw [DocumentKind.get?_source_readAccessField h]
  cases resource.kind rootType with
  | generic =>
    rw [if_pos rfl]
    dsimp only [DocumentKind.dynamicProperties]
    rw [← readers?_eq_none_iff]
    cases resource.readers? with
    | none =>
      rw [Option.none_or]
      exact ⟨fun hnone _ ↦ hnone, fun hnone ↦ hnone rfl⟩
    | some readers => exact iff_of_true rfl nofun
  | testTaker =>
    rw [if_neg (by decide), Option.none_or]
    rfl
  | item | unclassified =>
    rw [if_neg (by decide), Option.none_or, ← readers?_eq_none_iff]
    exact eq_comm

/-- An item that two principals may read. -/
def sharedItem : Resource where
  uri := "a"
  label := "Algebra"
  types := [ResourceClass.item]
  classLabel := "Item"
  propertyValue _ := none
  readAccess := ["user", "role"]

theorem readers_stored_test :
    ∃ document, { sharedItem with types := [ResourceClass.test] }.document? none = some document ∧
      document.source.get? readAccessField = some (.strings ["user", "role"]) := by
  exact ⟨_, rfl,
    (readers_stored_iff { sharedItem with types := [ResourceClass.test] } none rfl).mpr nofun⟩

/-- The readers of an item are not stored, although queries for items are filtered by readers. -/
theorem readers_not_stored_sharedItem :
    ∃ (document : IndexDocument) (index : String), sharedItem.document? none = some document ∧
      (Indexer.new RoutingTable.builtIn 100).index document = .ok index ∧
      RoutingTable.builtIn.isAccessControlled index = true ∧
      sharedItem.readers? = some (.strings ["user", "role"]) ∧
      document.source.get? readAccessField = none := by
  exact ⟨_, Index.items, rfl, rfl, by decide +kernel, rfl, rfl⟩

end Resource

end ResourceSearch
