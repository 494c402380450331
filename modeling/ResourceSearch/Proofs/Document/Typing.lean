import ResourceSearch.Proofs.Document.Kinds
import ResourceSearch.Proofs.Indexing.Accounting

/-!
# Documents of resources tell their types

What makes a document of a resource and what indexes it are two parties, and each has its own idea
of which types will do. They agree: a kind makes a document only if one of the types that it stores
is not empty, and this is all that indexing asks of the types. So nothing is refused. What remains
is to say which resources a kind turns away. A list of types is the root type or the types of the
resource, whereas the first type is looked for among the types of the resource alone.
-/

namespace ResourceSearch

variable {kind : DocumentKind} {resource : Resource} {rootType : Option String}
  {document : IndexDocument}

namespace DocumentKind

theorem exists_types_of_document? (h : kind.document? resource rootType = some document) :
    ∃ types, document.types = .ok types ∧ (∃ type ∈ types, type ≠ "") ∧
      ∀ root, kind.storesTypeList = true → rootType = some root → root ≠ "" → types = [root] := by
  have hnamed := (accepts_iff.mp (accepts_of_document? h)).2
  refine ⟨kind.storedTypes resource rootType, types_of_document? h, hnamed, ?_⟩
  rintro root hlist rfl hroot
  rw [storedTypes, if_pos hlist, Resource.typeList_of_root hroot]

end DocumentKind

/-! ## Nothing is refused -/

/-- A run over documents that have types reports no exceptions. -/
theorem Indexer.exceptions_run_eq_zero {σ : Type} {documents : List IndexDocument}
    (htyped : ∀ document ∈ documents, ∃ types, document.types = .ok types)
    (indexer : Indexer) (engine : Engine σ) (world : World σ) :
    (indexer.run engine documents world).1.exceptions = 0 := by
  rw [(indexer.accounts_run engine documents world).exceptions, List.countP_eq_zero]
  intro document hdocument
  rw [refuses_eq_isUntyped, IndexDocument.isUntyped_iff]
  rintro ⟨error, herror⟩
  obtain ⟨types, htypes⟩ := htyped document hdocument
  rw [htypes] at herror
  cases herror

namespace Resource

/-- **Documents of resources can be classified.** Every kind turns away a resource without an
identifier. Items and documents of no other kind turn it away as well if it has no type of its own,
whereas the kinds that store a list of types do so only if there is no root type either. Each
document that is made has the resource's identifier and has types, which are the root type alone if
the kind stores a list and a root type is given. So indexing documents of resources never meets one
that it has to refuse. -/
theorem documents_classified :
    (∀ (kind : DocumentKind) (resource : Resource) (rootType : Option String),
      (kind.document? resource rootType = none ↔
        resource.uri = "" ∨
          match kind with
          | .item | .unclassified => ∀ type ∈ resource.types, type = ""
          | .generic | .testTaker =>
            (∀ type ∈ resource.types, type = "") ∧ (rootType = none ∨ rootType = some "")) ∧
      ∀ document, kind.document? resource rootType = some document →
        document.id = resource.uri ∧
          ∃ types, document.types = .ok types ∧ (∃ type ∈ types, type ≠ "") ∧
            ∀ root, (kind = .generic ∨ kind = .testTaker) → rootType = some root → root ≠ "" →
              types = [root]) ∧
    ∀ (documents : List IndexDocument),
      (∀ document ∈ documents, ∃ (resource : Resource) (rootType : Option String),
        resource.document? rootType = some document) →
      ∀ (σ : Type) (indexer : Indexer) (engine : Engine σ) (world : World σ),
        (indexer.run engine documents world).1.exceptions = 0 := by
  constructor
  · intro kind resource rootType
    constructor
    · rw [DocumentKind.document?_eq_none_iff, DocumentKind.forall_storedTypes_iff]
      cases kind with
      | item | unclassified => simp [DocumentKind.storesTypeList]
      | generic | testTaker => simp [DocumentKind.storesTypeList]
    · intro document hdocument
      obtain ⟨types, htypes, hnamed, hroot⟩ := DocumentKind.exists_types_of_document? hdocument
      refine ⟨DocumentKind.id_of_document? hdocument, types, htypes, hnamed, ?_⟩
      intro root hkind
      apply hroot root
      rcases hkind with rfl | rfl <;> rfl
  · intro documents hdocuments σ indexer engine world
    apply Indexer.exceptions_run_eq_zero
    intro document hdocument
    obtain ⟨resource, rootType, hmade⟩ := hdocuments document hdocument
    rw [document?_eq] at hmade
    exact ⟨_, DocumentKind.types_of_document? hmade⟩

/-- A resource whose first type is empty. -/
def halfTypedResource : Resource where
  uri := "a"
  label := "Algebra"
  types := ["", ResourceClass.item]
  classLabel := "Item"
  propertyValue _ := none

/-- The empty type chooses the kind of the document, but is not what the document stores. -/
theorem documents_classified_halfTypedResource :
    ∃ asTest asItself : IndexDocument,
      halfTypedResource.document? (some ResourceClass.test) = some asTest ∧
      asTest.types = .ok [ResourceClass.test] ∧
      halfTypedResource.document? none = some asItself ∧
      asItself.types = .ok [ResourceClass.item] ∧
      ∀ (σ : Type) (indexer : Indexer) (engine : Engine σ) (world : World σ),
        (indexer.run engine [asTest, asItself] world).1.exceptions = 0 := by
  refine ⟨_, _, rfl, rfl, rfl, rfl, documents_classified.2 _ ?_⟩
  intro document hdocument
  rcases List.mem_pair.mp hdocument with rfl | rfl
  · exact ⟨halfTypedResource, some ResourceClass.test, rfl⟩
  · exact ⟨halfTypedResource, none, rfl⟩

end Resource

end ResourceSearch
