import Mathlib.Tactic.Push
import ResourceSearch.Document.Kind
import ResourceSearch.Proofs.Dict

/-!
# What the kinds of documents store

Two kinds of documents store a list of types, which is the root type alone if one is given; the two
others store the first type of the resource and take no notice of the root type. A kind makes a
document of a resource exactly if the resource has an identifier and one of the types that the kind
would store is not empty, and these are the types of the document.
-/

namespace ResourceSearch

/-- The kind of document that is made of a resource. -/
def Resource.kind (resource : Resource) (rootType : Option String) : DocumentKind :=
  .ofType (rootType.getD (resource.types.head?.getD ""))

theorem Resource.document?_eq (resource : Resource) (rootType : Option String) :
    resource.document? rootType = (resource.kind rootType).document? resource rootType := rfl

theorem Resource.firstType?_ne_empty {resource : Resource} {type : String}
    (h : resource.firstType? = some type) : type ≠ "" := by
  rw [firstType?] at h
  have hne := List.find?_some h
  exact of_decide_eq_true hne

theorem Resource.typeList_of_root {resource : Resource} {root : String} (h : root ≠ "") :
    resource.typeList (some root) = [root] :=
  if_neg h

theorem Resource.typeList_of_empty {resource : Resource} {rootType : Option String}
    (h : rootType = none ∨ rootType = some "") :
    resource.typeList rootType = resource.types := by
  rcases h with rfl | rfl
  · rfl
  · rw [typeList, if_pos rfl]

namespace DocumentKind

/-- Whether a kind stores a list of types. -/
def storesTypeList : DocumentKind → Bool
  | generic | testTaker => true
  | item | unclassified => false

/-- The types that a kind stores. -/
def storedTypes (kind : DocumentKind) (resource : Resource) (rootType : Option String) :
    List String :=
  if kind.storesTypeList then resource.typeList rootType else resource.firstType?.toList

/-! ## Fields of the body -/

theorem get?_body_typeField (kind : DocumentKind) (resource : Resource)
    (rootType : Option String) :
    (kind.body resource rootType).get? typeField
      = some (if kind.storesTypeList then .strings (resource.typeList rootType)
          else .ofOption .string resource.firstType?) := by
  cases kind with
  | generic =>
    by_cases hparents : resource.parentClasses = [] <;>
      simp [body, Dict.get?_ofList, Entries.get?, typeField, storesTypeList, hparents]
  | item | testTaker | unclassified =>
    simp [body, Dict.get?_ofList, Entries.get?, typeField, storesTypeList]

theorem get?_body_readAccessField (kind : DocumentKind) (resource : Resource)
    (rootType : Option String) : (kind.body resource rootType).get? readAccessField = none := by
  cases kind with
  | generic =>
    by_cases hparents : resource.parentClasses = [] <;>
      simp [body, Dict.get?_ofList, Entries.get?, typeField, readAccessField, hparents]
  | item | testTaker | unclassified =>
    simp [body, Dict.get?_ofList, Entries.get?, typeField, readAccessField]

/-! ## Which resources have a document -/

theorem isIndexable_iff {resource : Resource} {rootType : Option String} :
    resource.isIndexable rootType = true ↔
      resource.uri ≠ "" ∧ ∃ type ∈ resource.typeList rootType, type ≠ "" := by
  cases rootType with
  | none => simp [Resource.isIndexable, Resource.typeList]
  | some root =>
    by_cases hroot : root = ""
    · simp [Resource.isIndexable, Resource.typeList, hroot]
    · simp [Resource.isIndexable, Resource.typeList, hroot]

theorem exists_firstType?_iff {resource : Resource} :
    (∃ type ∈ resource.firstType?.toList, type ≠ "") ↔ ∃ type ∈ resource.types, type ≠ "" := by
  constructor
  · rintro ⟨type, htype, hne⟩
    rw [Option.mem_toList, Resource.firstType?] at htype
    exact ⟨type, List.mem_of_find?_eq_some htype, hne⟩
  · rintro ⟨type, htype, hne⟩
    have hsome : resource.firstType?.isSome :=
      List.find?_isSome.mpr ⟨type, htype, decide_eq_true hne⟩
    obtain ⟨first, hfirst⟩ := Option.isSome_iff_exists.mp hsome
    rw [hfirst]
    exact ⟨first, List.mem_singleton_self first, Resource.firstType?_ne_empty hfirst⟩

theorem accepts_iff {kind : DocumentKind} {resource : Resource} {rootType : Option String} :
    kind.accepts resource rootType = true ↔
      resource.uri ≠ "" ∧ ∃ type ∈ kind.storedTypes resource rootType, type ≠ "" := by
  have hown : resource.isIndexable none = true ↔
      resource.uri ≠ "" ∧ ∃ type ∈ resource.firstType?.toList, type ≠ "" := by
    rw [isIndexable_iff, exists_firstType?_iff]
    rfl
  cases kind with
  | generic | testTaker => exact isIndexable_iff
  | item | unclassified => exact hown

theorem document?_of_accepts {kind : DocumentKind} {resource : Resource}
    {rootType : Option String} (h : kind.accepts resource rootType = true) :
    kind.document? resource rootType
      = some ⟨resource.uri, kind.body resource rootType, kind.dynamicProperties resource,
          kind.accessProperties resource⟩ :=
  if_pos h

theorem accepts_of_document? {kind : DocumentKind} {resource : Resource}
    {rootType : Option String} {document : IndexDocument}
    (h : kind.document? resource rootType = some document) :
    kind.accepts resource rootType = true := by
  rw [document?] at h
  split at h
  · assumption
  · cases h

theorem id_of_document? {kind : DocumentKind} {resource : Resource} {rootType : Option String}
    {document : IndexDocument} (h : kind.document? resource rootType = some document) :
    document.id = resource.uri := by
  rw [document?_of_accepts (accepts_of_document? h), Option.some.injEq] at h
  rw [← h]

theorem document?_eq_none_iff {kind : DocumentKind} {resource : Resource}
    {rootType : Option String} :
    kind.document? resource rootType = none ↔
      resource.uri = "" ∨ ∀ type ∈ kind.storedTypes resource rootType, type = "" := by
  have hnone : kind.document? resource rootType = none ↔
      ¬ kind.accepts resource rootType = true := by
    constructor
    · intro hnone haccepts
      rw [document?_of_accepts haccepts] at hnone
      cases hnone
    · intro haccepts
      rw [document?, if_neg haccepts]
  rw [hnone, accepts_iff]
  push Not
  exact or_iff_not_imp_left.symm

/-- A kind finds no types if the resource has none and no root type stands in for them. -/
theorem forall_storedTypes_iff {kind : DocumentKind} {resource : Resource}
    {rootType : Option String} :
    (∀ type ∈ kind.storedTypes resource rootType, type = "") ↔
      (∀ type ∈ resource.types, type = "") ∧
        (kind.storesTypeList = true → rootType = none ∨ rootType = some "") := by
  rw [storedTypes]
  cases kind.storesTypeList with
  | false =>
    rw [if_neg (by decide), ← not_iff_not]
    push Not
    rw [exists_firstType?_iff]
    simp
  | true =>
    rw [if_pos rfl]
    by_cases hroot : rootType = none ∨ rootType = some ""
    · rw [Resource.typeList_of_empty hroot]
      exact (and_iff_left fun _ ↦ hroot).symm
    · obtain ⟨root, rfl⟩ := Option.ne_none_iff_exists'.mp (not_or.mp hroot).1
      have hne : root ≠ "" := fun hempty ↦ hroot (.inr (congrArg some hempty))
      rw [Resource.typeList_of_root hne]
      refine iff_of_false (fun hall ↦ hne ?_) fun hall ↦ hroot (hall.2 rfl)
      exact hall root (List.mem_singleton_self root)

/-! ## The types of a document -/

theorem strings?_map_string (types : List String) :
    IndexDocument.strings? (types.map .string) = some types := by
  induction types with
  | nil => rfl
  | cons type types ih => rw [List.map_cons, IndexDocument.strings?, ih, Json.string?]

theorem named_of_exists {document : IndexDocument} {types : List String}
    (h : ∃ type ∈ types, type ≠ "") : IndexDocument.types.named document types = .ok types := by
  obtain ⟨type, htype, hne⟩ := h
  refine if_neg fun hall ↦ hne ?_
  exact String.isEmpty_iff.mp (List.all_eq_true.mp hall type htype)

theorem types_of_document? {kind : DocumentKind} {resource : Resource} {rootType : Option String}
    {document : IndexDocument} (h : kind.document? resource rootType = some document) :
    document.types = .ok (kind.storedTypes resource rootType) := by
  have haccepts := accepts_of_document? h
  rw [document?_of_accepts haccepts, Option.some.injEq] at h
  subst h
  obtain ⟨-, hnamed⟩ := accepts_iff.mp haccepts
  rw [IndexDocument.types, get?_body_typeField]
  cases hlist : kind.storesTypeList with
  | true =>
    rw [storedTypes, hlist, if_pos rfl] at hnamed
    rw [storedTypes, hlist, if_pos rfl, if_pos rfl]
    simp only [Json.strings, strings?_map_string]
    exact named_of_exists hnamed
  | false =>
    rw [storedTypes, hlist, if_neg (by decide)] at hnamed
    rw [storedTypes, hlist, if_neg (by decide), if_neg (by decide)]
    cases hfirst : resource.firstType? with
    | none =>
      rw [hfirst] at hnamed
      obtain ⟨type, htype, -⟩ := hnamed
      cases htype
    | some first =>
      rw [hfirst] at hnamed
      exact named_of_exists hnamed

end DocumentKind

end ResourceSearch
