import Mathlib.Data.Nat.Notation
import Mathlib.Tactic.ByContra
import ResourceSearch.Proofs.Document.Kinds

/-!
# How the kind of a document is chosen

The kind of a document is to be the kind of the type under which the resource is indexed. Everything
that stores or looks for types passes over empty ones: an empty root type is no root type, and the
first type is the first one that is not empty. What chooses the kind does not. It takes an empty
root type, or an empty type in front, for the type of the resource, and nothing of that type is
known.

## When the choice is wrong

A document tells its kind, since each kind has an attribute of its own, or none of these
(`ofBody_body`). So a wrong kind makes a wrong document wherever a document is made at all. The
exceptions are the resources that are unclassified anyway and those without an identifier.
-/

namespace ResourceSearch

variable {kind kind' : DocumentKind} {resource : Resource} {rootType : Option String}

namespace DocumentKind

/-! ## A document tells its kind -/

/-- The kind that has the attributes of a body. -/
def ofBody (body : Dict String Json) : DocumentKind :=
  if body.contains "content" then .item
  else if body.contains "login" then .testTaker
  else if body.contains "comment" then .unclassified
  else .generic

theorem ofBody_body (kind : DocumentKind) (resource : Resource) (rootType : Option String) :
    ofBody (kind.body resource rootType) = kind := by
  cases kind with
  | generic =>
    by_cases hparents : resource.parentClasses = [] <;>
      simp [ofBody, body, Dict.contains, Dict.get?_ofList, Entries.get?, typeField, hparents]
  | item | testTaker | unclassified =>
    simp [ofBody, body, Dict.contains, Dict.get?_ofList, Entries.get?, typeField]

theorem eq_of_body_eq (h : kind.body resource rootType = kind'.body resource rootType) :
    kind = kind' := by
  rw [← ofBody_body kind resource rootType, h, ofBody_body]

/-- Two kinds make the same of a resource only if they both make nothing of it. -/
theorem document?_eq_document?_iff :
    kind.document? resource rootType = kind'.document? resource rootType ↔
      kind = kind' ∨
        kind.document? resource rootType = none ∧ kind'.document? resource rootType = none := by
  constructor
  · intro hsame
    cases hdocument : kind.document? resource rootType with
    | none => exact .inr ⟨rfl, hsame ▸ hdocument⟩
    | some document =>
      have hdocument' := hsame.symm.trans hdocument
      rw [document?_of_accepts (accepts_of_document? hdocument), Option.some.injEq] at hdocument
      rw [document?_of_accepts (accepts_of_document? hdocument'), Option.some.injEq] at hdocument'
      have hbody := congrArg IndexDocument.body (hdocument.trans hdocument'.symm)
      exact .inl (eq_of_body_eq hbody)
  · rintro (rfl | ⟨hnone, hnone'⟩)
    · rfl
    · rw [hnone, hnone']

theorem document?_some_empty :
    kind.document? resource (some "") = kind.document? resource none := by
  have hlist : resource.typeList (some "") = resource.typeList none := by
    rw [Resource.typeList_of_empty (.inr rfl), Resource.typeList_of_empty (.inl rfl)]
  have haccepts : kind.accepts resource (some "") = kind.accepts resource none := by
    rw [Bool.eq_iff_iff, accepts_iff, accepts_iff, storedTypes, storedTypes, hlist]
  have hbody : kind.body resource (some "") = kind.body resource none := by
    simp only [body, hlist]
  rw [document?, document?, haccepts, hbody]

/-- Leaving a resource unclassified that is of another kind is seen in its document. -/
theorem document?_unclassified_eq_iff
    (htyped : kind ≠ .unclassified → ∃ type ∈ resource.types, type ≠ "") :
    unclassified.document? resource rootType = kind.document? resource rootType ↔
      resource.uri = "" ∨ kind = .unclassified := by
  rw [document?_eq_document?_iff, document?_eq_none_iff, document?_eq_none_iff]
  constructor
  · rintro (heq | ⟨huri | hempty, -⟩)
    · exact .inr heq.symm
    · exact .inl huri
    · right
      by_contra hkind
      obtain ⟨type, htype, hne⟩ := htyped hkind
      exact hne ((forall_storedTypes_iff.mp hempty).1 type htype)
  · rintro (huri | hkind)
    · exact .inr ⟨.inl huri, .inl huri⟩
    · exact .inl hkind.symm

theorem ofType_empty : ofType "" = .unclassified := by
  decide

end DocumentKind

namespace Resource

/-! ## The type of the resource -/

/-- The kind of the type under which a resource is indexed: the root type if it is not empty, or
else the first type of the resource that is not. -/
def indexedKind (resource : Resource) (rootType : Option String) : DocumentKind :=
  .ofType (((rootType.filter (· ≠ "")).or resource.firstType?).getD "")

theorem kind_some_empty : resource.kind (some "") = .unclassified :=
  DocumentKind.ofType_empty

theorem kind_none_of_empty (h : resource.types.head?.getD "" = "") :
    resource.kind none = .unclassified := by
  rw [kind, Option.getD_none, h, DocumentKind.ofType_empty]

theorem firstType?_eq_head? (h : resource.types.head? ≠ some "") :
    resource.firstType? = resource.types.head? := by
  rw [firstType?]
  cases htypes : resource.types with
  | nil => rfl
  | cons type types =>
    rw [htypes, List.head?_cons, ne_eq, Option.some.injEq] at h
    exact List.find?_cons_of_pos (decide_eq_true h)

theorem kind_eq_indexedKind
    (h : ¬ (rootType = some "" ∨ rootType = none ∧ resource.types.head? = some "")) :
    resource.kind rootType = resource.indexedKind rootType := by
  obtain ⟨hroot, hfirst⟩ := not_or.mp h
  cases rootType with
  | none =>
    rw [kind, indexedKind, firstType?_eq_head? (fun hempty ↦ hfirst ⟨rfl, hempty⟩)]
    rfl
  | some root =>
    have hne : root ≠ "" := fun hempty ↦ hroot (congrArg some hempty)
    rw [kind, indexedKind, Option.filter_some, if_pos (decide_eq_true hne)]
    rfl

theorem kind_eq_unclassified
    (h : rootType = some "" ∨ rootType = none ∧ resource.types.head? = some "") :
    resource.kind rootType = .unclassified := by
  rcases h with rfl | ⟨rfl, hfirst⟩
  · exact kind_some_empty
  · exact kind_none_of_empty (by rw [hfirst]; rfl)

theorem exists_type_of_kind (h : resource.kind none ≠ .unclassified) :
    ∃ type ∈ resource.types, type ≠ "" := by
  cases htypes : resource.types with
  | nil => exact absurd (kind_none_of_empty (by rw [htypes]; rfl)) h
  | cons type types =>
    refine ⟨type, List.mem_cons_self, fun hempty ↦ h (kind_none_of_empty ?_)⟩
    rw [htypes, hempty]
    rfl

theorem exists_type_of_indexedKind (hroot : rootType = some "" ∨ rootType = none)
    (h : resource.indexedKind rootType ≠ .unclassified) : ∃ type ∈ resource.types, type ≠ "" := by
  have hnone : rootType.filter (· ≠ "") = none := by
    rcases hroot with rfl | rfl <;> rfl
  rw [← DocumentKind.exists_firstType?_iff]
  cases hfirst : resource.firstType? with
  | none =>
    refine absurd ?_ h
    rw [indexedKind, hnone, hfirst]
    exact DocumentKind.ofType_empty
  | some first =>
    exact ⟨first, List.mem_singleton_self first, firstType?_ne_empty hfirst⟩

/-! ## The choice -/

/-- **An empty type chooses the kind of a document.** The document of a resource is that of the kind
of the type under which it is indexed, except if the kind is chosen by an empty root type or,
without a root type, by an empty type in front: then the resource is left unclassified. So an empty
root type makes a difference to the document, and empty types in front to its kind, for every
resource that has an identifier and would be classified without them. -/
theorem document?_eq_indexedKind_iff (resource : Resource) (rootType : Option String) :
    (resource.document? rootType
        = (resource.indexedKind rootType).document? resource rootType ↔
      resource.uri = "" ∨
        (rootType = some "" ∨ rootType = none ∧ resource.types.head? = some "" →
          resource.indexedKind rootType = .unclassified)) ∧
    (resource.document? (some "") = resource.document? none ↔
      resource.uri = "" ∨ resource.kind none = .unclassified) ∧
    ∀ n : ℕ,
      (({ resource with types := List.replicate (n + 1) "" ++ resource.types } : Resource).kind
          rootType = resource.kind rootType ↔
        rootType ≠ none ∨ resource.kind none = .unclassified) := by
  refine ⟨?_, ?_, fun n ↦ ?_⟩
  · rw [document?_eq]
    by_cases hempty : rootType = some "" ∨ rootType = none ∧ resource.types.head? = some ""
    · rw [kind_eq_unclassified hempty, DocumentKind.document?_unclassified_eq_iff
        (exists_type_of_indexedKind (hempty.imp_right And.left)), forall_prop_of_true hempty]
    · rw [kind_eq_indexedKind hempty]
      exact iff_of_true rfl (.inr fun h ↦ absurd h hempty)
  · rw [document?_eq, document?_eq, kind_some_empty, ← DocumentKind.document?_some_empty,
      DocumentKind.document?_unclassified_eq_iff exists_type_of_kind]
  · cases rootType with
    | some root => exact iff_of_true rfl (.inl nofun)
    | none =>
      rw [kind_none_of_empty (by rfl)]
      simp [eq_comm]

/-- An item under its type. -/
def itemResource : Resource where
  uri := "a"
  label := "Algebra"
  types := [ResourceClass.item]
  classLabel := "Item"
  propertyValue _ := none

/-- An item is left unclassified under an empty root type, and with an empty type in front. -/
theorem document?_itemResource_ne :
    itemResource.indexedKind (some "") = .item ∧
    itemResource.document? (some "") ≠ DocumentKind.item.document? itemResource (some "") ∧
    itemResource.document? (some "") ≠ itemResource.document? none ∧
    ({ itemResource with types := "" :: itemResource.types } : Resource).kind none
      ≠ itemResource.kind none := by
  have hunclassified :
      DocumentKind.unclassified.document? itemResource (some "")
        ≠ DocumentKind.item.document? itemResource (some "") := by
    rw [ne_eq, DocumentKind.document?_unclassified_eq_iff fun _ ↦ by decide]
    decide
  have hitem : itemResource.kind none = .item := by decide
  refine ⟨by decide, ?_, ?_, by decide⟩
  · rwa [document?_eq, kind_some_empty]
  · rwa [document?_eq, document?_eq, kind_some_empty, hitem, ← DocumentKind.document?_some_empty]

end Resource

end ResourceSearch
