import ResourceSearch.Document

/-!
# Documents without types

A document is refused if its types cannot be read. Which documents these are can be told from the
field for the types alone: the list of cases in `isUntyped` is complete, and a list that mixes empty
strings with something that is not a string is one of them, whichever comes first.
-/

namespace ResourceSearch.IndexDocument

/-- Whether a document tells no type: the field is missing or `null`, it holds neither a string nor
a list, something in the list is not a string, or all strings in it are empty. -/
def isUntyped (document : IndexDocument) : Bool :=
  match document.body.get? typeField with
  | none | some .null => true
  | some (.string type) => type = ""
  | some (.array items) =>
    items.any (fun item ↦ item.string?.isNone) || items.all fun item ↦ item.string? = some ""
  | some _ => true

theorem strings?_eq_none_iff {items : List Json} :
    strings? items = none ↔ items.any (fun item ↦ item.string?.isNone) = true := by
  induction items with
  | nil => simp [strings?]
  | cons item items ih =>
    rw [strings?, List.any_cons, Bool.or_eq_true, ← ih]
    cases item.string? with
    | none => simp
    | some type => cases strings? items <;> simp

theorem all_isEmpty_of_strings? {items : List Json} {types : List String}
    (h : strings? items = some types) :
    types.all String.isEmpty = items.all fun item ↦ item.string? = some "" := by
  induction items generalizing types with
  | nil =>
    cases h
    rfl
  | cons item items ih =>
    rw [strings?] at h
    split at h
    · rename_i type rest htype hrest
      cases h
      have hempty : type.isEmpty = decide (item.string? = some "") := by
        rw [htype, Bool.eq_iff_iff, String.isEmpty_iff, decide_eq_true_eq, Option.some.injEq]
      rw [List.all_cons, List.all_cons, ih hrest, hempty]
    · cases h

theorem named_eq_error_iff {document : IndexDocument} {types : List String} :
    (∃ error, IndexDocument.types.named document types = .error error) ↔
      types.all String.isEmpty = true := by
  rw [IndexDocument.types.named]
  by_cases hempty : types.all String.isEmpty = true
  · rw [if_pos hempty]
    exact iff_of_true ⟨_, rfl⟩ hempty
  · rw [if_neg hempty]
    exact iff_of_false nofun hempty

theorem isUntyped_iff {document : IndexDocument} :
    document.isUntyped = true ↔ ∃ error, document.types = .error error := by
  rw [isUntyped, types]
  cases document.body.get? typeField with
  | none => exact iff_of_true rfl ⟨_, rfl⟩
  | some value =>
    cases value with
    | null | bool | number | object => exact iff_of_true rfl ⟨_, rfl⟩
    | string type =>
      rw [named_eq_error_iff, List.all_cons, List.all_nil, Bool.and_true, String.isEmpty_iff,
        decide_eq_true_eq]
    | array items =>
      dsimp only
      cases hstrings : strings? items with
      | none => exact iff_of_true (by rw [strings?_eq_none_iff.mp hstrings]; rfl) ⟨_, rfl⟩
      | some types =>
        have hall : items.any (fun item ↦ item.string?.isNone) = false := by
          rw [Bool.eq_false_iff, ne_eq, ← strings?_eq_none_iff, hstrings]
          exact nofun
        rw [hall, Bool.false_or, ← all_isEmpty_of_strings? hstrings]
        exact named_eq_error_iff.symm

end ResourceSearch.IndexDocument
