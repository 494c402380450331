import ResourceSearch.Proofs.Definition.Creation
import ResourceSearch.Proofs.Definition.Layouts

/-!
# What definition files provide

A file provides definitions if it can be read, its text lays them out, and each of them has a name
(`Provides`). Otherwise it is refused for one of three reasons (`Refused`), however far down in the
file the reason stands. A file does one or the other, and it does not provide two lists of
definitions, so `contents` is determined by these two relations.
-/

namespace ResourceSearch

open Json (Tree)

namespace DefinitionFile

variable {files : Files} {path text : String} {definitions : List IndexDefinition}

/-! ## What a file provides -/

/-- Whether these are the definitions of a text: it is JSON in one of the two layouts. -/
def Spells (text : String) (definitions : List IndexDefinition) : Prop :=
  ∃ tree value, Tree.ofText? text = some tree ∧ tree.toJson? = some value ∧
    LaysOut tree definitions

theorem spells_iff :
    Spells text definitions ↔ (Tree.ofText? text).bind ofTree? = some definitions := by
  simp only [Spells, Option.bind_eq_some_iff, ofTree?_eq_some_iff]
  constructor
  · rintro ⟨tree, value, htree, hvalue, hlays⟩
    exact ⟨tree, htree, ⟨value, hvalue⟩, hlays⟩
  · rintro ⟨tree, htree, ⟨value, hvalue⟩, hlays⟩
    exact ⟨tree, value, htree, hvalue, hlays⟩

/-- The definitions that a file provides. -/
def Provides (files : Files) (path : String) (definitions : List IndexDefinition) : Prop :=
  ∃ text, files.read? path = some text ∧ Spells text definitions ∧
    ∀ definition ∈ definitions, definition.index ≠ ""

/-- Why a file provides nothing. -/
inductive Refused (files : Files) (path : String) : ConfigError → Prop
  | unreadable (h : files.read? path = none) : Refused files path (.inaccessible path)
  | shapeless {text : String} (htext : files.read? path = some text)
      (h : ∀ definitions, ¬ Spells text definitions) : Refused files path (.malformed path)
  | nameless {text : String} {before after : List IndexDefinition} {definition : IndexDefinition}
      (htext : files.read? path = some text) (h : Spells text (before ++ definition :: after))
      (hbefore : ∀ named ∈ before, named.index ≠ "") (hname : definition.index = "") :
    Refused files path (.invalid ("index definition #" ++ toString before.length ++ " in " ++ path
      ++ " has no index name"))

theorem findIdx?_nameless {before after : List IndexDefinition} {definition : IndexDefinition}
    (hbefore : ∀ named ∈ before, named.index ≠ "") (hname : definition.index = "") :
    (before ++ definition :: after).findIdx? (·.index = "") = some before.length := by
  have hnone : before.findIdx? (·.index = "") = none :=
    List.findIdx?_eq_none_iff.mpr fun named hnamed ↦ decide_eq_false (hbefore named hnamed)
  simp [List.findIdx?_append, hnone, hname, List.findIdx?_cons]

theorem contents_of_provides (h : Provides files path definitions) :
    contents files path = .ok definitions := by
  obtain ⟨text, htext, hspells, hnames⟩ := h
  have hnone : definitions.findIdx? (·.index = "") = none :=
    List.findIdx?_eq_none_iff.mpr fun definition hmem ↦ decide_eq_false (hnames definition hmem)
  rw [contents, htext]
  dsimp only
  rw [ofText, spells_iff.mp hspells]
  dsimp only
  rw [hnone]

theorem contents_of_refused {error : ConfigError} (h : Refused files path error) :
    contents files path = .error error := by
  rw [contents]
  cases h with
  | unreadable h => rw [h]
  | @shapeless text htext h =>
    have hnone : (Tree.ofText? text).bind ofTree? = none :=
      Option.eq_none_iff_forall_ne_some.mpr fun definitions hsome ↦
        h definitions (spells_iff.mpr hsome)
    rw [htext]
    dsimp only
    rw [ofText, hnone]
  | nameless htext h hbefore hname =>
    rw [htext]
    dsimp only
    rw [ofText, spells_iff.mp h]
    dsimp only
    rw [findIdx?_nameless hbefore hname]

/-- **Loading.** A file provides definitions, or there is a reason why not. -/
theorem provides_or_refused (files : Files) (path : String) :
    (∃ definitions, Provides files path definitions) ∨ ∃ error, Refused files path error := by
  cases htext : files.read? path with
  | none => exact .inr ⟨_, .unreadable htext⟩
  | some text =>
    cases hread : (Tree.ofText? text).bind ofTree? with
    | none =>
      refine .inr ⟨_, .shapeless htext fun definitions hspells ↦ ?_⟩
      rw [spells_iff, hread] at hspells
      cases hspells
    | some definitions =>
      have hspells : Spells text definitions := spells_iff.mpr hread
      cases hindex : definitions.findIdx? (·.index = "") with
      | none =>
        refine .inl ⟨definitions, text, htext, hspells, fun definition hmem ↦ ?_⟩
        exact of_decide_eq_false (List.findIdx?_eq_none_iff.mp hindex definition hmem)
      | some i =>
        obtain ⟨hlt, hname, hbefore⟩ := List.findIdx?_eq_some_iff_getElem.mp hindex
        have hsplit : Spells text
            (definitions.take i ++ definitions[i] :: definitions.drop (i + 1)) := by
          rw [← List.drop_eq_getElem_cons hlt, List.take_append_drop]
          exact hspells
        refine .inr ⟨_, .nameless htext hsplit (fun named hnamed ↦ ?_) (of_decide_eq_true hname)⟩
        obtain ⟨j, hj, rfl⟩ := List.mem_take_iff_getElem.mp hnamed
        exact of_decide_eq_false (Bool.eq_false_iff.mpr (hbefore j (by omega)))

theorem not_provides_of_refused {error : ConfigError} (hrefused : Refused files path error)
    (hprovides : Provides files path definitions) : False := by
  have hcontents := contents_of_refused hrefused
  rw [contents_of_provides hprovides] at hcontents
  cases hcontents

theorem Provides.eq {definitions' : List IndexDefinition} (h : Provides files path definitions)
    (h' : Provides files path definitions') : definitions = definitions' :=
  Except.ok.inj ((contents_of_provides h).symm.trans (contents_of_provides h'))

theorem Refused.eq {error error' : ConfigError} (h : Refused files path error)
    (h' : Refused files path error') : error = error' :=
  Except.error.inj ((contents_of_refused h).symm.trans (contents_of_refused h'))

end DefinitionFile

end ResourceSearch
