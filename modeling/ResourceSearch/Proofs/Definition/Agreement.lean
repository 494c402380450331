import ResourceSearch.Proofs.Definition.Loading
import ResourceSearch.Proofs.Files
import ResourceSearch.Proofs.Json.Decoding

/-!
# Two layouts for the same definitions

Definitions whose names are in order can be written down in either layout: as the list of them
(`IsListOf`), or as the object that has the body of each under its name (`IsKeyedBy`), in any order
of the fields. A body may be nested less deeply than a file by the two levels that enclose it in
both layouts; what it denotes does not depend on how much room is left (`Tree.value?_mono`).

The other way round not every object has a list: its entries may be called differently from their
keys, even by the same name. Still it has one definition for each key.
-/

namespace ResourceSearch

open Json (Tree maxDepth)

namespace DefinitionFile

/-! ## The two layouts -/

/-- A body as it stands in a file, below two other levels of nesting. -/
def IsBody (tree : Tree) (body : Json) : Prop :=
  tree.value? (maxDepth - 2) = some body

/-- The object with the name and the body of a definition. -/
def IsItem (tree : Tree) (definition : IndexDefinition) : Prop :=
  ∃ body, Tree.IsObjectOf [("index", .string (some definition.index)), ("body", body)] tree ∧
    IsBody body definition.body

/-- The object with the body of a definition. -/
def IsEntry (tree : Tree) (definition : IndexDefinition) : Prop :=
  ∃ body, Tree.IsObjectOf [("body", body)] tree ∧ IsBody body definition.body

/-- The list of some definitions. -/
def IsListOf (tree : Tree) (definitions : List IndexDefinition) : Prop :=
  ∃ items, tree = .array items ∧ List.Forall₂ IsItem items definitions

/-- The object that has some definitions under their names. -/
def IsKeyedBy (tree : Tree) (definitions : List IndexDefinition) : Prop :=
  ∃ entries, Tree.IsObjectOf entries tree ∧
    List.Forall₂ (fun entry definition ↦ entry.1 = definition.index ∧ IsEntry entry.2 definition)
      entries definitions

section

variable {tree : Tree} {definition : IndexDefinition} {definitions : List IndexDefinition}

theorem IsBody.toJson? {body : Json} (h : IsBody tree body) : tree.toJson? = some body :=
  Tree.value?_mono (Nat.sub_le maxDepth 2) tree h

theorem IsItem.describes (h : IsItem tree definition) : Describes none tree definition := by
  obtain ⟨body, htree, hbody⟩ := h
  exact ⟨_, htree.isRecord (by simp) _, .own definition.index, hbody.toJson?⟩

theorem IsEntry.describes (h : IsEntry tree definition) :
    Describes (some definition.index) tree definition := by
  obtain ⟨body, htree, hbody⟩ := h
  exact ⟨_, htree.isRecord (by simp) _, .missing rfl, hbody.toJson?⟩

theorem IsItem.exists_value? (h : IsItem tree definition) :
    ∃ value, tree.value? (maxDepth - 1) = some value := by
  obtain ⟨body, htree, hbody⟩ := h
  refine htree.exists_value? (maxDepth - 2) ?_
  simpa using ⟨⟨_, rfl⟩, ⟨_, hbody⟩⟩

theorem IsEntry.exists_value? (h : IsEntry tree definition) :
    ∃ value, tree.value? (maxDepth - 1) = some value := by
  obtain ⟨body, htree, hbody⟩ := h
  refine htree.exists_value? (maxDepth - 2) ?_
  simpa using ⟨_, hbody⟩

theorem IsListOf.ofTree? (h : IsListOf tree definitions) : ofTree? tree = some definitions := by
  obtain ⟨items, rfl, hitems⟩ := h
  refine ofTree?_eq_some_iff.mpr ⟨?_, .list (hitems.imp fun _ _ ↦ IsItem.describes)⟩
  refine Tree.exists_value?_array (maxDepth - 1) fun item hitem ↦ ?_
  obtain ⟨definition, -, hdefinition⟩ := Json.exists_mem_of_forall₂ hitems item hitem
  exact hdefinition.exists_value?

theorem onePerKey_of_isEntry {fields : List (Option String × Tree)} {entries : Json.Record}
    (hperm : fields.Perm (entries.map fun entry ↦ (some entry.1, entry.2)))
    (hentries : List.Forall₂
      (fun entry definition ↦ entry.1 = definition.index ∧ IsEntry entry.2 definition)
      entries definitions)
    (hsorted : definitions.Pairwise fun first second ↦
      utf8Bytes first.index < utf8Bytes second.index) : OnePerKey fields definitions := by
  have hnames : entries.map Prod.fst = definitions.map IndexDefinition.index := by
    rw [← List.forall₂_eq_eq_eq, List.forall₂_map_left_iff, List.forall₂_map_right_iff]
    exact hentries.imp fun _ _ h ↦ h.1
  have hdistinct : (entries.map Prod.fst).Nodup := by
    rw [hnames]
    refine List.pairwise_map.mpr (hsorted.imp fun {first second} hlt heq ↦ ?_)
    exact List.lt_irrefl _ (heq ▸ hlt)
  refine ⟨definitions.map IndexDefinition.index, List.pairwise_map.mpr hsorted, fun key ↦ ?_, ?_⟩
  · rw [← hnames, (hperm.map Prod.fst).mem_iff]
    simp
  · rw [List.forall₂_map_left_iff, List.forall₂_same]
    intro definition hmem
    obtain ⟨⟨key, value⟩, hentry, hkey, hdefinition⟩ :=
      Json.exists_mem_of_forall₂ hentries.flip definition hmem
    obtain rfl : key = definition.index := hkey
    refine ⟨value, ?_, hdefinition.describes⟩
    rw [Tree.fieldsNamed_eq_of_perm hperm hdistinct,
      (Entries.get?_eq_some_iff_mem hdistinct).mpr hentry]
    rfl

theorem IsKeyedBy.ofTree? (h : IsKeyedBy tree definitions)
    (hsorted : definitions.Pairwise fun first second ↦
      utf8Bytes first.index < utf8Bytes second.index) : ofTree? tree = some definitions := by
  obtain ⟨entries, htree, hentries⟩ := h
  have hvalue : ∃ value, tree.toJson? = some value := by
    refine htree.exists_value? (maxDepth - 1) fun entry hentry ↦ ?_
    obtain ⟨definition, -, -, hdefinition⟩ := Json.exists_mem_of_forall₂ hentries entry hentry
    exact hdefinition.exists_value?
  obtain ⟨fields, rfl, hperm⟩ := htree
  refine ofTree?_eq_some_iff.mpr ⟨hvalue, .keyed (fun field hfield ↦ ?_)
    (onePerKey_of_isEntry hperm hentries hsorted)⟩
  obtain ⟨entry, hentry, rfl⟩ := List.mem_map.mp (hperm.mem_iff.mp hfield)
  obtain ⟨definition, -, hkey, hdefinition⟩ := Json.exists_mem_of_forall₂ hentries entry hentry
  exact ⟨definition.index, definition, congrArg some hkey, hdefinition.describes⟩

/-! ## Loading -/

/-- A file holds a text that spells a tree. -/
def Holds (files : Files) (path : String) (tree : Tree) : Prop :=
  ∃ text, files.read? path = some text ∧ Tree.ofText? text = some tree

variable {σ : Type} {path : String} {world : World σ}

theorem provides_iff_of_holds {files : Files} (hfile : Holds files path tree) :
    Provides files path definitions ↔ ofTree? tree = some definitions ∧
      ∀ definition ∈ definitions, definition.index ≠ "" := by
  obtain ⟨text, htext, htree⟩ := hfile
  simp only [Provides, htext, Option.some.injEq, exists_eq_left', spells_iff, htree,
    Option.bind_some]

end

/-- A body that can be printed and denotes the same below two other levels of nesting. -/
structure IsPrintable (body : Json) : Prop where
  isBody : IsBody body.toTree body
  hasWords : body.HasWords

/-- The list of some definitions as a value. -/
def listJson (definitions : List IndexDefinition) : Json :=
  .array (definitions.map IndexDefinition.toJson)

section

variable {definitions entries : List IndexDefinition}
  (hprintable : ∀ definition ∈ definitions, IsPrintable definition.body)

include hprintable

theorem isListOf_listJson : IsListOf (listJson definitions).toTree definitions := by
  refine ⟨_, rfl, ?_⟩
  induction definitions with
  | nil => exact .nil
  | cons definition definitions ih =>
    obtain ⟨hbody, hrest⟩ := List.forall_mem_cons.mp hprintable
    exact .cons ⟨_, ⟨_, rfl, .swap _ _ _⟩, hbody.isBody⟩ (ih hrest)

theorem hasWords_listJson : (listJson definitions).HasWords := by
  refine .array fun item hitem ↦ ?_
  obtain ⟨definition, hmem, rfl⟩ := List.mem_map.mp hitem
  refine .object ?_
  simp [(hprintable definition hmem).hasWords, Json.HasWords.string]

end

/-- The files among which there is one only, with the text of a value. -/
def fileOf (path : String) (json : Json) (layout : Json.Layout) : Files :=
  .ofList [(path, some (json.render layout))]

theorem holds_fileOf {path : String} {json : Json} (hpath : Files.empty.directories.NamesFile path)
    (h : json.HasWords) (layout : Json.Layout) : Holds (fileOf path json layout) path json.toTree :=
  ⟨_, Files.read?_ofList_singleton hpath _, Tree.ofText?_render h layout⟩

/-- Three definitions, only one of them with a body. -/
def sparseDefinitions : List IndexDefinition :=
  [⟨"deliveries", .null⟩, ⟨"items", .object [("mappings", .object [])]⟩, ⟨"tests", .null⟩]

theorem isPrintable_sparseDefinitions :
    ∀ definition ∈ sparseDefinitions, IsPrintable definition.body := by
  have hmappings : (Json.object [("mappings", .object [])]).HasWords :=
    .object fun field hfield ↦ List.mem_singleton.mp hfield ▸ .object nofun
  rw [sparseDefinitions, List.forall_mem_cons, List.forall_mem_cons, List.forall_mem_singleton]
  exact ⟨⟨rfl, .null⟩, ⟨rfl, hmappings⟩, ⟨rfl, .null⟩⟩

theorem named_sparseDefinitions :
    ∀ definition ∈ sparseDefinitions, definition.index ≠ "" := by decide +kernel

end DefinitionFile

end ResourceSearch
