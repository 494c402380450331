import Mathlib.Data.List.Sort
import ResourceSearch.Definition.File
import ResourceSearch.Proofs.Dict
import ResourceSearch.Proofs.Json.Records
import ResourceSearch.Proofs.Text.ByteOrder

/-!
# The layouts of definition files

What a definition file says is put down as a relation between its tree and a list of definitions
(`LaysOut`), without the decoder. A list describes its definitions one by one. An object describes
one definition for each key, in the order of the keys, and the last field of a key counts; but the
fields that are written over have to be readable as well.

The decoder keeps entries in a dictionary. What it has under a key comes from the last field of that
name (`rel_getLast?_fieldsNamed`), and nothing else is needed about it: one tree does not lay out
two lists of definitions, so it is enough to find one.
-/

namespace ResourceSearch

open Json (Tree)

namespace DefinitionFile

/-! ## Entries -/

/-- What an entry is called: by the name that it holds, or by its key, if it has a key and the name
is missing or `null`. -/
inductive Names (key : Option String) : Option Tree → String → Prop
  | own (name : String) : Names key (some (.string (some name))) name
  | missing {name : String} (h : key = some name) : Names key none name
  | null {name : String} (h : key = some name) : Names key (some .null) name

theorem Names.eq {key : Option String} {index : Option Tree} {name name' : String}
    (h : Names key index name) (h' : Names key index name') : name = name' := by
  cases h with
  | own => cases h'; rfl
  | missing hkey =>
    cases h' with
    | missing hkey' => exact Option.some.inj (hkey.symm.trans hkey')
  | null hkey =>
    cases h' with
    | null hkey' => exact Option.some.inj (hkey.symm.trans hkey')

/-- An entry, under a key or in a list, describes a definition. A body that is missing is `null`. -/
def Describes (key : Option String) (tree : Tree) (definition : IndexDefinition) : Prop :=
  ∃ found, Tree.IsRecord ["index", "body"] found tree ∧
    Names key (found "index") definition.index ∧
    (found "body").elim (some .null) Tree.toJson? = some definition.body

theorem describes_iff {key : Option String} {tree : Tree} {definition : IndexDefinition} :
    Describes key tree definition ↔
      ∃ record, tree.record? ["index", "body"] = some record ∧
        Names key (Entries.get? "index" record) definition.index ∧
        record.withDefault "body" Tree.toJson? .null = some definition.body := by
  have hdefault (record : Json.Record) : record.withDefault "body" Tree.toJson? .null
      = (Entries.get? "body" record).elim (some .null) Tree.toJson? := by
    rw [Json.Record.withDefault]
    cases Entries.get? "body" record <;> rfl
  constructor
  · rintro ⟨found, hfound, hname, hbody⟩
    obtain ⟨record, hrecord, hsame⟩ := (Tree.exists_record?_iff (by decide)).mpr hfound
    refine ⟨record, hrecord, ?_, ?_⟩
    · rw [hsame "index" (by decide)]
      exact hname
    · rw [hdefault, hsame "body" (by decide)]
      exact hbody
  · rintro ⟨record, hrecord, hname, hbody⟩
    have hfound := (Tree.exists_record?_iff (by decide)).mp ⟨record, hrecord, fun _ _ ↦ rfl⟩
    exact ⟨fun name ↦ Entries.get? name record, hfound, hname, (hdefault record).symm.trans hbody⟩

theorem Describes.eq {key : Option String} {tree : Tree} {definition definition' : IndexDefinition}
    (h : Describes key tree definition) (h' : Describes key tree definition') :
    definition = definition' := by
  obtain ⟨record, hrecord, hname, hbody⟩ := describes_iff.mp h
  obtain ⟨record', hrecord', hname', hbody'⟩ := describes_iff.mp h'
  obtain rfl := Option.some.inj (hrecord.symm.trans hrecord')
  obtain ⟨index, body⟩ := definition
  obtain ⟨index', body'⟩ := definition'
  obtain rfl : index = index' := hname.eq hname'
  obtain rfl : body = body' := Option.some.inj (hbody.symm.trans hbody')
  rfl

theorem required_eq_some_iff {record : Json.Record} {name : String} :
    record.required "index" Tree.string? = some name ↔
      Names none (Entries.get? "index" record) name := by
  rw [Json.Record.required]
  cases Entries.get? "index" record with
  | none =>
    refine iff_of_false nofun fun h ↦ ?_
    cases h with
    | missing h => cases h
  | some tree =>
    rw [Option.bind_some, Tree.string?_eq_some_iff]
    constructor
    · rintro rfl
      exact .own name
    · intro h
      cases h with
      | own => rfl
      | null h => cases h

theorem exists_optional_iff {record : Json.Record} {key name : String} :
    (∃ index, record.optional "index" Tree.string? = some index ∧ index.getD key = name) ↔
      Names (some key) (Entries.get? "index" record) name := by
  rw [Json.Record.optional, Json.Record.withDefault]
  cases Entries.get? "index" record with
  | none =>
    constructor
    · rintro ⟨index, hindex, rfl⟩
      cases hindex
      exact .missing rfl
    · intro h
      cases h with
      | missing h => exact ⟨none, rfl, Option.some.inj h⟩
  | some tree =>
    dsimp only
    by_cases hnull : tree = .null
    · subst hnull
      constructor
      · rintro ⟨index, hindex, rfl⟩
        cases hindex
        exact .null rfl
      · intro h
        cases h with
        | null h => exact ⟨none, rfl, Option.some.inj h⟩
    · rw [Tree.nullable_of_ne_null hnull]
      constructor
      · rintro ⟨index, hindex, rfl⟩
        obtain ⟨own, hown, rfl⟩ := Option.map_eq_some_iff.mp hindex
        rw [Tree.string?_eq_some_iff.mp hown]
        exact .own own
      · intro h
        cases h with
        | own => exact ⟨some name, rfl, rfl⟩
        | null => exact absurd rfl hnull

theorem ofTree?_item_eq_some_iff {tree : Tree} {definition : IndexDefinition} :
    IndexDefinition.ofTree? tree = some definition ↔ Describes none tree definition := by
  rw [describes_iff, IndexDefinition.ofTree?]
  simp only [bind, pure, Option.bind_eq_some_iff, required_eq_some_iff]
  constructor
  · rintro ⟨record, hrecord, index, hindex, body, hbody, heq⟩
    cases heq
    exact ⟨record, hrecord, hindex, hbody⟩
  · rintro ⟨record, hrecord, hindex, hbody⟩
    exact ⟨record, hrecord, _, hindex, _, hbody, rfl⟩

theorem exists_entry?_iff {key : String} {tree : Tree} {definition : IndexDefinition} :
    (∃ index, entry? tree = some (index, definition.body) ∧ index.getD key = definition.index) ↔
      Describes (some key) tree definition := by
  rw [describes_iff, entry?]
  simp only [bind, pure, Option.bind_eq_some_iff, ← exists_optional_iff]
  constructor
  · rintro ⟨index, ⟨record, hrecord, index', hindex, body, hbody, heq⟩, hname⟩
    cases heq
    exact ⟨record, hrecord, ⟨index, hindex, hname⟩, hbody⟩
  · rintro ⟨record, hrecord, ⟨index, hindex, hname⟩, hbody⟩
    exact ⟨index, ⟨record, hrecord, index, hindex, _, hbody, rfl⟩, hname⟩

/-! ## Layouts -/

/-- Whether these are the definitions of an object with these fields: one for each key that occurs,
in the order of the bytes of the keys, as the last field of the key describes it. -/
def OnePerKey (fields : List (Option String × Tree)) (definitions : List IndexDefinition) : Prop :=
  ∃ keys : List String, keys.Pairwise (fun key key' ↦ utf8Bytes key < utf8Bytes key') ∧
    (∀ key, key ∈ keys ↔ some key ∈ fields.map Prod.fst) ∧
    List.Forall₂
      (fun key definition ↦ ∃ tree, (Tree.fieldsNamed key fields).getLast? = some tree ∧
        Describes (some key) tree definition)
      keys definitions

/-- The two layouts of a definition file. -/
inductive LaysOut : Tree → List IndexDefinition → Prop
  | list {items : List Tree} {definitions : List IndexDefinition}
      (hitems : List.Forall₂ (Describes none) items definitions) :
    LaysOut (.array items) definitions
  | keyed {fields : List (Option String × Tree)} {definitions : List IndexDefinition}
      (hreadable : ∀ field ∈ fields, ∃ key definition,
        field.1 = some key ∧ Describes (some key) field.2 definition)
      (hdefinitions : OnePerKey fields definitions) :
    LaysOut (.object fields) definitions

theorem OnePerKey.eq {fields : List (Option String × Tree)}
    {definitions definitions' : List IndexDefinition} (h : OnePerKey fields definitions)
    (h' : OnePerKey fields definitions') : definitions = definitions' := by
  obtain ⟨keys, hsorted, hkeys, hforall⟩ := h
  obtain ⟨keys', hsorted', hkeys', hforall'⟩ := h'
  simp only [utf8Bytes_lt_iff] at hsorted hsorted'
  obtain rfl : keys = keys' := hsorted.eq_of_mem_iff hsorted' fun key ↦
    (hkeys key).trans (hkeys' key).symm
  refine List.right_unique_forall₂' ?_ hforall hforall'
  rintro key definition definition' ⟨tree, htree, hdescribes⟩ ⟨tree', htree', hdescribes'⟩
  obtain rfl := Option.some.inj (htree.symm.trans htree')
  exact hdescribes.eq hdescribes'

/-! ## Reading an object -/

section

variable {α : Type} {decode : Tree → Option α} {fields : List (Option String × Tree)}
  {entries : List (String × α)}

/-- What is kept under a key is decoded from the last field of that name. -/
theorem rel_getLast?_fieldsNamed
    (h : List.Forall₂ (fun field entry ↦ Tree.dict?.entry? decode field = some entry) fields
      entries) (key : String) :
    Option.Rel (fun tree value ↦ decode tree = some value)
      (Tree.fieldsNamed key fields).getLast? (Entries.get? key entries.reverse) := by
  induction h with
  | nil => exact .none
  | @cons field entry fields entries hentry _ ih =>
    obtain ⟨name, tree⟩ := field
    obtain ⟨hname, hvalue⟩ := Tree.entry?_eq_some_iff.mp hentry
    obtain rfl : name = some entry.1 := hname
    rw [List.reverse_cons, Entries.get?_append]
    by_cases hkey : entry.1 = key
    · rw [hkey, Tree.fieldsNamed_cons_self, List.getLast?_cons, Entries.get?, if_pos hkey]
      generalize (Tree.fieldsNamed key fields).getLast? = later, Entries.get? key entries.reverse
        = found at ih
      -- a later field of the same name has written over this one
      cases ih with
      | none => exact .some hvalue
      | some hlater => exact .some hlater
    · rw [Tree.fieldsNamed_cons_of_ne fun heq ↦ hkey (Option.some.inj heq), Entries.get?,
        if_neg hkey, Entries.get?_nil, Option.or_none]
      exact ih

theorem map_fst_of_forall₂
    (h : List.Forall₂ (fun field entry ↦ Tree.dict?.entry? decode field = some entry) fields
      entries) : fields.map Prod.fst = entries.map fun entry ↦ some entry.1 := by
  induction h with
  | nil => rfl
  | cons hentry _ ih => rw [List.map_cons, List.map_cons, ih, (Tree.entry?_eq_some_iff.mp hentry).1]

end

theorem onePerKey_of_forall₂ {fields : List (Option String × Tree)}
    {entries : List (String × Option String × Json)}
    (h : List.Forall₂ (fun field entry ↦ Tree.dict?.entry? entry? field = some entry) fields
      entries) :
    OnePerKey fields
      ((Dict.ofList entries).entries.map fun (name, index, body) ↦ ⟨index.getD name, body⟩) := by
  have hget (key : String) : (Dict.ofList entries).get? key = Entries.get? key entries.reverse :=
    Dict.get?_ofList entries key
  refine ⟨(Dict.ofList entries).keys, ?_, fun key ↦ ?_, ?_⟩
  · simp only [utf8Bytes_lt_iff]
    exact List.pairwise_map.mpr (Dict.ofList entries).sorted
  · rw [Dict.keys, ← Entries.isSome_get?_iff]
    change ((Dict.ofList entries).get? key).isSome ↔ _
    rw [hget, Entries.isSome_get?_iff, List.map_reverse, List.mem_reverse, map_fst_of_forall₂ h]
    simp
  · rw [Dict.keys, List.forall₂_map_left_iff, List.forall₂_map_right_iff, List.forall₂_same]
    rintro ⟨key, index, body⟩ hmem
    have hfound : Entries.get? key entries.reverse = some (index, body) := by
      rw [← hget]
      exact (Entries.get?_eq_some_iff_mem (Dict.ofList entries).nodup_keys).mpr hmem
    have hlast := rel_getLast?_fieldsNamed h key
    rw [hfound] at hlast
    cases hlastTree : (Tree.fieldsNamed key fields).getLast? with
    | none =>
      rw [hlastTree] at hlast
      cases hlast
    | some tree =>
      rw [hlastTree] at hlast
      cases hlast with
      | some hentry => exact ⟨tree, rfl, exists_entry?_iff.mp ⟨index, hentry, rfl⟩⟩

theorem exists_entry?_field_iff {field : Option String × Tree} :
    (∃ entry, Tree.dict?.entry? entry? field = some entry) ↔
      ∃ key definition, field.1 = some key ∧ Describes (some key) field.2 definition := by
  simp only [Tree.entry?_eq_some_iff, ← exists_entry?_iff]
  constructor
  · rintro ⟨⟨key, index, body⟩, hkey, hentry⟩
    exact ⟨key, ⟨index.getD key, body⟩, hkey, index, hentry, rfl⟩
  · rintro ⟨key, definition, hkey, index, hentry, -⟩
    exact ⟨(key, index, definition.body), hkey, hentry⟩

theorem keyed?_object_eq_some_iff {fields : List (Option String × Tree)}
    {definitions : List IndexDefinition} :
    keyed? (.object fields) = some definitions ↔ LaysOut (.object fields) definitions := by
  rw [keyed?, Tree.dict?, Option.map_map, Option.map_eq_some_iff]
  simp only [Json.mapM_eq_some_iff_forall₂, Function.comp_apply]
  constructor
  · rintro ⟨entries, hentries, rfl⟩
    refine .keyed (fun field hfield ↦ ?_) (onePerKey_of_forall₂ hentries)
    obtain ⟨entry, -, hentry⟩ := Json.exists_mem_of_forall₂ hentries field hfield
    exact exists_entry?_field_iff.mp ⟨entry, hentry⟩
  · intro h
    cases h with
    | keyed hreadable hdefinitions =>
      obtain ⟨entries, hentries⟩ := Json.exists_forall₂ fun field hfield ↦
        exists_entry?_field_iff.mpr (hreadable field hfield)
      exact ⟨entries, hentries, (onePerKey_of_forall₂ hentries).eq hdefinitions⟩

/-- The last field of a key counts, and a name may be given twice. -/
example : keyed? (.object
    [(some "b", .object [(some "index", .string (some "x"))]), (some "a", .object []),
      (some "b", .object [(some "index", .string (some "a")), (some "body", .bool true)])])
      = some [⟨"a", .null⟩, ⟨"a", .bool true⟩] := by cbv

/-- **Layouts.** The definitions that are read from a tree are those that it lays out, if all of it
denotes a value. -/
theorem ofTree?_eq_some_iff {tree : Tree} {definitions : List IndexDefinition} :
    ofTree? tree = some definitions ↔
      (∃ value, tree.toJson? = some value) ∧ LaysOut tree definitions := by
  rw [ofTree?]
  cases hvalue : tree.toJson? with
  | none =>
    refine iff_of_false (by simp) ?_
    rintro ⟨⟨value, hsome⟩, -⟩
    cases hsome
  | some value =>
    rw [if_neg (by simp)]
    refine Iff.trans ?_ (and_iff_right ⟨value, rfl⟩).symm
    cases tree with
    | array items =>
      change (Tree.list? IndexDefinition.ofTree? (.array items)).or none = some definitions ↔ _
      rw [Option.or_none, Tree.list?, Json.mapM_eq_some_iff_forall₂]
      simp only [ofTree?_item_eq_some_iff]
      exact ⟨.list, fun h ↦ by cases h with | list hitems => exact hitems⟩
    | object fields => exact keyed?_object_eq_some_iff
    | _ =>
      -- neither layout is a leaf
      constructor <;> intro h <;> cases h

end DefinitionFile

end ResourceSearch
