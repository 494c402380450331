import ResourceSearch.Json.Record
import ResourceSearch.Proofs.Json.Reordering

/-!
# Decoders undo encoders

A decoder looks at the fields of an object by their names, so it takes every reordering of a value
for the same thing. There is one law for each decoder that others are made of: lists,
dictionaries, values that may be `null`, and records. What a decoder for a record of its own has
to show is only that it asks for the fields that its encoder writes.
-/

namespace ResourceSearch.Json

variable {α : Type} {decode : Tree → Option α} {encode : α → Json}

/-- Whether a decoder takes a value for `a`, in whatever order the fields of its objects stand. -/
def ReadsAs (json : Json) (decode : Tree → Option α) (a : α) : Prop :=
  ∀ json' : Json, json'.Reorders json → decode json'.toTree = some a

/-! ## Leaves -/

theorem readsAs_string (text : String) : (Json.string text).ReadsAs Tree.string? text := by
  intro json' h
  cases h
  rfl

theorem readsAs_bool (value : Bool) : (Json.bool value).ReadsAs Tree.bool? value := by
  intro json' h
  cases h
  rfl

theorem readsAs_nat {n bound : Nat} (h : n < bound) :
    (Json.nat n).ReadsAs (Tree.natBelow? bound) n := by
  intro json' hreorders
  cases hreorders
  exact if_pos ⟨Int.natCast_nonneg n, Int.ofNat_lt.mpr h⟩

/-! ## Lists and dictionaries -/

theorem readsAs_array (h : ∀ a, (encode a).ReadsAs decode a) (values : List α) :
    (Json.array (values.map encode)).ReadsAs (Tree.list? decode) values := by
  intro json' hreorders
  cases hreorders with
  | @array items' _ hitems =>
    rw [toTree, Tree.list?]
    induction values generalizing items' with
    | nil =>
      cases hitems
      rfl
    | cons a values ih =>
      rw [List.map_cons] at hitems
      cases hitems with
      | cons hitem hitems =>
        rw [toTrees, List.mapM_cons, h a _ hitem, ih hitems]
        rfl

theorem readsAs_strings (values : List String) :
    (Json.strings values).ReadsAs Tree.strings? values :=
  readsAs_array readsAs_string values

theorem fieldTrees_eq_map (fields : List (String × Json)) :
    fieldTrees fields = fields.map fun field ↦ (some field.1, field.2.toTree) := by
  induction fields with
  | nil => rfl
  | cons field fields ih => rw [fieldTrees, ih, List.map_cons]

theorem exists_mapM_entry? (h : ∀ a, (encode a).ReadsAs decode a) {entries : List (String × α)}
    {fields' : List (String × Json)}
    (hfields : ReordersFields fields' (entries.map fun (name, a) ↦ (name, encode a))) :
    ∃ entries', (fieldTrees fields').mapM (Tree.dict?.entry? decode) = some entries' ∧
      entries'.Perm entries := by
  induction entries generalizing fields' with
  | nil =>
    cases hfields
    exact ⟨[], rfl, .nil⟩
  | cons entry entries ih =>
    obtain ⟨name, a⟩ := entry
    rw [List.map_cons] at hfields
    cases hfields with
    | @cons _ value' _ before after _ hvalue hfields =>
      obtain ⟨others, hothers, hperm⟩ := ih hfields
      rw [fieldTrees_eq_map, List.map_append, List.mapM_append] at hothers
      obtain ⟨first, hfirst, hothers⟩ := Option.bind_eq_some_iff.mp hothers
      obtain ⟨second, hsecond, hothers⟩ := Option.bind_eq_some_iff.mp hothers
      obtain rfl := Option.some.inj hothers
      have hentry : Tree.dict?.entry? decode (some name, value'.toTree) = some (name, a) := by
        rw [Tree.dict?.entry?, h a value' hvalue]
      refine ⟨first ++ (name, a) :: second, ?_, List.perm_middle.trans (hperm.cons _)⟩
      rw [fieldTrees_eq_map, List.map_append, List.map_cons, List.mapM_append, List.mapM_cons,
        hfirst, hentry, hsecond]
      rfl

theorem readsAs_dict (h : ∀ a, (encode a).ReadsAs decode a) (d : Dict String α) :
    (Json.object (d.entries.map fun (name, a) ↦ (name, encode a))).ReadsAs
      (Tree.dict? decode) d := by
  intro json' hreorders
  cases hreorders with
  | object hfields =>
    obtain ⟨entries', hread, hperm⟩ := exists_mapM_entry? h hfields
    rw [toTree, Tree.dict?, hread, Option.map_some, Dict.ofList_eq_of_perm hperm]

theorem readsAs_option (hnull : decode .null = none) (h : ∀ a, (encode a).ReadsAs decode a)
    (value : Option α) : (Json.ofOption encode value).ReadsAs (Tree.nullable decode) value := by
  intro json' hreorders
  cases value with
  | none =>
    cases hreorders
    rfl
  | some a =>
    have hread := h a json' hreorders
    rw [Tree.nullable, hread]
    · rfl
    · intro heq
      rw [heq, hnull] at hread
      cases hread

/-! ## Records -/

/-- Whether the fields found for a record are these, each up to a reordering. -/
structure Record.Shows (record : Record) (fields : List (String × Json)) : Prop where
  found : ∀ {name value}, Entries.get? name fields = some value →
    ∃ value' : Json, value'.Reorders value ∧ Entries.get? name record = some value'.toTree
  missing : ∀ {name}, Entries.get? name fields = none → Entries.get? name record = none

theorem knownFields?_fieldTrees {names : List String} {fields : List (String × Json)}
    (hdistinct : (fields.map Prod.fst).Nodup) (hnames : ∀ field ∈ fields, field.1 ∈ names) :
    Tree.knownFields? names (fieldTrees fields)
      = some (fields.map fun field ↦ (field.1, field.2.toTree)) := by
  induction fields with
  | nil => rfl
  | cons field fields ih =>
    obtain ⟨name, value⟩ := field
    obtain ⟨hname, hnames⟩ := List.forall_mem_cons.mp hnames
    rw [List.map_cons, List.nodup_cons] at hdistinct
    have hfirst : (fields.map fun field ↦ (field.1, field.2.toTree)).any (·.1 = name) = false := by
      rw [List.any_eq_false]
      intro entry hentry heq
      obtain ⟨field, hfield, rfl⟩ := List.mem_map.mp hentry
      exact hdistinct.1 (List.mem_map.mpr ⟨field, hfield, of_decide_eq_true heq⟩)
    rw [fieldTrees, Tree.knownFields?, ih hdistinct.2 hnames]
    dsimp only
    rw [if_neg (not_not_intro hname), hfirst]
    rfl

theorem get?_map_toTree (name : String) (fields : List (String × Json)) :
    Entries.get? name (fields.map fun field ↦ (field.1, field.2.toTree))
      = (Entries.get? name fields).map toTree := by
  induction fields with
  | nil => rfl
  | cons field fields ih =>
    obtain ⟨k, value⟩ := field
    rw [List.map_cons]
    by_cases hkey : k = name
    · rw [hkey, Entries.get?_cons_self, Entries.get?_cons_self]
      rfl
    · rw [Entries.get?_cons_of_ne hkey, Entries.get?_cons_of_ne hkey, ih]

/-- A record is read from an object that holds some of its fields, each once. -/
theorem exists_record_of_reorders (names : List String) (hdistinct : names.Nodup)
    {fields : List (String × Json)} (hnames : (fields.map Prod.fst).Sublist names) {json' : Json}
    (h : json'.Reorders (.object fields)) :
    ∃ record, json'.toTree.record? names = some record ∧ record.Shows fields := by
  cases h with
  | @object fields' _ hfields =>
    have hfound : (fields.map Prod.fst).Nodup := hnames.nodup hdistinct
    have hfound' : (fields'.map Prod.fst).Nodup := hfields.names_perm.nodup_iff.mpr hfound
    have hnames' : ∀ field ∈ fields', field.1 ∈ names := fun field hfield ↦
      hnames.subset (hfields.names_perm.mem_iff.mp (List.mem_map.mpr ⟨field, hfield, rfl⟩))
    refine ⟨_, knownFields?_fieldTrees hfound' hnames', ?_, ?_⟩
    · intro name value hvalue
      obtain ⟨value', hvalue', hreorders⟩ :=
        hfields.exists_mem_of_mem (Entries.mem_of_get?_eq_some hvalue)
      refine ⟨value', hreorders, ?_⟩
      rw [get?_map_toTree, (Entries.get?_eq_some_iff_mem hfound').mpr hvalue', Option.map_some]
    · intro name hmissing
      rw [get?_map_toTree, Option.map_eq_none_iff]
      refine Entries.get?_eq_none fun field hfield hname ↦ ?_
      obtain ⟨value, hvalue, -⟩ := hfields.exists_of_mem hfield
      rw [hname, ← Entries.get?_eq_some_iff_mem hfound, hmissing] at hvalue
      cases hvalue

namespace Record.Shows

variable {record : Record} {fields : List (String × Json)} (hrecord : record.Shows fields)
  (name : String) {value : Json} {a : α}

include hrecord

theorem required (hvalue : Entries.get? name fields = some value) (h : value.ReadsAs decode a) :
    record.required name decode = some a := by
  obtain ⟨value', hreorders, hfound⟩ := hrecord.found hvalue
  rw [Record.required, hfound]
  exact h value' hreorders

theorem withDefault (hvalue : Entries.get? name fields = some value) (h : value.ReadsAs decode a)
    (default : α) : record.withDefault name decode default = some a := by
  obtain ⟨value', hreorders, hfound⟩ := hrecord.found hvalue
  rw [Record.withDefault, hfound]
  exact h value' hreorders

theorem withDefault_of_missing (h : Entries.get? name fields = none) (default : α) :
    record.withDefault name decode default = some default := by
  rw [Record.withDefault, hrecord.missing h]

end Record.Shows

end ResourceSearch.Json
