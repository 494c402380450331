import Mathlib.Data.List.Forall2
import ResourceSearch.Json.Record
import ResourceSearch.Proofs.Dict

/-!
# What decoders accept

A decoder of lists accepts a list exactly if it accepts every item, and a value may stand in a
smaller place than it needs (`Tree.value?_mono`). Records are told apart from the fields that they
hold: `IsRecord` says which values a record has under its known names, whether it is spelled as an
object or as a list. An object is read from its end, as a second field of one name is noticed where
the first one is met; so what the reader has found so far are the only fields of their names.
-/

namespace ResourceSearch.Json

theorem mapM_eq_some_iff_forall₂ {α β : Type} {decode : α → Option β} {items : List α}
    {values : List β} :
    items.mapM decode = some values ↔
      List.Forall₂ (fun item value ↦ decode item = some value) items values := by
  induction items generalizing values with
  | nil =>
    rw [List.mapM_nil, List.forall₂_nil_left_iff]
    exact ⟨fun h ↦ (Option.some.inj h).symm, fun h ↦ h ▸ rfl⟩
  | cons item items ih =>
    rw [List.mapM_cons, List.forall₂_cons_left_iff]
    simp only [bind, Option.bind_eq_some_iff, ih]
    constructor
    · rintro ⟨value, hvalue, rest, hrest, heq⟩
      exact ⟨value, rest, hvalue, hrest, (Option.some.inj heq).symm⟩
    · rintro ⟨value, rest, hvalue, hrest, rfl⟩
      exact ⟨value, hvalue, rest, hrest, rfl⟩

theorem exists_forall₂ {α β : Type} {r : α → β → Prop} {items : List α}
    (h : ∀ item ∈ items, ∃ value, r item value) : ∃ values, List.Forall₂ r items values := by
  induction items with
  | nil => exact ⟨[], .nil⟩
  | cons item items ih =>
    obtain ⟨⟨value, hvalue⟩, hrest⟩ := List.forall_mem_cons.mp h
    obtain ⟨values, hvalues⟩ := ih hrest
    exact ⟨value :: values, .cons hvalue hvalues⟩

theorem exists_mem_of_forall₂ {α β : Type} {r : α → β → Prop} {items : List α} {values : List β}
    (h : List.Forall₂ r items values) : ∀ item ∈ items, ∃ value ∈ values, r item value := by
  induction h with
  | nil => exact nofun
  | cons hvalue _ ih =>
    refine List.forall_mem_cons.mpr ⟨⟨_, List.mem_cons_self, hvalue⟩, fun item hitem ↦ ?_⟩
    obtain ⟨value, hmem, hr⟩ := ih item hitem
    exact ⟨value, List.mem_cons_of_mem _ hmem, hr⟩

namespace Tree

variable {α : Type} {decode : Tree → Option α}

theorem string?_eq_some_iff {tree : Tree} {text : String} :
    tree.string? = some text ↔ tree = .string (some text) := by
  cases tree with
  | string value => rw [string?, Tree.string.injEq]
  | _ => exact iff_of_false nofun nofun

theorem nullable_of_ne_null {tree : Tree} (h : tree ≠ .null) :
    tree.nullable decode = (decode tree).map some := by
  cases tree with
  | null => exact absurd rfl h
  | _ => rfl

theorem entry?_eq_some_iff {field : Option String × Tree} {entry : String × α} :
    dict?.entry? decode field = some entry ↔
      field.1 = some entry.1 ∧ decode field.2 = some entry.2 := by
  obtain ⟨name, tree⟩ := field
  obtain ⟨key, value⟩ := entry
  rw [dict?.entry?]
  cases name with
  | none => exact iff_of_false nofun nofun
  | some name =>
    cases decode tree <;> simp

/-! ## Nesting -/

theorem values?_cons_eq_some_iff {depth : Nat} {item : Tree} {items : List Tree}
    {values : List Json} :
    values? depth (item :: items) = some values ↔
      ∃ value rest, item.value? depth = some value ∧ values? depth items = some rest ∧
        values = value :: rest := by
  rw [values?]
  cases item.value? depth with
  | none => exact iff_of_false nofun nofun
  | some value =>
    cases values? depth items with
    | none => exact iff_of_false nofun nofun
    | some rest => simp [eq_comm]

theorem fieldValues?_cons_eq_some_iff {depth : Nat} {field : Option String × Tree}
    {fields : List (Option String × Tree)} {values : List (String × Json)} :
    fieldValues? depth (field :: fields) = some values ↔
      ∃ name value rest, field.1 = some name ∧ field.2.value? depth = some value ∧
        fieldValues? depth fields = some rest ∧ values = (name, value) :: rest := by
  obtain ⟨name, tree⟩ := field
  rw [fieldValues?.eq_def]
  dsimp only
  cases name with
  | none => exact iff_of_false nofun nofun
  | some name =>
    cases tree.value? depth with
    | none => exact iff_of_false nofun nofun
    | some value =>
      cases fieldValues? depth fields with
      | none => exact iff_of_false nofun nofun
      | some rest => simp [eq_comm]

mutual

/-- A value that is nested no deeper than one bound is nested no deeper than a larger one. -/
theorem value?_mono {depth depth' : Nat} (h : depth ≤ depth') :
    (tree : Tree) → {value : Json} → tree.value? depth = some value →
      tree.value? depth' = some value
  | .null, _, hvalue => hvalue
  | .bool _, _, hvalue => hvalue
  | .number _, _, hvalue => hvalue
  | .string _, _, hvalue => hvalue
  | .array items, _, hvalue => by
    cases depth with
    | zero => cases hvalue
    | succ depth =>
      obtain ⟨extra, rfl⟩ := Nat.exists_eq_add_of_lt h
      rw [value?, Option.map_eq_some_iff] at hvalue
      obtain ⟨values, hvalues, rfl⟩ := hvalue
      rw [value?, values?_mono (Nat.le_add_right depth extra) items hvalues, Option.map_some]
  | .object fields, _, hvalue => by
    cases depth with
    | zero => cases hvalue
    | succ depth =>
      obtain ⟨extra, rfl⟩ := Nat.exists_eq_add_of_lt h
      rw [value?, Option.map_eq_some_iff] at hvalue
      obtain ⟨values, hvalues, rfl⟩ := hvalue
      rw [value?, fieldValues?_mono (Nat.le_add_right depth extra) fields hvalues,
        Option.map_some]

theorem values?_mono {depth depth' : Nat} (h : depth ≤ depth') :
    (items : List Tree) → {values : List Json} → values? depth items = some values →
      values? depth' items = some values
  | [], _, hvalues => hvalues
  | item :: items, _, hvalues => by
    obtain ⟨value, rest, hvalue, hrest, rfl⟩ := values?_cons_eq_some_iff.mp hvalues
    exact values?_cons_eq_some_iff.mpr
      ⟨value, rest, value?_mono h item hvalue, values?_mono h items hrest, rfl⟩

theorem fieldValues?_mono {depth depth' : Nat} (h : depth ≤ depth') :
    (fields : List (Option String × Tree)) → {values : List (String × Json)} →
      fieldValues? depth fields = some values → fieldValues? depth' fields = some values
  | [], _, hvalues => hvalues
  | (name, tree) :: fields, _, hvalues => by
    obtain ⟨key, value, rest, hkey, hvalue, hrest, rfl⟩ :=
      fieldValues?_cons_eq_some_iff.mp hvalues
    exact fieldValues?_cons_eq_some_iff.mpr
      ⟨key, value, rest, hkey, value?_mono h tree hvalue, fieldValues?_mono h fields hrest, rfl⟩

end

theorem exists_values?_iff {depth : Nat} {items : List Tree} :
    (∃ values, values? depth items = some values) ↔
      ∀ item ∈ items, ∃ value, item.value? depth = some value := by
  induction items with
  | nil => exact iff_of_true ⟨[], rfl⟩ nofun
  | cons item items ih =>
    rw [List.forall_mem_cons, ← ih]
    simp only [values?_cons_eq_some_iff]
    constructor
    · rintro ⟨_, value, rest, hvalue, hrest, -⟩
      exact ⟨⟨value, hvalue⟩, rest, hrest⟩
    · rintro ⟨⟨value, hvalue⟩, rest, hrest⟩
      exact ⟨_, value, rest, hvalue, hrest, rfl⟩

theorem exists_fieldValues?_iff {depth : Nat} {fields : List (Option String × Tree)} :
    (∃ values, fieldValues? depth fields = some values) ↔
      ∀ field ∈ fields, field.1 ≠ none ∧ ∃ value, field.2.value? depth = some value := by
  induction fields with
  | nil => exact iff_of_true ⟨[], rfl⟩ nofun
  | cons field fields ih =>
    rw [List.forall_mem_cons, ← ih]
    simp only [fieldValues?_cons_eq_some_iff]
    constructor
    · rintro ⟨_, name, value, rest, hname, hvalue, hrest, -⟩
      exact ⟨⟨hname ▸ Option.some_ne_none name, value, hvalue⟩, rest, hrest⟩
    · rintro ⟨⟨hname, value, hvalue⟩, rest, hrest⟩
      obtain ⟨name, hname⟩ := Option.ne_none_iff_exists'.mp hname
      exact ⟨_, name, value, rest, hname, hvalue, hrest, rfl⟩

theorem exists_value?_array {items : List Tree} (depth : Nat)
    (h : ∀ item ∈ items, ∃ value, item.value? depth = some value) :
    ∃ value, (Tree.array items).value? (depth + 1) = some value := by
  obtain ⟨values, hvalues⟩ := exists_values?_iff.mpr h
  exact ⟨.array values, by rw [value?, hvalues, Option.map_some]⟩

theorem exists_value?_object {fields : List (Option String × Tree)} (depth : Nat)
    (h : ∀ field ∈ fields, field.1 ≠ none ∧ ∃ value, field.2.value? depth = some value) :
    ∃ value, (Tree.object fields).value? (depth + 1) = some value := by
  obtain ⟨values, hvalues⟩ := exists_fieldValues?_iff.mpr h
  exact ⟨.ofFields values, by rw [value?, hvalues, Option.map_some]⟩

/-! ## Records -/

/-- What stands under a name among the fields of an object. -/
def fieldsNamed (name : String) (fields : List (Option String × Tree)) : List Tree :=
  (fields.filter (·.1 = some name)).map Prod.snd

/-- How a record holds what is found in it. An object has at most one field of each known name, and
all its names can be read; a list has the fields in their declared order, and the last ones may be
missing. -/
inductive IsRecord (names : List String) (found : String → Option Tree) : Tree → Prop
  | object {fields : List (Option String × Tree)} (hreadable : ∀ field ∈ fields, field.1 ≠ none)
      (hfound : ∀ name ∈ names, fieldsNamed name fields = (found name).toList) :
    IsRecord names found (.object fields)
  | array {items : List Tree} (hlength : items.length ≤ names.length)
      (hfound : ∀ (i : Nat) (name : String), names[i]? = some name → found name = items[i]?) :
    IsRecord names found (.array items)

section

variable {names : List String} {name : String} {value : Tree}
  {fields : List (Option String × Tree)} {record : Record}

theorem fieldsNamed_cons_self (name : String) (value : Tree)
    (fields : List (Option String × Tree)) :
    fieldsNamed name ((some name, value) :: fields) = value :: fieldsNamed name fields := by
  simp [fieldsNamed]

theorem fieldsNamed_cons_of_ne {key : Option String} (h : key ≠ some name) (value : Tree)
    (fields : List (Option String × Tree)) :
    fieldsNamed name ((key, value) :: fields) = fieldsNamed name fields := by
  simp [fieldsNamed, h]

theorem any_eq_false_iff_get?_eq_none :
    record.any (·.1 = name) = false ↔ Entries.get? name record = none := by
  induction record with
  | nil => exact iff_of_true rfl rfl
  | cons entry record ih =>
    obtain ⟨key, value⟩ := entry
    by_cases hkey : key = name
    · rw [hkey, Entries.get?_cons_self]
      simp
    · rw [Entries.get?_cons_of_ne hkey, ← ih]
      simp [hkey]

/-- A field is passed over if its name is unknown, and is the only one of its name if it is known.
-/
theorem knownFields?_cons_eq_some_iff {key : Option String} :
    knownFields? names ((key, value) :: fields) = some record ↔
      ∃ name known, key = some name ∧ knownFields? names fields = some known ∧
        (name ∉ names ∧ record = known ∨
          name ∈ names ∧ Entries.get? name known = none ∧ record = (name, value) :: known) := by
  cases key with
  | none => exact iff_of_false nofun nofun
  | some name =>
    rw [knownFields?]
    cases knownFields? names fields with
    | none => exact iff_of_false nofun nofun
    | some known =>
      dsimp only
      by_cases hname : name ∈ names
      · cases hany : known.any (·.1 = name) with
        | true =>
          have hsome : Entries.get? name known ≠ none := fun hnone ↦
            Bool.noConfusion (hany.symm.trans (any_eq_false_iff_get?_eq_none.mpr hnone))
          simp [hname, hsome]
        | false => simp [hname, any_eq_false_iff_get?_eq_none.mp hany, eq_comm]
      · simp [hname, eq_comm]

theorem fieldsNamed_eq_of_knownFields? (h : knownFields? names fields = some record)
    (hname : name ∈ names) : fieldsNamed name fields = (Entries.get? name record).toList := by
  induction fields generalizing record with
  | nil =>
    cases h
    rfl
  | cons field fields ih =>
    obtain ⟨key, value⟩ := field
    obtain ⟨key, known, rfl, hrest, hstep⟩ := knownFields?_cons_eq_some_iff.mp h
    obtain ⟨hunknown, rfl⟩ | ⟨-, hfirst, rfl⟩ := hstep
    · have hne : some key ≠ some name := fun heq ↦ hunknown (Option.some.inj heq ▸ hname)
      rw [fieldsNamed_cons_of_ne hne, ih hrest]
    · by_cases hsame : key = name
      · subst hsame
        rw [fieldsNamed_cons_self, ih hrest, hfirst, Entries.get?_cons_self]
        rfl
      · rw [fieldsNamed_cons_of_ne fun heq ↦ hsame (Option.some.inj heq), ih hrest,
          Entries.get?_cons_of_ne hsame]

theorem ne_none_of_knownFields? (h : knownFields? names fields = some record) :
    ∀ field ∈ fields, field.1 ≠ none := by
  induction fields generalizing record with
  | nil => exact nofun
  | cons field fields ih =>
    obtain ⟨key, known, hkey, hrest, -⟩ := knownFields?_cons_eq_some_iff.mp h
    exact List.forall_mem_cons.mpr ⟨hkey ▸ Option.some_ne_none key, ih hrest⟩

theorem exists_knownFields? (hreadable : ∀ field ∈ fields, field.1 ≠ none)
    (hsingle : ∀ name ∈ names, (fieldsNamed name fields).length ≤ 1) :
    ∃ record, knownFields? names fields = some record := by
  induction fields with
  | nil => exact ⟨[], rfl⟩
  | cons field fields ih =>
    obtain ⟨key, value⟩ := field
    obtain ⟨hkey, hothers⟩ := List.forall_mem_cons.mp hreadable
    obtain ⟨key, rfl⟩ := Option.ne_none_iff_exists'.mp hkey
    have hfewer : ∀ name ∈ names, (fieldsNamed name fields).length ≤ 1 := by
      intro name hname
      refine Nat.le_trans (List.Sublist.length_le ?_) (hsingle name hname)
      exact ((List.sublist_cons_self _ fields).filter _).map Prod.snd
    obtain ⟨known, hknown⟩ := ih hothers hfewer
    simp only [knownFields?_cons_eq_some_iff]
    by_cases hname : key ∈ names
    · have hlength := hsingle key hname
      rw [fieldsNamed_cons_self, List.length_cons,
        fieldsNamed_eq_of_knownFields? hknown hname] at hlength
      have hnone : Entries.get? key known = none := by
        cases hfound : Entries.get? key known with
        | none => rfl
        | some value => simp [hfound] at hlength
      exact ⟨_, key, known, rfl, hknown, .inr ⟨hname, hnone, rfl⟩⟩
    · exact ⟨_, key, known, rfl, hknown, .inl ⟨hname, rfl⟩⟩

theorem get?_zip_of_getElem? {items : List Tree} (hdistinct : names.Nodup) {i : Nat}
    (h : names[i]? = some name) : Entries.get? name (names.zip items) = items[i]? := by
  induction names generalizing items i with
  | nil => cases h
  | cons first names ih =>
    obtain ⟨hfirst, hdistinct⟩ := List.nodup_cons.mp hdistinct
    cases items with
    | nil => rfl
    | cons item items =>
      rw [List.zip_cons_cons]
      cases i with
      | zero =>
        cases h
        exact Entries.get?_cons_self _ item _
      | succ i =>
        rw [List.getElem?_cons_succ] at h
        have hne : first ≠ name := by
          rintro rfl
          exact hfirst (List.mem_of_getElem? h)
        rw [Entries.get?_cons_of_ne hne, ih hdistinct h, List.getElem?_cons_succ]

/-- **Records.** What is read from a record is what it holds under the known names. -/
theorem exists_record?_iff (hdistinct : names.Nodup) {tree : Tree}
    {found : String → Option Tree} :
    (∃ record, tree.record? names = some record ∧
        ∀ name ∈ names, Entries.get? name record = found name) ↔
      IsRecord names found tree := by
  constructor
  · rintro ⟨record, hrecord, hfound⟩
    cases tree with
    | object fields =>
      refine .object (ne_none_of_knownFields? hrecord) fun name hname ↦ ?_
      rw [fieldsNamed_eq_of_knownFields? hrecord hname, hfound name hname]
    | array items =>
      rw [record?] at hrecord
      split at hrecord
      · rename_i hlength
        cases hrecord
        refine .array hlength fun i name hname ↦ ?_
        rw [← hfound name (List.mem_of_getElem? hname), get?_zip_of_getElem? hdistinct hname]
      · cases hrecord
    | _ => cases hrecord
  · intro h
    cases h with
    | object hreadable hfound =>
      rename_i fields
      have hsingle : ∀ name ∈ names, (fieldsNamed name fields).length ≤ 1 := by
        intro name hname
        rw [hfound name hname]
        cases found name <;> simp
      obtain ⟨record, hrecord⟩ := exists_knownFields? hreadable hsingle
      refine ⟨record, hrecord, fun name hname ↦ ?_⟩
      have hhead := congrArg List.head? (fieldsNamed_eq_of_knownFields? hrecord hname)
      rw [hfound name hname, Option.head?_toList, Option.head?_toList] at hhead
      exact hhead.symm
    | array hlength hfound =>
      rename_i items
      refine ⟨names.zip items, if_pos hlength, fun name hname ↦ ?_⟩
      obtain ⟨i, hi⟩ := List.mem_iff_getElem?.mp hname
      rw [get?_zip_of_getElem? hdistinct hi, hfound i name hi]

/-! ## Objects with given fields -/

/-- Whether a tree is an object with exactly these fields, in any order. -/
def IsObjectOf (record : Record) (tree : Tree) : Prop :=
  ∃ fields, tree = .object fields ∧
    fields.Perm (record.map fun field ↦ (some field.1, field.2))

theorem fieldsNamed_eq_of_perm
    (h : fields.Perm (record.map fun field ↦ (some field.1, field.2)))
    (hdistinct : (record.map Prod.fst).Nodup) (name : String) :
    fieldsNamed name fields = (Entries.get? name record).toList := by
  have hnamed : fieldsNamed name (record.map fun field ↦ (some field.1, field.2))
      = (Entries.get? name record).toList := by
    clear h
    induction record with
    | nil => rfl
    | cons field record ih =>
      obtain ⟨key, value⟩ := field
      rw [List.map_cons, List.nodup_cons] at hdistinct
      rw [List.map_cons]
      by_cases hkey : key = name
      · subst hkey
        have hnone : Entries.get? key record = none := Entries.get?_eq_none fun entry hentry heq ↦
          hdistinct.1 (List.mem_map.mpr ⟨entry, hentry, heq⟩)
        rw [fieldsNamed_cons_self, ih hdistinct.2, hnone, Entries.get?_cons_self]
        rfl
      · rw [fieldsNamed_cons_of_ne fun heq ↦ hkey (Option.some.inj heq), ih hdistinct.2,
          Entries.get?_cons_of_ne hkey]
  have hperm : (fieldsNamed name fields).Perm (Entries.get? name record).toList :=
    hnamed ▸ (h.filter _).map Prod.snd
  cases hfound : Entries.get? name record with
  | none =>
    rw [hfound] at hperm
    exact hperm.eq_nil
  | some value =>
    rw [hfound] at hperm
    exact hperm.eq_singleton

theorem IsObjectOf.isRecord {tree : Tree} (h : IsObjectOf record tree)
    (hdistinct : (record.map Prod.fst).Nodup) (names : List String) :
    IsRecord names (fun name ↦ Entries.get? name record) tree := by
  obtain ⟨fields, rfl, hperm⟩ := h
  refine .object (fun field hfield ↦ ?_) fun name _ ↦ fieldsNamed_eq_of_perm hperm hdistinct name
  obtain ⟨known, -, rfl⟩ := List.mem_map.mp (hperm.mem_iff.mp hfield)
  exact Option.some_ne_none known.1

theorem IsObjectOf.exists_value? {tree : Tree} (h : IsObjectOf record tree) (depth : Nat)
    (hvalues : ∀ field ∈ record, ∃ value, field.2.value? depth = some value) :
    ∃ value, tree.value? (depth + 1) = some value := by
  obtain ⟨fields, rfl, hperm⟩ := h
  refine exists_value?_object depth fun field hfield ↦ ?_
  obtain ⟨known, hknown, rfl⟩ := List.mem_map.mp (hperm.mem_iff.mp hfield)
  exact ⟨Option.some_ne_none known.1, hvalues known hknown⟩

end

end Tree

end ResourceSearch.Json
