import ResourceSearch.Proofs.Dict
import ResourceSearch.Proofs.Json.RoundTrip

/-!
# Values up to the order of fields

An object has no order of its own: two texts that spell its fields in different orders spell the
same object. `Reorders` relates two values that differ in nothing else, at any depth. The fields of
the second object are taken one by one, and each is found somewhere in the first, so their names
are permuted and what stands under one name is related again.
-/

namespace ResourceSearch.Json

mutual

/-- Whether two values differ in nothing but the order in which the fields of objects stand. -/
inductive Reorders : Json → Json → Prop
  | null : Reorders .null .null
  | bool (value : Bool) : Reorders (.bool value) (.bool value)
  | number (value : Number) : Reorders (.number value) (.number value)
  | string (value : String) : Reorders (.string value) (.string value)
  | array {items' items : List Json} : ReordersEach items' items →
    Reorders (.array items') (.array items)
  | object {fields' fields : List (String × Json)} : ReordersFields fields' fields →
    Reorders (.object fields') (.object fields)

/-- The items of two arrays, one by one. -/
inductive ReordersEach : List Json → List Json → Prop
  | nil : ReordersEach [] []
  | cons {item' item : Json} {items' items : List Json} : Reorders item' item →
    ReordersEach items' items → ReordersEach (item' :: items') (item :: items)

/-- The fields of two objects: the first field of the second one stands anywhere in the first. -/
inductive ReordersFields : List (String × Json) → List (String × Json) → Prop
  | nil : ReordersFields [] []
  | cons {name : String} {value' value : Json} {before after fields : List (String × Json)} :
    Reorders value' value → ReordersFields (before ++ after) fields →
    ReordersFields (before ++ (name, value') :: after) ((name, value) :: fields)

end

mutual

theorem Reorders.refl : (json : Json) → json.Reorders json
  | .null => .null
  | .bool value => .bool value
  | .number value => .number value
  | .string value => .string value
  | .array items => .array (ReordersEach.refl items)
  | .object fields => .object (ReordersFields.refl fields)

theorem ReordersEach.refl : (items : List Json) → ReordersEach items items
  | [] => .nil
  | item :: items => .cons (Reorders.refl item) (ReordersEach.refl items)

theorem ReordersFields.refl : (fields : List (String × Json)) → ReordersFields fields fields
  | [] => .nil
  | (_, value) :: fields =>
    @ReordersFields.cons _ _ _ [] _ _ (Reorders.refl value) (ReordersFields.refl fields)

end

theorem ReordersEach.exists_of_mem {items' items : List Json} (h : ReordersEach items' items)
    {item' : Json} (hmem : item' ∈ items') : ∃ item ∈ items, item'.Reorders item := by
  induction items generalizing items' with
  | nil =>
    cases h
    cases hmem
  | cons item items ih =>
    cases h with
    | cons hitem hitems =>
      rcases List.mem_cons.mp hmem with rfl | hmem
      · exact ⟨item, List.mem_cons_self, hitem⟩
      · obtain ⟨found, hfound, hreorders⟩ := ih hitems hmem
        exact ⟨found, List.mem_cons_of_mem _ hfound, hreorders⟩

namespace ReordersFields

section

variable {fields' fields : List (String × Json)} (h : ReordersFields fields' fields)

include h

theorem names_perm : (fields'.map Prod.fst).Perm (fields.map Prod.fst) := by
  induction fields generalizing fields' with
  | nil =>
    cases h
    exact .nil
  | cons field fields ih =>
    cases h with
    | cons _ hfields =>
      refine (List.perm_middle.map Prod.fst).trans ?_
      rw [List.map_cons, List.map_cons]
      exact (ih hfields).cons _

theorem exists_of_mem {name : String} {value' : Json} (hmem : (name, value') ∈ fields') :
    ∃ value, (name, value) ∈ fields ∧ value'.Reorders value := by
  induction fields generalizing fields' with
  | nil =>
    cases h
    cases hmem
  | cons field fields ih =>
    cases h with
    | cons hvalue hfields =>
      rcases List.mem_cons.mp (List.perm_middle.mem_iff.mp hmem) with heq | hmem
      · obtain ⟨rfl, rfl⟩ := Prod.mk.inj heq
        exact ⟨_, List.mem_cons_self, hvalue⟩
      · obtain ⟨value, hfound, hreorders⟩ := ih hfields hmem
        exact ⟨value, List.mem_cons_of_mem _ hfound, hreorders⟩

theorem exists_mem_of_mem {name : String} {value : Json} (hmem : (name, value) ∈ fields) :
    ∃ value', (name, value') ∈ fields' ∧ value'.Reorders value := by
  induction fields generalizing fields' with
  | nil => cases hmem
  | cons field fields ih =>
    cases h with
    | cons hvalue hfields =>
      rcases List.mem_cons.mp hmem with heq | hmem
      · obtain ⟨rfl, rfl⟩ := Prod.mk.inj heq
        exact ⟨_, List.mem_append_right _ List.mem_cons_self, hvalue⟩
      · obtain ⟨value', hfound, hreorders⟩ := ih hfields hmem
        exact ⟨value', List.perm_middle.mem_iff.mpr (List.mem_cons_of_mem _ hfound), hreorders⟩

end

theorem exists_eq_singleton {name : String} {value : Json} {fields' : List (String × Json)}
    (h : ReordersFields fields' [(name, value)]) :
    ∃ value', fields' = [(name, value')] ∧ value'.Reorders value := by
  cases h with
  | @cons _ value' _ before after _ hvalue hfields =>
    have hnone : before ++ after = [] := List.map_eq_nil_iff.mp hfields.names_perm.eq_nil
    obtain ⟨rfl, rfl⟩ := List.append_eq_nil_iff.mp hnone
    exact ⟨value', rfl, hvalue⟩

end ReordersFields

theorem HasWords.of_reorders {json' json : Json} (h : json.HasWords)
    (hreorders : json'.Reorders json) : json'.HasWords := by
  induction h generalizing json' with
  | null =>
    cases hreorders
    exact .null
  | bool value =>
    cases hreorders
    exact .bool value
  | number hnumber =>
    cases hreorders
    exact .number hnumber
  | string value =>
    cases hreorders
    exact .string value
  | array _ ih =>
    cases hreorders with
    | array hitems =>
      refine .array fun item' hitem' ↦ ?_
      obtain ⟨item, hitem, hreorders⟩ := hitems.exists_of_mem hitem'
      exact ih item hitem hreorders
  | object _ ih =>
    cases hreorders with
    | object hfields =>
      refine .object fun field' hfield' ↦ ?_
      obtain ⟨value, hvalue, hreorders⟩ := hfields.exists_of_mem hfield'
      exact ih _ hvalue hreorders

end ResourceSearch.Json
