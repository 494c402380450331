import ResourceSearch.Proofs.Json.Literals

/-!
# Values read back

The text of a value, in either layout, is read back to the tree of the value, if its numbers are
whole and fit 64 bits. The proof follows the value: an array or object is read back if what it
holds is, whatever text follows, because the reader takes one item or field at a time.

Inside a value a number is followed by white space, a comma or a bracket, none of which prolongs
it. The bound on the number of calls is met as a text is longer than the calls that it takes.
-/

namespace ResourceSearch.Json

/-! ## White space -/

theorem skipSpace_cons {c : Char} (h : isSpace c = false) (cs : List Char) :
    skipSpace (c :: cs) = c :: cs :=
  List.dropWhile_cons_of_neg (by rw [h]; exact Bool.false_ne_true)

theorem eq_of_isSpace {c : Char} (h : isSpace c = true) :
    c = ' ' ∨ c = '\n' ∨ c = '\t' ∨ c = '\r' := by
  rw [isSpace] at h
  simpa only [Bool.or_eq_true, decide_eq_true_eq, or_assoc] using h

section

variable {space : List Char} (h : ∀ c ∈ space, isSpace c = true)

include h

theorem skipSpace_append (cs : List Char) : skipSpace (space ++ cs) = skipSpace cs :=
  List.dropWhile_append_of_pos h

theorem readValue_append (calls : Nat) (cs : List Char) :
    readValue calls (space ++ cs) = readValue calls cs := by
  cases calls with
  | zero => rfl
  | succ calls => rw [readValue, readValue, skipSpace_append h]

theorem readItems_append (calls : Nat) (cs : List Char) :
    readItems calls (space ++ cs) = readItems calls cs := by
  cases calls with
  | zero => rfl
  | succ calls => rw [readItems, readItems, readValue_append h]

theorem readFields_append (calls : Nat) (cs : List Char) :
    readFields calls (space ++ cs) = readFields calls cs := by
  cases calls with
  | zero => rfl
  | succ calls => rw [readFields, readFields, skipSpace_append h]

theorem endsNumber_append {cs : List Char} (hcs : EndsNumber cs) : EndsNumber (space ++ cs) := by
  cases space with
  | nil => exact hcs
  | cons c space =>
    obtain rfl | rfl | rfl | rfl := eq_of_isSpace (h c List.mem_cons_self) <;>
      exact ⟨rfl, by decide, by decide, by decide⟩

end

theorem isSpace_of_mem_lineBreak (layout : Layout) (depth : Nat) :
    ∀ c ∈ layout.lineBreak depth, isSpace c = true := by
  cases layout with
  | compact => exact nofun
  | indented =>
    rw [Layout.lineBreak, List.forall_mem_cons]
    refine ⟨rfl, fun c hc ↦ ?_⟩
    rw [List.eq_of_mem_replicate hc]
    rfl

theorem exists_colon_eq (layout : Layout) :
    ∃ space, layout.colon = ':' :: space ∧ ∀ c ∈ space, isSpace c = true := by
  cases layout with
  | compact => exact ⟨[], rfl, nofun⟩
  | indented => exact ⟨[' '], rfl, fun c hc ↦ by rw [List.mem_singleton.mp hc]; rfl⟩

/-! ## One step of the reader -/

theorem readString_stringChars (text : String) (cs : List Char) :
    ∃ rest, stringChars text ++ cs = '"' :: rest ∧
      readString rest = some (some text.toList, cs) := by
  refine ⟨text.toList.flatMap escapeChar ++ '"' :: cs, ?_, readString_flatMap_escapeChar _ _⟩
  rw [stringChars, List.cons_append, List.cons_append, List.append_assoc, List.singleton_append]

/-- The name of a field is read up to the colon, and the white space after it is passed over. -/
theorem exists_field_eq (layout : Layout) (name : String) (cs : List Char) :
    ∃ text after, stringChars name ++ (layout.colon ++ cs) = '"' :: text ∧
      readString text = some (some name.toList, ':' :: after) ∧
      ∀ calls, readValue calls after = readValue calls cs := by
  obtain ⟨text, htext, hname⟩ := readString_stringChars name (layout.colon ++ cs)
  obtain ⟨space, hcolon, hspace⟩ := exists_colon_eq layout
  rw [hcolon, List.cons_append] at hname
  exact ⟨text, space ++ cs, htext, hname, fun calls ↦ readValue_append hspace calls cs⟩

theorem readValue_stringChars (calls : Nat) (text : String) (cs : List Char) :
    readValue (calls + 1) (stringChars text ++ cs) = some (.string (some text), cs) := by
  obtain ⟨rest, htext, hrest⟩ := readString_stringChars text cs
  rw [htext, readValue, skipSpace_cons rfl]
  simp only [hrest, Option.map_some, String.ofList_toList]

theorem isSpace_of_startsNumber {c : Char} (h : c.isDigit = true ∨ c = '-') :
    isSpace c = false := by
  rw [Bool.eq_false_iff]
  intro hc
  obtain rfl | rfl | rfl | rfl := eq_of_isSpace hc <;> exact absurd h (by decide)

theorem readValue_of_startsNumber (calls : Nat) {c : Char} (h : c.isDigit = true ∨ c = '-')
    (cs : List Char) :
    readValue (calls + 1) (c :: cs)
      = (readNumber (c :: cs)).map fun (literal, rest) ↦ (.number literal.value?, rest) := by
  rw [readValue, skipSpace_cons (isSpace_of_startsNumber h)]
  split
  case h_7 => rfl
  all_goals
    rename_i heq
    rw [(List.cons.inj heq).1] at h
    exact absurd h (by decide)

theorem readValue_bracket {calls : Nat} {cs cs' rest : List Char} {c : Char} {items : List Tree}
    (hcs : skipSpace cs = c :: cs') (hc : c ≠ ']')
    (hitems : readItems calls (c :: cs') = some (items, rest)) :
    readValue (calls + 1) ('[' :: cs) = some (.array items, rest) := by
  rw [readValue, skipSpace_cons rfl]
  simp only [hcs]
  split
  · rename_i heq
    exact absurd (List.cons.inj heq).1 hc
  · rw [hitems]
    rfl

theorem readValue_brace {calls : Nat} {cs cs' rest : List Char} {c : Char}
    {fields : List (Option String × Tree)} (hcs : skipSpace cs = c :: cs') (hc : c ≠ '}')
    (hfields : readFields calls (c :: cs') = some (fields, rest)) :
    readValue (calls + 1) ('{' :: cs) = some (.object fields, rest) := by
  rw [readValue, skipSpace_cons rfl]
  simp only [hcs]
  split
  · rename_i heq
    exact absurd (List.cons.inj heq).1 hc
  · rw [hfields]
    rfl

section

variable {calls : Nat} {cs rest rest' : List Char} {tree : Tree}

theorem readItems_last (hvalue : readValue calls cs = some (tree, rest))
    (hrest : skipSpace rest = ']' :: rest') :
    readItems (calls + 1) cs = some ([tree], rest') := by
  rw [readItems]
  simp only [hvalue, hrest]

theorem readItems_next {items : List Tree} {last : List Char}
    (hvalue : readValue calls cs = some (tree, rest)) (hrest : skipSpace rest = ',' :: rest')
    (hitems : readItems calls rest' = some (items, last)) :
    readItems (calls + 1) cs = some (tree :: items, last) := by
  rw [readItems]
  simp only [hvalue, hrest, hitems, Option.map_some]

variable {layout : Layout} {name : String}

theorem readFields_last (hvalue : readValue calls cs = some (tree, rest))
    (hrest : skipSpace rest = '}' :: rest') :
    readFields (calls + 1) (stringChars name ++ (layout.colon ++ cs))
      = some ([(some name, tree)], rest') := by
  obtain ⟨text, after, htext, hname, hafter⟩ := exists_field_eq layout name cs
  rw [htext, readFields, skipSpace_cons rfl]
  simp only [hname, skipSpace_cons (c := ':') rfl, hafter, hvalue, hrest, Option.map_some,
    String.ofList_toList]

theorem readFields_next {fields : List (Option String × Tree)} {last : List Char}
    (hvalue : readValue calls cs = some (tree, rest)) (hrest : skipSpace rest = ',' :: rest')
    (hfields : readFields calls rest' = some (fields, last)) :
    readFields (calls + 1) (stringChars name ++ (layout.colon ++ cs))
      = some ((some name, tree) :: fields, last) := by
  obtain ⟨text, after, htext, hname, hafter⟩ := exists_field_eq layout name cs
  rw [htext, readFields, skipSpace_cons rfl]
  simp only [hname, skipSpace_cons (c := ':') rfl, hafter, hvalue, hrest, hfields,
    Option.map_some, String.ofList_toList]

end

/-! ## Values -/

/-- A value whose numbers are whole and fit 64 bits. -/
inductive HasWords : Json → Prop
  | null : HasWords .null
  | bool (value : Bool) : HasWords (.bool value)
  | number {value : Number} : value.IsWord → HasWords (.number value)
  | string (value : String) : HasWords (.string value)
  | array {items : List Json} : (∀ item ∈ items, HasWords item) → HasWords (.array items)
  | object {fields : List (String × Json)} :
    (∀ field ∈ fields, HasWords field.2) → HasWords (.object fields)

theorem hasWords_nat {n : Nat} (h : n < UInt64.size) : (nat n).HasWords := by
  have hsize : UInt64.size = 0x10000000000000000 := rfl
  exact .number ⟨by omega, by omega⟩

theorem hasWords_array {α : Type} {encode : α → Json} (h : ∀ a, (encode a).HasWords)
    (values : List α) : (Json.array (values.map encode)).HasWords := by
  refine .array fun item hitem ↦ ?_
  obtain ⟨a, -, rfl⟩ := List.mem_map.mp hitem
  exact h a

theorem hasWords_dict {α : Type} {encode : α → Json} (h : ∀ a, (encode a).HasWords)
    (d : Dict String α) :
    (Json.object (d.entries.map fun (name, a) ↦ (name, encode a))).HasWords := by
  refine .object fun field hfield ↦ ?_
  obtain ⟨entry, -, rfl⟩ := List.mem_map.mp hfield
  exact h entry.2

theorem hasWords_option {α : Type} {encode : α → Json} (h : ∀ a, (encode a).HasWords)
    (value : Option α) : (Json.ofOption encode value).HasWords := by
  cases value with
  | none => exact .null
  | some a => exact h a

/-- A value is read back from its text, whatever follows that does not prolong a number. -/
def IsReadBack (layout : Layout) (json : Json) : Prop :=
  ∀ depth calls cs, EndsNumber cs → (json.toChars layout depth).length ≤ calls →
    readValue (calls + 1) (json.toChars layout depth ++ cs) = some (json.toTree, cs)

theorem number_toChars_eq {number : Number} (h : number.IsWord) :
    ∃ c cs, number.toChars = c :: cs ∧ (c.isDigit = true ∨ c = '-') := by
  cases number with
  | binary value => cases h
  | whole value =>
    rw [Number.toChars]
    split
    · exact ⟨_, _, rfl, .inr rfl⟩
    · cases hchars : Nat.toDigits 10 value.natAbs with
      | nil => exact absurd hchars Nat.toDigits_ne_nil
      | cons c digits =>
        exact ⟨c, digits, rfl, .inl (digits_toDigits c (hchars ▸ List.mem_cons_self))⟩

/-- A value starts with neither white space nor a closing bracket. -/
theorem toChars_eq {json : Json} (h : json.HasWords) (layout : Layout) (depth : Nat) :
    ∃ c cs, json.toChars layout depth = c :: cs ∧ isSpace c = false ∧ c ≠ ']' := by
  cases h with
  | null => exact ⟨_, _, rfl, rfl, by decide⟩
  | bool value => cases value <;> exact ⟨_, _, rfl, rfl, by decide⟩
  | number hnumber =>
    obtain ⟨c, cs, hchars, hc⟩ := number_toChars_eq hnumber
    refine ⟨c, cs, hchars, isSpace_of_startsNumber hc, ?_⟩
    rintro rfl
    exact absurd hc (by decide)
  | string value => exact ⟨_, _, rfl, rfl, by decide⟩
  | @array items => cases items <;> exact ⟨_, _, rfl, rfl, by decide⟩
  | @object fields => cases fields <;> exact ⟨_, _, rfl, rfl, by decide⟩

theorem isReadBack_number {number : Number} (h : number.IsWord) (layout : Layout) :
    IsReadBack layout (.number number) := by
  intro depth calls cs hcs _
  obtain ⟨c, digits, hchars, hc⟩ := number_toChars_eq h
  obtain ⟨literal, hread, hvalue⟩ := readNumber_toChars h hcs
  rw [hchars] at hread
  rw [toChars, hchars, List.cons_append, readValue_of_startsNumber calls hc, ← List.cons_append,
    hread]
  simp only [Option.map_some, hvalue, toTree]

section

variable {layout : Layout} {depth : Nat} {space : List Char}
  (hspace : ∀ c ∈ space, isSpace c = true) (cs : List Char)

include hspace

theorem readItems_toChars {item : Json} {items : List Json} (hitem : IsReadBack layout item)
    (hitems : ∀ item ∈ items, IsReadBack layout item) {calls : Nat}
    (hcalls : (item.toChars layout depth).length + (itemsChars layout depth items).length ≤ calls) :
    readItems (calls + 2)
        (item.toChars layout depth ++ (itemsChars layout depth items ++ (space ++ ']' :: cs)))
      = some (item.toTree :: toTrees items, cs) := by
  induction items generalizing item calls with
  | nil =>
    have hend : EndsNumber (space ++ ']' :: cs) :=
      endsNumber_append hspace ⟨rfl, by decide, by decide, by decide⟩
    refine readItems_last (hitem depth calls _ hend (by omega)) ?_
    rw [itemsChars, List.nil_append, skipSpace_append hspace, skipSpace_cons rfl]
  | cons next items ih =>
    obtain ⟨hnext, hitems⟩ := List.forall_mem_cons.mp hitems
    rw [itemsChars]
    simp only [List.cons_append, List.append_assoc]
    rw [itemsChars] at hcalls
    simp only [List.cons_append, List.append_assoc, List.length_cons, List.length_append] at hcalls
    obtain ⟨calls, rfl⟩ := Nat.exists_eq_add_of_le' (show 1 ≤ calls by omega)
    refine readItems_next (hitem depth _ _ ⟨rfl, by decide, by decide, by decide⟩ (by omega))
      (skipSpace_cons rfl _) ?_
    rw [readItems_append (isSpace_of_mem_lineBreak layout depth)]
    exact ih hnext hitems (by omega)

theorem readFields_toChars (name : String) {value : Json} {fields : List (String × Json)}
    (hvalue : IsReadBack layout value) (hfields : ∀ field ∈ fields, IsReadBack layout field.2)
    {calls : Nat}
    (hcalls :
      (value.toChars layout depth).length + (fieldsChars layout depth fields).length ≤ calls) :
    readFields (calls + 2) (stringChars name ++ (layout.colon ++ (value.toChars layout depth ++
        (fieldsChars layout depth fields ++ (space ++ '}' :: cs)))))
      = some ((some name, value.toTree) :: fieldTrees fields, cs) := by
  induction fields generalizing name value calls with
  | nil =>
    have hend : EndsNumber (space ++ '}' :: cs) :=
      endsNumber_append hspace ⟨rfl, by decide, by decide, by decide⟩
    refine readFields_last (hvalue depth calls _ hend (by omega)) ?_
    rw [fieldsChars, List.nil_append, skipSpace_append hspace, skipSpace_cons rfl]
  | cons next fields ih =>
    obtain ⟨hnext, hfields⟩ := List.forall_mem_cons.mp hfields
    rw [fieldsChars]
    simp only [List.cons_append, List.append_assoc]
    rw [fieldsChars] at hcalls
    simp only [List.cons_append, List.append_assoc, List.length_cons, List.length_append] at hcalls
    obtain ⟨calls, rfl⟩ := Nat.exists_eq_add_of_le' (show 1 ≤ calls by omega)
    refine readFields_next (hvalue depth _ _ ⟨rfl, by decide, by decide, by decide⟩ (by omega))
      (skipSpace_cons rfl _) ?_
    rw [readFields_append (isSpace_of_mem_lineBreak layout depth)]
    exact ih next.1 hnext hfields (by omega)

end

theorem isReadBack_array {layout : Layout} {items : List Json}
    (hwords : ∀ item ∈ items, item.HasWords) (hitems : ∀ item ∈ items, IsReadBack layout item) :
    IsReadBack layout (.array items) := by
  intro depth calls cs _ hcalls
  cases items with
  | nil => rfl
  | cons item items =>
    obtain ⟨hitem, hitems⟩ := List.forall_mem_cons.mp hitems
    obtain ⟨c, text, htext, hc, hbracket⟩ :=
      toChars_eq (hwords item List.mem_cons_self) layout (depth + 1)
    rw [toChars] at hcalls ⊢
    simp only [List.cons_append, List.append_assoc, List.nil_append]
    simp only [List.cons_append, List.length_cons, List.length_append] at hcalls
    obtain ⟨calls, rfl⟩ := Nat.exists_eq_add_of_le' (show 2 ≤ calls by omega)
    have hcalls : (item.toChars layout (depth + 1)).length
        + (itemsChars layout (depth + 1) items).length ≤ calls := by omega
    have hread :=
      readItems_toChars (isSpace_of_mem_lineBreak layout depth) cs hitem hitems hcalls
    rw [htext, List.cons_append] at hread
    refine readValue_bracket ?_ hbracket hread
    rw [skipSpace_append (isSpace_of_mem_lineBreak layout _), htext, List.cons_append,
      skipSpace_cons hc]

theorem isReadBack_object {layout : Layout} {fields : List (String × Json)}
    (hfields : ∀ field ∈ fields, IsReadBack layout field.2) :
    IsReadBack layout (.object fields) := by
  intro depth calls cs _ hcalls
  cases fields with
  | nil => rfl
  | cons field fields =>
    obtain ⟨name, value⟩ := field
    obtain ⟨hvalue, hfields⟩ := List.forall_mem_cons.mp hfields
    rw [toChars] at hcalls ⊢
    simp only [List.cons_append, List.append_assoc, List.nil_append]
    simp only [List.cons_append, List.length_cons, List.length_append] at hcalls
    obtain ⟨calls, rfl⟩ := Nat.exists_eq_add_of_le' (show 2 ≤ calls by omega)
    have hcalls : (value.toChars layout (depth + 1)).length
        + (fieldsChars layout (depth + 1) fields).length ≤ calls := by omega
    have hread :=
      readFields_toChars (isSpace_of_mem_lineBreak layout depth) cs name hvalue hfields hcalls
    obtain ⟨text, htext, -⟩ := readString_stringChars name (layout.colon ++
      (value.toChars layout (depth + 1) ++ (fieldsChars layout (depth + 1) fields ++
        (layout.lineBreak depth ++ '}' :: cs))))
    rw [htext] at hread ⊢
    refine readValue_brace ?_ (by decide) hread
    rw [skipSpace_append (isSpace_of_mem_lineBreak layout _), skipSpace_cons rfl]

theorem HasWords.isReadBack {json : Json} (h : json.HasWords) (layout : Layout) :
    IsReadBack layout json := by
  induction h with
  | null =>
    intro depth calls cs _ _
    rfl
  | bool value =>
    intro depth calls cs _ _
    cases value <;> rfl
  | number hnumber => exact isReadBack_number hnumber layout
  | string value =>
    intro depth calls cs _ _
    exact readValue_stringChars calls value cs
  | array hwords hitems => exact isReadBack_array hwords hitems
  | object _ hfields => exact isReadBack_object hfields

/-- **A value with whole numbers of 64 bits is read back from its text**, in either layout. -/
theorem Tree.ofText?_render {json : Json} (h : json.HasWords) (layout : Layout) :
    Tree.ofText? (json.render layout) = some json.toTree := by
  have hread := h.isReadBack layout 0 (2 * (json.toChars layout 0).length + 1) [] trivial (by omega)
  rw [List.append_nil] at hread
  rw [Tree.ofText?, render, String.toList_ofList, hread]
  rfl

end ResourceSearch.Json
