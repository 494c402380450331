import Mathlib.Data.List.TakeWhile
import ResourceSearch.Proofs.Text.Lowercase
import ResourceSearch.Query.Condition

/-!
# The names of fields

A field stands outside phrases, so nothing escapes what it is made of: its characters have to be
harmless themselves. There are three sources of names. A standard field is spelled like one of a
few words up to letter case; an encoded identifier decodes to characters of identifiers, and
decoding removes nothing but underscores and digits; a slug is made of small forms of letters and
digits, with dashes.
-/

namespace ResourceSearch.Query

/-! ## Identifiers -/

namespace Identifier

theorem isPathChar_of_isFragmentChar {c : Char} (h : isFragmentChar c = true) :
    isPathChar c = true := by
  rw [isPathChar, h]
  rfl

theorem isPathChar_of_mem {cs : List Char} (h : isIdentifier cs = true) {c : Char} (hc : c ∈ cs) :
    isPathChar c = true ∨ c = '#' := by
  obtain ⟨scheme, hscheme, hrest⟩ := List.any_eq_true.mp h
  rw [Bool.and_eq_true, List.isPrefixOf_iff_prefix] at hrest
  obtain ⟨⟨rest, rfl⟩, hrest⟩ := hrest
  rw [List.drop_left] at hrest
  rcases List.mem_append.mp hc with hc | hc
  · have hall : schemes.all (·.all isPathChar) = true := by decide
    exact .inl (List.all_eq_true.mp (List.all_eq_true.mp hall scheme hscheme) c hc)
  · rw [← List.takeWhile_append_dropWhile (p := (· ≠ '#')) (l := rest), List.mem_append] at hc
    rw [isPathAndFragment] at hrest
    cases hdrop : rest.dropWhile (· ≠ '#') with
    | nil =>
      simp only [hdrop] at hrest
      exact absurd hrest Bool.false_ne_true
    | cons d fragment =>
      simp only [hdrop, Bool.and_eq_true, List.all_eq_true] at hrest
      obtain ⟨⟨⟨-, hpath⟩, -⟩, hfragment⟩ := hrest
      rw [hdrop, List.mem_cons] at hc
      rcases hc with hc | rfl | hc
      · exact .inl (hpath c hc)
      · right
        have hhead := List.head_dropWhile_not (· ≠ '#') (l := rest) (by rw [hdrop]; simp)
        simp only [hdrop, List.head_cons] at hhead
        simpa using hhead
      · exact .inl (isPathChar_of_isFragmentChar (hfragment c hc))

theorem mem_replaceMark {digit c : Char} {meaning cs : List Char} (hmark : c ≠ '_')
    (hdigit : c ≠ digit) (hc : c ∈ cs) : c ∈ replaceMark digit meaning cs := by
  fun_induction replaceMark digit meaning cs with
  | case1 rest ih =>
    rw [List.mem_append]
    simp only [List.mem_cons] at hc
    rcases hc with hc | hc | hc | hc
    · exact absurd hc hmark
    · exact absurd hc hdigit
    · exact absurd hc hmark
    · exact .inr (ih hc)
  | case2 d rest hd ih =>
    rw [List.mem_cons] at hc ⊢
    exact hc.imp_right ih
  | case3 d rest hshape ih =>
    rw [List.mem_cons] at hc ⊢
    exact hc.imp_right ih
  | case4 => exact hc

/-- Decoding keeps every character other than underscores and the digits of marks. -/
theorem mem_decode {c : Char} {cs : List Char} (hmark : c ≠ '_')
    (hdigit : ∀ m ∈ marks, c ≠ m.1) (hc : c ∈ cs) : c ∈ decode cs := by
  have key : ∀ (ms : List (Char × List Char)) (ds : List Char), (∀ m ∈ ms, c ≠ m.1) → c ∈ ds →
      c ∈ ms.foldl (fun cs mark ↦ replaceMark mark.1 mark.2 cs) ds := by
    intro ms
    induction ms with
    | nil => exact fun ds _ hds ↦ hds
    | cons m ms ih =>
      intro ds hms hds
      refine ih _ (fun n hn ↦ hms n (List.mem_cons_of_mem m hn)) ?_
      exact mem_replaceMark hmark (hms m List.mem_cons_self) hds
  exact key marks cs hdigit hc

theorem isPathChar_of_mem_encoded {cs : List Char} (h : isEncoded cs = true) {c : Char}
    (hc : c ∈ cs) : isPathChar c = true ∨ c = '#' := by
  by_cases hmark : c = '_'
  · subst hmark
    exact .inl rfl
  · by_cases hdigit : ∃ m ∈ marks, c = m.1
    · obtain ⟨m, hm, rfl⟩ := hdigit
      have hall : ∀ n ∈ marks, isPathChar n.1 = true := by decide
      exact .inl (hall m hm)
    · exact isPathChar_of_mem h
        (mem_decode hmark (fun m hm heq ↦ hdigit ⟨m, hm, heq⟩) hc)

end Identifier

/-! ## Slugs -/

theorem mem_slugChars {started pending : Bool} {cs : List Char} {c : Char}
    (h : c ∈ slugChars started pending cs) :
    c = '-' ∨ ∃ a ∈ cs, Text.isAlphanumeric a = true ∧ c ∈ Text.lowerChar a := by
  induction cs generalizing started pending with
  | nil => simp [slugChars] at h
  | cons a cs ih =>
    have htail : ∀ {started pending : Bool}, c ∈ slugChars started pending cs →
        c = '-' ∨ ∃ b ∈ a :: cs, Text.isAlphanumeric b = true ∧ c ∈ Text.lowerChar b := by
      intro started pending hc
      rcases ih hc with hc | ⟨b, hb, hc⟩
      · exact .inl hc
      · exact .inr ⟨b, List.mem_cons_of_mem a hb, hc⟩
    rw [slugChars] at h
    split at h
    · rename_i ha
      rw [List.mem_append, List.mem_append] at h
      rcases h with (h | h) | h
      · left
        split at h
        · exact List.mem_singleton.mp h
        · simp at h
      · exact .inr ⟨a, List.mem_cons_self, ha, h⟩
      · exact htail h
    · exact htail h

/-! ## Field names -/

/-- The characters that a reader of query text takes note of outside phrases. -/
def structural : List Char := ['"', '(', ')']

theorem forall_mem_structural {p : Char → Prop} :
    (∀ c ∈ structural, p c) ↔ p '"' ∧ p '(' ∧ p ')' := by
  simp [structural]

theorem not_mem_of_isStandardField {field : String} (h : isStandardField field = true) {c : Char}
    (hc : c ∈ structural) : c ∉ field.toList := by
  intro hmem
  have hself : ∀ d ∈ structural, Text.lowerChar d = [d] ∧ d ≠ 'Σ' :=
    forall_mem_structural.mpr (by decide)
  have hwords : ∀ word ∈ standardFields,
      '"' ∉ word.toList ∧ '(' ∉ word.toList ∧ ')' ∉ word.toList := by decide
  have hlower := Text.mem_lowercase (hself c hc).1 (hself c hc).2 hmem
  have hword : ∀ d ∈ structural, d ∉ (String.ofList (Text.lowercase field.toList)).toList :=
    forall_mem_structural.mpr (hwords _ (of_decide_eq_true h))
  rw [String.toList_ofList] at hword
  exact hword c hc hlower

theorem not_mem_propertyName (field : String) {c : Char} (hc : c ∈ structural) :
    c ∉ (propertyName field).toList := by
  intro hmem
  rw [propertyName] at hmem
  split at hmem
  · rename_i hencoded
    have hpath : ∀ d ∈ structural, Identifier.isPathChar d = false ∧ d ≠ '#' :=
      forall_mem_structural.mpr (by decide)
    rcases Identifier.isPathChar_of_mem_encoded hencoded hmem with h | h
    · rw [(hpath c hc).1] at h
      simp at h
    · exact (hpath c hc).2 h
  · rw [toList_slug] at hmem
    have hplain : ∀ d ∈ structural, Text.isAlphanumeric d = false ∧ d ≠ '-' ∧ d.toNat < 97 :=
      forall_mem_structural.mpr (by decide)
    obtain ⟨halpha, hdash, hascii⟩ := hplain c hc
    rcases mem_slugChars hmem with h | ⟨a, -, ha, h⟩
    · exact hdash h
    · rcases Text.mem_lowerChar h with rfl | h | h
      · rw [ha] at halpha
        simp at halpha
      · omega
      · omega

/-- **No field name has structure.** Neither a double quote nor a parenthesis stands in the name
under which a property is asked for. -/
theorem not_mem_of_mem_propertyFields {field name : String} (h : name ∈ propertyFields field)
    {c : Char} (hc : c ∈ structural) : c ∉ name.toList := by
  obtain ⟨widget, hwidget, rfl⟩ := List.mem_map.mp h
  have hwidgets : ∀ w ∈ widgets,
      '"' ∉ (w ++ "_").toList ∧ '(' ∉ (w ++ "_").toList ∧ ')' ∉ (w ++ "_").toList := by decide
  have hstart : ∀ d ∈ structural, d ∉ (widget ++ "_").toList :=
    forall_mem_structural.mpr (hwidgets widget hwidget)
  rw [String.toList_append, List.mem_append, not_or]
  exact ⟨hstart c hc, not_mem_propertyName field hc⟩

end ResourceSearch.Query
