import Mathlib.Algebra.Group.Nat.Even
import ResourceSearch.Proofs.Query.ParsedFields
import ResourceSearch.Proofs.Query.Printing
import ResourceSearch.Proofs.Query.Spelling

/-!
# Escaped colons

A backslash before a colon is to keep the colon in the field, and a backslash before a backslash is
to take its effect away: a colon separates a field from a term if an even number of backslashes
stands right before it. The cut at a colon goes by this rule (`cutAtColon_eq_some_iff`). But it is
made in sanitized text, in which every backslash has been doubled. There an even number of them
stands before every colon, so it is always the first colon that separates, and no backslash that is
typed can keep it in the field.

## Which rule a block follows

Both rules are of one kind, the first colon among those that count, so both are instances of one
relation between a typed text and a block. Identifiers apart, what is parsed always follows the rule
by which every colon counts. It follows the other one as well exactly if the first colon counts by
that rule too: otherwise the field is cut off before that colon, whereas by the other rule there is
no field, or one with the colon in it.
-/

namespace ResourceSearch.Query

/-! ## Colons that count -/

/-- The number of backslashes at the end of a text. -/
def closingBackslashes (cs : List Char) : ℕ :=
  (cs.reverse.takeWhile (· = '\\')).length

/-- A colon after a text is not escaped. -/
def IsUnescaped (before : List Char) : Prop :=
  Even (closingBackslashes before)

instance : DecidablePred IsUnescaped := fun before ↦
  inferInstanceAs (Decidable (Even (closingBackslashes before)))

/-- The first colon of a text among those that count, which is told by what stands before them. -/
structure FirstColon (counts : List Char → Prop) (cs before after : List Char) : Prop where
  eq_append : cs = before ++ ':' :: after
  counts_before : counts before
  not_counts : ∀ front rest, before = front ++ ':' :: rest → ¬ counts front

theorem closingBackslashes_append_singleton (cs : List Char) (c : Char) :
    closingBackslashes (cs ++ [c]) = if c = '\\' then closingBackslashes cs + 1 else 0 := by
  rw [closingBackslashes, List.reverse_append, List.reverse_singleton, List.singleton_append,
    List.takeWhile_cons]
  by_cases hc : c = '\\'
  · rw [if_pos hc, if_pos (by simpa using hc)]
    rfl
  · rw [if_neg hc, if_neg (by simpa using hc)]
    rfl

theorem closingBackslashes_of_not_mem {cs : List Char} (h : '\\' ∉ cs) :
    closingBackslashes cs = 0 := by
  induction cs using List.reverseRecOn with
  | nil => rfl
  | append_singleton cs c _ =>
    rw [closingBackslashes_append_singleton, if_neg]
    rintro rfl
    simp at h

theorem isUnescaped_append_backslash {cs : List Char} :
    IsUnescaped (cs ++ ['\\']) ↔ ¬ IsUnescaped cs := by
  rw [IsUnescaped, closingBackslashes_append_singleton, if_pos rfl, Nat.even_add_one]
  rfl

theorem isUnescaped_append_of_ne {cs : List Char} {c : Char} (hc : c ≠ '\\') :
    IsUnescaped (cs ++ [c]) := by
  rw [IsUnescaped, closingBackslashes_append_singleton, if_neg hc]
  exact Even.zero

theorem append_colon_eq {front rest before after : List Char}
    (h : front ++ ':' :: rest = before ++ ':' :: after) :
    front = before ∧ rest = after ∨ (∃ more, front = before ++ ':' :: more) ∨
      ∃ more, before = front ++ ':' :: more := by
  rcases List.append_eq_append_iff.mp h with ⟨more, rfl, hmore⟩ | ⟨more, rfl, hmore⟩
  · cases more with
    | nil => exact .inl ⟨(List.append_nil front).symm, (List.cons.inj hmore).2⟩
    | cons c more =>
      obtain ⟨rfl, -⟩ := List.cons.inj hmore
      exact .inr (.inr ⟨more, rfl⟩)
  · cases more with
    | nil => exact .inl ⟨List.append_nil before, (List.cons.inj hmore).2.symm⟩
    | cons c more =>
      obtain ⟨rfl, -⟩ := List.cons.inj hmore
      exact .inr (.inl ⟨more, rfl⟩)

theorem colon_mem_of_append_eq {front rest before after : List Char} (hcolon : ':' ∉ before)
    (h : front ++ ':' :: rest = before ++ ':' :: after) (hne : front ≠ before) : ':' ∈ front := by
  rcases append_colon_eq h with ⟨heq, -⟩ | ⟨more, rfl⟩ | ⟨more, rfl⟩
  · exact absurd heq hne
  · simp
  · simp at hcolon

theorem FirstColon.unique {counts : List Char → Prop} {cs front rest before after : List Char}
    (h : FirstColon counts cs front rest) (h' : FirstColon counts cs before after) :
    front = before ∧ rest = after := by
  have htext := h.eq_append.symm.trans h'.eq_append
  rcases append_colon_eq htext with heq | ⟨more, hmore⟩ | ⟨more, hmore⟩
  · exact heq
  · exact absurd h'.counts_before (h.not_counts _ _ hmore)
  · exact absurd h.counts_before (h'.not_counts _ _ hmore)

/-- The first colon counts if no colon stands before it and it is one that does. -/
theorem firstColon_of_not_mem {counts : List Char → Prop} {before : List Char}
    (hcolon : ':' ∉ before) (hcounts : counts before) (after : List Char) :
    FirstColon counts (before ++ ':' :: after) before after := by
  refine ⟨rfl, hcounts, fun front rest heq ↦ absurd ?_ hcolon⟩
  rw [heq]
  simp

/-! ## The cut goes by the rule -/

section

variable {counts : List Char → Prop} {c : Char} {cs before after : List Char}

theorem firstColon_colon_iff (h : counts []) :
    FirstColon counts (':' :: cs) before after ↔ before = [] ∧ after = cs := by
  constructor
  · rintro ⟨heq, -, hfirst⟩
    cases before with
    | nil => exact ⟨rfl, (List.cons.inj heq).2.symm⟩
    | cons d before =>
      rw [List.cons_append, List.cons.injEq] at heq
      exact absurd h (hfirst [] before (by rw [← heq.1]; rfl))
  · rintro ⟨rfl, rfl⟩
    exact ⟨rfl, h, by simp⟩

theorem firstColon_cons_iff (h : c ≠ ':' ∨ ¬ counts []) :
    FirstColon counts (c :: cs) before after ↔
      ∃ rest, before = c :: rest ∧ FirstColon (fun front ↦ counts (c :: front)) cs rest after := by
  constructor
  · rintro ⟨heq, hcounts, hfirst⟩
    cases before with
    | nil =>
      obtain ⟨rfl, -⟩ := List.cons.inj heq
      exact absurd hcounts (h.resolve_left (not_not.mpr rfl))
    | cons d before =>
      obtain ⟨rfl, rfl⟩ := List.cons.inj heq
      exact ⟨before, rfl, rfl, hcounts, fun front rest hfront ↦
        hfirst (c :: front) rest (by rw [hfront]; rfl)⟩
  · rintro ⟨rest, rfl, rfl, hcounts, hfirst⟩
    refine ⟨rfl, hcounts, fun front more hfront ↦ ?_⟩
    cases front with
    | nil =>
      obtain ⟨rfl, -⟩ := List.cons.inj hfront
      exact h.resolve_left (not_not.mpr rfl)
    | cons d front =>
      obtain ⟨rfl, hrest⟩ := List.cons.inj hfront
      exact hfirst front more hrest

theorem consBefore_eq_some_iff {cut : Option (List Char × List Char)} :
    consBefore c cut = some (before, after) ↔
      ∃ rest, before = c :: rest ∧ cut = some (rest, after) := by
  constructor
  · exact consBefore_eq_some
  · rintro ⟨rest, rfl, rfl⟩
    rfl

/-- One step over a character that is no colon to cut at. Whether the next one is escaped is known
from what has been passed over, and this character now is part of that. -/
theorem exists_cutAtColon_cons {passed : List Char} {escaped : Bool}
    (hescaped : escaped = true ↔ ¬ IsUnescaped passed) (hcut : ¬ (c = ':' ∧ escaped = false))
    (cs : List Char) :
    ∃ escaped', (escaped' = true ↔ ¬ IsUnescaped (passed ++ [c])) ∧
      cutAtColon escaped (c :: cs) = consBefore c (cutAtColon escaped' cs) := by
  by_cases hslash : c = '\\'
  · subst hslash
    refine ⟨!escaped, ?_, by rw [cutAtColon, if_pos rfl]⟩
    rw [isUnescaped_append_backslash, ← hescaped]
    simp
  · refine ⟨false, by simp [isUnescaped_append_of_ne hslash], ?_⟩
    rw [cutAtColon, if_neg hslash, if_neg (by simpa using hcut)]

/-- The cut of a rest. The backslashes before its first colon may have begun in the part that has
been passed over. -/
theorem cutAtColon_eq_some_iff_of_passed {passed : List Char} {escaped : Bool}
    (hescaped : escaped = true ↔ ¬ IsUnescaped passed) :
    cutAtColon escaped cs = some (before, after) ↔
      FirstColon (fun front ↦ IsUnescaped (passed ++ front)) cs before after := by
  induction cs generalizing passed before escaped with
  | nil =>
    refine iff_of_false nofun fun h ↦ ?_
    simpa using h.eq_append
  | cons c cs ih =>
    by_cases hcut : c = ':' ∧ escaped = false
    · obtain ⟨rfl, rfl⟩ := hcut
      have hcounts : IsUnescaped (passed ++ []) := by simpa using hescaped
      rw [firstColon_colon_iff hcounts, cutAtColon, if_neg (by decide), if_pos (by decide),
        Option.some.injEq, Prod.mk.injEq]
      exact and_congr eq_comm eq_comm
    · have hpassed : c ≠ ':' ∨ ¬ IsUnescaped (passed ++ []) := by
        rw [List.append_nil, ← hescaped]
        simpa using not_and_or.mp hcut
      obtain ⟨escaped', hescaped', hstep⟩ := exists_cutAtColon_cons hescaped hcut cs
      rw [hstep, consBefore_eq_some_iff, firstColon_cons_iff hpassed]
      refine exists_congr fun rest ↦ and_congr_right fun _ ↦ ?_
      rw [ih hescaped']
      simp only [List.append_assoc, List.singleton_append]

/-- **The cut is made at the first colon that is not escaped.** -/
theorem cutAtColon_eq_some_iff :
    cutAtColon false cs = some (before, after) ↔ FirstColon IsUnescaped cs before after := by
  have hstart : false = true ↔ ¬ IsUnescaped [] := by decide
  exact cutAtColon_eq_some_iff_of_passed hstart

end

/-! ## Doubled backslashes -/

theorem doubleBackslashes_append (cs ds : List Char) :
    doubleBackslashes (cs ++ ds) = doubleBackslashes cs ++ doubleBackslashes ds :=
  List.flatMap_append

theorem doubleBackslashes_cons {c : Char} (hc : c ≠ '\\') (cs : List Char) :
    doubleBackslashes (c :: cs) = c :: doubleBackslashes cs := by
  rw [doubleBackslashes, List.flatMap_cons, if_neg hc]
  rfl

theorem mem_doubleBackslashes {c : Char} {cs : List Char} :
    c ∈ doubleBackslashes cs ↔ c ∈ cs := by
  constructor
  · exact not_imp_not.mp not_mem_doubleBackslashes
  · intro hc
    refine List.mem_flatMap.mpr ⟨c, hc, ?_⟩
    split
    · rename_i hslash
      exact hslash ▸ List.mem_cons_self
    · exact List.mem_singleton_self c

theorem doubleBackslashes_of_not_mem {cs : List Char} (h : '\\' ∉ cs) :
    doubleBackslashes cs = cs := by
  induction cs with
  | nil => rfl
  | cons c cs ih =>
    obtain ⟨hc, hcs⟩ := List.ne_and_not_mem_of_not_mem_cons h
    rw [doubleBackslashes_cons (Ne.symm hc), ih hcs]

/-- **No colon is escaped in doubled text.** -/
theorem isUnescaped_doubleBackslashes (cs : List Char) : IsUnescaped (doubleBackslashes cs) := by
  induction cs using List.reverseRecOn with
  | nil => exact Even.zero
  | append_singleton cs c ih =>
    rw [doubleBackslashes_append]
    by_cases hc : c = '\\'
    · subst hc
      have hpair : doubleBackslashes cs ++ doubleBackslashes ['\\']
          = doubleBackslashes cs ++ ['\\'] ++ ['\\'] := by
        rw [List.append_assoc]
        rfl
      rwa [hpair, isUnescaped_append_backslash, isUnescaped_append_backslash, not_not]
    · rw [doubleBackslashes_cons hc]
      exact isUnescaped_append_of_ne hc

theorem cutAtColon_doubleBackslashes {before : List Char} (hcolon : ':' ∉ before)
    (after : List Char) :
    cutAtColon false (doubleBackslashes (before ++ ':' :: after))
      = some (doubleBackslashes before, doubleBackslashes after) := by
  rw [cutAtColon_eq_some_iff, doubleBackslashes_append, doubleBackslashes_cons (by decide)]
  exact firstColon_of_not_mem (mt mem_doubleBackslashes.mp hcolon)
    (isUnescaped_doubleBackslashes before) _

theorem prefix_of_prefix_doubleBackslashes {front cs : List Char} (hslash : '\\' ∉ front)
    (h : front <+: doubleBackslashes cs) : front <+: cs := by
  induction front generalizing cs with
  | nil => exact List.nil_prefix
  | cons c front ih =>
    obtain ⟨hc, hfront⟩ := List.ne_and_not_mem_of_not_mem_cons hslash
    cases cs with
    | nil => exact h
    | cons d cs =>
      by_cases hd : d = '\\'
      · subst hd
        exact absurd (List.cons_prefix_cons.mp h).1 (Ne.symm hc)
      · rw [doubleBackslashes_cons hd, List.cons_prefix_cons] at h
        exact List.cons_prefix_cons.mpr ⟨h.1, ih hfront h.2⟩

theorem infix_of_infix_doubleBackslashes {part cs : List Char} (hne : part ≠ [])
    (hslash : '\\' ∉ part) (h : part <:+: doubleBackslashes cs) : part <:+: cs := by
  induction cs with
  | nil => exact h
  | cons c cs ih =>
    by_cases hc : c = '\\'
    · subst hc
      have hstart : ∀ rest, ¬ part <+: '\\' :: rest := by
        obtain ⟨d, part, rfl⟩ := List.exists_cons_of_ne_nil hne
        exact fun rest hprefix ↦
          (List.ne_and_not_mem_of_not_mem_cons hslash).1 (List.cons_prefix_cons.mp hprefix).1.symm
      change part <:+: '\\' :: '\\' :: doubleBackslashes cs at h
      rw [List.infix_cons_iff, List.infix_cons_iff] at h
      exact (ih ((h.resolve_left (hstart _)).resolve_left (hstart _))).trans
        (List.suffix_cons _ cs).isInfix
    · rw [doubleBackslashes_cons hc, List.infix_cons_iff, ← doubleBackslashes_cons hc] at h
      rw [List.infix_cons_iff]
      exact h.imp (prefix_of_prefix_doubleBackslashes hslash) ih

theorem hasDelimiter_of_doubleBackslashes {cs : List Char}
    (h : HasDelimiter (doubleBackslashes cs)) : HasDelimiter cs := by
  obtain ⟨_, ⟨a, n, d, hand, rfl⟩, hinside⟩ := h
  have hslash : '\\' ∉ [' ', a, n, d, ' '] := by
    intro hmem
    simp only [List.mem_cons, List.not_mem_nil, or_false] at hmem
    rcases hmem with h | rfl | rfl | rfl | h
    · exact absurd h (by decide)
    · simp [isAnd] at hand
    · simp [isAnd] at hand
    · simp [isAnd] at hand
    · exact absurd h (by decide)
  exact ⟨_, ⟨a, n, d, hand, rfl⟩,
    infix_of_infix_doubleBackslashes (List.cons_ne_nil _ _) hslash hinside⟩

/-- A text without quotes, references and delimiters is one block, of the text with its backslashes
doubled. -/
theorem parse_eq_singleton {text : String} (hquotes : '"' ∉ text.toList ∧ '\'' ∉ text.toList)
    (hampersand : '&' ∉ text.toList) (hdelimiter : ¬ HasDelimiter text.toList) :
    parse text = [Block.ofChars (doubleBackslashes text.toList)] := by
  have hclean : sanitizeChars text.toList = doubleBackslashes text.toList := by
    rw [sanitizeChars, decodeAll_of_not_mem hampersand, flatMap_cleanChar, withoutQuotes,
      List.filter_eq_self.mpr]
    intro c hc
    have hdouble : c ≠ '"' := fun heq ↦ hquotes.1 (heq ▸ hc)
    have hsingle : c ≠ '\'' := fun heq ↦ hquotes.2 (heq ▸ hc)
    simp [hdouble, hsingle]
  have hsplit := splitChars_eq_singleton_iff.mpr (mt hasDelimiter_of_doubleBackslashes hdelimiter)
  rw [parse, hclean, hsplit, List.map_singleton]

/-! ## Blocks and the colon that separates them -/

/-- The block of a typed text that is separated before and after a colon, with its backslashes
doubled; a blank field counts for none. -/
def Block.ofParts (before after : List Char) : Block where
  field :=
    if Text.trim before = [] then none
    else some (String.ofList (normalizeField (Text.trim (doubleBackslashes before))))
  term := String.ofList (Text.trim (doubleBackslashes after))

/-- A block is what a typed text says if it is separated at the first colon that counts, and free
text if there is none. -/
inductive Block.IsSeparated (counts : List Char → Prop) (typed : List Char) : Block → Prop
  | freeText (h : ∀ before after, typed = before ++ ':' :: after → ¬ counts before) :
      IsSeparated counts typed ⟨none, String.ofList (Text.trim (doubleBackslashes typed))⟩
  | parts {before after : List Char} (h : FirstColon counts typed before after) :
      IsSeparated counts typed (.ofParts before after)

theorem Block.IsSeparated.unique {counts : List Char → Prop} {typed : List Char}
    {block block' : Block} (h : block.IsSeparated counts typed)
    (h' : block'.IsSeparated counts typed) : block = block' := by
  cases h with
  | freeText hnone =>
    cases h' with
    | freeText => rfl
    | parts hfirst => exact absurd hfirst.counts_before (hnone _ _ hfirst.eq_append)
  | parts hfirst =>
    cases h' with
    | freeText hnone => exact absurd hfirst.counts_before (hnone _ _ hfirst.eq_append)
    | parts hfirst' =>
      obtain ⟨rfl, rfl⟩ := hfirst.unique hfirst'
      rfl

theorem trim_eq_nil_iff {cs : List Char} : Text.trim cs = [] ↔ ∀ c ∈ cs, Text.isBlank c = true := by
  constructor
  · intro h c hc
    by_contra hblank
    have hmem := mem_trim_of_mem (Bool.not_eq_true _ ▸ hblank) hc
    rw [h] at hmem
    cases hmem
  · intro h
    rw [Text.trim, List.dropWhile_eq_nil_iff.mpr h]
    rfl

theorem trim_doubleBackslashes_eq_nil_iff {cs : List Char} :
    Text.trim (doubleBackslashes cs) = [] ↔ Text.trim cs = [] := by
  rw [trim_eq_nil_iff, trim_eq_nil_iff]
  exact forall_congr' fun c ↦ imp_congr_left mem_doubleBackslashes

theorem backslash_not_mem_of_isIdentifier {cs : List Char}
    (h : Identifier.isIdentifier (Text.trim cs) = true) : '\\' ∉ cs := by
  intro hslash
  rcases Identifier.isPathChar_of_mem h (mem_trim_of_mem (by decide) hslash) with h | h
  · exact absurd h (by decide)
  · exact absurd h (by decide)

/-- Identifiers have no backslashes, so doubling makes none and spoils none. -/
theorem isIdentifier_trim_doubleBackslashes (cs : List Char) :
    Identifier.isIdentifier (Text.trim (doubleBackslashes cs))
      = Identifier.isIdentifier (Text.trim cs) := by
  by_cases hslash : '\\' ∈ cs
  · have hnone : ∀ {ds : List Char}, '\\' ∈ ds →
        Identifier.isIdentifier (Text.trim ds) = false := by
      intro ds hds
      by_contra h
      exact backslash_not_mem_of_isIdentifier ((Bool.not_eq_false _).mp h) hds
    rw [hnone hslash, hnone (mem_doubleBackslashes.mpr hslash)]
  · rw [doubleBackslashes_of_not_mem hslash]

theorem ofChars_doubleBackslashes {before : List Char} (hcolon : ':' ∉ before) (after : List Char)
    (hidentifier : Identifier.isIdentifier (Text.trim (before ++ ':' :: after)) = false) :
    Block.ofChars (doubleBackslashes (before ++ ':' :: after)) = .ofParts before after := by
  rw [Block.ofChars, isIdentifier_trim_doubleBackslashes, hidentifier, if_neg Bool.false_ne_true,
    cutAtColon_doubleBackslashes hcolon]
  simp only [List.isEmpty_iff, trim_doubleBackslashes_eq_nil_iff, Block.ofParts]
  split <;> rfl

theorem ofChars_doubleBackslashes_of_not_mem {cs : List Char} (hcolon : ':' ∉ cs) :
    Block.ofChars (doubleBackslashes cs)
      = ⟨none, String.ofList (Text.trim (doubleBackslashes cs))⟩ := by
  rw [Block.ofChars, cutAtColon_of_not_mem (mt mem_doubleBackslashes.mp hcolon)]
  split <;> rfl

theorem isSeparated_freeText {cs : List Char} (hcolon : ':' ∉ cs) (counts : List Char → Prop) :
    Block.IsSeparated counts cs ⟨none, String.ofList (Text.trim (doubleBackslashes cs))⟩ := by
  refine .freeText fun before after heq ↦ absurd ?_ hcolon
  rw [heq]
  simp

theorem colon_mem_field_ofParts_iff {before after : List Char} {field : String}
    (h : (Block.ofParts before after).field = some field) :
    ':' ∈ field.toList ↔ ':' ∈ before := by
  rw [Block.ofParts] at h
  split at h
  · cases h
  · obtain rfl := Option.some.inj h
    rw [String.toList_ofList, mem_normalizeField_iff (by decide) (by decide)]
    exact ⟨fun hmem ↦ mem_doubleBackslashes.mp (mem_of_mem_trim hmem),
      fun hmem ↦ mem_trim_of_mem (by decide) (mem_doubleBackslashes.mpr hmem)⟩

theorem exists_field_ofParts {before : List Char} {c : Char} (hc : c ∈ before)
    (hblank : Text.isBlank c = false) (after : List Char) :
    ∃ field, (Block.ofParts before after).field = some field := by
  rw [Block.ofParts, if_neg]
  · exact ⟨_, rfl⟩
  · exact List.ne_nil_of_mem (mem_trim_of_mem hblank hc)

theorem isSeparated_ofParts_iff {before after : List Char} (hcolon : ':' ∉ before) :
    (Block.ofParts before after).IsSeparated IsUnescaped (before ++ ':' :: after) ↔
      IsUnescaped before := by
  constructor
  · intro h
    by_contra hescaped
    have hslash : '\\' ∈ before := by
      by_contra hslash
      refine hescaped ?_
      rw [IsUnescaped, closingBackslashes_of_not_mem hslash]
      exact Even.zero
    obtain ⟨field, hfield⟩ := exists_field_ofParts hslash (by decide) after
    have hfree : ':' ∉ field.toList := mt (colon_mem_field_ofParts_iff hfield).mp hcolon
    generalize Block.ofParts before after = block at h hfield
    cases h with
    | freeText => cases hfield
    | parts hfirst =>
      refine hfree ((colon_mem_field_ofParts_iff hfield).mpr ?_)
      refine colon_mem_of_append_eq hcolon hfirst.eq_append.symm ?_
      rintro rfl
      exact hescaped hfirst.counts_before
  · exact fun hcounts ↦ .parts (firstColon_of_not_mem hcolon hcounts after)

/-- What is separated at the first colon, unless it is an identifier, follows the rule about
backslashes exactly if none of them escapes that colon. -/
theorem ofChars_isSeparated_iff {cs : List Char}
    (hidentifier : Identifier.isIdentifier (Text.trim cs) = false) :
    (Block.ofChars (doubleBackslashes cs)).IsSeparated (fun _ ↦ True) cs ∧
      ((Block.ofChars (doubleBackslashes cs)).IsSeparated IsUnescaped cs ↔
        ∀ before after, cs = before ++ ':' :: after → ':' ∉ before → IsUnescaped before) := by
  by_cases hcolon : ':' ∈ cs
  · obtain ⟨before, after, rfl, hbefore⟩ := List.eq_append_cons_of_mem hcolon
    rw [ofChars_doubleBackslashes hbefore after hidentifier, isSeparated_ofParts_iff hbefore]
    refine ⟨.parts (firstColon_of_not_mem hbefore trivial after), ?_,
      fun hall ↦ hall before after rfl hbefore⟩
    intro hcounts front rest hfront hnot
    -- two colons with none before them are one and the same
    have hfirst : FirstColon (fun _ ↦ True) (front ++ ':' :: rest) front rest :=
      firstColon_of_not_mem hnot trivial rest
    rw [← hfront] at hfirst
    obtain ⟨rfl, -⟩ := hfirst.unique (firstColon_of_not_mem hbefore trivial after)
    exact hcounts
  · rw [ofChars_doubleBackslashes_of_not_mem hcolon]
    refine ⟨isSeparated_freeText hcolon _, iff_of_true (isSeparated_freeText hcolon _) ?_⟩
    rintro before after rfl
    simp at hcolon

/-- Something stands before the colon of an identifier, since no scheme begins with one. -/
theorem trim_ne_nil_of_isIdentifier {before after : List Char}
    (h : Identifier.isIdentifier (Text.trim (before ++ ':' :: after)) = true) :
    Text.trim before ≠ [] := by
  intro hempty
  have hstart : Text.trim (before ++ ':' :: after) = Text.trim (':' :: after) := by
    rw [Text.trim, List.dropWhile_append_of_pos (trim_eq_nil_iff.mp hempty), Text.trim]
  obtain ⟨scheme, hscheme, hprefix⟩ := List.any_eq_true.mp h
  rw [Bool.and_eq_true, List.isPrefixOf_iff_prefix, hstart] at hprefix
  have hcolon : ∀ c ∈ (':' :: after).head?, Text.isBlank c = false := by
    rintro c ⟨⟩
    decide
  have hwhole : scheme <+: ':' :: after := hprefix.1.trans (trim_prefix_of_head hcolon)
  have hhead : ∀ scheme ∈ Identifier.schemes, ∀ rest, ¬ scheme <+: ':' :: rest := by
    simp [Identifier.schemes, List.cons_prefix_cons]
  exact hhead scheme hscheme after hwhole

/-- No rule about backslashes makes free text of an identifier, as none of them is in it. -/
theorem not_isSeparated_of_isIdentifier {cs : List Char}
    (h : Identifier.isIdentifier (Text.trim cs) = true) :
    ¬ (Block.ofChars (doubleBackslashes cs)).IsSeparated IsUnescaped cs := by
  have hslash := backslash_not_mem_of_isIdentifier h
  obtain ⟨before, after, rfl, hbefore⟩ :=
    List.eq_append_cons_of_mem (mem_of_mem_trim (Identifier.colon_mem_of_isIdentifier h))
  have hcounts : IsUnescaped before := by
    rw [IsUnescaped, closingBackslashes_of_not_mem fun hmem ↦ hslash (by simp [hmem])]
    exact Even.zero
  intro hseparated
  have hblock := hseparated.unique (.parts (firstColon_of_not_mem hbefore hcounts after))
  rw [Block.ofChars, isIdentifier_trim_doubleBackslashes, if_pos h, Block.ofParts,
    if_neg (trim_ne_nil_of_isIdentifier h)] at hblock
  cases hblock

/-- **Every first colon separates, escaped or not.** A query of one block, without quotes and
references, is separated at its first colon unless it is an identifier. That is also what the rule
about backslashes says exactly if an even number of them stands before this colon. -/
theorem parse_isSeparated_iff {text : String} (hquotes : '"' ∉ text.toList ∧ '\'' ∉ text.toList)
    (hampersand : '&' ∉ text.toList) (hdelimiter : ¬ HasDelimiter text.toList) :
    ∃ block, parse text = [block] ∧
      (Identifier.isIdentifier (Text.trim text.toList) = false →
        block.IsSeparated (fun _ ↦ True) text.toList) ∧
      (block.IsSeparated IsUnescaped text.toList ↔
        Identifier.isIdentifier (Text.trim text.toList) = false ∧
          ∀ before after, text.toList = before ++ ':' :: after → ':' ∉ before →
            IsUnescaped before) := by
  refine ⟨_, parse_eq_singleton hquotes hampersand hdelimiter, ?_⟩
  cases hidentifier : Identifier.isIdentifier (Text.trim text.toList) with
  | false =>
    obtain ⟨hseparated, hiff⟩ := ofChars_isSeparated_iff hidentifier
    exact ⟨fun _ ↦ hseparated, hiff.trans (and_iff_right rfl).symm⟩
  | true =>
    exact ⟨nofun, iff_of_false (not_isSeparated_of_isIdentifier hidentifier) fun h ↦ nomatch h.1⟩

/-- A text with two backslashes before its first colon and one before the second. -/
def escapedBackslash : String := " Size\\\\: 3\\: 4"

theorem parse_isSeparated_escapedBackslash :
    ('"' ∉ escapedBackslash.toList ∧ '\'' ∉ escapedBackslash.toList) ∧
      '&' ∉ escapedBackslash.toList ∧ ¬ HasDelimiter escapedBackslash.toList ∧
      ∃ block, parse escapedBackslash = [block] ∧
        block.IsSeparated (fun _ ↦ True) escapedBackslash.toList ∧
        (block.IsSeparated IsUnescaped escapedBackslash.toList ↔
          ∀ before after, escapedBackslash.toList = before ++ ':' :: after → ':' ∉ before →
            IsUnescaped before) := by
  have hquotes : '"' ∉ escapedBackslash.toList ∧ '\'' ∉ escapedBackslash.toList := by decide
  have hampersand : '&' ∉ escapedBackslash.toList := by decide
  have hdelimiter : ¬ HasDelimiter escapedBackslash.toList := by decide
  have hidentifier : Identifier.isIdentifier (Text.trim escapedBackslash.toList) = false := by
    decide
  obtain ⟨block, hparse, hseparated, hiff⟩ := parse_isSeparated_iff hquotes hampersand hdelimiter
  exact ⟨hquotes, hampersand, hdelimiter, block, hparse, hseparated hidentifier,
    hiff.trans (and_iff_right hidentifier)⟩

/-- A text whose first colon a backslash is to keep in the field. -/
def escapedColon : String := "a\\:b:c"

/-- The field is cut off at the colon that is escaped. -/
theorem not_isSeparated_escapedColon :
    ('"' ∉ escapedColon.toList ∧ '\'' ∉ escapedColon.toList) ∧ '&' ∉ escapedColon.toList ∧
      ¬ HasDelimiter escapedColon.toList ∧
      Identifier.isIdentifier (Text.trim escapedColon.toList) = false ∧
      parse escapedColon = [⟨some "a\\\\", "b:c"⟩] ∧
      ¬ Block.IsSeparated IsUnescaped escapedColon.toList ⟨some "a\\\\", "b:c"⟩ ∧
      Block.IsSeparated IsUnescaped escapedColon.toList ⟨some "a\\\\:b", "c"⟩ := by
  have hclaimed : Block.IsSeparated IsUnescaped escapedColon.toList ⟨some "a\\\\:b", "c"⟩ := by
    have hfirst : FirstColon IsUnescaped escapedColon.toList ['a', '\\', ':', 'b'] ['c'] :=
      cutAtColon_eq_some_iff.mp (by decide)
    have hblock : Block.ofParts ['a', '\\', ':', 'b'] ['c'] = ⟨some "a\\\\:b", "c"⟩ := by decide
    exact hblock ▸ .parts hfirst
  refine ⟨by decide, by decide, by decide, by decide, by decide, fun hparsed ↦ ?_, hclaimed⟩
  exact absurd (hparsed.unique hclaimed) (by decide)

end ResourceSearch.Query
