import ResourceSearch.Proofs.Query.Spelling
import ResourceSearch.Proofs.Query.Splitting

/-!
# Where a query is cut

The parts of a query, with the delimiters between them, are the query again, and no part holds a
delimiter. That alone does not say where the query is cut, since two delimiters may share a blank:
in `x AND AND y` one begins after `x` and one after `x AND`, and neither choice leaves a delimiter
in a part. The query is cut at the one that begins first.

## Why there is one way to cut

A delimiter that begins in a part ends with the blank after it at the latest. So whether the
delimiter after a part is the first one does not depend on what follows that blank
(`isFirstAt_length_iff`), and a first part that is cut off by the first delimiter is found whatever
the rest of the query is. The rest is cut in the same way, as it is shorter.
-/

namespace ResourceSearch.Query

/-! ## Letter case -/

theorem toLower_eq_blank_iff {c : Char} : c.toLower = ' ' ↔ c = ' ' := by
  have hcase := CharacterReference.toNat_toLower c
  rw [← Char.toNat_inj, ← Char.toNat_inj, hcase]
  change _ = 32 ↔ c.toNat = 32
  split <;> omega

theorem toLower_eq_iff {c small : Char} (capital : Char)
    (hcapital : 65 ≤ capital.toNat ∧ capital.toNat ≤ 90)
    (hsmall : small.toNat = capital.toNat + 32) : c.toLower = small ↔ c = small ∨ c = capital := by
  have hcase := CharacterReference.toNat_toLower c
  rw [← Char.toNat_inj, ← Char.toNat_inj, ← Char.toNat_inj, hcase]
  split <;> omega

theorem isAnd_iff {a n d : Char} :
    isAnd a n d = true ↔ a.toLower = 'a' ∧ n.toLower = 'n' ∧ d.toLower = 'd' := by
  rw [toLower_eq_iff 'A' (by decide) rfl, toLower_eq_iff 'N' (by decide) rfl,
    toLower_eq_iff 'D' (by decide) rfl]
  simp only [isAnd, Bool.and_eq_true, Bool.or_eq_true, decide_eq_true_eq, and_assoc]

theorem isDelimiter_iff_toLower {cs : List Char} :
    IsDelimiter cs ↔ cs.map Char.toLower = " and ".toList := by
  constructor
  · rintro ⟨a, n, d, hand, rfl⟩
    obtain ⟨ha, hn, hd⟩ := isAnd_iff.mp hand
    simp only [List.map_cons, List.map_nil, ha, hn, hd]
    rfl
  · intro hlower
    change cs.map Char.toLower = [' ', 'a', 'n', 'd', ' '] at hlower
    simp only [List.map_eq_cons_iff, List.map_eq_nil_iff] at hlower
    obtain ⟨front, _, rfl, hfront, a, _, rfl, ha, n, _, rfl, hn, d, _, rfl, hd, back, _, rfl, hback,
      rfl⟩ := hlower
    obtain rfl := toLower_eq_blank_iff.mp hfront
    obtain rfl := toLower_eq_blank_iff.mp hback
    exact ⟨a, n, d, isAnd_iff.mpr ⟨ha, hn, hd⟩, rfl⟩

/-! ## The first delimiter -/

/-- The first delimiter in a text begins at a position. -/
structure IsFirstAt (position : ℕ) (cs : List Char) : Prop where
  begins : ∃ delimiter, IsDelimiter delimiter ∧ delimiter <+: cs.drop position
  none_before : ∀ earlier < position, ∀ delimiter, IsDelimiter delimiter →
    ¬ delimiter <+: cs.drop earlier

theorem IsDelimiter.length_eq {delimiter : List Char} (h : IsDelimiter delimiter) :
    delimiter.length = 5 := by
  obtain ⟨a, n, d, -, rfl⟩ := h
  rfl

theorem IsDelimiter.append_blank_prefix {part delimiter : List Char} (h : IsDelimiter delimiter) :
    part ++ [' '] <+: part ++ delimiter := by
  obtain ⟨a, n, d, -, rfl⟩ := h
  exact ⟨[a, n, d, ' '], by simp⟩

/-- The delimiter after a part is the first one exactly if the part holds none even with a blank
after it. -/
theorem isFirstAt_length_iff {part delimiter : List Char} (hdelimiter : IsDelimiter delimiter) :
    IsFirstAt part.length (part ++ delimiter) ↔ ¬ HasDelimiter (part ++ [' ']) := by
  constructor
  · rintro hfirst ⟨inner, hinner, before, after, heq⟩
    have hlength := congrArg List.length heq
    simp only [List.length_append, hinner.length_eq, List.length_singleton] at hlength
    have hprefix : before ++ (inner ++ after) <+: part ++ delimiter := by
      rw [← List.append_assoc, heq]
      exact hdelimiter.append_blank_prefix
    refine hfirst.none_before before.length (by omega) inner hinner ?_
    have hdrop := hprefix.drop before.length
    rw [List.drop_left] at hdrop
    exact (List.prefix_append inner after).trans hdrop
  · intro hnone
    refine ⟨⟨delimiter, hdelimiter, ?_⟩, ?_⟩
    · rw [List.drop_left]
    · intro earlier hearlier inner hinner hfront
      rw [List.drop_append_of_le_length hearlier.le] at hfront
      have hne : part.drop earlier ≠ [] := by simpa using hearlier
      have hblank : inner <+: part.drop earlier ++ [' '] := by
        rw [← List.append_nil (part.drop earlier ++ delimiter)] at hfront
        exact isPrefix_append_blank hne hdelimiter hinner hfront
      refine hnone ⟨inner, hinner, hblank.isInfix.trans ?_⟩
      rw [← List.drop_append_of_le_length hearlier.le]
      exact (List.drop_suffix earlier _).isInfix

theorem exists_first_of_hasDelimiter {cs : List Char} (h : HasDelimiter cs) :
    ∃ part delimiter rest, cs = part ++ delimiter ++ rest ∧ IsDelimiter delimiter ∧
      ¬ HasDelimiter (part ++ [' ']) := by
  induction cs with
  | nil => exact absurd h not_hasDelimiter_nil
  | cons c cs ih =>
    by_cases hstart : ∃ delimiter, IsDelimiter delimiter ∧ delimiter <+: c :: cs
    · obtain ⟨delimiter, hdelimiter, rest, hrest⟩ := hstart
      exact ⟨[], delimiter, rest, hrest.symm, hdelimiter, by decide⟩
    · have hrest : HasDelimiter cs := (hasDelimiter_cons_iff.mp h).resolve_left hstart
      obtain ⟨part, delimiter, rest, rfl, hdelimiter, hpart⟩ := ih hrest
      refine ⟨c :: part, delimiter, rest, rfl, hdelimiter, fun hmore ↦ ?_⟩
      rcases hasDelimiter_cons_iff.mp hmore with ⟨inner, hinner, hfront⟩ | hmore
      · have hwhole : c :: part ++ [' '] <+: c :: part ++ delimiter ++ rest :=
          hdelimiter.append_blank_prefix.trans (List.prefix_append _ rest)
        exact hstart ⟨inner, hinner, hfront.trans hwhole⟩
      · exact hpart hmore

/-! ## All cuts -/

/-- Parts with delimiters between them. -/
def interleave (parts delimiters : List (List Char)) : List Char :=
  (List.zipWith (· ++ ·) parts (delimiters ++ [[]])).flatten

theorem interleave_cons (part delimiter : List Char) (parts delimiters : List (List Char)) :
    interleave (part :: parts) (delimiter :: delimiters)
      = part ++ delimiter ++ interleave parts delimiters := rfl

/-- A text is made of parts with delimiters between them. No part holds a delimiter, and the one
after a part is the first in the text that the two make. -/
structure IsCut (cs : List Char) (parts delimiters : List (List Char)) : Prop where
  length_eq : parts.length = delimiters.length + 1
  isDelimiter : ∀ delimiter ∈ delimiters, IsDelimiter delimiter
  interleave_eq : interleave parts delimiters = cs
  whole : ∀ part ∈ parts, ¬ HasDelimiter part
  leftmost : ∀ cut ∈ parts.zip delimiters, IsFirstAt cut.1.length (cut.1 ++ cut.2)

section

variable {cs delimiter : List Char} {parts delimiters : List (List Char)}

theorem isCut_nil_iff : IsCut cs parts [] ↔ parts = [cs] ∧ ¬ HasDelimiter cs := by
  constructor
  · intro h
    obtain ⟨part, rfl⟩ := List.length_eq_one_iff.mp h.length_eq
    have hpart : part = cs := by simpa [interleave] using h.interleave_eq
    exact ⟨by rw [hpart], hpart ▸ h.whole part (List.mem_singleton_self part)⟩
  · rintro ⟨rfl, hnone⟩
    exact
      { length_eq := rfl
        isDelimiter := List.forall_mem_nil _
        interleave_eq := by simp [interleave]
        whole := List.forall_mem_singleton.mpr hnone
        leftmost := List.forall_mem_nil _ }

theorem isCut_cons_iff :
    IsCut cs parts (delimiter :: delimiters) ↔
      ∃ part rest others, parts = part :: others ∧ cs = part ++ delimiter ++ rest ∧
        IsDelimiter delimiter ∧ ¬ HasDelimiter (part ++ [' ']) ∧
        IsCut rest others delimiters := by
  constructor
  · intro h
    obtain ⟨part, others, rfl⟩ := List.exists_cons_of_length_eq_add_one h.length_eq
    have hdelimiter := h.isDelimiter delimiter List.mem_cons_self
    refine ⟨part, interleave others delimiters, others, rfl, ?_, hdelimiter, ?_, ?_⟩
    · rw [← h.interleave_eq, interleave_cons]
    · exact (isFirstAt_length_iff hdelimiter).mp (h.leftmost (part, delimiter) List.mem_cons_self)
    · exact
        { length_eq := Nat.succ.inj h.length_eq
          isDelimiter := (List.forall_mem_cons.mp h.isDelimiter).2
          interleave_eq := rfl
          whole := (List.forall_mem_cons.mp h.whole).2
          leftmost := (List.forall_mem_cons.mp h.leftmost).2 }
  · rintro ⟨part, rest, others, rfl, rfl, hdelimiter, hpart, hrest⟩
    have hwhole : ¬ HasDelimiter part := fun h ↦
      hpart (h.of_infix (List.prefix_append part [' ']).isInfix)
    exact
      { length_eq := congrArg Nat.succ hrest.length_eq
        isDelimiter := List.forall_mem_cons.mpr ⟨hdelimiter, hrest.isDelimiter⟩
        interleave_eq := by rw [interleave_cons, hrest.interleave_eq]
        whole := List.forall_mem_cons.mpr ⟨hwhole, hrest.whole⟩
        leftmost :=
          List.forall_mem_cons.mpr ⟨(isFirstAt_length_iff hdelimiter).mpr hpart, hrest.leftmost⟩ }

/-- There is no other way to cut a text than the one in which it is cut. -/
theorem IsCut.splitChars_eq (h : IsCut cs parts delimiters) : splitChars cs = parts := by
  induction delimiters generalizing cs parts with
  | nil =>
    obtain ⟨rfl, hnone⟩ := isCut_nil_iff.mp h
    exact splitChars_eq_singleton_iff.mpr hnone
  | cons delimiter delimiters ih =>
    obtain ⟨part, rest, others, rfl, rfl, hdelimiter, hpart, hrest⟩ := isCut_cons_iff.mp h
    rw [splitChars_append hpart hdelimiter, ih hrest]

theorem exists_isCut_splitChars (cs : List Char) :
    ∃ delimiters, IsCut cs (splitChars cs) delimiters := by
  -- By length: what is left after a delimiter is shorter, but it is not the tail of the text.
  induction hlength : cs.length using Nat.strong_induction_on generalizing cs with
  | _ length ih =>
    by_cases h : HasDelimiter cs
    · obtain ⟨part, delimiter, rest, rfl, hdelimiter, hpart⟩ := exists_first_of_hasDelimiter h
      have hshorter : rest.length < length := by
        rw [← hlength, List.length_append, List.length_append, hdelimiter.length_eq]
        omega
      obtain ⟨delimiters, hrest⟩ := ih rest.length hshorter rest rfl
      rw [splitChars_append hpart hdelimiter]
      exact ⟨delimiter :: delimiters,
        isCut_cons_iff.mpr ⟨part, rest, _, rfl, rfl, hdelimiter, hpart, hrest⟩⟩
    · exact ⟨[], isCut_nil_iff.mpr ⟨splitChars_eq_singleton_iff.mpr h, h⟩⟩

end

/-- **Every query is cut at the first delimiters, and in one way.** A delimiter is ` AND ` in any
letter case. The parts of a query are the only texts that make it up again with delimiters between
them, such that no part holds one and the one after each part is the first there. -/
theorem split_eq_iff_isCut :
    (∀ cs, IsDelimiter cs ↔ cs.map Char.toLower = " and ".toList) ∧
    ∀ (text : String) (parts : List String),
      split text = parts ↔
        ∃ delimiters, IsCut text.toList (parts.map String.toList) delimiters := by
  refine ⟨fun cs ↦ isDelimiter_iff_toLower, fun text parts ↦ ?_⟩
  have hparts : (split text).map String.toList = splitChars text.toList := by
    simp [split, Function.comp_def]
  constructor
  · rintro rfl
    rw [hparts]
    exact exists_isCut_splitChars text.toList
  · rintro ⟨delimiters, hcut⟩
    rw [hcut.splitChars_eq] at hparts
    exact List.map_injective_iff.mpr (fun _ _ ↦ String.toList_inj.mp) hparts

/-- Of two delimiters that share a blank the first one is taken. -/
example : split "x AND aNd y" = ["x", "aNd y"] := by decide

end ResourceSearch.Query
