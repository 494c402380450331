import Mathlib.Data.List.Infix
import ResourceSearch.Query.Block

/-!
# Parts between delimiters

A query is cut at every delimiter, from the left, and a delimiter takes up the blank on either side
of its word. Two delimiters may share a blank in a text, so a text that is put together from parts
may be cut elsewhere than where it was joined.

## Where a delimiter can overlap a join

A text is followed by the blank of the delimiter that joins it to the next. Any delimiter that
begins in the text has this blank at one of its five places. It is none of the three letters, so
it is the last place if it is any, and then the text ends in the word. This is
`isPrefix_append_blank`; a text that does not end in the word is cut exactly where it was joined,
whatever else there is to cut on either side.
-/

namespace ResourceSearch.Query

/-! ## Delimiters -/

/-- A blank, the word AND in any letter case, and a blank. -/
def IsDelimiter (cs : List Char) : Prop :=
  ∃ a n d, isAnd a n d = true ∧ cs = [' ', a, n, d, ' ']

/-- A delimiter stands somewhere in a text. -/
def HasDelimiter (cs : List Char) : Prop :=
  ∃ delimiter, IsDelimiter delimiter ∧ delimiter <:+: cs

theorem hasDelimiter_cons_iff {c : Char} {cs : List Char} :
    HasDelimiter (c :: cs) ↔
      (∃ delimiter, IsDelimiter delimiter ∧ delimiter <+: c :: cs) ∨ HasDelimiter cs := by
  simp only [HasDelimiter, List.infix_cons_iff, and_or_left, exists_or]

theorem not_hasDelimiter_nil : ¬ HasDelimiter [] := by
  rintro ⟨delimiter, ⟨a, n, d, -, rfl⟩, hinside⟩
  cases List.infix_nil.mp hinside

theorem HasDelimiter.of_infix {cs ds : List Char} (h : HasDelimiter cs) (hinside : cs <:+: ds) :
    HasDelimiter ds := by
  obtain ⟨delimiter, hdelimiter, hcs⟩ := h
  exact ⟨delimiter, hdelimiter, hcs.trans hinside⟩

theorem ne_blank_of_isAnd {a n d : Char} (h : isAnd a n d = true) :
    a ≠ ' ' ∧ n ≠ ' ' ∧ d ≠ ' ' := by
  refine ⟨?_, ?_, ?_⟩
  · rintro rfl
    simp [isAnd] at h
  · rintro rfl
    simp [isAnd] at h
  · rintro rfl
    simp [isAnd] at h

/-! ## One cut -/

theorem splitChars_delimiter_append {delimiter : List Char} (h : IsDelimiter delimiter)
    (rest : List Char) : splitChars (delimiter ++ rest) = [] :: splitChars rest := by
  obtain ⟨a, n, d, hand, rfl⟩ := h
  change splitChars (' ' :: a :: n :: d :: ' ' :: rest) = _
  rw [splitChars, if_pos hand]

theorem splitChars_cons {c : Char} {cs : List Char}
    (h : ∀ delimiter, IsDelimiter delimiter → ¬ delimiter <+: c :: cs) :
    splitChars (c :: cs) = consFirst c (splitChars cs) := by
  rw [splitChars.eq_def]
  split
  · rename_i a n d rest heq
    obtain ⟨rfl, rfl⟩ := List.cons.inj heq
    rw [if_neg]
    intro hand
    exact h _ ⟨a, n, d, hand, rfl⟩ ⟨rest, rfl⟩
  · rename_i heq
    obtain ⟨rfl, rfl⟩ := List.cons.inj heq
    rfl
  · rename_i heq
    cases heq

theorem consFirst_eq_singleton_iff {c : Char} {cs : List Char} {parts : List (List Char)}
    (hparts : parts ≠ []) : consFirst c parts = [c :: cs] ↔ parts = [cs] := by
  cases parts with
  | nil => exact absurd rfl hparts
  | cons part parts => simp [consFirst]

theorem splitChars_eq_singleton_iff {cs : List Char} :
    splitChars cs = [cs] ↔ ¬ HasDelimiter cs := by
  induction cs with
  | nil => exact iff_of_true rfl not_hasDelimiter_nil
  | cons c cs ih =>
    rw [hasDelimiter_cons_iff]
    by_cases hstart : ∃ delimiter, IsDelimiter delimiter ∧ delimiter <+: c :: cs
    · obtain ⟨delimiter, hdelimiter, rest, hrest⟩ := hstart
      refine iff_of_false ?_ fun h ↦ h (.inl ⟨delimiter, hdelimiter, rest, hrest⟩)
      rw [← hrest, splitChars_delimiter_append hdelimiter, hrest]
      exact fun h ↦ List.cons_ne_nil _ _ (List.cons.inj h).1.symm
    · have hcons : splitChars (c :: cs) = consFirst c (splitChars cs) :=
        splitChars_cons fun delimiter hdelimiter hfront ↦
          hstart ⟨delimiter, hdelimiter, hfront⟩
      rw [hcons, consFirst_eq_singleton_iff (splitChars_ne_nil cs), ih, or_iff_right hstart]

instance (cs : List Char) : Decidable (HasDelimiter cs) :=
  decidable_of_iff (splitChars cs ≠ [cs]) (by rw [ne_eq, splitChars_eq_singleton_iff, not_not])

/-! ## Joined texts -/

/-- A delimiter that begins in a text ends in it or with the blank after it. -/
theorem isPrefix_append_blank {cs delimiter delimiter' rest : List Char}
    (hne : cs ≠ []) (hdelimiter : IsDelimiter delimiter) (hdelimiter' : IsDelimiter delimiter')
    (hfront : delimiter' <+: cs ++ delimiter ++ rest) : delimiter' <+: cs ++ [' '] := by
  obtain ⟨a, n, d, -, rfl⟩ := hdelimiter
  obtain ⟨a', n', d', hand', rfl⟩ := hdelimiter'
  obtain ⟨ha, hn, hd⟩ := ne_blank_of_isAnd hand'
  -- In a text of fewer than four characters the blank after it would be a letter.
  match cs, hne with
  | [c], _ => simp [List.cons_prefix_cons, ha] at hfront
  | [c, x], _ => simp [List.cons_prefix_cons, hn] at hfront
  | [c, x, y], _ => simp [List.cons_prefix_cons, hd] at hfront
  | c :: x :: y :: z :: cs, _ =>
    have hwhole : (c :: x :: y :: z :: cs) ++ [' ']
        <+: (c :: x :: y :: z :: cs) ++ [' ', a, n, d, ' '] ++ rest :=
      ⟨[a, n, d, ' '] ++ rest, by simp⟩
    exact List.prefix_of_prefix_length_le hfront hwhole (by simp)

/-- A text ends in a blank and the word AND, in any letter case. -/
def EndsInWord (cs : List Char) : Prop :=
  ∃ a n d, isAnd a n d = true ∧ [' ', a, n, d] <:+ cs

instance (cs : List Char) : Decidable (EndsInWord cs) :=
  decidable_of_iff
    ((match cs.reverse with
      | d :: n :: a :: ' ' :: _ => isAnd a n d
      | _ => false) = true) <| by
    simp only [EndsInWord, ← List.reverse_prefix]
    constructor
    · intro h
      split at h
      · rename_i d n a front hcs
        exact ⟨a, n, d, h, front, by rw [hcs]; rfl⟩
      · exact absurd h Bool.false_ne_true
    · rintro ⟨a, n, d, hand, front, hcs⟩
      rw [← hcs]
      exact hand

theorem EndsInWord.of_suffix {cs ds : List Char} (h : EndsInWord cs) (hback : cs <:+ ds) :
    EndsInWord ds := by
  obtain ⟨a, n, d, hand, hcs⟩ := h
  exact ⟨a, n, d, hand, hcs.trans hback⟩

/-- With one blank more, a text that ends in the word ends in a delimiter. -/
theorem EndsInWord.hasDelimiter {cs : List Char} (h : EndsInWord cs) :
    HasDelimiter (cs ++ [' ']) := by
  obtain ⟨a, n, d, hand, before, rfl⟩ := h
  refine ⟨[' ', a, n, d, ' '], ⟨a, n, d, hand, rfl⟩, before, [], ?_⟩
  simp

theorem consFirst_append {parts : List (List Char)} (hparts : parts ≠ []) (c : Char)
    (others : List (List Char)) : consFirst c (parts ++ others) = consFirst c parts ++ others := by
  cases parts with
  | nil => exact absurd rfl hparts
  | cons part parts => rfl

theorem splitChars_cons_append {c : Char} {cs delimiter rest : List Char}
    (hstart : ∀ delimiter', IsDelimiter delimiter' → ¬ delimiter' <+: c :: cs)
    (hend : ¬ EndsInWord (c :: cs)) (hdelimiter : IsDelimiter delimiter)
    (ih : ¬ EndsInWord cs →
      splitChars (cs ++ delimiter ++ rest) = splitChars cs ++ splitChars rest) :
    splitChars (c :: cs ++ delimiter ++ rest) = splitChars (c :: cs) ++ splitChars rest := by
  have hjoined : ∀ delimiter', IsDelimiter delimiter' →
      ¬ delimiter' <+: c :: (cs ++ delimiter ++ rest) := by
    intro delimiter' hdelimiter' hfront
    have hblank : delimiter' <+: c :: cs ++ [' '] :=
      isPrefix_append_blank (List.cons_ne_nil c cs) hdelimiter hdelimiter' hfront
    rcases List.prefix_concat_iff.mp hblank with hwhole | hinside
    · -- The text would then be a delimiter without its last blank.
      obtain ⟨a, n, d, hand, rfl⟩ := hdelimiter'
      have hword : c :: cs = [' ', a, n, d] := (List.append_cancel_right hwhole).symm
      exact hend ⟨a, n, d, hand, hword ▸ List.suffix_rfl⟩
    · exact hstart delimiter' hdelimiter' hinside
  have htail : ¬ EndsInWord cs := fun hword ↦ hend (hword.of_suffix (List.suffix_cons c cs))
  calc splitChars (c :: (cs ++ delimiter ++ rest))
      = consFirst c (splitChars (cs ++ delimiter ++ rest)) := splitChars_cons hjoined
    _ = consFirst c (splitChars cs) ++ splitChars rest := by
      rw [ih htail, consFirst_append (splitChars_ne_nil cs)]
    _ = splitChars (c :: cs) ++ splitChars rest := by rw [splitChars_cons hstart]

/-- **Where texts are joined they are cut**, if the first does not end in the word. -/
theorem splitChars_append_of_not_endsInWord {cs delimiter : List Char} (h : ¬ EndsInWord cs)
    (hdelimiter : IsDelimiter delimiter) (rest : List Char) :
    splitChars (cs ++ delimiter ++ rest) = splitChars cs ++ splitChars rest := by
  induction cs using splitChars.induct with
  | case1 a n d tail hand ih =>
    have htail : ¬ EndsInWord tail := fun hword ↦ h (hword.of_suffix ⟨[' ', a, n, d, ' '], rfl⟩)
    have hfirst : IsDelimiter [' ', a, n, d, ' '] := ⟨a, n, d, hand, rfl⟩
    calc splitChars ([' ', a, n, d, ' '] ++ tail ++ delimiter ++ rest)
        = [] :: splitChars (tail ++ delimiter ++ rest) :=
          splitChars_delimiter_append hfirst (tail ++ delimiter ++ rest)
      _ = splitChars ([' ', a, n, d, ' '] ++ tail) ++ splitChars rest := by
        rw [ih htail, splitChars_delimiter_append hfirst, List.cons_append]
  | case2 a n d tail hand ih =>
    have hstart : ∀ delimiter', IsDelimiter delimiter' →
        ¬ delimiter' <+: ' ' :: a :: n :: d :: ' ' :: tail := by
      rintro _ ⟨a', n', d', hand', rfl⟩ hfront
      simp only [List.cons_prefix_cons] at hfront
      obtain ⟨-, rfl, rfl, rfl, -⟩ := hfront
      exact hand hand'
    exact splitChars_cons_append hstart h hdelimiter ih
  | case3 c tail hshape ih =>
    have hstart : ∀ delimiter', IsDelimiter delimiter' → ¬ delimiter' <+: c :: tail := by
      rintro _ ⟨a, n, d, -, rfl⟩ ⟨after, hafter⟩
      obtain ⟨hc, htail⟩ := List.cons.inj hafter
      exact hshape a n d after hc.symm htail.symm
    exact splitChars_cons_append hstart h hdelimiter ih
  | case4 => exact splitChars_delimiter_append hdelimiter rest

theorem splitChars_append {part delimiter : List Char} (hpart : ¬ HasDelimiter (part ++ [' ']))
    (hdelimiter : IsDelimiter delimiter) (rest : List Char) :
    splitChars (part ++ delimiter ++ rest) = part :: splitChars rest := by
  have hwhole : splitChars part = [part] := splitChars_eq_singleton_iff.mpr fun h ↦
    hpart (h.of_infix (List.prefix_append part [' ']).isInfix)
  rw [splitChars_append_of_not_endsInWord (fun h ↦ hpart h.hasDelimiter) hdelimiter, hwhole]
  rfl

/-- **Joined parts are found again**, if none of them holds a delimiter even with a blank after
it. -/
theorem splitChars_intercalate {delimiter : List Char} (hdelimiter : IsDelimiter delimiter)
    {parts : List (List Char)} (hne : parts ≠ [])
    (hparts : ∀ part ∈ parts, ¬ HasDelimiter (part ++ [' '])) :
    splitChars (delimiter.intercalate parts) = parts := by
  induction parts with
  | nil => exact absurd rfl hne
  | cons part parts ih =>
    obtain ⟨hpart, hrest⟩ := List.forall_mem_cons.mp hparts
    cases parts with
    | nil =>
      rw [List.intercalate_singleton, splitChars_eq_singleton_iff]
      exact fun h ↦ hpart (h.of_infix (List.prefix_append part [' ']).isInfix)
    | cons next parts =>
      rw [List.intercalate_cons_cons, splitChars_append hpart hdelimiter,
        ih (List.cons_ne_nil next parts) hrest]

end ResourceSearch.Query
