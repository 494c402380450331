import Mathlib.Data.List.TakeWhile
import ResourceSearch.Query.Block

/-!
# Sanitized text and its parts

Sanitized text has no double quote, and its backslashes come in pairs: whatever it is made of, it
cannot end a phrase that it stands in. The same has to hold of the terms, which are parts of it.

## Where a text may be cut

A cut through a pair of backslashes would leave one of them to take the closing quote of a phrase.
The test therefore carries one bit, whether an odd number of backslashes stands right before; at any
other character than a backslash the bit is off, so a text may be cut before and after it. The
delimiter between blocks begins and ends with a blank, a field ends at a colon, and white space is
trimmed: all cuts are of this one kind, `isInert_append_cons`.
-/

namespace ResourceSearch.Query

/-! ## The invariant -/

/-- Whether a text has no double quote and all its runs of backslashes are even; `odd` says that an
odd number of them stands right before the text. -/
def isInert (odd : Bool) : List Char → Bool
  | [] => !odd
  | c :: rest =>
    if c = '\\' then isInert (!odd) rest
    else !odd && decide (c ≠ '"') && isInert false rest

@[simp] theorem isInert_nil : isInert false [] = true := rfl

theorem isInert_cons_of_ne {c : Char} (hc : c ≠ '\\') {odd : Bool} {cs : List Char} :
    isInert odd (c :: cs) = true ↔ odd = false ∧ c ≠ '"' ∧ isInert false cs = true := by
  rw [isInert, if_neg hc, Bool.and_eq_true, Bool.and_eq_true, Bool.not_eq_true',
    decide_eq_true_eq, and_assoc]

/-- **Where a text may be cut**: before and after anything but a backslash. -/
theorem isInert_append_cons {c : Char} (hc : c ≠ '\\') {odd : Bool} {before after : List Char} :
    isInert odd (before ++ c :: after) = true ↔
      isInert odd before = true ∧ c ≠ '"' ∧ isInert false after = true := by
  induction before generalizing odd with
  | nil => rw [List.nil_append, isInert_cons_of_ne hc, isInert, Bool.not_eq_true']
  | cons d before ih =>
    by_cases hd : d = '\\'
    · rw [List.cons_append, isInert, isInert, if_pos hd, if_pos hd]
      exact ih
    · rw [List.cons_append, isInert_cons_of_ne hd, isInert_cons_of_ne hd, ih, and_assoc, and_assoc]

theorem isInert_of_not_mem {cs : List Char} (hquote : '"' ∉ cs) (hslash : '\\' ∉ cs) :
    isInert false cs = true := by
  induction cs with
  | nil => rfl
  | cons c cs ih =>
    obtain ⟨hc, hcs⟩ := List.ne_and_not_mem_of_not_mem_cons hquote
    obtain ⟨hc', hcs'⟩ := List.ne_and_not_mem_of_not_mem_cons hslash
    exact (isInert_cons_of_ne (Ne.symm hc')).mpr ⟨rfl, Ne.symm hc, ih hcs hcs'⟩

theorem isInert_flatMap_cleanChar (cs : List Char) :
    isInert false (cs.flatMap cleanChar) = true := by
  induction cs with
  | nil => rfl
  | cons c cs ih =>
    rw [List.flatMap_cons, cleanChar]
    split
    · exact ih
    · rename_i hquotes
      split
      · exact ih
      · rename_i hslash
        simp only [Bool.or_eq_true, decide_eq_true_eq, not_or] at hquotes
        exact (isInert_cons_of_ne hslash).mpr ⟨rfl, hquotes.1, ih⟩

theorem isInert_sanitizeChars (cs : List Char) : isInert false (sanitizeChars cs) = true :=
  isInert_flatMap_cleanChar _

/-! ## Cutting at the delimiter -/

/-- The first part stands where the text stood, and every other one after a blank. -/
theorem isInert_splitChars {odd : Bool} {cs : List Char} (h : isInert odd cs = true) :
    ∃ first parts, splitChars cs = first :: parts ∧ isInert odd first = true ∧
      ∀ part ∈ parts, isInert false part = true := by
  fun_induction splitChars cs generalizing odd with
  | case1 a n d rest hand ih =>
    -- both blanks of the delimiter are places where the text may be cut
    obtain ⟨hodd, -, hword⟩ := (isInert_cons_of_ne (by decide)).mp h
    rw [show a :: n :: d :: ' ' :: rest = [a, n, d] ++ ' ' :: rest from rfl,
      isInert_append_cons (by decide)] at hword
    obtain ⟨first, parts, hsplit, hfirst, hparts⟩ := ih hword.2.2
    refine ⟨[], splitChars rest, rfl, ?_, ?_⟩
    · rw [hodd, isInert_nil]
    · rw [hsplit]
      exact List.forall_mem_cons.mpr ⟨hfirst, hparts⟩
  | case2 a n d rest hand ih =>
    -- a blank that does not start a delimiter stays in the first part
    obtain ⟨hodd, hquote, hrest⟩ := (isInert_cons_of_ne (by decide)).mp h
    obtain ⟨first, parts, hsplit, hfirst, hparts⟩ := ih hrest
    refine ⟨' ' :: first, parts, by rw [hsplit]; rfl, ?_, hparts⟩
    exact (isInert_cons_of_ne (by decide)).mpr ⟨hodd, hquote, hfirst⟩
  | case3 c rest hshape ih =>
    by_cases hc : c = '\\'
    · rw [isInert, if_pos hc] at h
      obtain ⟨first, parts, hsplit, hfirst, hparts⟩ := ih h
      refine ⟨c :: first, parts, by rw [hsplit]; rfl, ?_, hparts⟩
      rw [isInert, if_pos hc, hfirst]
    · obtain ⟨hodd, hquote, hrest⟩ := (isInert_cons_of_ne hc).mp h
      obtain ⟨first, parts, hsplit, hfirst, hparts⟩ := ih hrest
      refine ⟨c :: first, parts, by rw [hsplit]; rfl, ?_, hparts⟩
      exact (isInert_cons_of_ne hc).mpr ⟨hodd, hquote, hfirst⟩
  | case4 => exact ⟨[], [], rfl, h, by simp⟩

theorem isInert_of_mem_splitChars {cs part : List Char} (h : isInert false cs = true)
    (hpart : part ∈ splitChars cs) : isInert false part = true := by
  obtain ⟨first, parts, hsplit, hfirst, hparts⟩ := isInert_splitChars h
  rw [hsplit] at hpart
  rcases List.mem_cons.mp hpart with rfl | hpart
  · exact hfirst
  · exact hparts part hpart

/-! ## Trimming -/

theorem exists_eq_trim (cs : List Char) :
    ∃ before after, cs = before ++ Text.trim cs ++ after ∧
      (∀ c ∈ before, Text.isBlank c = true) ∧ ∀ c ∈ after, Text.isBlank c = true := by
  refine ⟨cs.takeWhile Text.isBlank,
    ((cs.dropWhile Text.isBlank).reverse.takeWhile Text.isBlank).reverse, ?_, ?_, ?_⟩
  · rw [List.append_assoc, Text.trim, Text.dropEndWhile, ← List.reverse_append,
      List.takeWhile_append_dropWhile, List.reverse_reverse, List.takeWhile_append_dropWhile]
  · exact fun c hc ↦ List.mem_takeWhile_imp hc
  · exact fun c hc ↦ List.mem_takeWhile_imp (List.mem_reverse.mp hc)

theorem ne_backslash_of_isBlank {c : Char} (h : Text.isBlank c = true) : c ≠ '\\' := by
  rintro rfl
  exact absurd h (by decide)

theorem isInert_of_blank_append {before cs : List Char}
    (hbefore : ∀ c ∈ before, Text.isBlank c = true) (h : isInert false (before ++ cs) = true) :
    isInert false cs = true := by
  induction before with
  | nil => exact h
  | cons c before ih =>
    have hc := ne_backslash_of_isBlank (hbefore c List.mem_cons_self)
    obtain ⟨-, -, hrest⟩ := (isInert_cons_of_ne hc).mp h
    exact ih (fun d hd ↦ hbefore d (List.mem_cons_of_mem c hd)) hrest

theorem isInert_of_append_blank {cs after : List Char}
    (hafter : ∀ c ∈ after, Text.isBlank c = true) (h : isInert false (cs ++ after) = true) :
    isInert false cs = true := by
  cases after with
  | nil => rwa [List.append_nil] at h
  | cons c after =>
    have hc := ne_backslash_of_isBlank (hafter c List.mem_cons_self)
    exact ((isInert_append_cons hc).mp h).1

theorem isInert_trim {cs : List Char} (h : isInert false cs = true) :
    isInert false (Text.trim cs) = true := by
  obtain ⟨before, after, hcs, hbefore, hafter⟩ := exists_eq_trim cs
  rw [hcs, List.append_assoc] at h
  exact isInert_of_append_blank hafter (isInert_of_blank_append hbefore h)

/-! ## Cutting at the colon -/

theorem consBefore_eq_some {c : Char} {cut : Option (List Char × List Char)}
    {before after : List Char} (h : consBefore c cut = some (before, after)) :
    ∃ rest, before = c :: rest ∧ cut = some (rest, after) := by
  cases cut with
  | none => simp [consBefore] at h
  | some pair =>
    obtain ⟨rest, tail⟩ := pair
    simp only [consBefore, Option.some.injEq, Prod.mk.injEq] at h
    exact ⟨rest, h.1.symm, by rw [h.2]⟩

theorem eq_of_cutAtColon {escaped : Bool} {cs before after : List Char}
    (h : cutAtColon escaped cs = some (before, after)) : cs = before ++ ':' :: after := by
  induction cs generalizing escaped before with
  | nil => simp [cutAtColon] at h
  | cons c cs ih =>
    rw [cutAtColon] at h
    split at h
    · obtain ⟨rest, rfl, hrest⟩ := consBefore_eq_some h
      rw [List.cons_append, ← ih hrest]
    · split at h
      · rename_i hcolon
        simp only [Option.some.injEq, Prod.mk.injEq] at h
        simp only [Bool.and_eq_true, decide_eq_true_eq] at hcolon
        rw [← h.1, ← h.2, hcolon.1, List.nil_append]
      · obtain ⟨rest, rfl, hrest⟩ := consBefore_eq_some h
        rw [List.cons_append, ← ih hrest]

theorem isInert_term_ofChars {cs : List Char} (h : isInert false cs = true) :
    isInert false (Block.ofChars cs).term.toList = true := by
  rw [Block.ofChars]
  split
  · rw [String.toList_ofList]
    exact isInert_trim h
  · cases hcut : cutAtColon false cs with
    | none =>
      rw [String.toList_ofList]
      exact isInert_trim h
    | some pair =>
      obtain ⟨before, after⟩ := pair
      have hafter : isInert false after = true := by
        rw [eq_of_cutAtColon hcut, isInert_append_cons (by decide)] at h
        exact h.2.2
      have hterm : isInert false (String.ofList (Text.trim after)).toList = true := by
        rw [String.toList_ofList]
        exact isInert_trim hafter
      dsimp only
      split
      · exact hterm
      · exact hterm

/-- **The invariant of parsing.** No term of a query can end the phrase that it stands in. -/
theorem isInert_term_of_mem_parse {text : String} {block : Block} (h : block ∈ parse text) :
    isInert false block.term.toList = true := by
  obtain ⟨part, hpart, rfl⟩ := List.mem_map.mp h
  exact isInert_term_ofChars (isInert_of_mem_splitChars (isInert_sanitizeChars _) hpart)

end ResourceSearch.Query
