import Mathlib.Data.Bool.AllAny
import Mathlib.Data.List.Infix
import ResourceSearch.Proofs.Query.Fields

/-!
# Encoded identifiers

The form-safe form of an identifier is made in one pass, but decoded in five, one for each mark. A
pass takes every digit of its mark that stands between two underscores, also where these belong to
two other marks with the digit alone between them. So decoding undoes encoding only if no such digit
is met while both its neighbours are still encoded.

## Traps and damage

Before each pass the text is that of the signs of the identifier, with some marks still encoded
(`Sign.text`). If the pass meets no trap, it decodes its mark and nothing else. At the leftmost trap
it takes away the closing underscore of the mark in front; the opening one is left behind with one
character and no underscore after that, and the text before it is still that of signs. A later pass
can take this underscore only as the end of another trap further to the left, where it leaves
another one behind (`replaceMark_cases`). So damage is never repaired: an underscore is left at the
end, and the identifier had none.
-/

namespace ResourceSearch.Query

namespace Identifier

/-! ## Signs -/

/-- A sign of an identifier: a character that is encoded as itself, or a mark, given by its digit
and what it stands for. -/
inductive Sign where
  | plain (c : Char)
  | mark (m : Char × List Char)
deriving DecidableEq

/-- The signs of a text, from left to right. -/
def signs : List Char → List Sign
  | ':' :: '/' :: '/' :: rest => .mark ('2', [':', '/', '/']) :: signs rest
  | '.' :: rest => .mark ('0', ['.']) :: signs rest
  | '/' :: rest => .mark ('1', ['/']) :: signs rest
  | '#' :: rest => .mark ('3', ['#']) :: signs rest
  | ':' :: rest => .mark ('4', [':']) :: signs rest
  | c :: rest => .plain c :: signs rest
  | [] => []

namespace Sign

/-- A sign while the marks of `todo` are still encoded. -/
def text (todo : List (Char × List Char)) : Sign → List Char
  | plain c => [c]
  | mark m => if m ∈ todo then ['_', m.1, '_'] else m.2

/-- A sign of an identifier without underscores. -/
def IsProper : Sign → Prop
  | plain c => c ≠ '_'
  | mark m => m ∈ marks

end Sign

/-- The text of signs while the marks of `todo` are still encoded. -/
def textOf (todo : List (Char × List Char)) (ss : List Sign) : List Char :=
  ss.flatMap (Sign.text todo)

theorem textOf_signs (cs : List Char) : textOf [] (signs cs) = cs := by
  rw [textOf]
  fun_induction signs cs <;> simp_all [Sign.text]

theorem textOf_marks_signs (cs : List Char) : textOf marks (signs cs) = encode cs := by
  rw [textOf]
  fun_induction signs cs <;> simp_all [Sign.text, encode, marks]

theorem isProper_of_mem_signs {cs : List Char} (h : '_' ∉ cs) :
    ∀ s ∈ signs cs, s.IsProper := by
  fun_induction signs cs with
  | case6 c rest _ _ _ _ _ ih =>
    refine List.forall_mem_cons.mpr ⟨?_, ih fun hmem ↦ h (List.mem_cons_of_mem c hmem)⟩
    rintro rfl
    exact h List.mem_cons_self
  | _ => simp_all [Sign.IsProper, marks]

/-! ## The marks -/

section

variable {m n : Char × List Char}

theorem underscore_not_mem_mark (h : m ∈ marks) : m.1 ≠ '_' ∧ '_' ∉ m.2 := by
  have hall : ∀ m ∈ marks, m.1 ≠ '_' ∧ '_' ∉ m.2 := by decide
  exact hall m h

/-- What a mark stands for begins neither with an underscore nor with the digit of a mark. -/
theorem exists_meaning_eq_cons (h : m ∈ marks) :
    ∃ c rest, m.2 = c :: rest ∧ c ≠ '_' ∧ ∀ n ∈ marks, c ≠ n.1 := by
  have hall : ∀ m ∈ marks, m.2 ≠ [] ∧ m.2.all (fun c ↦ c ≠ '_' ∧ ∀ n ∈ marks, c ≠ n.1) = true := by
    decide
  obtain ⟨hne, hchars⟩ := hall m h
  obtain ⟨c, rest, heq⟩ := List.exists_cons_of_ne_nil hne
  exact ⟨c, rest, heq, List.all_iff_forall_prop.mp hchars c (heq ▸ List.mem_cons_self)⟩

theorem eq_of_digit_eq (hm : m ∈ marks) (hn : n ∈ marks) (h : m.1 = n.1) : m = n := by
  have hall : ∀ m ∈ marks, ∀ n ∈ marks, m.1 = n.1 → m = n := by decide
  exact hall m hm n hn h

end

/-! ## One pass -/

section

variable {digit : Char} {meaning : List Char}

theorem replaceMark_cons {c : Char} (h : c ≠ '_') (cs : List Char) :
    replaceMark digit meaning (c :: cs) = c :: replaceMark digit meaning cs := by
  rw [replaceMark]
  rintro _ _ rfl
  exact absurd rfl h

theorem replaceMark_append {before : List Char} (h : '_' ∉ before) (after : List Char) :
    replaceMark digit meaning (before ++ after) = before ++ replaceMark digit meaning after := by
  induction before with
  | nil => rfl
  | cons c before ih =>
    obtain ⟨hc, hbefore⟩ := List.ne_and_not_mem_of_not_mem_cons h
    rw [List.cons_append, replaceMark_cons hc.symm, ih hbefore, List.cons_append]

theorem replaceMark_underscore {cs : List Char} (h : ¬ [digit, '_'] <+: cs) :
    replaceMark digit meaning ('_' :: cs) = '_' :: replaceMark digit meaning cs := by
  rw [replaceMark.eq_def]
  split
  · rename_i c rest heq
    obtain ⟨-, rfl⟩ := List.cons.inj heq
    rw [if_neg]
    rintro rfl
    exact h ⟨rest, rfl⟩
  · rename_i heq
    obtain ⟨rfl, rfl⟩ := List.cons.inj heq
    rfl
  · rename_i heq
    cases heq

theorem replaceMark_mark (cs : List Char) :
    replaceMark digit meaning ('_' :: digit :: '_' :: cs)
      = meaning ++ replaceMark digit meaning cs := by
  rw [replaceMark, if_pos rfl]

end

/-- Where a pass meets a trap: a mark that is replaced later stands before something that begins
with the digit and an underscore. -/
def Trapped (d : Char × List Char) (later : List (Char × List Char)) (ss : List Sign)
    (tail : List Char) : Prop :=
  ∃ before a after, ss = before ++ .mark a :: after ∧ a ∈ later ∧
    [d.1, '_'] <+: textOf (d :: later) after ++ tail

/-- A text in which an underscore is left behind: there is one character after it that could be the
digit of a mark, but no underscore after that. -/
def Damaged (todo : List (Char × List Char)) (cs : List Char) : Prop :=
  ∃ ss, (∀ s ∈ ss, Sign.IsProper s) ∧ ∃ a b rest, a ≠ '_' ∧ b ≠ '_' ∧
    cs = textOf todo ss ++ '_' :: a :: b :: rest

theorem textOf_cons (todo : List (Char × List Char)) (s : Sign) (ss : List Sign) :
    textOf todo (s :: ss) = s.text todo ++ textOf todo ss :=
  List.flatMap_cons

/-- A sign that is no mark of later passes is decoded if it has to be, whatever follows. -/
theorem replaceMark_text {d : Char × List Char} {later : List (Char × List Char)} {s : Sign}
    (hd : d ∈ marks) (hlater : d ∉ later) (hs : s.IsProper) (h : ∀ a ∈ later, s ≠ .mark a)
    (cs : List Char) :
    replaceMark d.1 d.2 (s.text (d :: later) ++ cs)
      = s.text later ++ replaceMark d.1 d.2 cs := by
  cases s with
  | plain c => exact replaceMark_cons hs cs
  | mark m =>
    have hm : m ∉ later := fun hm ↦ h m hm rfl
    by_cases heq : m = d
    · subst heq
      rw [Sign.text, Sign.text, if_pos List.mem_cons_self, if_neg hlater]
      exact replaceMark_mark cs
    · rw [Sign.text, Sign.text, if_neg (by simp [heq, hm]), if_neg hm]
      exact replaceMark_append (underscore_not_mem_mark hs).2 cs

section

variable {d a : Char × List Char} {later : List (Char × List Char)} {cs : List Char}

/-- A pass takes nothing at the start of a mark of later passes. What it does with the closing
underscore depends on what follows. -/
theorem replaceMark_text_later (hd : d ∈ marks) (hlater : d ∉ later) (ha : a ∈ later)
    (ha' : a ∈ marks) :
    replaceMark d.1 d.2 ((Sign.mark a).text (d :: later) ++ cs)
      = '_' :: a.1 :: replaceMark d.1 d.2 ('_' :: cs) := by
  have hdigit : a.1 ≠ d.1 := by
    intro heq
    rw [eq_of_digit_eq ha' hd heq] at ha
    exact hlater ha
  have hfirst : ¬ [d.1, '_'] <+: a.1 :: '_' :: cs := by
    rw [List.cons_prefix_cons]
    exact fun h ↦ hdigit h.1.symm
  rw [Sign.text, if_pos (List.mem_cons_of_mem d ha)]
  change replaceMark d.1 d.2 ('_' :: a.1 :: '_' :: cs) = _
  rw [replaceMark_underscore hfirst, replaceMark_cons (underscore_not_mem_mark ha').1]

theorem replaceMark_later (hd : d ∈ marks) (hlater : d ∉ later) (ha : a ∈ later)
    (ha' : a ∈ marks) (h : ¬ [d.1, '_'] <+: cs) :
    replaceMark d.1 d.2 ((Sign.mark a).text (d :: later) ++ cs)
      = (Sign.mark a).text later ++ replaceMark d.1 d.2 cs := by
  rw [replaceMark_text_later hd hlater ha ha', replaceMark_underscore h, Sign.text, if_pos ha]
  rfl

/-- At a trap the mark in front loses its closing underscore. -/
theorem damaged_of_prefix (hd : d ∈ marks) (hlater : d ∉ later) (ha : a ∈ later)
    (ha' : a ∈ marks) (h : [d.1, '_'] <+: cs) :
    Damaged later (replaceMark d.1 d.2 ((Sign.mark a).text (d :: later) ++ cs)) := by
  obtain ⟨rest, rfl⟩ := h
  obtain ⟨b, meaning, hmeaning, hb, -⟩ := exists_meaning_eq_cons hd
  refine ⟨[], by simp, a.1, b, meaning ++ replaceMark d.1 d.2 rest,
    (underscore_not_mem_mark ha').1, hb, ?_⟩
  have hmark : replaceMark d.1 d.2 ('_' :: ([d.1, '_'] ++ rest))
      = d.2 ++ replaceMark d.1 d.2 rest := replaceMark_mark rest
  rw [replaceMark_text_later hd hlater ha ha', hmark, hmeaning]
  rfl

end

theorem Damaged.cons {todo : List (Char × List Char)} {s : Sign} (hs : s.IsProper)
    {cs : List Char} (h : Damaged todo cs) : Damaged todo (s.text todo ++ cs) := by
  obtain ⟨ss, hss, a, b, rest, ha, hb, rfl⟩ := h
  refine ⟨s :: ss, List.forall_mem_cons.mpr ⟨hs, hss⟩, a, b, rest, ha, hb, ?_⟩
  rw [textOf_cons, List.append_assoc]

/-- **One pass.** It decodes its mark in the signs and goes on behind them, unless it meets a trap;
then an underscore is left behind. -/
theorem replaceMark_cases {d : Char × List Char} {later : List (Char × List Char)}
    (hd : d ∈ marks) (hlater : d ∉ later) {ss : List Sign} (hss : ∀ s ∈ ss, Sign.IsProper s)
    (tail : List Char) :
    (¬ Trapped d later ss tail ∧
      replaceMark d.1 d.2 (textOf (d :: later) ss ++ tail)
        = textOf later ss ++ replaceMark d.1 d.2 tail) ∨
    (Trapped d later ss tail ∧
      Damaged later (replaceMark d.1 d.2 (textOf (d :: later) ss ++ tail))) := by
  induction ss with
  | nil =>
    refine .inl ⟨?_, rfl⟩
    rintro ⟨before, a, after, hss, -⟩
    simp at hss
  | cons s ss ih =>
    obtain ⟨hs, hss⟩ := List.forall_mem_cons.mp hss
    have hcons : Trapped d later (s :: ss) tail ↔
        (∃ a ∈ later, s = .mark a ∧ [d.1, '_'] <+: textOf (d :: later) ss ++ tail) ∨
          Trapped d later ss tail := by
      constructor
      · rintro ⟨before, a, after, heq, ha, hfollows⟩
        cases before with
        | nil =>
          obtain ⟨rfl, rfl⟩ := List.cons.inj heq
          exact .inl ⟨a, ha, rfl, hfollows⟩
        | cons b before =>
          obtain ⟨-, rfl⟩ := List.cons.inj heq
          exact .inr ⟨before, a, after, rfl, ha, hfollows⟩
      · rintro (⟨a, ha, rfl, hfollows⟩ | ⟨before, a, after, rfl, ha, hfollows⟩)
        · exact ⟨[], a, ss, rfl, ha, hfollows⟩
        · exact ⟨s :: before, a, after, rfl, ha, hfollows⟩
    rw [hcons, textOf_cons, textOf_cons, List.append_assoc]
    by_cases hhere : ∃ a ∈ later, s = .mark a ∧ [d.1, '_'] <+: textOf (d :: later) ss ++ tail
    · obtain ⟨a, ha, rfl, hfollows⟩ := hhere
      exact .inr ⟨.inl ⟨a, ha, rfl, hfollows⟩, damaged_of_prefix hd hlater ha hs hfollows⟩
    · -- this sign is decoded or kept, and the rest decides
      have hstep : replaceMark d.1 d.2 (s.text (d :: later) ++ (textOf (d :: later) ss ++ tail))
          = s.text later ++ replaceMark d.1 d.2 (textOf (d :: later) ss ++ tail) := by
        by_cases hmark : ∃ a ∈ later, s = .mark a
        · obtain ⟨a, ha, rfl⟩ := hmark
          exact replaceMark_later hd hlater ha hs fun h ↦ hhere ⟨a, ha, rfl, h⟩
        · push Not at hmark
          exact replaceMark_text hd hlater hs hmark _
      rw [or_iff_right hhere, hstep]
      rcases ih hss with ⟨hnone, hrest⟩ | ⟨htrap, hdamaged⟩
      · exact .inl ⟨hnone, by rw [hrest, List.append_assoc]⟩
      · exact .inr ⟨htrap, hdamaged.cons hs⟩

/-! ## All passes -/

/-- The passes for the marks of a list. -/
def decodeMarks (todo : List (Char × List Char)) (cs : List Char) : List Char :=
  todo.foldl (fun cs mark ↦ replaceMark mark.1 mark.2 cs) cs

theorem decodeMarks_cons (d : Char × List Char) (later : List (Char × List Char))
    (cs : List Char) :
    decodeMarks (d :: later) cs = decodeMarks later (replaceMark d.1 d.2 cs) := rfl

/-- What can be left to do while an identifier is decoded. -/
theorem of_cons_suffix_marks {d : Char × List Char} {later : List (Char × List Char)}
    (h : d :: later <:+ marks) : d ∈ marks ∧ d ∉ later ∧ later <:+ marks := by
  have hnodup : marks.Nodup := by decide
  exact ⟨h.subset List.mem_cons_self, (List.nodup_cons.mp (hnodup.sublist h.sublist)).1,
    (List.suffix_cons d later).trans h⟩

/-- **Damage stays.** -/
theorem Damaged.decodeMarks {todo : List (Char × List Char)} (htodo : todo <:+ marks)
    {cs : List Char} (h : Damaged todo cs) : Damaged [] (decodeMarks todo cs) := by
  induction todo generalizing cs with
  | nil => exact h
  | cons d later ih =>
    obtain ⟨hd, hlater, hsuffix⟩ := of_cons_suffix_marks htodo
    obtain ⟨ss, hss, a, b, rest, ha, hb, rfl⟩ := h
    rw [decodeMarks_cons]
    refine ih hsuffix ?_
    rcases replaceMark_cases hd hlater hss ('_' :: a :: b :: rest) with ⟨-, hpass⟩ | ⟨-, hdamaged⟩
    · -- the underscore begins no mark, since none follows after the next character
      have hfirst : ¬ [d.1, '_'] <+: a :: b :: rest := by
        rw [List.cons_prefix_cons, List.cons_prefix_cons]
        exact fun h ↦ hb h.2.1.symm
      refine ⟨ss, hss, a, b, replaceMark d.1 d.2 rest, ha, hb, ?_⟩
      rw [hpass, replaceMark_underscore hfirst, replaceMark_cons ha, replaceMark_cons hb]
    · exact hdamaged

/-- Some pass meets a trap in the text of signs. -/
def HasTrap (todo : List (Char × List Char)) (ss : List Sign) : Prop :=
  ∃ d later, d :: later <:+ todo ∧ Trapped d later ss []

theorem hasTrap_cons_iff {d : Char × List Char} {later : List (Char × List Char)}
    {ss : List Sign} : HasTrap (d :: later) ss ↔ Trapped d later ss [] ∨ HasTrap later ss := by
  simp only [HasTrap, List.suffix_cons_iff]
  constructor
  · rintro ⟨d', later', h | h, htrap⟩
    · obtain ⟨rfl, rfl⟩ := List.cons.inj h
      exact .inl htrap
    · exact .inr ⟨d', later', h, htrap⟩
  · rintro (htrap | ⟨d', later', h, htrap⟩)
    · exact ⟨d, later, .inl rfl, htrap⟩
    · exact ⟨d', later', .inr h, htrap⟩

theorem decodeMarks_cases {todo : List (Char × List Char)} (htodo : todo <:+ marks)
    {ss : List Sign} (hss : ∀ s ∈ ss, Sign.IsProper s) :
    (¬ HasTrap todo ss ∧ decodeMarks todo (textOf todo ss) = textOf [] ss) ∨
      (HasTrap todo ss ∧ Damaged [] (decodeMarks todo (textOf todo ss))) := by
  induction todo with
  | nil => exact .inl ⟨by simp [HasTrap], rfl⟩
  | cons d later ih =>
    obtain ⟨hd, hlater, hsuffix⟩ := of_cons_suffix_marks htodo
    have hpass := replaceMark_cases hd hlater hss []
    rw [List.append_nil, replaceMark, List.append_nil] at hpass
    rw [hasTrap_cons_iff, decodeMarks_cons]
    rcases hpass with ⟨hnone, hdecoded⟩ | ⟨htrap, hdamaged⟩
    · rw [hdecoded, or_iff_right hnone]
      exact ih hsuffix
    · exact .inr ⟨.inl htrap, hdamaged.decodeMarks hsuffix⟩

/-- **Decoding undoes encoding exactly where it meets no trap.** -/
theorem decode_encode_eq_iff {cs : List Char} (h : '_' ∉ cs) :
    decode (encode cs) = cs ↔ ¬ HasTrap marks (signs cs) := by
  have hcases := decodeMarks_cases List.suffix_rfl (isProper_of_mem_signs h)
  rw [textOf_marks_signs, textOf_signs] at hcases
  change decodeMarks marks (encode cs) = cs ↔ _
  rcases hcases with ⟨hnone, hdecoded⟩ | ⟨htrap, ss, -, a, b, rest, -, -, hdamaged⟩
  · exact iff_of_true hdecoded hnone
  · refine iff_of_false ?_ (not_not_intro htrap)
    intro heq
    rw [heq] at hdamaged
    exact h (by rw [hdamaged]; simp)

theorem trapped_iff {d : Char × List Char} {later : List (Char × List Char)} (hd : d ∈ marks)
    {ss : List Sign} (hss : ∀ s ∈ ss, Sign.IsProper s) :
    Trapped d later ss [] ↔ ∃ a ∈ later, ∃ b ∈ d :: later,
      [.mark a, .plain d.1, .mark b] <:+: ss := by
  have hdigit := (underscore_not_mem_mark hd).1
  constructor
  · rintro ⟨before, a, after, rfl, ha, hfollows⟩
    rw [List.append_nil] at hfollows
    match after with
    | [] => simp [textOf] at hfollows
    | .mark m :: after =>
      -- a mark begins with an underscore or with what it stands for
      have hm : m ∈ marks := hss (.mark m) (by simp)
      obtain ⟨c, rest, hmeaning, -, hc⟩ := exists_meaning_eq_cons hm
      rw [textOf_cons, Sign.text] at hfollows
      split at hfollows
      · exact absurd (List.cons_prefix_cons.mp hfollows).1 hdigit
      · rw [hmeaning] at hfollows
        exact absurd (List.cons_prefix_cons.mp hfollows).1.symm (hc d hd)
    | [.plain c] => simp [textOf, Sign.text] at hfollows
    | .plain c :: .plain c' :: after =>
      have hc' : c' ≠ '_' := hss (.plain c') (by simp)
      simp only [textOf_cons, Sign.text, List.singleton_append, List.cons_prefix_cons] at hfollows
      exact absurd hfollows.2.1.symm hc'
    | .plain c :: .mark b :: after =>
      have hb : b ∈ marks := hss (.mark b) (by simp)
      obtain ⟨y, rest, hmeaning, hy, -⟩ := exists_meaning_eq_cons hb
      rw [textOf_cons, textOf_cons, Sign.text, Sign.text, List.singleton_append,
        List.cons_prefix_cons] at hfollows
      obtain ⟨rfl, hfollows⟩ := hfollows
      split at hfollows
      · rename_i hmem
        exact ⟨a, ha, b, hmem, before, after, by simp⟩
      · rw [hmeaning] at hfollows
        exact absurd (List.cons_prefix_cons.mp hfollows).1.symm hy
  · rintro ⟨a, ha, b, hb, before, after, rfl⟩
    refine ⟨before, a, .plain d.1 :: .mark b :: after, by simp, ha, ?_⟩
    rw [textOf_cons, textOf_cons, Sign.text, Sign.text, if_pos hb]
    exact ⟨_, rfl⟩

/-- **The traps of an identifier.** A digit stands alone between two marks, of which the first is
decoded after the mark of the digit, and the second not before it. -/
theorem hasTrap_iff {ss : List Sign} (hss : ∀ s ∈ ss, Sign.IsProper s) :
    HasTrap marks ss ↔ ∃ d later, d :: later <:+ marks ∧ ∃ a ∈ later, ∃ b ∈ d :: later,
      [.mark a, .plain d.1, .mark b] <:+: ss := by
  refine exists₂_congr fun d later ↦ and_congr_right fun hsuffix ↦ ?_
  exact trapped_iff (of_cons_suffix_marks hsuffix).1 hss

/-! ## Characters of the encoded form -/

/-- The characters of marks in the encoded form. -/
def markChars : List Char := ['_', '2', '0', '1', '3', '4']

theorem mem_of_mem_encode {cs : List Char} {c : Char} (h : c ∈ encode cs) :
    c ∈ markChars ∨ (c ∈ cs ∧ c ≠ ':') := by
  fun_induction encode cs with
  | case6 d rest _ _ _ _ hcolon ih =>
    rcases List.mem_cons.mp h with rfl | h
    · exact .inr ⟨List.mem_cons_self, fun heq ↦ hcolon heq⟩
    · exact (ih h).imp_right fun h ↦ ⟨List.mem_cons_of_mem d h.1, h.2⟩
  | case7 => simp at h
  | _ => grind [markChars]

theorem colon_not_mem_encode (cs : List Char) : ':' ∉ encode cs := by
  intro h
  rcases mem_of_mem_encode h with h | h
  · exact absurd h (by decide)
  · exact h.2 rfl

theorem mem_encode_of_colon_mem {cs : List Char} (h : ':' ∈ cs) :
    '_' ∈ encode cs ∧ ∃ c ∈ ['2', '4'], c ∈ encode cs := by
  fun_induction encode cs with
  | case6 d rest _ _ _ _ hcolon ih =>
    have hrest := (List.mem_cons.mp h).resolve_left fun heq ↦ hcolon heq.symm
    obtain ⟨hmark, c, hc, hmem⟩ := ih hrest
    exact ⟨List.mem_cons_of_mem d hmark, c, hc, List.mem_cons_of_mem d hmem⟩
  | case7 => simp at h
  | _ => simp_all

theorem isPathChar_of_mem_encode {cs : List Char} (h : isIdentifier cs = true) {c : Char}
    (hc : c ∈ encode cs) : isPathChar c = true ∨ c = '#' := by
  rcases mem_of_mem_encode hc with hc | hc
  · have hmarks : markChars.all isPathChar = true := by decide
    exact .inl (List.all_eq_true.mp hmarks c hc)
  · exact isPathChar_of_mem h hc.1

end Identifier

end ResourceSearch.Query
