import Mathlib.Data.Bool.AllAny
import Mathlib.Data.List.Basic
import ResourceSearch.Proofs.Text.Lowercase
import ResourceSearch.Text.Alphanumeric
import ResourceSearch.Text.Blank

/-!
# Small forms

A small form has no other small form than itself, and a letter stays a letter when it becomes
small: lowering twice is lowering once, and passes over the same characters. The exception is the
dot that a capital I with a dot leaves behind, which is a mark and no letter.

Lowering a text and lowering its characters one by one differ in nothing but the sigma at the end of
a word (`lowercase_eq_flatMap_iff`).

## How the tables are looked up

There are some fifteen hundred capitals, too many to look each of them up in every table. What has
to be known about them are relations between three sets of code points, the capitals, the small
forms and the letters. These sets are written as numbers, and the relations are checked bit by bit
(`bits_capitals_smallForms`).
-/

namespace ResourceSearch.Text

/-! ## Ranges as intervals -/

theorem inRanges_of_mem {ranges : List (ℕ × ℕ)} {r : ℕ × ℕ} {n : ℕ}
    (hsorted : ranges.Pairwise (·.1 ≤ ·.1)) (hr : r ∈ ranges) (hfirst : r.1 ≤ n)
    (hlast : n ≤ r.2) : inRanges ranges n = true := by
  induction ranges with
  | nil => simp at hr
  | cons head rest ih =>
    obtain ⟨hhead, hrest⟩ := List.pairwise_cons.mp hsorted
    have hle : head.1 ≤ n := by
      rcases List.mem_cons.mp hr with rfl | hr
      · exact hfirst
      · exact Nat.le_trans (hhead r hr) hfirst
    rw [inRanges, if_neg (by omega)]
    split
    · rfl
    · rename_i hbeyond
      rcases List.mem_cons.mp hr with rfl | hr
      · exact absurd hlast hbeyond
      · exact ih hrest hr

theorem pairwise_alphanumericRanges : alphanumericRanges.Pairwise (·.1 ≤ ·.1) := by
  rw [← List.isChain_iff_pairwise]
  decide +kernel

/-! ## Sets of code points

A set of code points is held as a number with a bit for each of them. In this way sets as large as
those of the tables are compared in one step. -/

/-- The set of some code points. -/
def bits (ns : List ℕ) : ℕ :=
  ns.foldr (fun n set ↦ 1 <<< n ||| set) 0

/-- The set of the code points in some ranges. -/
def rangeBits (ranges : List (ℕ × ℕ)) : ℕ :=
  ranges.foldr (fun r set ↦ (1 <<< (r.2 + 1 - r.1) - 1) <<< r.1 ||| set) 0

theorem testBit_bits {ns : List ℕ} {n : ℕ} : (bits ns).testBit n = true ↔ n ∈ ns := by
  induction ns with
  | nil => simp [bits]
  | cons m ns ih =>
    have hcons : bits (m :: ns) = 1 <<< m ||| bits ns := rfl
    rw [hcons, Nat.testBit_or, Bool.or_eq_true, ih, Nat.one_shiftLeft, Nat.testBit_two_pow,
      decide_eq_true_eq, List.mem_cons, eq_comm]

theorem testBit_rangeBits {ranges : List (ℕ × ℕ)} {n : ℕ} :
    (rangeBits ranges).testBit n = true ↔ ∃ r ∈ ranges, r.1 ≤ n ∧ n ≤ r.2 := by
  induction ranges with
  | nil => simp [rangeBits]
  | cons r ranges ih =>
    have hcons : rangeBits (r :: ranges)
        = (1 <<< (r.2 + 1 - r.1) - 1) <<< r.1 ||| rangeBits ranges := rfl
    rw [hcons, Nat.testBit_or, Bool.or_eq_true, ih, Nat.testBit_shiftLeft, Nat.one_shiftLeft,
      Nat.testBit_two_pow_sub_one, Bool.and_eq_true, decide_eq_true_eq, decide_eq_true_eq,
      List.exists_mem_cons_iff]
    refine or_congr_left ?_
    omega

theorem inRanges_of_land_eq {ns : List ℕ} {ranges : List (ℕ × ℕ)} {n : ℕ}
    (hsorted : ranges.Pairwise (·.1 ≤ ·.1)) (h : bits ns &&& rangeBits ranges = bits ns)
    (hn : n ∈ ns) : inRanges ranges n = true := by
  rw [← testBit_bits, ← h, Nat.testBit_and, Bool.and_eq_true, testBit_rangeBits] at hn
  obtain ⟨-, r, hr, hfirst, hlast⟩ := hn
  exact inRanges_of_mem hsorted hr hfirst hlast

theorem not_mem_of_land_eq_zero {ns ms : List ℕ} {n : ℕ} (h : bits ns &&& bits ms = 0)
    (hn : n ∈ ns) : n ∉ ms := by
  intro hm
  have hzero := congrArg (Nat.testBit · n) h
  rw [Nat.testBit_and, testBit_bits.mpr hn, testBit_bits.mpr hm, Nat.zero_testBit] at hzero
  cases hzero

/-! ## Capitals and their small forms -/

namespace CaseRun

/-- The capitals of a run. -/
def capitals (run : CaseRun) : List ℕ :=
  List.range' run.first ((run.last - run.first) / run.stride + 1) run.stride

/-- Where a run puts a code point. -/
def small (run : CaseRun) (n : ℕ) : ℕ :=
  (n + run.offset).toNat

theorem mem_capitals {run : CaseRun} {n : ℕ} (hfirst : run.first ≤ n) (hlast : n ≤ run.last)
    (hstride : (n - run.first) % run.stride = 0) : n ∈ run.capitals := by
  rw [capitals, List.mem_range']
  have hsteps := Nat.div_add_mod (n - run.first) run.stride
  refine ⟨(n - run.first) / run.stride, ?_, by omega⟩
  exact Nat.lt_succ_of_le (Nat.div_le_div_right (by omega))

end CaseRun

/-- The capitals of the table. -/
def capitals : List ℕ :=
  caseRuns.flatMap CaseRun.capitals

/-- The small forms of the table. -/
def smallForms : List ℕ :=
  caseRuns.flatMap fun run ↦ run.capitals.map run.small

/-- No small form is a capital, and all of both are letters. -/
theorem bits_capitals_smallForms : bits capitals &&& bits smallForms = 0 ∧
    bits capitals &&& rangeBits alphanumericRanges = bits capitals ∧
    bits smallForms &&& rangeBits alphanumericRanges = bits smallForms := by
  decide +kernel

theorem dotted_not_mem_smallForms : 0x130 ∉ smallForms := by
  decide +kernel

theorem lowerCodePoint_eq_or_mem (n : ℕ) : lowerCodePoint caseRuns n = n ∨
    n ∈ capitals ∧ lowerCodePoint caseRuns n ∈ smallForms := by
  refine (lowerCodePoint_cases caseRuns n).imp_right ?_
  rintro ⟨run, hrun, ⟨hfirst, hlast, hstride⟩, heq⟩
  have hn := CaseRun.mem_capitals hfirst hlast hstride
  refine ⟨List.mem_flatMap.mpr ⟨run, hrun, hn⟩, ?_⟩
  rw [heq]
  exact List.mem_flatMap.mpr ⟨run, hrun, List.mem_map_of_mem hn⟩

/-- **A small form is its own small form**, looked up in the table. -/
theorem lowerCodePoint_of_mem_smallForms {n : ℕ} (h : n ∈ smallForms) :
    lowerCodePoint caseRuns n = n := by
  refine (lowerCodePoint_eq_or_mem n).resolve_right fun hn ↦ ?_
  exact not_mem_of_land_eq_zero bits_capitals_smallForms.1 hn.1 h

/-! ## Small characters -/

/-- A character that is its own small form. -/
def IsSmall (c : Char) : Prop :=
  lowerChar c = [c]

instance : DecidablePred IsSmall := fun c ↦ inferInstanceAs (Decidable (lowerChar c = [c]))

theorem not_isSmall_dotted : ¬ IsSmall '\u0130' := by decide

theorem not_isSmall_sigma : ¬ IsSmall 'Σ' := by decide

theorem isSmall_iff {c : Char} (hdotted : c ≠ '\u0130') :
    IsSmall c ↔ lowerCodePoint caseRuns c.toNat = c.toNat := by
  rw [IsSmall, lowerChar, if_neg hdotted, List.singleton_inj, ← Char.toNat_inj,
    toNat_ofNat_lowerCodePoint]

/-- Every other character than the capital I with a dot has one small form, which is a letter if the
character is. -/
theorem exists_lowerChar_eq {a : Char} (hdotted : a ≠ '\u0130') :
    ∃ c, lowerChar a = [c] ∧ IsSmall c ∧ isAlphanumeric c = isAlphanumeric a := by
  have hvalue := toNat_ofNat_lowerCodePoint a
  refine ⟨Char.ofNat (lowerCodePoint caseRuns a.toNat), by rw [lowerChar, if_neg hdotted], ?_⟩
  rcases lowerCodePoint_eq_or_mem a.toNat with heq | ⟨hcapital, hsmall⟩
  · rw [heq, Char.ofNat_toNat]
    exact ⟨(isSmall_iff hdotted).mpr heq, rfl⟩
  · obtain ⟨-, hcapitals, hsmalls⟩ := bits_capitals_smallForms
    constructor
    · rw [isSmall_iff, hvalue, lowerCodePoint_of_mem_smallForms hsmall]
      intro hc
      have hcode : lowerCodePoint caseRuns a.toNat = 0x130 := by
        rw [← hvalue, hc]
        rfl
      exact dotted_not_mem_smallForms (hcode ▸ hsmall)
    · rw [isAlphanumeric, isAlphanumeric, hvalue,
        inRanges_of_land_eq pairwise_alphanumericRanges hsmalls hsmall,
        inRanges_of_land_eq pairwise_alphanumericRanges hcapitals hcapital]

theorem isSmall_of_mem_lowerChar {a c : Char} (h : c ∈ lowerChar a) : IsSmall c := by
  by_cases hdotted : a = '\u0130'
  · subst hdotted
    have hboth : ∀ c ∈ lowerChar '\u0130', IsSmall c :=
      List.all_iff_forall_prop.mp (by decide)
    exact hboth c h
  · obtain ⟨d, hd, hsmall, -⟩ := exists_lowerChar_eq hdotted
    rw [hd, List.mem_singleton] at h
    exact h ▸ hsmall

/-- What a letter or a digit is lowered to: letters and digits, and a dot above. -/
theorem isAlphanumeric_of_mem_lowerChar {a c : Char} (ha : isAlphanumeric a = true)
    (h : c ∈ lowerChar a) : isAlphanumeric c = true ∨ c = '\u0307' := by
  by_cases hdotted : a = '\u0130'
  · subst hdotted
    rcases List.mem_cons.mp h with rfl | h
    · left
      decide
    · exact .inr (List.mem_singleton.mp h)
  · obtain ⟨d, hd, -, hsame⟩ := exists_lowerChar_eq hdotted
    rw [hd, List.mem_singleton] at h
    left
    rw [h, hsame, ha]

/-! ## Small texts -/

theorem lowerAfter_cons {c : Char} (h : c ≠ 'Σ') (before rest : List Char) :
    lowerAfter before (c :: rest) = lowerChar c ++ lowerAfter (c :: before) rest := by
  rw [lowerAfter, if_neg h]

theorem exists_lowerAfter_cons {c : Char} (hdotted : c ≠ '\u0130') (before rest : List Char) :
    ∃ s, lowerAfter before (c :: rest) = s :: lowerAfter (c :: before) rest ∧ IsSmall s ∧
      isAlphanumeric s = isAlphanumeric c := by
  by_cases hsigma : c = 'Σ'
  · subst hsigma
    have hforms : ∀ s ∈ ['ς', 'σ'], IsSmall s ∧ isAlphanumeric s = isAlphanumeric 'Σ' :=
      List.all_iff_forall_prop.mp (by decide)
    rw [lowerAfter, if_pos rfl]
    split
    · exact ⟨'ς', rfl, hforms _ (by decide)⟩
    · exact ⟨'σ', rfl, hforms _ (by decide)⟩
  · obtain ⟨s, hs, hsmall, hsame⟩ := exists_lowerChar_eq hdotted
    rw [lowerAfter_cons hsigma, hs]
    exact ⟨s, rfl, hsmall, hsame⟩

theorem isSmall_of_mem_lowercase {cs : List Char} {c : Char} (h : c ∈ lowercase cs) :
    IsSmall c := by
  have key : ∀ cs before, c ∈ lowerAfter before cs → IsSmall c := by
    intro cs
    induction cs with
    | nil => exact fun before h ↦ absurd h List.not_mem_nil
    | cons d cs ih =>
      intro before h
      rw [lowerAfter, List.mem_append] at h
      rcases h with h | h
      · split at h
        · have hsigmas : IsSmall 'ς' ∧ IsSmall 'σ' := by decide
          split at h
          · exact List.mem_singleton.mp h ▸ hsigmas.1
          · exact List.mem_singleton.mp h ▸ hsigmas.2
        · exact isSmall_of_mem_lowerChar h
      · exact ih _ h
  exact key cs [] h

theorem lowercase_of_isSmall {cs : List Char} (h : ∀ c ∈ cs, IsSmall c) : lowercase cs = cs := by
  have key : ∀ before, lowerAfter before cs = cs := by
    induction cs with
    | nil => exact fun _ ↦ rfl
    | cons c cs ih =>
      obtain ⟨hc, hcs⟩ := List.forall_mem_cons.mp h
      intro before
      have hsigma : c ≠ 'Σ' := fun heq ↦ not_isSmall_sigma (heq ▸ hc)
      rw [lowerAfter_cons hsigma, hc, ih hcs, List.singleton_append]
  exact key []

/-- **Lowering twice is lowering once.** -/
theorem lowercase_lowercase (cs : List Char) : lowercase (lowercase cs) = lowercase cs :=
  lowercase_of_isSmall fun _ ↦ isSmall_of_mem_lowercase

/-! ## The sigma at the end of a word -/

/-- A capital sigma stands at the end of a word: there is a cased character before it and none
after it, apart from those that do not count. -/
def HasFinalSigma (cs : List Char) : Prop :=
  ∃ before after, cs = before ++ 'Σ' :: after ∧
    startsCased before.reverse = true ∧ startsCased after = false

/-- Lowering differs from lowering character by character in the sigma at the end of a word. -/
theorem lowercase_eq_flatMap_iff {cs : List Char} :
    lowercase cs = cs.flatMap lowerChar ↔ ¬ HasFinalSigma cs := by
  -- what stands before the rest of the text counts for the first sigma in it
  have key : ∀ cs before, lowerAfter before cs = cs.flatMap lowerChar ↔
      ¬ ∃ front after, cs = front ++ 'Σ' :: after ∧
        startsCased (front.reverse ++ before) = true ∧ startsCased after = false := by
    intro cs
    induction cs with
    | nil => exact fun before ↦ iff_of_true rfl (by simp)
    | cons c cs ih =>
      intro before
      have hrest := ih (c :: before)
      have hfront : (∃ front after, c :: cs = front ++ 'Σ' :: after ∧
            startsCased (front.reverse ++ before) = true ∧ startsCased after = false) ↔
          (c = 'Σ' ∧ startsCased before = true ∧ startsCased cs = false) ∨
            ∃ front after, cs = front ++ 'Σ' :: after ∧
              startsCased (front.reverse ++ c :: before) = true ∧ startsCased after = false := by
        constructor
        · rintro ⟨front, after, hcs, hbefore, hafter⟩
          cases front with
          | nil =>
            obtain ⟨rfl, rfl⟩ := List.cons.inj hcs
            exact .inl ⟨rfl, hbefore, hafter⟩
          | cons d front =>
            obtain ⟨rfl, rfl⟩ := List.cons.inj hcs
            exact .inr ⟨front, after, rfl, by simpa using hbefore, hafter⟩
        · rintro (⟨rfl, hbefore, hafter⟩ | ⟨front, after, rfl, hbefore, hafter⟩)
          · exact ⟨[], cs, rfl, hbefore, hafter⟩
          · exact ⟨c :: front, after, rfl, by simpa using hbefore, hafter⟩
      have hsigma : lowerChar 'Σ' = ['σ'] := by decide
      rw [hfront, not_or, ← hrest, lowerAfter, List.flatMap_cons]
      by_cases hc : c = 'Σ'
      · subst hc
        rw [if_pos rfl, hsigma]
        by_cases hend : (startsCased before && !startsCased cs) = true
        · have hboth : startsCased before = true ∧ startsCased cs = false := by simpa using hend
          rw [if_pos hend]
          exact iff_of_false (fun h ↦ absurd (List.cons.inj h).1 (by decide))
            fun h ↦ h.1 ⟨rfl, hboth⟩
        · have hnot : ¬ (startsCased before = true ∧ startsCased cs = false) := by
            simpa using hend
          rw [if_neg hend, List.append_right_inj]
          exact ⟨fun h ↦ ⟨fun hsigma ↦ hnot hsigma.2, h⟩, And.right⟩
      · rw [if_neg hc, List.append_right_inj]
        simp [hc]
  simpa [lowercase, HasFinalSigma] using key cs []

instance (cs : List Char) : Decidable (HasFinalSigma cs) :=
  decidable_of_iff (lowercase cs ≠ cs.flatMap lowerChar) (by
    rw [ne_eq, lowercase_eq_flatMap_iff, not_not])

end ResourceSearch.Text
