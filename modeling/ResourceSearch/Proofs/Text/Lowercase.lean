import Mathlib.Data.List.Basic
import ResourceSearch.Text.Lowercase

/-!
# What lower case makes of ASCII

The small form of a character is the character itself, a small letter of ASCII, or a character
beyond ASCII: no mark of ASCII is the small form of anything else. The table of capitals decides
that, run by run; everything else follows from membership.
-/

namespace ResourceSearch.Text

/-- A code point is its own small form, or is a capital of one of the runs and moved by its
offset. -/
theorem lowerCodePoint_cases (runs : List CaseRun) (n : ℕ) :
    lowerCodePoint runs n = n ∨
      ∃ run ∈ runs, (run.first ≤ n ∧ n ≤ run.last ∧ (n - run.first) % run.stride = 0) ∧
        lowerCodePoint runs n = (n + run.offset).toNat := by
  induction runs with
  | nil => exact .inl rfl
  | cons run rest ih =>
    have htail : lowerCodePoint rest n = n ∨
        ∃ r ∈ run :: rest, (r.first ≤ n ∧ n ≤ r.last ∧ (n - r.first) % r.stride = 0) ∧
          lowerCodePoint rest n = (n + r.offset).toNat := by
      rcases ih with h | ⟨r, hr, h⟩
      · exact .inl h
      · exact .inr ⟨r, List.mem_cons_of_mem run hr, h⟩
    rw [lowerCodePoint]
    split
    · exact .inl rfl
    · rename_i hfirst
      split
      · rename_i hlast
        split
        · rename_i hstride
          exact .inr ⟨run, List.mem_cons_self, ⟨Nat.le_of_not_lt hfirst, hlast, hstride⟩, rfl⟩
        · exact htail
      · exact htail

/-- The small forms in the table: small letters of ASCII, or scalar values beyond ASCII. -/
theorem caseRuns_range : ∀ run ∈ caseRuns,
    (97 ≤ run.first + run.offset ∧ run.last + run.offset ≤ 122) ∨
      (128 ≤ run.first + run.offset ∧ run.last + run.offset < 0xD800) ∨
      (0xE000 ≤ run.first + run.offset ∧ run.last + run.offset < 0x110000) := by
  decide +kernel

theorem toNat_ofNat_lowerCodePoint (c : Char) :
    (Char.ofNat (lowerCodePoint caseRuns c.toNat)).toNat = lowerCodePoint caseRuns c.toNat := by
  rcases lowerCodePoint_cases caseRuns c.toNat with heq | ⟨run, hrun, ⟨hfirst, hlast, -⟩, heq⟩
  · rw [heq, Char.ofNat_toNat]
  · have hvalid : (lowerCodePoint caseRuns c.toNat).isValidChar := by
      have := caseRuns_range run hrun
      rw [heq, Nat.isValidChar]
      omega
    rw [Char.ofNat, dif_pos hvalid]
    rfl

/-- **Marks of ASCII come from nowhere else.** -/
theorem mem_lowerChar {a c : Char} (h : c ∈ lowerChar a) :
    c = a ∨ (97 ≤ c.toNat ∧ c.toNat ≤ 122) ∨ 128 ≤ c.toNat := by
  rw [lowerChar] at h
  split at h
  · right
    rcases List.mem_cons.mp h with rfl | h
    · left; decide
    · rw [List.mem_singleton] at h
      subst h
      right; decide
  · rw [List.mem_singleton] at h
    subst h
    have hvalue := toNat_ofNat_lowerCodePoint a
    rcases lowerCodePoint_cases caseRuns a.toNat with heq | ⟨run, hrun, ⟨hfirst, hlast, -⟩, heq⟩
    · left
      rw [heq, Char.ofNat_toNat]
    · right
      have := caseRuns_range run hrun
      omega

theorem mem_lowercase {c : Char} {cs : List Char} (hself : lowerChar c = [c]) (hsigma : c ≠ 'Σ')
    (h : c ∈ cs) : c ∈ lowercase cs := by
  have key : ∀ before : List Char, c ∈ lowerAfter before cs := by
    induction cs with
    | nil => simp at h
    | cons d cs ih =>
      intro before
      rw [lowerAfter, List.mem_append]
      rcases List.mem_cons.mp h with rfl | h
      · left
        rw [if_neg hsigma, hself]
        exact List.mem_singleton_self c
      · exact .inr (ih h (d :: before))
  exact key []

end ResourceSearch.Text
