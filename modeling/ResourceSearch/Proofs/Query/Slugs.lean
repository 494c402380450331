import ResourceSearch.Proofs.Query.ParsedFields

/-!
# Slugs and runs of letters and digits

A slug depends on nothing but the maximal runs of letters and digits in a label: it is these runs in
lower case, joined by dashes. So it does not change with what stands between the runs or around
them, as long as something stands between them.

## One pass

A slug is made in one pass, which keeps two facts about what it has read: whether there was a run,
and whether something has been passed over since. A dash is written when the next run begins. So
what has started is continued by a dash and the slug of the rest, if the rest has a slug at all
(`slugChars_started`), and the normal form follows run by run.

## Slugs of slugs

Small letters and digits are runs again, so a slug is its own slug as long as it is made of nothing
else between its dashes. The one exception is a capital I with a dot: its small form ends in a
combining dot, which is no letter, and which the slug of the slug passes over.
-/

namespace ResourceSearch.Query

/-! ## Runs -/

/-- A text without letters and digits. -/
def IsGap (cs : List Char) : Prop :=
  ∀ c ∈ cs, Text.isAlphanumeric c = false

instance : DecidablePred IsGap := fun cs ↦
  List.decidableBAll (Text.isAlphanumeric · = false) cs

/-- Some texts are the maximal runs of letters and digits in a text, in their order: no run is
empty, and where one ends there is no further letter or digit. -/
inductive HasRuns : List Char → List (List Char) → Prop
  | nil {gap : List Char} (hgap : IsGap gap) : HasRuns gap []
  | cons {gap run rest : List Char} {runs : List (List Char)} (hgap : IsGap gap) (hne : run ≠ [])
      (hrun : ∀ c ∈ run, Text.isAlphanumeric c = true)
      (hend : ∀ c ∈ rest.head?, Text.isAlphanumeric c = false) (hrest : HasRuns rest runs) :
      HasRuns (gap ++ (run ++ rest)) (run :: runs)

/-- The maximal runs of letters and digits in a text: what is left when it is cut at every other
character. -/
def runs (cs : List Char) : List (List Char) :=
  (cs.splitOnP fun c ↦ !Text.isAlphanumeric c).filter (· ≠ [])

theorem isGap_of_isBlank {cs : List Char} (h : ∀ c ∈ cs, Text.isBlank c = true) : IsGap cs :=
  fun c hc ↦ Text.isAlphanumeric_of_isBlank (h c hc)

theorem IsGap.append {gap gap' : List Char} (h : IsGap gap) (h' : IsGap gap') :
    IsGap (gap ++ gap') :=
  List.forall_mem_append.mpr ⟨h, h'⟩

namespace HasRuns

variable {cs gap after : List Char} {rs rs' : List (List Char)}

theorem gap_append (hgap : IsGap gap) (h : HasRuns cs rs) : HasRuns (gap ++ cs) rs := by
  cases h with
  | nil hgap' => exact .nil (hgap.append hgap')
  | cons hgap' hne hrun hend hrest =>
    rw [← List.append_assoc]
    exact .cons (hgap.append hgap') hne hrun hend hrest

theorem append (h : HasRuns cs rs) (hgap : IsGap gap) (hne : gap ≠ []) (h' : HasRuns after rs') :
    HasRuns (cs ++ (gap ++ after)) (rs ++ rs') := by
  induction h with
  | nil hgap' => exact (h'.gap_append hgap).gap_append hgap'
  | @cons gap' run rest rs hgap' hne' hrun hend _ ih =>
    have hend' : ∀ c ∈ (rest ++ (gap ++ after)).head?, Text.isAlphanumeric c = false := by
      cases rest with
      | nil =>
        rw [List.nil_append, List.head?_append_of_ne_nil gap hne]
        exact fun c hc ↦ hgap c (List.mem_of_mem_head? hc)
      | cons d rest => exact hend
    rw [List.append_assoc, List.append_assoc]
    exact .cons hgap' hne' hrun hend' ih

theorem append_gap (h : HasRuns cs rs) (hgap : IsGap gap) : HasRuns (cs ++ gap) rs := by
  by_cases hne : gap = []
  · rwa [hne, List.append_nil]
  · have hnil : HasRuns [] [] := .nil nofun
    have happend := h.append hgap hne hnil
    rwa [List.append_nil, List.append_nil] at happend

theorem ne_nil_of_mem (h : HasRuns cs rs) {run : List Char} (hmem : run ∈ rs) : run ≠ [] := by
  induction h with
  | nil => cases hmem
  | cons _ hne _ _ _ ih =>
    rcases List.mem_cons.mp hmem with rfl | hmem
    · exact hne
    · exact ih hmem

theorem isAlphanumeric_of_mem (h : HasRuns cs rs) {run : List Char} (hmem : run ∈ rs) {c : Char}
    (hc : c ∈ run) : c ∈ cs ∧ Text.isAlphanumeric c = true := by
  induction h with
  | nil => cases hmem
  | cons _ _ hrun _ _ ih =>
    rw [List.mem_append, List.mem_append]
    rcases List.mem_cons.mp hmem with rfl | hmem
    · exact ⟨.inr (.inl hc), hrun c hc⟩
    · exact (ih hmem).imp_left fun hrest ↦ .inr (.inr hrest)

end HasRuns

/-- A letter or a digit begins a run of its own, or prolongs the run that follows it. -/
theorem HasRuns.exists_cons {c : Char} {cs : List Char} {rs : List (List Char)}
    (hc : Text.isAlphanumeric c = true) (h : HasRuns cs rs) : ∃ rs', HasRuns (c :: cs) rs' := by
  have hnone : IsGap [] := nofun
  by_cases hend : ∀ d ∈ cs.head?, Text.isAlphanumeric d = false
  · have hsingle : ∀ d ∈ [c], Text.isAlphanumeric d = true := by simpa using hc
    exact ⟨[c] :: rs, .cons hnone (List.cons_ne_nil c []) hsingle hend h⟩
  · cases h with
    | nil hgap => exact absurd (fun d hd ↦ hgap d (List.mem_of_mem_head? hd)) hend
    | @cons gap run rest rs hgap hne hrun hend' hrest =>
      cases gap with
      | nil => exact ⟨(c :: run) :: rs, .cons hnone (List.cons_ne_nil c run)
          (List.forall_mem_cons.mpr ⟨hc, hrun⟩) hend' hrest⟩
      | cons d gap => exact absurd (by simpa using hgap d List.mem_cons_self) hend

theorem exists_hasRuns (cs : List Char) : ∃ rs, HasRuns cs rs := by
  induction cs with
  | nil => exact ⟨[], .nil nofun⟩
  | cons c cs ih =>
    obtain ⟨rs, h⟩ := ih
    by_cases hc : Text.isAlphanumeric c = true
    · exact h.exists_cons hc
    · have hgap : IsGap [c] := by simpa [IsGap] using hc
      exact ⟨rs, h.gap_append hgap⟩

/-! ### The runs computed -/

theorem runs_append_cons {c : Char} (hc : Text.isAlphanumeric c = false)
    (before after : List Char) : runs (before ++ c :: after) = runs before ++ runs after := by
  rw [runs, List.splitOnP_append_cons before after (by simp [hc]), List.filter_append]
  rfl

theorem runs_gap_append {gap : List Char} (h : IsGap gap) (rest : List Char) :
    runs (gap ++ rest) = runs rest := by
  induction gap with
  | nil => rfl
  | cons c gap ih =>
    obtain ⟨hc, hgap⟩ := List.forall_mem_cons.mp h
    exact (runs_append_cons hc [] (gap ++ rest)).trans (ih hgap)

theorem runs_run_append {run rest : List Char} (hne : run ≠ [])
    (hrun : ∀ c ∈ run, Text.isAlphanumeric c = true)
    (hend : ∀ c ∈ rest.head?, Text.isAlphanumeric c = false) :
    runs (run ++ rest) = run :: runs rest := by
  have hself : runs run = [run] := by
    rw [runs, List.splitOnP_eq_singleton fun c hc ↦ by rw [hrun c hc]; rfl]
    exact List.filter_cons_of_pos (by simpa using hne)
  cases rest with
  | nil =>
    rw [List.append_nil, hself]
    rfl
  | cons c rest =>
    have hc := hend c rfl
    have hskip := runs_append_cons hc [] rest
    rw [runs_append_cons hc, hself]
    exact congrArg (run :: ·) hskip.symm

theorem HasRuns.eq_runs {cs : List Char} {rs : List (List Char)} (h : HasRuns cs rs) :
    rs = runs cs := by
  induction h with
  | nil hgap =>
    have hnone := runs_gap_append hgap []
    rw [List.append_nil] at hnone
    exact hnone.symm
  | cons hgap hne hrun hend _ ih => rw [runs_gap_append hgap, runs_run_append hne hrun hend, ← ih]

/-- A text has its maximal runs in one way. -/
theorem hasRuns_iff {cs : List Char} {rs : List (List Char)} : HasRuns cs rs ↔ rs = runs cs := by
  constructor
  · exact HasRuns.eq_runs
  · rintro rfl
    obtain ⟨rs, h⟩ := exists_hasRuns cs
    exact h.eq_runs ▸ h

instance (cs : List Char) (rs : List (List Char)) : Decidable (HasRuns cs rs) :=
  decidable_of_iff (rs = runs cs) hasRuns_iff.symm

/-! ## The normal form -/

section

variable {started pending : Bool} {cs gap run rest : List Char} {rs : List (List Char)}

theorem slugChars_gap_append (h : IsGap gap) :
    slugChars started pending (gap ++ rest)
      = slugChars started (pending || !gap.isEmpty) rest := by
  induction gap generalizing pending with
  | nil => simp
  | cons c gap ih =>
    obtain ⟨hc, hgap⟩ := List.forall_mem_cons.mp h
    rw [List.cons_append, slugChars, if_neg (by simp [hc]), ih hgap]
    simp

theorem slugChars_run_append (hne : run ≠ []) (hrun : ∀ c ∈ run, Text.isAlphanumeric c = true) :
    slugChars started pending (run ++ rest)
      = (if started && pending then ['-'] else []) ++ run.flatMap Text.lowerChar ++
          slugChars true false rest := by
  induction run generalizing started pending with
  | nil => exact absurd rfl hne
  | cons c run ih =>
    obtain ⟨hc, hrun⟩ := List.forall_mem_cons.mp hrun
    rw [List.cons_append, slugChars, if_pos hc]
    by_cases hlast : run = []
    · subst hlast
      simp
    · rw [ih hlast hrun]
      simp

theorem slugChars_not_started (pending' : Bool) :
    slugChars false pending cs = slugChars false pending' cs := by
  induction cs generalizing pending with
  | nil => rfl
  | cons c cs ih =>
    rw [slugChars, slugChars]
    rfl

/-- What has started goes on with a dash and the slug of the rest, if there is one. -/
theorem slugChars_started
    (h : pending = true ∨ ∀ c ∈ cs.head?, Text.isAlphanumeric c = false) :
    slugChars true pending cs
      = if slugChars false false cs = [] then [] else '-' :: slugChars false false cs := by
  induction cs generalizing pending with
  | nil => rfl
  | cons c cs ih =>
    by_cases hc : Text.isAlphanumeric c = true
    · have hpending : pending = true := h.resolve_right fun hend ↦ by simpa [hc] using hend c rfl
      have hne : Text.lowerChar c ++ slugChars true false cs ≠ [] := by
        simp [Text.lowerChar_ne_nil]
      subst hpending
      rw [slugChars, slugChars, if_pos hc, if_pos hc]
      exact (if_neg hne).symm
    · rw [slugChars, slugChars, if_neg hc, if_neg hc, ih (.inl rfl), slugChars_not_started]

theorem HasRuns.slugChars_ne_nil (h : HasRuns cs (run :: rs)) :
    slugChars false pending cs ≠ [] := by
  cases h with
  | cons hgap hne hrun hend hrest =>
    obtain ⟨c, run, rfl⟩ := List.exists_cons_of_ne_nil hne
    rw [slugChars_gap_append hgap, slugChars_run_append hne hrun]
    simp [Text.lowerChar_ne_nil]

/-- A slug is the maximal runs in lower case, joined by dashes. -/
theorem HasRuns.slugChars_eq (h : HasRuns cs rs) :
    slugChars false pending cs = ['-'].intercalate (rs.map (List.flatMap Text.lowerChar)) := by
  induction h generalizing pending with
  | @nil gap hgap =>
    rw [← List.append_nil gap, slugChars_gap_append hgap]
    rfl
  | @cons gap run rest rs hgap hne hrun hend hrest ih =>
    rw [slugChars_gap_append hgap, slugChars_run_append hne hrun, slugChars_started (.inr hend),
      List.map_cons]
    cases rs with
    | nil => simp [ih]
    | cons next rs =>
      rw [if_neg hrest.slugChars_ne_nil, ih,
        List.intercalate_cons_of_ne_nil (by simp)]
      simp

end

theorem HasRuns.slug_eq {label : String} {rs : List (List Char)} (h : HasRuns label.toList rs) :
    (slug label).toList = ['-'].intercalate (rs.map (List.flatMap Text.lowerChar)) := by
  rw [toList_slug, h.slugChars_eq]

theorem slug_eq_of_hasRuns {label label' : String} {rs : List (List Char)}
    (h : HasRuns label.toList rs) (h' : HasRuns label'.toList rs) : slug label = slug label' := by
  rw [← String.toList_inj, h.slug_eq, h'.slug_eq]

/-- What surrounds a label is no part of its slug. -/
theorem slug_of_gaps {gap gap' : String} (hgap : IsGap gap.toList) (hgap' : IsGap gap'.toList)
    (label : String) : slug (gap ++ label ++ gap') = slug label := by
  obtain ⟨rs, h⟩ := exists_hasRuns label.toList
  have hall : HasRuns (gap ++ label ++ gap').toList rs := by
    rw [String.toList_append, String.toList_append]
    exact (h.gap_append hgap).append_gap hgap'
  exact slug_eq_of_hasRuns hall h

theorem slug_of_gap_between {gap gap' : String} (hgap : IsGap gap.toList)
    (hgap' : IsGap gap'.toList) (hne : gap ≠ "") (hne' : gap' ≠ "") (before after : String) :
    slug (before ++ gap ++ after) = slug (before ++ gap' ++ after) := by
  obtain ⟨rs, h⟩ := exists_hasRuns before.toList
  obtain ⟨rs', h'⟩ := exists_hasRuns after.toList
  have hall : ∀ {gap : String}, IsGap gap.toList → gap ≠ "" →
      HasRuns (before ++ gap ++ after).toList (rs ++ rs') := by
    intro gap hgap hne
    rw [String.toList_append, String.toList_append, List.append_assoc]
    exact h.append hgap (by simpa using hne) h'
  exact slug_eq_of_hasRuns (hall hgap hne) (hall hgap' hne')

theorem slug_trim (label : String) :
    slug (String.ofList (Text.trim label.toList)) = slug label := by
  obtain ⟨before, after, hlabel, hbefore, hafter⟩ := exists_eq_trim label.toList
  obtain ⟨rs, h⟩ := exists_hasRuns (Text.trim label.toList)
  have hall : HasRuns label.toList rs := by
    rw [hlabel]
    exact (h.gap_append (isGap_of_isBlank hbefore)).append_gap (isGap_of_isBlank hafter)
  refine slug_eq_of_hasRuns ?_ hall
  rwa [String.toList_ofList]

/-! ## What no slug holds -/

/-- A slug is made of letters, digits and dashes, and of dots that stand above letters. -/
theorem mem_slug {label : String} {c : Char} (h : c ∈ (slug label).toList) :
    Text.isAlphanumeric c = true ∨ c = '-' ∨ c = '\u0307' := by
  rw [toList_slug] at h
  rcases mem_slugChars h with h | ⟨a, -, ha, hc⟩
  · exact .inr (.inl h)
  · exact (Text.isAlphanumeric_of_mem_lowerChar ha hc).imp_right .inr

theorem underscore_not_mem_slug (label : String) : '_' ∉ (slug label).toList :=
  fun h ↦ absurd (mem_slug h) (by decide)

theorem dash_not_mem_lowerChar {c : Char} (hc : Text.isAlphanumeric c = true) :
    '-' ∉ Text.lowerChar c := by
  intro hmem
  rcases Text.isAlphanumeric_of_mem_lowerChar hc hmem with h | h
  · exact absurd h (by decide)
  · exact absurd h (by decide)

theorem flatMap_lowerChar_ne_nil {run : List Char} (hne : run ≠ []) :
    run.flatMap Text.lowerChar ≠ [] := by
  obtain ⟨c, run, rfl⟩ := List.exists_cons_of_ne_nil hne
  simp [Text.lowerChar_ne_nil]

/-- Dashes stand alone within a text if it has something between them and at either end. -/
theorem not_dashes_of_splitOn {cs : List Char} (h : [] ∉ cs.splitOn '-') :
    ¬ ['-'] <+: cs ∧ ¬ ['-'] <:+ cs ∧ ¬ ['-', '-'] <:+: cs := by
  refine ⟨?_, ?_, ?_⟩
  · rintro ⟨rest, rfl⟩
    exact h (by simp [List.splitOn_cons_eq_if_modifyHead])
  · rintro ⟨front, rfl⟩
    exact h (by simp [List.splitOn_append_cons_self])
  · rintro ⟨front, rest, rfl⟩
    refine h ?_
    rw [List.append_assoc, List.cons_append, List.splitOn_append_cons_self]
    simp [List.splitOn_cons_eq_if_modifyHead]

theorem not_dashes_slug (label : String) :
    ¬ ['-'] <+: (slug label).toList ∧ ¬ ['-'] <:+ (slug label).toList ∧
      ¬ ['-', '-'] <:+: (slug label).toList := by
  obtain ⟨rs, h⟩ := exists_hasRuns label.toList
  rw [h.slug_eq]
  by_cases hnone : rs = []
  · simp [hnone]
  · refine not_dashes_of_splitOn ?_
    rw [List.splitOn_intercalate '-' ?_ (by simpa using hnone)]
    · rw [List.mem_map]
      rintro ⟨run, hrun, hempty⟩
      exact flatMap_lowerChar_ne_nil (h.ne_nil_of_mem hrun) hempty
    · rw [List.forall_mem_map]
      intro run hrun
      rw [List.mem_flatMap]
      rintro ⟨c, hc, hdash⟩
      exact dash_not_mem_lowerChar (h.isAlphanumeric_of_mem hrun hc).2 hdash

/-- **A slug is made of the runs of its label.** The maximal runs of letters and digits of a label,
each in lower case and joined by single dashes, are its slug. So the slug stays the same when
something else than letters and digits is added at either end or is put in the place of something
else than letters and digits, and a slug holds no dash at its ends or next to another one, no white
space and no punctuation of queries. -/
theorem slug_eq_intercalate_runs (label : String) :
    (∀ rs, HasRuns label.toList rs ↔ rs = runs label.toList) ∧
    (slug label).toList
        = ['-'].intercalate ((runs label.toList).map (List.flatMap Text.lowerChar)) ∧
    (∀ gap gap' : String, IsGap gap.toList → IsGap gap'.toList →
      slug (gap ++ label ++ gap') = slug label) ∧
    (∀ before gap gap' after : String, label = before ++ gap ++ after →
      IsGap gap.toList → gap ≠ "" → IsGap gap'.toList → gap' ≠ "" →
        slug (before ++ gap' ++ after) = slug label) ∧
    (¬ ['-'] <+: (slug label).toList ∧ ¬ ['-'] <:+ (slug label).toList ∧
      ¬ ['-', '-'] <:+: (slug label).toList) ∧
    ∀ c ∈ (slug label).toList,
      Text.isBlank c = false ∧ c ∉ ['"', '\'', ':', '/', '\\', '(', ')'] := by
  refine ⟨fun rs ↦ hasRuns_iff, (hasRuns_iff.mpr rfl).slug_eq, ?_, ?_, not_dashes_slug label, ?_⟩
  · exact fun gap gap' hgap hgap' ↦ slug_of_gaps hgap hgap' label
  · rintro before gap gap' after rfl hgap hne hgap' hne'
    exact slug_of_gap_between hgap' hgap hne' hne before after
  · intro c hc
    have hmarks : ∀ d ∈ ['"', '\'', ':', '/', '\\', '(', ')'], Text.isAlphanumeric d = false :=
      List.all_iff_forall_prop.mp (by decide)
    rcases mem_slug hc with halpha | rfl | rfl
    · refine ⟨Text.isBlank_of_isAlphanumeric halpha, fun hmem ↦ ?_⟩
      rw [hmarks c hmem] at halpha
      cases halpha
    · decide
    · decide

/-- A label with a capital that has two small characters, and with marks in several places. -/
def dottedLabel : String := "«İD» & Σ2"

theorem slug_dottedLabel :
    HasRuns dottedLabel.toList ["İD".toList, "Σ2".toList] ∧ IsGap "-- ".toList ∧ IsGap "?!".toList ∧
      dottedLabel = "«İD" ++ "» & " ++ "Σ2" ∧ IsGap "» & ".toList ∧ IsGap "/".toList ∧
      slug dottedLabel = "i\u0307d-σ2" ∧
      slug ("-- " ++ dottedLabel ++ "?!") = "i\u0307d-σ2" ∧
      slug ("«İD" ++ "/" ++ "Σ2") = "i\u0307d-σ2" := by
  obtain ⟨hruns, hslug, hends, hbetween, -⟩ := slug_eq_intercalate_runs dottedLabel
  have hrs : HasRuns dottedLabel.toList ["İD".toList, "Σ2".toList] := by decide
  have hbefore : IsGap "-- ".toList := by decide
  have hafter : IsGap "?!".toList := by decide
  have hcut : dottedLabel = "«İD" ++ "» & " ++ "Σ2" := by decide
  have hgap : IsGap "» & ".toList := by decide
  have hgap' : IsGap "/".toList := by decide
  have hvalue : slug dottedLabel = "i\u0307d-σ2" := by
    rw [← String.toList_inj, hslug, ← (hruns _).mp hrs]
    decide
  refine ⟨hrs, hbefore, hafter, hcut, hgap, hgap', hvalue, ?_, ?_⟩
  · rw [hends _ _ hbefore hafter, hvalue]
  · rw [hbetween _ _ _ _ hcut hgap (by decide) hgap' (by decide), hvalue]

/-! ## Slugs of slugs -/

theorem isSmall_of_mem_slug {label : String} {c : Char} (h : c ∈ (slug label).toList) :
    Text.IsSmall c := by
  rw [toList_slug] at h
  rcases mem_slugChars h with rfl | ⟨a, -, -, hc⟩
  · decide
  · exact Text.isSmall_of_mem_lowerChar hc

theorem flatMap_lowerChar_of_isSmall {cs : List Char} (h : ∀ c ∈ cs, Text.IsSmall c) :
    cs.flatMap Text.lowerChar = cs := by
  calc cs.flatMap Text.lowerChar
      = cs.flatMap fun c ↦ [c] := List.flatMap_congr h
    _ = cs := List.flatMap_singleton' cs

theorem hasRuns_intercalate {parts : List (List Char)} (hne : ∀ part ∈ parts, part ≠ [])
    (hparts : ∀ part ∈ parts, ∀ c ∈ part, Text.isAlphanumeric c = true) :
    HasRuns (['-'].intercalate parts) parts := by
  have hnone : IsGap [] := nofun
  induction parts with
  | nil => exact .nil hnone
  | cons part parts ih =>
    obtain ⟨hpart, hne⟩ := List.forall_mem_cons.mp hne
    obtain ⟨halpha, hparts⟩ := List.forall_mem_cons.mp hparts
    cases parts with
    | nil =>
      have hrun : HasRuns ([] ++ (part ++ [])) [part] :=
        .cons hnone hpart halpha (by simp) (.nil hnone)
      rw [List.intercalate_singleton]
      rwa [List.nil_append, List.append_nil] at hrun
    | cons next parts =>
      have hdash : IsGap ['-'] := by decide
      rw [List.intercalate_cons_cons, List.append_assoc]
      refine .cons hnone hpart halpha (fun c hc ↦ hdash c ?_) ((ih hne hparts).gap_append hdash)
      exact List.mem_singleton.mpr (Option.some.inj hc).symm

/-- Apart from dashes, a slug is made of the small forms of the letters and digits, in their
order. -/
theorem filter_slugChars {started pending : Bool} {cs : List Char} :
    (slugChars started pending cs).filter (· ≠ '-')
      = (cs.filter Text.isAlphanumeric).flatMap Text.lowerChar := by
  induction cs generalizing started pending with
  | nil => rfl
  | cons c cs ih =>
    rw [slugChars, List.filter_cons]
    split
    · rename_i hc
      have hdash := dash_not_mem_lowerChar hc
      have hself : (Text.lowerChar c).filter (· ≠ '-') = Text.lowerChar c := by
        refine List.filter_eq_self.mpr fun d hd ↦ ?_
        simp only [ne_eq, decide_not, Bool.not_eq_true', decide_eq_false_iff_not]
        rintro rfl
        exact hdash hd
      have hfront : (if started && pending then ['-'] else []).filter (· ≠ '-') = [] := by
        split <;> rfl
      rw [List.filter_append, List.filter_append, hself, hfront, ih, List.nil_append,
        List.flatMap_cons]
    · exact ih

/-- The dot of a capital I is kept in a slug only as part of its small form. -/
theorem dot_mem_slugChars_iff {started pending : Bool} {cs : List Char} :
    '\u0307' ∈ slugChars started pending cs ↔ '\u0130' ∈ cs := by
  have hmark : Text.isAlphanumeric '\u0307' = false := by decide
  have hletter : Text.isAlphanumeric '\u0130' = true := by decide
  have hkept : '\u0307' ∈ slugChars started pending cs ↔
      '\u0307' ∈ (slugChars started pending cs).filter (· ≠ '-') := by
    rw [List.mem_filter]
    exact (and_iff_left (by decide)).symm
  rw [hkept, filter_slugChars, List.mem_flatMap]
  constructor
  · rintro ⟨a, ha, hmem⟩
    obtain ⟨ha, halpha⟩ := List.mem_filter.mp ha
    by_contra hdotted
    obtain ⟨d, hd, -, hsame⟩ := Text.exists_lowerChar_eq fun heq ↦ hdotted (heq ▸ ha)
    rw [hd, List.mem_singleton] at hmem
    rw [← hsame, ← hmem, hmark] at halpha
    cases halpha
  · intro hdotted
    exact ⟨'\u0130', List.mem_filter.mpr ⟨hdotted, hletter⟩, by decide⟩

theorem slug_slug_of_not_mem {label : String} (h : '\u0130' ∉ label.toList) :
    slug (slug label) = slug label := by
  obtain ⟨rs, hrs⟩ := exists_hasRuns label.toList
  have hsmall : HasRuns (slug label).toList (rs.map (List.flatMap Text.lowerChar)) := by
    rw [hrs.slug_eq]
    refine hasRuns_intercalate ?_ ?_
    · rw [List.forall_mem_map]
      exact fun run hrun ↦ flatMap_lowerChar_ne_nil (hrs.ne_nil_of_mem hrun)
    · rw [List.forall_mem_map]
      intro run hrun c hc
      obtain ⟨a, ha, hca⟩ := List.mem_flatMap.mp hc
      obtain ⟨hmem, halpha⟩ := hrs.isAlphanumeric_of_mem hrun ha
      obtain ⟨d, hd, -, hsame⟩ := Text.exists_lowerChar_eq fun heq ↦ h (heq ▸ hmem)
      rw [hd, List.mem_singleton] at hca
      rw [hca, hsame, halpha]
  rw [← String.toList_inj, hsmall.slug_eq, hrs.slug_eq, List.map_map]
  congr 1
  refine List.map_congr_left fun run hrun ↦ flatMap_lowerChar_of_isSmall fun c hc ↦ ?_
  obtain ⟨a, -, hca⟩ := List.mem_flatMap.mp hc
  exact Text.isSmall_of_mem_lowerChar hca

/-- **Which slugs are their own slugs**: those of labels without a capital I with a dot. A second
slug is always its own slug. -/
theorem slug_slug_iff (label : String) :
    (slug (slug label) = slug label ↔ '\u0130' ∉ label.toList) ∧
      slug (slug (slug label)) = slug (slug label) := by
  have hsmall : '\u0130' ∉ (slug label).toList := fun hmem ↦
    Text.not_isSmall_dotted (isSmall_of_mem_slug hmem)
  refine ⟨⟨fun hsame hdotted ↦ hsmall ?_, slug_slug_of_not_mem⟩, slug_slug_of_not_mem hsmall⟩
  -- the dot that the label leaves in its slug would have to come from such a capital again
  rw [← dot_mem_slugChars_iff, ← toList_slug, hsame, toList_slug, dot_mem_slugChars_iff]
  exact hdotted

/-- The dot of the capital is kept in the slug, and passed over in the slug of the slug. -/
theorem slug_slug_ne_slug_dotted :
    slug "İs" = "i\u0307s" ∧ slug (slug "İs") = "i-s" ∧ slug (slug "İs") ≠ slug "İs" := by
  decide

end ResourceSearch.Query
