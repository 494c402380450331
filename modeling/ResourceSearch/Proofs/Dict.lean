import ResourceSearch.Dict

/-!
# Looking up in merged dictionaries

Entries are written one after the other, so the last of a key stays. A dictionary has each key
once: written over another one, it takes precedence key by key. As its keys are in order, it is
determined by what lies under each of them.
-/

namespace ResourceSearch

variable {κ α : Type} [LT κ] [DecidableEq κ]

omit [LT κ] in
theorem Entries.get?_cons_self (key : κ) (value : α) (rest : List (κ × α)) :
    Entries.get? key ((key, value) :: rest) = some value := if_pos rfl

omit [LT κ] in
theorem Entries.get?_cons_of_ne {key k : κ} (h : k ≠ key) (value : α) (rest : List (κ × α)) :
    Entries.get? key ((k, value) :: rest) = Entries.get? key rest := if_neg h

omit [LT κ] in
theorem Entries.get?_eq_none {key : κ} {entries : List (κ × α)}
    (h : ∀ entry ∈ entries, entry.1 ≠ key) : Entries.get? key entries = none := by
  induction entries with
  | nil => rfl
  | cons entry rest ih =>
    obtain ⟨hentry, hrest⟩ := List.forall_mem_cons.mp h
    rw [Entries.get?, if_neg hentry]
    exact ih hrest

omit [LT κ] in
theorem Entries.isSome_get?_iff {key : κ} {entries : List (κ × α)} :
    (Entries.get? key entries).isSome ↔ key ∈ entries.map Prod.fst := by
  induction entries with
  | nil => simp
  | cons entry rest ih =>
    obtain ⟨k, v⟩ := entry
    rw [Entries.get?, List.map_cons, List.mem_cons]
    by_cases hk : k = key
    · rw [if_pos hk]
      exact iff_of_true rfl (.inl hk.symm)
    · rw [if_neg hk, ih]
      exact (or_iff_right fun h ↦ hk h.symm).symm

omit [LT κ] in
theorem Entries.get?_append (key : κ) (first second : List (κ × α)) :
    Entries.get? key (first ++ second) = (Entries.get? key first).or (Entries.get? key second) := by
  induction first with
  | nil => rfl
  | cons entry rest ih =>
    obtain ⟨k, v⟩ := entry
    rw [List.cons_append, Entries.get?, Entries.get?, ih]
    by_cases hk : k = key
    · rw [if_pos hk, if_pos hk]
      rfl
    · rw [if_neg hk, if_neg hk]

variable [KeyOrder κ]

theorem Entries.get?_eq_none_of_lt {key : κ} {entries : List (κ × α)}
    (h : ∀ entry ∈ entries, key < entry.1) : Entries.get? key entries = none := by
  refine get?_eq_none fun entry hentry ↦ ?_
  rintro rfl
  exact KeyOrder.lt_irrefl _ (h entry hentry)

theorem Entries.not_lt_of_get?_eq_some {key k : κ} {value v : α} {rest : List (κ × α)}
    (hsorted : Entries.Sorted ((k, v) :: rest))
    (h : Entries.get? key ((k, v) :: rest) = some value) : ¬ key < k := by
  intro hlt
  have hnone : get? key ((k, v) :: rest) = none :=
    get?_eq_none_of_lt (List.forall_mem_cons.mpr
      ⟨hlt, fun entry hentry ↦
        KeyOrder.lt_trans hlt ((List.pairwise_cons.mp hsorted).1 entry hentry)⟩)
  rw [hnone] at h
  cases h

/-- Entries with keys in order are determined by what lies under each key. -/
theorem Entries.eq_of_get?_eq {first second : List (κ × α)} (hfirst : Entries.Sorted first)
    (hsecond : Entries.Sorted second)
    (h : ∀ key, Entries.get? key first = Entries.get? key second) : first = second := by
  induction first generalizing second with
  | nil =>
    cases second with
    | nil => rfl
    | cons entry rest =>
      have hentry := h entry.1
      rw [get?_nil, get?_cons_self] at hentry
      cases hentry
  | cons entry rest ih =>
    obtain ⟨k, v⟩ := entry
    have hvalue := h k
    rw [get?_cons_self] at hvalue
    cases second with
    | nil => cases hvalue
    | cons entry' rest' =>
      obtain ⟨k', v'⟩ := entry'
      have hvalue' := h k'
      rw [get?_cons_self k' v'] at hvalue'
      -- Neither list can start before the other one.
      have hkey : k = k' := Decidable.byContradiction fun hne ↦
        (KeyOrder.lt_or_lt_of_ne hne).elim (not_lt_of_get?_eq_some hsecond hvalue.symm)
          (not_lt_of_get?_eq_some hfirst hvalue')
      subst hkey
      rw [get?_cons_self, Option.some.injEq] at hvalue
      subst hvalue
      obtain ⟨hk, hrest⟩ := List.pairwise_cons.mp hfirst
      obtain ⟨hk', hrest'⟩ := List.pairwise_cons.mp hsecond
      rw [ih hrest hrest' fun key ↦ ?_]
      by_cases hkey : k = key
      · subst hkey
        rw [get?_eq_none_of_lt hk, get?_eq_none_of_lt hk']
      · have hother := h key
        rw [get?_cons_of_ne hkey, get?_cons_of_ne hkey] at hother
        exact hother

theorem Dict.ext_get? {d d' : Dict κ α} (h : ∀ key, d.get? key = d'.get? key) : d = d' :=
  Dict.ext (Entries.eq_of_get?_eq d.sorted d'.sorted h)

variable [DecidableLT κ]

/-- Of what is written under a key the last value stays. -/
theorem Dict.get?_insertAll (d : Dict κ α) (added : List (κ × α)) (key : κ) :
    (d.insertAll added).get? key = (Entries.get? key added.reverse).or (d.get? key) := by
  induction added generalizing d with
  | nil => rfl
  | cons entry rest ih =>
    obtain ⟨k, v⟩ := entry
    have htail : (d.insertAll ((k, v) :: rest)).get? key
        = (Entries.get? key rest.reverse).or ((d.insert k v).get? key) := ih (d.insert k v)
    rw [htail, List.reverse_cons, Entries.get?_append, Option.or_assoc, Entries.get?]
    by_cases hkey : k = key
    · rw [if_pos hkey, hkey, Dict.get?_insert_self]
      rfl
    · rw [if_neg hkey, Dict.get?_insert_of_ne d fun heq ↦ hkey heq.symm]
      rfl

theorem Dict.get?_ofList (entries : List (κ × α)) (key : κ) :
    (Dict.ofList entries).get? key = Entries.get? key entries.reverse := by
  rw [Dict.ofList, Dict.get?_insertAll, Dict.get?_empty, Option.or_none]

theorem Dict.get?_insertAll_of_sorted {added : List (κ × α)} (h : Entries.Sorted added)
    (d : Dict κ α) (key : κ) :
    (d.insertAll added).get? key = (Entries.get? key added).or (d.get? key) := by
  induction added generalizing d with
  | nil => rfl
  | cons entry rest ih =>
    obtain ⟨k, v⟩ := entry
    obtain ⟨hk, hrest⟩ := List.pairwise_cons.mp h
    have htail : (d.insertAll ((k, v) :: rest)).get? key
        = (Entries.get? key rest).or ((d.insert k v).get? key) := ih hrest (d.insert k v)
    rw [htail, Entries.get?]
    by_cases hkey : k = key
    · subst hkey
      -- the keys after `k` are greater, so none of them writes over it
      rw [Entries.get?_eq_none_of_lt hk, Dict.get?_insert_self, if_pos rfl]
      rfl
    · rw [if_neg hkey, Dict.get?_insert_of_ne d fun heq ↦ hkey heq.symm]

theorem Dict.get?_insertAll_entries (d added : Dict κ α) (key : κ) :
    (d.insertAll added.entries).get? key = (added.get? key).or (d.get? key) :=
  Dict.get?_insertAll_of_sorted added.sorted d key

/-! ## Distinct keys -/

omit [LT κ] [KeyOrder κ] [DecidableLT κ] in
theorem Entries.mem_of_get?_eq_some {key : κ} {value : α} {entries : List (κ × α)}
    (h : Entries.get? key entries = some value) : (key, value) ∈ entries := by
  induction entries with
  | nil => cases h
  | cons entry rest ih =>
    obtain ⟨k, v⟩ := entry
    by_cases hkey : k = key
    · rw [hkey, get?_cons_self, Option.some.injEq] at h
      rw [hkey, h]
      exact List.mem_cons_self
    · rw [get?_cons_of_ne hkey] at h
      exact List.mem_cons_of_mem _ (ih h)

omit [LT κ] [KeyOrder κ] [DecidableLT κ] in
theorem Entries.get?_eq_some_iff_mem {key : κ} {value : α} {entries : List (κ × α)}
    (hdistinct : (entries.map Prod.fst).Nodup) :
    Entries.get? key entries = some value ↔ (key, value) ∈ entries := by
  refine ⟨mem_of_get?_eq_some, fun h ↦ ?_⟩
  induction entries with
  | nil => cases h
  | cons entry rest ih =>
    obtain ⟨k, v⟩ := entry
    rw [List.map_cons, List.nodup_cons] at hdistinct
    rcases List.mem_cons.mp h with heq | hmem
    · obtain ⟨rfl, rfl⟩ := Prod.mk.inj heq
      exact get?_cons_self key value rest
    · have hkey : k ≠ key := by
        rintro rfl
        exact hdistinct.1 (List.mem_map.mpr ⟨_, hmem, rfl⟩)
      rw [get?_cons_of_ne hkey]
      exact ih hdistinct.2 hmem

omit [LT κ] [KeyOrder κ] [DecidableLT κ] in
theorem Entries.get?_eq_of_perm {first second : List (κ × α)}
    (hdistinct : (second.map Prod.fst).Nodup) (h : first.Perm second) (key : κ) :
    Entries.get? key first = Entries.get? key second := by
  have hfirst : (first.map Prod.fst).Nodup := (h.map Prod.fst).nodup_iff.mpr hdistinct
  ext value
  rw [get?_eq_some_iff_mem hfirst, get?_eq_some_iff_mem hdistinct, h.mem_iff]

omit [LT κ] [KeyOrder κ] [DecidableLT κ] in
theorem Entries.get?_filter_not_mem (dropped : List κ) (entries : List (κ × α)) (key : κ) :
    Entries.get? key (entries.filter (·.1 ∉ dropped))
      = if key ∈ dropped then none else Entries.get? key entries := by
  induction entries with
  | nil => rw [List.filter_nil, get?_nil, ite_self]
  | cons entry rest ih =>
    obtain ⟨k, v⟩ := entry
    by_cases hkey : k = key
    · subst hkey
      by_cases hdropped : k ∈ dropped
      · rw [List.filter_cons_of_neg (by simpa using hdropped), ih, if_pos hdropped, if_pos hdropped]
      · rw [List.filter_cons_of_pos (by simpa using hdropped), if_neg hdropped, get?_cons_self,
          get?_cons_self]
    · rw [get?_cons_of_ne hkey, ← ih]
      by_cases hdropped : k ∈ dropped
      · rw [List.filter_cons_of_neg (by simpa using hdropped)]
      · rw [List.filter_cons_of_pos (by simpa using hdropped), get?_cons_of_ne hkey]

omit [DecidableEq κ] [DecidableLT κ] in
theorem Dict.nodup_keys (d : Dict κ α) : (d.entries.map Prod.fst).Nodup := by
  refine List.pairwise_map.mpr (d.sorted.imp fun hlt heq ↦ ?_)
  rw [heq] at hlt
  exact KeyOrder.lt_irrefl _ hlt

/-- The entries of a dictionary make it up again, in any order. -/
theorem Dict.ofList_eq_of_perm {entries : List (κ × α)} {d : Dict κ α}
    (h : entries.Perm d.entries) : Dict.ofList entries = d := by
  refine Dict.ext_get? fun key ↦ ?_
  rw [Dict.get?_ofList]
  exact Entries.get?_eq_of_perm d.nodup_keys ((List.reverse_perm entries).trans h) key

end ResourceSearch
