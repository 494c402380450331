/-!
# Dictionaries

A dictionary is a list of entries whose keys increase, so it has one representation and is read
in the order of its keys. Strings are ordered by their code points, which is also the order of
their bytes in UTF-8.

The operations are defined on plain lists of entries first: a value that nests dictionaries
inside itself can only hold the list, and uses these directly.
-/

namespace ResourceSearch

/-- An order in which any two distinct keys can be compared. -/
class KeyOrder (κ : Type) [LT κ] : Prop where
  lt_irrefl : ∀ a : κ, ¬ a < a
  lt_trans : ∀ {a b c : κ}, a < b → b < c → a < c
  lt_or_lt_of_ne : ∀ {a b : κ}, a ≠ b → a < b ∨ b < a

instance : KeyOrder String where
  lt_irrefl := String.lt_irrefl
  lt_trans := String.lt_trans
  lt_or_lt_of_ne {a b} h := by
    rcases String.le_total a b with hle | hle
    · exact .inl (String.not_le.1 fun hge ↦ h (String.le_antisymm hle hge))
    · exact .inr (String.not_le.1 fun hge ↦ h (String.le_antisymm hge hle))

/-! ## Lists of entries -/

namespace Entries

variable {κ α : Type} [LT κ] [DecidableLT κ] [DecidableEq κ]

/-- The value under a key. -/
def get? (key : κ) : List (κ × α) → Option α
  | [] => none
  | (k, v) :: rest => if k = key then some v else get? key rest

/-- Writes a value under a key, over the one that is there, keeping the keys in order. -/
def insert (key : κ) (value : α) : List (κ × α) → List (κ × α)
  | [] => [(key, value)]
  | (k, v) :: rest =>
    if key < k then (key, value) :: (k, v) :: rest
    else if k = key then (key, value) :: rest
    else (k, v) :: insert key value rest

/-- Writes entries from left to right, so that of one key the last value stays. -/
def insertAll (entries added : List (κ × α)) : List (κ × α) :=
  added.foldl (fun acc entry ↦ insert entry.1 entry.2 acc) entries

omit [LT κ] [DecidableLT κ] in
@[simp] theorem get?_nil (key : κ) : get? key ([] : List (κ × α)) = none := rfl

theorem get?_insert_self (key : κ) (value : α) (entries : List (κ × α)) :
    get? key (insert key value entries) = some value := by
  induction entries with
  | nil => simp [insert, get?]
  | cons e rest ih =>
    obtain ⟨k, v⟩ := e
    rw [insert]
    split
    · simp [get?]
    · split
      · simp [get?]
      · rename_i h
        simp [get?, h, ih]

theorem get?_insert_of_ne {key other : κ} (h : other ≠ key) (value : α)
    (entries : List (κ × α)) : get? other (insert key value entries) = get? other entries := by
  induction entries with
  | nil => simp [insert, get?, h.symm]
  | cons e rest ih =>
    obtain ⟨k, v⟩ := e
    rw [insert]
    split
    · simp [get?, h.symm]
    · split
      · rename_i hk
        subst hk
        simp [get?, h.symm]
      · simp [get?, ih]

omit [LT κ] [DecidableLT κ] in
theorem get?_filter_ne_self (key : κ) (entries : List (κ × α)) :
    get? key (entries.filter fun entry ↦ decide (entry.1 ≠ key)) = none := by
  induction entries with
  | nil => rfl
  | cons e rest ih =>
    obtain ⟨k, v⟩ := e
    by_cases h : k = key
    · simpa [h] using ih
    · simpa [h, get?] using ih

omit [LT κ] [DecidableLT κ] in
theorem get?_filter_ne_of_ne {key other : κ} (h : other ≠ key) (entries : List (κ × α)) :
    get? other (entries.filter fun entry ↦ decide (entry.1 ≠ key)) = get? other entries := by
  induction entries with
  | nil => rfl
  | cons e rest ih =>
    obtain ⟨k, v⟩ := e
    by_cases hk : k = key
    · subst hk
      simpa [get?, h.symm] using ih
    · simp only [ne_eq, decide_not] at ih
      simp [hk, get?, ih]

theorem mem_insert {key : κ} {value : α} {entries : List (κ × α)} {e : κ × α}
    (h : e ∈ insert key value entries) : e = (key, value) ∨ e ∈ entries := by
  induction entries with
  | nil => simpa [insert] using h
  | cons e' rest ih =>
    obtain ⟨k, v⟩ := e'
    rw [insert] at h
    split at h
    · simpa using h
    · split at h
      · rcases List.mem_cons.1 h with rfl | h
        · exact .inl rfl
        · exact .inr (List.mem_cons_of_mem _ h)
      · rcases List.mem_cons.1 h with rfl | h
        · exact .inr List.mem_cons_self
        · exact (ih h).imp_right (List.mem_cons_of_mem _)

/-- The keys increase. -/
abbrev Sorted {κ α : Type} [LT κ] (entries : List (κ × α)) : Prop :=
  entries.Pairwise fun a b ↦ a.1 < b.1

theorem sorted_insert [KeyOrder κ] (key : κ) (value : α) {entries : List (κ × α)}
    (h : Sorted entries) : Sorted (insert key value entries) := by
  induction entries with
  | nil => simp [insert, Sorted]
  | cons e rest ih =>
    obtain ⟨k, v⟩ := e
    obtain ⟨hk, hrest⟩ := List.pairwise_cons.1 h
    rw [insert]
    split
    · rename_i hlt
      refine List.pairwise_cons.2 ⟨fun e he ↦ ?_, h⟩
      rcases List.mem_cons.1 he with rfl | he
      · exact hlt
      · exact KeyOrder.lt_trans hlt (hk e he)
    · rename_i hlt
      split
      · rename_i heq
        subst heq
        exact List.pairwise_cons.2 ⟨hk, hrest⟩
      · rename_i hne
        refine List.pairwise_cons.2 ⟨fun e he ↦ ?_, ih hrest⟩
        rcases mem_insert he with rfl | he
        · exact (KeyOrder.lt_or_lt_of_ne hne).resolve_right hlt
        · exact hk e he

end Entries

/-! ## Dictionaries -/

/-- Entries with distinct keys, in increasing order of the keys. -/
structure Dict (κ α : Type) [LT κ] where
  /-- The entries, in the order of their keys. -/
  entries : List (κ × α)
  /-- The keys increase, so no key stands twice. -/
  sorted : Entries.Sorted entries
deriving DecidableEq

namespace Dict

variable {κ α : Type} [LT κ]

@[ext] theorem ext {a b : Dict κ α} (h : a.entries = b.entries) : a = b := by
  cases a
  cases b
  simpa using h

instance : EmptyCollection (Dict κ α) := ⟨⟨[], List.Pairwise.nil⟩⟩

instance : Inhabited (Dict κ α) := ⟨∅⟩

/-- The entries that satisfy a test. -/
def filter (d : Dict κ α) (p : κ × α → Bool) : Dict κ α :=
  ⟨d.entries.filter p, d.sorted.filter _⟩

/-- The keys in increasing order. -/
def keys (d : Dict κ α) : List κ :=
  d.entries.map (·.1)

/-- The values in the order of their keys. -/
def values (d : Dict κ α) : List α :=
  d.entries.map (·.2)

variable [DecidableEq κ]

def get? (d : Dict κ α) (key : κ) : Option α :=
  Entries.get? key d.entries

/-- Whether there is a value under the key. -/
def contains (d : Dict κ α) (key : κ) : Bool :=
  (d.get? key).isSome

/-- Drops what is under a key. -/
def erase (d : Dict κ α) (key : κ) : Dict κ α :=
  d.filter fun entry ↦ entry.1 ≠ key

@[simp] theorem get?_empty (key : κ) : (∅ : Dict κ α).get? key = none := rfl

@[simp] theorem get?_erase_self (d : Dict κ α) (key : κ) : (d.erase key).get? key = none :=
  Entries.get?_filter_ne_self key d.entries

theorem get?_erase_of_ne (d : Dict κ α) {key other : κ} (h : other ≠ key) :
    (d.erase key).get? other = d.get? other :=
  Entries.get?_filter_ne_of_ne h d.entries

variable [DecidableLT κ] [KeyOrder κ]

/-- Writes a value under a key, over the one that is there. -/
def insert (d : Dict κ α) (key : κ) (value : α) : Dict κ α :=
  ⟨Entries.insert key value d.entries, Entries.sorted_insert key value d.sorted⟩

/-- Writes entries from left to right, so that of one key the last value stays. -/
def insertAll (d : Dict κ α) (entries : List (κ × α)) : Dict κ α :=
  entries.foldl (fun d entry ↦ d.insert entry.1 entry.2) d

/-- The dictionary of a list of entries; of one key the last value stays. -/
def ofList (entries : List (κ × α)) : Dict κ α :=
  (∅ : Dict κ α).insertAll entries

@[simp] theorem get?_insert_self (d : Dict κ α) (key : κ) (value : α) :
    (d.insert key value).get? key = some value :=
  Entries.get?_insert_self key value d.entries

theorem get?_insert_of_ne (d : Dict κ α) {key other : κ} (h : other ≠ key) (value : α) :
    (d.insert key value).get? other = d.get? other :=
  Entries.get?_insert_of_ne h value d.entries

end Dict

/-! ## Sets of names -/

/-- A set of names: a dictionary that only knows which keys it holds. -/
abbrev NameSet := Dict String Unit

/-- The set of the names in a list. -/
def NameSet.ofNames (names : List String) : NameSet :=
  Dict.ofList (names.map (·, ()))

end ResourceSearch
