import ResourceSearch.Files
import ResourceSearch.Proofs.Dict

/-!
# Files that have been gathered

A path is followed out of directories only. Where all of them are there it leads to its destination
(`place?_along`), so the text that has been gathered for a path is read under that path, be it
absolute or not and whatever detours it makes.
-/

namespace ResourceSearch

theorem Path.names_ne_nil (path : String) : names path ≠ [] := by
  rw [names, ne_eq, List.map_eq_nil_iff]
  exact List.splitOn_ne_nil _ _

namespace Directories

variable {directories : Directories} {path : String}

/-- The place that the last name leads to need not be a directory. -/
theorem foldlM_step? {names start : List String} (last : String)
    (h : ∀ place ∈ names.scanl directories.step start, directories.contains place = true) :
    (names ++ [last]).foldlM directories.step? start
      = some ((names ++ [last]).foldl directories.step start) := by
  induction names generalizing start with
  | nil =>
    have hstart := h start List.mem_cons_self
    rw [List.nil_append, List.foldlM_cons, step?, if_pos hstart]
    rfl
  | cons name names ih =>
    rw [List.scanl_cons, List.forall_mem_cons] at h
    rw [List.cons_append, List.foldlM_cons, step?, if_pos h.1]
    exact ih h.2

theorem contains_along {place : List String}
    (h : place ∈ (Path.names path).dropLast.scanl directories.step (directories.origin path)) :
    (directories.along path).contains place = true := by
  rw [contains, along, Dict.contains, Dict.get?_insertAll, Option.isSome_or, Bool.or_eq_true,
    Entries.isSome_get?_iff, List.map_reverse, List.mem_reverse, List.map_map]
  exact .inl (List.mem_map_of_mem h)

theorem place?_along (h : '\x00' ∉ path.toList) :
    (directories.along path).place? path = some (directories.destination path) := by
  have horigin : (directories.along path).origin path = directories.origin path := rfl
  have hstep : (directories.along path).step = directories.step := rfl
  rw [place?, if_neg h, destination, horigin, ← hstep,
    ← List.dropLast_concat_getLast (Path.names_ne_nil path)]
  exact foldlM_step? _ fun place hplace ↦ contains_along hplace

/-- What a path leads to can be a file once the directories on its way are there. -/
def NamesFile (directories : Directories) (path : String) : Prop :=
  '\x00' ∉ path.toList ∧
    (directories.along path).contains (directories.destination path) = false

instance : Decidable (directories.NamesFile path) :=
  inferInstanceAs (Decidable (_ ∧ _))

theorem NamesFile.filePath?_along (h : directories.NamesFile path) :
    (directories.along path).filePath? path
      = some (Path.plain (directories.destination path)) := by
  rw [filePath?, place?_along h.1, Option.bind_some, h.2]
  rfl

end Directories

namespace Files

variable {files : Files} {path : String}

theorem read?_withFile (h : files.directories.NamesFile path) (text : String) :
    (files.withFile path (some text)).read? path = some text := by
  rw [read?, withFile, withDirectories, h.filePath?_along, Option.bind_some, Dict.get?_insert_self]
  rfl

example : ((within ["srv"]).withFile "/etc/list.json" (some "[]")).read? "../etc/./list.json"
    = some "[]" := by decide +kernel

theorem read?_ofList_singleton (h : empty.directories.NamesFile path) (text : String) :
    (ofList [(path, some text)]).read? path = some text :=
  read?_withFile h text

end Files

end ResourceSearch
