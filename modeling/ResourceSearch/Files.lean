import ResourceSearch.Dict

/-!
# Files

The files that a run can reach, and the directories around them. A place is given by the names that
lead to it from the root without any link. A path is followed name by name, from the root if it is
absolute and from the working directory if it is not. Every place that it leaves has to be a
directory, also where two dots lead back out, and a link leads to the place that it stands for.
-/

namespace ResourceSearch

/-! ## Paths -/

namespace Path

/-- The names between the slashes of a path. -/
def names (path : String) : List String :=
  (path.toList.splitOn '/').map String.ofList

/-- The absolute path of a place, without detours. -/
def plain (place : List String) : String :=
  "/" ++ "/".intercalate place

/-- What a name means at a place: an empty name and a dot stay, and two dots lead to the directory
around, which for the root is the root itself. -/
def step (place : List String) (name : String) : List String :=
  if name = "" || name = "." then place
  else if name = ".." then place.dropLast
  else place ++ [name]

end Path

/-! ## Directories -/

/-- The directories within reach. -/
structure Directories where
  /-- The place where relative paths start. -/
  working : List String
  /-- The plain paths of the directories that paths can lead through, with or without files. -/
  plainPaths : NameSet
  /-- The place that each link stands for in the end, under the plain path of the link. -/
  links : Dict String (List String)
deriving DecidableEq

namespace Directories

variable (directories : Directories)

/-- Where a path starts. -/
def origin (path : String) : List String :=
  if path.startsWith "/" then [] else directories.working

/-- The place that a name leads to. -/
def step (place : List String) (name : String) : List String :=
  let next := Path.step place name
  (directories.links.get? (Path.plain next)).getD next

/-- Where a path leads, if all that it leaves on its way are directories. -/
def destination (path : String) : List String :=
  (Path.names path).foldl directories.step (directories.origin path)

def contains (place : List String) : Bool :=
  directories.plainPaths.contains (Path.plain place)

/-- Follows a name out of a directory. -/
def step? (place : List String) (name : String) : Option (List String) :=
  if directories.contains place then some (directories.step place name) else none

/-- The place that a path leads to. -/
def place? (path : String) : Option (List String) :=
  if '\x00' ∈ path.toList then none
  else (Path.names path).foldlM directories.step? (directories.origin path)

/-- The plain form of a path that can name a file, be it there or not. -/
def filePath? (path : String) : Option String :=
  (directories.place? path).bind fun place ↦
    if directories.contains place then none else some (Path.plain place)

/-- A working directory and nothing around it. -/
def within (place : List String) : Directories :=
  ⟨place, .ofNames [Path.plain place], ∅⟩

/-- The same directories and those that a path leads through. -/
def along (path : String) : Directories :=
  let places := (Path.names path).dropLast.scanl directories.step (directories.origin path)
  { directories with
    plainPaths := directories.plainPaths.insertAll (places.map fun place ↦ (Path.plain place, ())) }

end Directories

/-! ## Files -/

/-- The files and directories within reach. -/
structure Files where
  directories : Directories
  /-- The text of each file under its plain path; none where it cannot be read as text. -/
  texts : Dict String (Option String)
  /-- The plain paths where nothing can be written, neither over a file nor as a new one. -/
  readOnly : NameSet
deriving DecidableEq

namespace Files

variable (files : Files)

/-- The text of a file, if the path names one and it is text. -/
def read? (path : String) : Option String :=
  (files.directories.filePath? path).bind fun plain ↦ (files.texts.get? plain).join

/-- Writes a file, over one that is there. -/
def write? (path text : String) : Option Files :=
  (files.directories.filePath? path).bind fun plain ↦
    if files.readOnly.contains plain then none
    else some { files with texts := files.texts.insert plain (some text) }

/-- What has been written is read back. -/
theorem read?_of_write? {files after : Files} {path text : String}
    (h : files.write? path text = some after) : after.read? path = some text := by
  obtain ⟨plain, hplain, hwrite⟩ := Option.bind_eq_some_iff.mp h
  split at hwrite
  · cases hwrite
  · obtain rfl := Option.some.inj hwrite
    -- A write makes no directory, so the path still leads to the same place.
    rw [read?, hplain, Option.bind_some, Dict.get?_insert_self]
    rfl

/-! ### Gathering files -/

/-- A working directory without files. -/
def within (place : List String) : Files :=
  ⟨.within place, ∅, ∅⟩

def empty : Files := within ["work"]

/-- The same files, with the directories that a path leads through. -/
def withDirectories (path : String) : Files :=
  { files with directories := files.directories.along path }

/-- The same files and one more, where a path leads. -/
def withFile (path : String) (text : Option String) : Files :=
  { files.withDirectories path with
    texts := files.texts.insert (Path.plain (files.directories.destination path)) text }

/-- The same files, but nothing can be written where a path leads. -/
def withReadOnly (path : String) : Files :=
  { files with
    readOnly := files.readOnly.insert (Path.plain (files.directories.destination path)) () }

/-- A working directory with these files. -/
def ofList (texts : List (String × Option String)) : Files :=
  texts.foldl (fun files (path, text) ↦ files.withFile path text) empty

end Files

end ResourceSearch
