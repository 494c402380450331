/-!
# Sort order

The order in which hits are returned: a field, and whether it rises or falls. The direction is
given by a word in any letter case of ASCII; the engine is told its short form.
-/

namespace ResourceSearch.Query

inductive SortDirection where
  | ascending
  | descending
deriving DecidableEq, Repr

namespace SortDirection

/-- The short form of a direction. -/
def name : SortDirection → String
  | ascending => "ASC"
  | descending => "DESC"

/-- The direction that a word names. -/
def ofString? (word : String) : Option SortDirection :=
  match String.ofList (word.toList.map Char.toLower) with
  | "asc" | "ascending" => some ascending
  | "desc" | "descending" => some descending
  | _ => none

/-- What is said about a word that names no direction. -/
def unknownMessage (word : String) : String :=
  "unknown sort direction: " ++ word

end SortDirection

/-- The field to sort by for the identifier of a document, as a user and as the engine call it. -/
def sortField (field : String) : String :=
  if field = "id" then "_id" else field

end ResourceSearch.Query
