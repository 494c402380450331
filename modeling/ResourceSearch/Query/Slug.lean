import ResourceSearch.Text.Alphanumeric
import ResourceSearch.Text.Lowercase

/-!
# Slugs

A field that a host's users have defined is stored under the slug of its label: the letters and
digits in lower case, with one dash wherever anything else stands between two of them.
-/

namespace ResourceSearch.Query

/-- The slug of the rest of a label. `started` once a character has been kept; `pending` when
something has been passed over since. -/
def slugChars (started pending : Bool) : List Char → List Char
  | [] => []
  | c :: rest =>
    if Text.isAlphanumeric c then
      (if started && pending then ['-'] else []) ++ Text.lowerChar c ++ slugChars true false rest
    else slugChars started true rest

/-- The slug of a label. -/
def slug (label : String) : String :=
  String.ofList (slugChars false false label.toList)

@[simp] theorem toList_slug (label : String) :
    (slug label).toList = slugChars false false label.toList := by
  simp [slug]

end ResourceSearch.Query
