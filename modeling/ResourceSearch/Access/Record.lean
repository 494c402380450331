import ResourceSearch.Access
import ResourceSearch.Json.Record

/-!
# Users and rights in JSON
-/

namespace ResourceSearch

open Json (Tree)

namespace Right

def name : Right → String
  | read => "Read"
  | write => "Write"
  | grant => "Grant"

/-- The rights, in the order in which they are listed. -/
def all : List Right := [read, write, grant]

/-- The right that a value names. -/
def ofTree? (tree : Tree) : Option Right :=
  tree.choice? (all.map fun right ↦ (right.name, right))

end Right

/-- The user that a value describes. -/
def User.ofTree? (tree : Tree) : Option User := do
  let record ← tree.record? ["id", "roles"]
  let id ← record.required "id" Tree.string?
  let roles ← record.withDefault "roles" Tree.strings? []
  return ⟨id, roles⟩

end ResourceSearch
