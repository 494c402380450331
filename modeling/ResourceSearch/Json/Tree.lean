import ResourceSearch.Json.Basic

/-!
# What a JSON text spells

Reading a text and giving it a meaning are two steps. The tree of a text follows the grammar
only: its fields stand in the order of the text and may repeat, and a leaf may denote nothing,
such as a number beyond the largest one or a string with half a surrogate pair. A record that is
read from a tree looks only at the fields it knows, so such a leaf harms it nowhere else. A JSON
value needs every leaf, and is nested less deeply than `maxDepth` allows.
-/

namespace ResourceSearch.Json

/-- The tree that a text spells. A leaf is `none` where the text is well formed and denotes
nothing. -/
inductive Tree where
  | null
  | bool (value : Bool)
  | number (value : Option Number)
  | string (value : Option String)
  | array (items : List Tree)
  | object (fields : List (Option String × Tree))
deriving Inhabited

/-- How many arrays and objects may stand inside each other in a value. -/
def maxDepth : Nat := 127

mutual

/-- The value that a tree denotes, with `depth` levels of nesting left. Of the fields with one
name the last one counts. -/
def Tree.value? (depth : Nat) : Tree → Option Json
  | .null => some .null
  | .bool value => some (.bool value)
  | .number value => value.map .number
  | .string value => value.map .string
  | .array items =>
    match depth with
    | 0 => none
    | depth + 1 => (Tree.values? depth items).map .array
  | .object fields =>
    match depth with
    | 0 => none
    | depth + 1 => (Tree.fieldValues? depth fields).map .ofFields

def Tree.values? (depth : Nat) : List Tree → Option (List Json)
  | [] => some []
  | item :: items =>
    match item.value? depth, Tree.values? depth items with
    | some value, some values => some (value :: values)
    | _, _ => none

def Tree.fieldValues? (depth : Nat) :
    List (Option String × Tree) → Option (List (String × Json))
  | [] => some []
  | (name, field) :: fields =>
    match name, field.value? depth, Tree.fieldValues? depth fields with
    | some name, some value, some values => some ((name, value) :: values)
    | _, _, _ => none

end

/-- The value that a tree denotes. -/
def Tree.toJson? (tree : Tree) : Option Json :=
  tree.value? maxDepth

mutual

/-- The tree of a value. -/
def toTree : Json → Tree
  | .null => .null
  | .bool value => .bool value
  | .number value => .number (some value)
  | .string value => .string (some value)
  | .array items => .array (toTrees items)
  | .object fields => .object (fieldTrees fields)

def toTrees : List Json → List Tree
  | [] => []
  | item :: items => item.toTree :: toTrees items

def fieldTrees : List (String × Json) → List (Option String × Tree)
  | [] => []
  | (name, value) :: fields => (some name, value.toTree) :: fieldTrees fields

end

end ResourceSearch.Json
