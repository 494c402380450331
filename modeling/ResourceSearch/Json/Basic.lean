import ResourceSearch.Dict
import ResourceSearch.Json.Binary64

/-!
# JSON values

What is exchanged with the search engine and stored in it. Whole numbers are kept apart from
numbers with a fraction, because they print differently. The fields of an object stand in the
order in which they are written; an object that is read, or built by `Json.ofFields`, has them in
the order of their names.
-/

namespace ResourceSearch

/-- A number: whole, or the binary64 number nearest to what was written. -/
inductive Number where
  | whole (value : Int)
  | binary (value : Binary64)
deriving DecidableEq, Repr

inductive Json where
  | null
  | bool (value : Bool)
  | number (value : Number)
  | string (value : String)
  | array (items : List Json)
  | object (fields : List (String × Json))
deriving Inhabited

namespace Json

/-! ## Building -/

def nat (n : Nat) : Json := .number (.whole n)

/-- A list of strings. -/
def strings (values : List String) : Json := .array (values.map .string)

/-- The object with these fields; of one name the last value stays. -/
def ofFields (fields : List (String × Json)) : Json :=
  .object (Entries.insertAll [] fields)

/-- The object with the entries of a dictionary as its fields. -/
def ofDict (d : Dict String Json) : Json := .object d.entries

/-- A value, or `null` in place of none. -/
def ofOption {α : Type} (encode : α → Json) : Option α → Json
  | none => .null
  | some a => encode a

/-! ## Looking inside -/

/-- The field of an object. -/
def field? (name : String) : Json → Option Json
  | .object fields => Entries.get? name fields
  | _ => none

/-- The value at the end of a path of field names. -/
def path? : List String → Json → Option Json
  | [], json => some json
  | name :: path, json => (json.field? name).bind (path? path)

def string? : Json → Option String
  | .string value => some value
  | _ => none

def bool? : Json → Option Bool
  | .bool value => some value
  | _ => none

def array? : Json → Option (List Json)
  | .array items => some items
  | _ => none

/-- A whole number that is not negative. -/
def nat? : Json → Option Nat
  | .number (.whole value) => if 0 ≤ value then some value.toNat else none
  | _ => none

/-- The fields of an object as a dictionary. -/
def dict? : Json → Option (Dict String Json)
  | .object fields => some (Dict.ofList fields)
  | _ => none

end Json

end ResourceSearch
