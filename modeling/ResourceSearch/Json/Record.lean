import ResourceSearch.Json.Tree

/-!
# Records in JSON

A record is an object with known field names. It may also be spelled as the list of its fields in
their declared order, from which trailing fields may be missing. Fields with unknown names are
passed over whatever they hold; a known name may stand only once. Each decoder of a field refuses
by `none`: a refusal is never repaired further up.
-/

namespace ResourceSearch.Json

/-- The known fields of a record that were found, by name. -/
abbrev Record := List (String × Tree)

namespace Tree

/-- The known fields among those of an object, unless a name cannot be read or a known one stands
twice. -/
def knownFields? (names : List String) : List (Option String × Tree) → Option Record
  | [] => some []
  | (none, _) :: _ => none
  | (some name, value) :: rest =>
    match knownFields? names rest with
    | none => none
    | some known =>
      if name ∉ names then some known
      else if known.any (·.1 = name) then none
      else some ((name, value) :: known)

/-- The fields of a record with these field names. -/
def record? (names : List String) : Tree → Option Record
  | .object fields => knownFields? names fields
  | .array items => if items.length ≤ names.length then some (names.zip items) else none
  | _ => none

/-- The items of a list. -/
def list? {α : Type} (decode : Tree → Option α) : Tree → Option (List α)
  | .array items => items.mapM decode
  | _ => none

/-- The entries of a dictionary, whose names are free; of one name the last value counts. -/
def dict? {α : Type} (decode : Tree → Option α) : Tree → Option (Dict String α)
  | .object fields => (fields.mapM entry?).map Dict.ofList
  | _ => none
where
  /-- One entry, whose name and value have both to be readable. -/
  entry? (field : Option String × Tree) : Option (String × α) :=
    match field.1, decode field.2 with
    | some name, some value => some (name, value)
    | _, _ => none

/-- A value that may be `null`. -/
def nullable {α : Type} (decode : Tree → Option α) : Tree → Option (Option α)
  | .null => some none
  | tree => (decode tree).map some

def string? : Tree → Option String
  | .string value => value
  | _ => none

def bool? : Tree → Option Bool
  | .bool value => some value
  | _ => none

/-- A whole number from zero up to, but not including, a bound. -/
def natBelow? (bound : Nat) : Tree → Option Nat
  | .number (some (.whole value)) =>
    if 0 ≤ value ∧ value < bound then some value.toNat else none
  | _ => none

def strings? : Tree → Option (List String) := list? string?

/-- A name out of a fixed choice: spelled as a string, or as an object whose only field has that
name and holds `null`. -/
def choice? {α : Type} (choices : List (String × α)) : Tree → Option α
  | .string (some name) => Entries.get? name choices
  | .object [(some name, .null)] => Entries.get? name choices
  | _ => none

end Tree

namespace Record

/-- A field that has to be there. -/
def required {α : Type} (record : Record) (name : String) (decode : Tree → Option α) :
    Option α :=
  (Entries.get? name record).bind decode

/-- A field that has a default when it is not there. -/
def withDefault {α : Type} (record : Record) (name : String) (decode : Tree → Option α)
    (default : α) : Option α :=
  match Entries.get? name record with
  | none => some default
  | some tree => decode tree

/-- A field that may be missing or `null`. -/
def optional {α : Type} (record : Record) (name : String) (decode : Tree → Option α) :
    Option (Option α) :=
  record.withDefault name (Tree.nullable decode) none

end Record

end ResourceSearch.Json
