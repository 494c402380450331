import ResourceSearch.Json.Basic

/-!
# JSON as text

The compact form stands in messages and in field values; the indented form is written to files.
Both are one function of a layout, which says what stands before an item and after a colon. A
string escapes quotes, backslashes and control characters and nothing else.
-/

namespace ResourceSearch

namespace Number

/-- A number as text. -/
def toChars : Number → List Char
  | .whole value =>
    if value < 0 then '-' :: Nat.toDigits 10 value.natAbs else Nat.toDigits 10 value.natAbs
  | .binary value => value.toChars

end Number

namespace Json

/-! ## Strings -/

/-- A hexadecimal digit, in lower case. -/
def hexDigit (n : Nat) : Char :=
  Nat.digitChar n

/-- A character as it stands in a JSON string. -/
def escapeChar (c : Char) : List Char :=
  match c with
  | '"' => ['\\', '"']
  | '\\' => ['\\', '\\']
  | '\x08' => ['\\', 'b']
  | '\x0c' => ['\\', 'f']
  | '\n' => ['\\', 'n']
  | '\r' => ['\\', 'r']
  | '\t' => ['\\', 't']
  | c =>
    if c.toNat < 0x20 then
      ['\\', 'u', '0', '0', hexDigit (c.toNat / 16), hexDigit (c.toNat % 16)]
    else [c]

/-- A string between its quotes. -/
def stringChars (s : String) : List Char :=
  '"' :: s.toList.flatMap escapeChar ++ ['"']

/-! ## Values -/

/-- How a text is laid out: on one line, or an item to a line, two blanks deeper at each level. -/
inductive Layout where
  | compact
  | indented
deriving DecidableEq, Repr

namespace Layout

/-- What stands before an item or a closing bracket at a depth. -/
def lineBreak : Layout → Nat → List Char
  | compact, _ => []
  | indented, depth => '\n' :: List.replicate (2 * depth) ' '

/-- What stands between a field's name and its value. -/
def colon : Layout → List Char
  | compact => [':']
  | indented => [':', ' ']

end Layout

mutual

/-- A value that stands at a depth, as text. -/
def toChars (layout : Layout) (depth : Nat) : Json → List Char
  | .null => ['n', 'u', 'l', 'l']
  | .bool true => ['t', 'r', 'u', 'e']
  | .bool false => ['f', 'a', 'l', 's', 'e']
  | .number value => value.toChars
  | .string value => stringChars value
  | .array [] => ['[', ']']
  | .array (item :: items) =>
    '[' :: layout.lineBreak (depth + 1) ++ toChars layout (depth + 1) item ++
      itemsChars layout (depth + 1) items ++ layout.lineBreak depth ++ [']']
  | .object [] => ['{', '}']
  | .object ((name, value) :: fields) =>
    '{' :: layout.lineBreak (depth + 1) ++ stringChars name ++ layout.colon ++
      toChars layout (depth + 1) value ++ fieldsChars layout (depth + 1) fields ++
      layout.lineBreak depth ++ ['}']

/-- The items after the first one. -/
def itemsChars (layout : Layout) (depth : Nat) : List Json → List Char
  | [] => []
  | item :: items =>
    ',' :: layout.lineBreak depth ++ toChars layout depth item ++ itemsChars layout depth items

/-- The fields after the first one. -/
def fieldsChars (layout : Layout) (depth : Nat) : List (String × Json) → List Char
  | [] => []
  | (name, value) :: fields =>
    ',' :: layout.lineBreak depth ++ stringChars name ++ layout.colon ++
      toChars layout depth value ++ fieldsChars layout depth fields

end

/-- A value as text, in a layout. -/
def render (layout : Layout) (json : Json) : String :=
  String.ofList (json.toChars layout 0)

/-- A value as text on one line. -/
def compact (json : Json) : String :=
  json.render .compact

end Json

end ResourceSearch
