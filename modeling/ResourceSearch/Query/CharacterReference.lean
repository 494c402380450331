import ResourceSearch.Text.Alphanumeric

/-!
# Character references

A character may be spelled by its name (`&amp;`) or by its code point, decimal (`&#38;`) or
hexadecimal after a small x (`&#x26;`). A reference starts at an ampersand, contains no other one
and ends at a semicolon, so the pieces between the ampersands of a text can be decoded apart from
each other. What has the shape of a reference and denotes nothing is kept as it stands: an
unknown name, a number that is no code point, and zero.
-/

namespace ResourceSearch.Query.CharacterReference

/-- The names of characters. -/
def names : List (List Char × Char) :=
  [(['l', 't'], '<'), (['g', 't'], '>'), (['a', 'm', 'p'], '&'), (['a', 'p', 'o', 's'], '\''),
    (['q', 'u', 'o', 't'], '"')]

/-- The value of a digit in a base of at most sixteen. -/
def digit? (base : Nat) (c : Char) : Option Nat :=
  let value :=
    if c.isDigit then c.toNat - '0'.toNat
    else if 'a' ≤ c && c ≤ 'f' then c.toNat - 'a'.toNat + 10
    else if 'A' ≤ c && c ≤ 'F' then c.toNat - 'A'.toNat + 10
    else base
  if value < base then some value else none

/-- The number that digits spell, continuing from the number before them. -/
def digitsFrom? (base : Nat) (value : Nat) : List Char → Option Nat
  | [] => some value
  | c :: rest =>
    match digit? base c with
    | none => none
    | some d => digitsFrom? base (value * base + d) rest

/-- The number that a numeral spells; it has at least one digit. -/
def numeral? (base : Nat) : List Char → Option Nat
  | [] => none
  | digits => digitsFrom? base 0 digits

/-- The character with a code point; zero is not a character here. -/
def ofCodePoint? (n : Nat) : Option Char :=
  if n ≠ 0 ∧ n.isValidChar then some (Char.ofNat n) else none

/-- The character that a reference denotes, given whether it is numeric and what stands between
its marks. -/
def decode? (numeric : Bool) (body : List Char) : Option Char :=
  if numeric then
    match body with
    | 'x' :: digits => (numeral? 16 digits).bind ofCodePoint?
    | digits => (numeral? 10 digits).bind ofCodePoint?
  else names.lookup body

/-- The text for what stands after an ampersand up to the next one: a character and the rest if
the piece starts with a reference that denotes one, else the ampersand and the piece. -/
def decodePiece (piece : List Char) : List Char :=
  let (numeric, cs) : Bool × List Char :=
    match piece with
    | '#' :: rest => (true, rest)
    | cs => (false, cs)
  let body := cs.takeWhile isAscii
  match body, cs.dropWhile isAscii with
  | _ :: _, ';' :: after =>
    match decode? numeric body with
    | some c => c :: after
    | none => '&' :: piece
  | _, _ => '&' :: piece
where
  isAscii := Text.isAsciiAlphanumeric

/-- A text with its references replaced by the characters that they denote. -/
def decodeAll (cs : List Char) : List Char :=
  match cs.splitOn '&' with
  | [] => []
  | first :: pieces => first ++ pieces.flatMap decodePiece

end ResourceSearch.Query.CharacterReference
