import ResourceSearch.Json.Literal
import ResourceSearch.Json.Tree

/-!
# Reading JSON text

`Tree.ofText?` reads a whole text by the grammar of JSON, without any limit on nesting; `ofText?`
gives the value that the tree denotes. Each scanner takes the longest piece it can and returns
what is left. The two functions that call each other are driven by a bound on the number of
calls, which the length of the text provides.
-/

namespace ResourceSearch.Json

/-! ## Scanners -/

/-- The white space of the grammar. -/
def isSpace (c : Char) : Bool :=
  c = ' ' || c = '\n' || c = '\t' || c = '\r'

def skipSpace (cs : List Char) : List Char :=
  cs.dropWhile isSpace

/-- The value of a hexadecimal digit. -/
def hexValue? (c : Char) : Option Nat :=
  if c.isDigit then some (c.toNat - '0'.toNat)
  else if 'a' ≤ c && c ≤ 'f' then some (c.toNat - 'a'.toNat + 10)
  else if 'A' ≤ c && c ≤ 'F' then some (c.toNat - 'A'.toNat + 10)
  else none

/-- The code unit that four hexadecimal digits spell. -/
def codeUnit? (a b c d : Char) : Option Nat :=
  match hexValue? a, hexValue? b, hexValue? c, hexValue? d with
  | some a, some b, some c, some d => some (a * 4096 + b * 256 + c * 16 + d)
  | _, _, _, _ => none

def isHighSurrogate (unit : Nat) : Bool := 0xD800 ≤ unit && unit ≤ 0xDBFF

def isLowSurrogate (unit : Nat) : Bool := 0xDC00 ≤ unit && unit ≤ 0xDFFF

/-- The character that a pair of surrogates spells. -/
def ofSurrogates (high low : Nat) : Char :=
  Char.ofNat (0x10000 + (high - 0xD800) * 0x400 + (low - 0xDC00))

/-- What a simple escape stands for. -/
def simpleEscape? (c : Char) : Option Char :=
  match c with
  | '"' => some '"'
  | '\\' => some '\\'
  | '/' => some '/'
  | 'b' => some '\x08'
  | 'f' => some '\x0c'
  | 'n' => some '\n'
  | 'r' => some '\r'
  | 't' => some '\t'
  | _ => none

/-- Puts a character before the contents of a string that has been read. -/
def consContents (c : Char) :
    Option (Option (List Char) × List Char) → Option (Option (List Char) × List Char)
  | none => none
  | some (contents, rest) => some (contents.map (c :: ·), rest)

/-- Forgets the contents of a string that has been read. -/
def voidContents :
    Option (Option (List Char) × List Char) → Option (Option (List Char) × List Char)
  | none => none
  | some (_, rest) => some (none, rest)

/-- Reads a string up to its closing quote. The contents are `none` when an escape spells half of
a surrogate pair. -/
def readString : List Char → Option (Option (List Char) × List Char)
  | [] => none
  | '"' :: rest => some (some [], rest)
  | '\\' :: 'u' :: a :: b :: c :: d :: rest =>
    match codeUnit? a b c d with
    | none => none
    | some unit =>
      if isHighSurrogate unit then
        match rest with
        | '\\' :: 'u' :: e :: f :: g :: h :: rest' =>
          match codeUnit? e f g h with
          | none => none
          | some low =>
            if isLowSurrogate low then consContents (ofSurrogates unit low) (readString rest')
            else voidContents (readString rest')
        | rest => voidContents (readString rest)
      else if isLowSurrogate unit then voidContents (readString rest)
      else consContents (Char.ofNat unit) (readString rest)
  | '\\' :: c :: rest =>
    match simpleEscape? c with
    | none => none
    | some c => consContents c (readString rest)
  | c :: rest => if c.toNat < 0x20 then none else consContents c (readString rest)

/-- The digits at the start of a text, and what follows them. -/
def takeDigits (cs : List Char) : List Char × List Char :=
  (cs.takeWhile Char.isDigit, cs.dropWhile Char.isDigit)

/-- Reads the digits before the point: a single zero, or digits that start with another. -/
def readWhole (cs : List Char) : Option (List Char × List Char) :=
  match takeDigits cs with
  | ([], _) => none
  | ('0' :: _ :: _, _) => none
  | (digits, rest) => some (digits, rest)

/-- Reads a point and the digits after it, if there is a point. -/
def readFraction : List Char → Option (List Char × List Char)
  | '.' :: rest =>
    match takeDigits rest with
    | ([], _) => none
    | (digits, rest) => some (digits, rest)
  | cs => some ([], cs)

/-- The number that decimal digits spell. -/
def digitsValue (digits : List Char) : Nat :=
  digits.foldl (fun n c ↦ n * 10 + NumberLiteral.digitValue c) 0

/-- Reads the sign and the digits of an exponent. -/
def readExponentDigits (cs : List Char) : Option (Int × List Char) :=
  let (sign, cs) : Int × List Char :=
    match cs with
    | '+' :: rest => (1, rest)
    | '-' :: rest => (-1, rest)
    | cs => (1, cs)
  match takeDigits cs with
  | ([], _) => none
  | (digits, rest) => some (sign * digitsValue digits, rest)

/-- Reads an exponent, if there is one. -/
def readExponent : List Char → Option (Option Int × List Char)
  | 'e' :: rest => (readExponentDigits rest).map fun (exponent, rest) ↦ (some exponent, rest)
  | 'E' :: rest => (readExponentDigits rest).map fun (exponent, rest) ↦ (some exponent, rest)
  | cs => some (none, cs)

/-- Reads a number literal whose sign has been taken. -/
def readUnsigned (negative : Bool) (cs : List Char) : Option (NumberLiteral × List Char) :=
  match readWhole cs with
  | none => none
  | some (whole, cs) =>
    match readFraction cs with
    | none => none
    | some (fraction, cs) =>
      match readExponent cs with
      | none => none
      | some (exponent, cs) => some (⟨negative, whole, fraction, exponent⟩, cs)

def readNumber : List Char → Option (NumberLiteral × List Char)
  | '-' :: rest => readUnsigned true rest
  | cs => readUnsigned false cs

/-! ## Values -/

mutual

/-- Reads a value, after any white space. -/
def readValue : Nat → List Char → Option (Tree × List Char)
  | 0, _ => none
  | calls + 1, cs =>
    match skipSpace cs with
    | 'n' :: 'u' :: 'l' :: 'l' :: rest => some (.null, rest)
    | 't' :: 'r' :: 'u' :: 'e' :: rest => some (.bool true, rest)
    | 'f' :: 'a' :: 'l' :: 's' :: 'e' :: rest => some (.bool false, rest)
    | '"' :: rest =>
      (readString rest).map fun (contents, rest) ↦
        (.string (contents.map String.ofList), rest)
    | '[' :: rest =>
      match skipSpace rest with
      | ']' :: rest => some (.array [], rest)
      | rest => (readItems calls rest).map fun (items, rest) ↦ (.array items, rest)
    | '{' :: rest =>
      match skipSpace rest with
      | '}' :: rest => some (.object [], rest)
      | rest => (readFields calls rest).map fun (fields, rest) ↦ (.object fields, rest)
    | cs => (readNumber cs).map fun (literal, rest) ↦ (.number literal.value?, rest)

/-- Reads the items of an array up to its closing bracket; there is at least one. -/
def readItems : Nat → List Char → Option (List Tree × List Char)
  | 0, _ => none
  | calls + 1, cs =>
    match readValue calls cs with
    | none => none
    | some (item, rest) =>
      match skipSpace rest with
      | ',' :: rest => (readItems calls rest).map fun (items, rest) ↦ (item :: items, rest)
      | ']' :: rest => some ([item], rest)
      | _ => none

/-- Reads the fields of an object up to its closing brace; there is at least one. -/
def readFields : Nat → List Char → Option (List (Option String × Tree) × List Char)
  | 0, _ => none
  | calls + 1, cs =>
    match skipSpace cs with
    | '"' :: rest =>
      match readString rest with
      | none => none
      | some (name, rest) =>
        match skipSpace rest with
        | ':' :: rest =>
          match readValue calls rest with
          | none => none
          | some (value, rest) =>
            let field := (name.map String.ofList, value)
            match skipSpace rest with
            | ',' :: rest =>
              (readFields calls rest).map fun (fields, rest) ↦ (field :: fields, rest)
            | '}' :: rest => some ([field], rest)
            | _ => none
        | _ => none
    | _ => none

end

/-- The tree that a text spells: one value with nothing but white space around it. -/
def Tree.ofText? (text : String) : Option Tree :=
  let cs := text.toList
  match readValue (2 * cs.length + 2) cs with
  | none => none
  | some (tree, rest) => if (skipSpace rest).isEmpty then some tree else none

/-- The value that a text spells. -/
def ofText? (text : String) : Option Json :=
  (Tree.ofText? text).bind Tree.toJson?

end ResourceSearch.Json
