import ResourceSearch.Query.CharacterReference
import ResourceSearch.Query.Identifier
import ResourceSearch.Text.Blank
import ResourceSearch.Text.Lowercase

/-!
# Query blocks

What a user types is a list of blocks joined by the word AND. A block is a bare term, a bare
resource identifier, or a field and a term with a colon between them.

The text is sanitized before it is cut, so that nothing in it can end a quoted phrase: character
references are decoded, quotes are dropped, and backslashes are doubled. A colon after an odd run
of backslashes is part of the field.
-/

namespace ResourceSearch.Query

/-- A piece of a query. -/
structure Block where
  /-- The field to look in; none for free text. -/
  field : Option String
  term : String
deriving DecidableEq, Repr

/-! ## Sanitizing -/

/-- What a character becomes inside a phrase. -/
def cleanChar (c : Char) : List Char :=
  if c = '"' || c = '\'' then []
  else if c = '\\' then ['\\', '\\']
  else [c]

/-- Makes the characters of raw input safe to stand in a phrase. -/
def sanitizeChars (cs : List Char) : List Char :=
  (CharacterReference.decodeAll cs).flatMap cleanChar

/-- Makes raw input safe to stand in a phrase. -/
def sanitize (text : String) : String :=
  String.ofList (sanitizeChars text.toList)

/-! ## Cutting at the delimiter -/

/-- Whether three characters spell the word AND, in any letter case. -/
def isAnd (a n d : Char) : Bool :=
  (a = 'a' || a = 'A') && (n = 'n' || n = 'N') && (d = 'd' || d = 'D')

/-- Puts a character in front of the first part. -/
def consFirst (c : Char) : List (List Char) → List (List Char)
  | [] => [[c]]
  | part :: parts => (c :: part) :: parts

/-- The parts between delimiters, each delimiter the leftmost after the one before. -/
def splitChars : List Char → List (List Char)
  | ' ' :: a :: n :: d :: ' ' :: rest =>
    if isAnd a n d then [] :: splitChars rest
    else consFirst ' ' (splitChars (a :: n :: d :: ' ' :: rest))
  | c :: rest => consFirst c (splitChars rest)
  | [] => [[]]

/-- The parts of a query between its delimiters: a blank, the word AND and a blank. -/
def split (text : String) : List String :=
  (splitChars text.toList).map String.ofList

theorem consFirst_ne_nil (c : Char) (parts : List (List Char)) : consFirst c parts ≠ [] := by
  cases parts <;> simp [consFirst]

theorem splitChars_ne_nil (cs : List Char) : splitChars cs ≠ [] := by
  unfold splitChars
  split
  · split
    · simp
    · exact consFirst_ne_nil _ _
  · exact consFirst_ne_nil _ _
  · simp

/-! ## Cutting a block at its colon -/

/-- Puts a character in front of what stands before a cut. -/
def consBefore (c : Char) : Option (List Char × List Char) → Option (List Char × List Char)
  | none => none
  | some (before, after) => some (c :: before, after)

/-- The parts before and after the first colon that stands after an even run of backslashes, where
`escaped` says that the run just passed is odd. -/
def cutAtColon (escaped : Bool) : List Char → Option (List Char × List Char)
  | [] => none
  | c :: rest =>
    if c = '\\' then consBefore c (cutAtColon (!escaped) rest)
    else if c = ':' && !escaped then some ([], rest)
    else consBefore c (cutAtColon false rest)

/-- A field as it is looked up: in lower case, unless it encodes an identifier. -/
def normalizeField (field : List Char) : List Char :=
  if Identifier.isEncoded field then field else Text.lowercase field

/-- The block that a part of a sanitized query spells. -/
def Block.ofChars (cs : List Char) : Block :=
  let whole := Text.trim cs
  if Identifier.isIdentifier whole then ⟨none, String.ofList whole⟩
  else
    match cutAtColon false cs with
    | none => ⟨none, String.ofList whole⟩
    | some (before, after) =>
      let field := Text.trim before
      let term := String.ofList (Text.trim after)
      if field.isEmpty then ⟨none, term⟩
      else ⟨some (String.ofList (normalizeField field)), term⟩

/-- The block that a part of a sanitized query spells. -/
def Block.parse (text : String) : Block :=
  .ofChars text.toList

/-- The blocks of a raw query. -/
def parse (text : String) : List Block :=
  (splitChars (sanitizeChars text.toList)).map Block.ofChars

end ResourceSearch.Query
