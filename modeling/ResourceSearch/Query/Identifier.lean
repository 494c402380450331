/-!
# Resource identifiers

An identifier names a resource by a scheme, a path and a fragment, all in ASCII. Where a form
cannot hold its punctuation it travels in an encoded form, in which every mark becomes a digit
between underscores. Decoding replaces one mark after the other in a fixed order, so a digit that
a replacement has brought next to an underscore may still count.
-/

namespace ResourceSearch.Query.Identifier

/-! ## Recognition -/

/-- The schemes of identifiers, with their marks. -/
def schemes : List (List Char) :=
  [['h', 't', 't', 'p', ':', '/', '/'], ['h', 't', 't', 'p', 's', ':', '/', '/'],
    ['f', 'i', 'l', 'e', ':', '/', '/'], ['f', 't', 'p', ':', '/', '/']]

/-- The characters of a fragment. -/
def isFragmentChar (c : Char) : Bool :=
  c.isAlphanum || c = '_' || c = '-'

/-- The characters of a path. -/
def isPathChar (c : Char) : Bool :=
  isFragmentChar c || c = '/' || c = ':' || c = '.'

/-- Whether a text is a path, a number sign and a fragment, neither of them empty. -/
def isPathAndFragment (cs : List Char) : Bool :=
  let path := cs.takeWhile (· ≠ '#')
  match cs.dropWhile (· ≠ '#') with
  | [] => false
  | _ :: fragment =>
    !path.isEmpty && path.all isPathChar && !fragment.isEmpty && fragment.all isFragmentChar

/-- Whether a text is an identifier. -/
def isIdentifier (cs : List Char) : Bool :=
  schemes.any fun scheme ↦ scheme.isPrefixOf cs && isPathAndFragment (cs.drop scheme.length)

/-! ## The form-safe encoding -/

/-- Replaces the mark of a digit by what it stands for, from left to right. -/
def replaceMark (digit : Char) (meaning : List Char) : List Char → List Char
  | '_' :: c :: '_' :: rest =>
    if c = digit then meaning ++ replaceMark digit meaning rest
    else '_' :: replaceMark digit meaning (c :: '_' :: rest)
  | c :: rest => c :: replaceMark digit meaning rest
  | [] => []

/-- The marks and what they stand for, in the order in which they are replaced. -/
def marks : List (Char × List Char) :=
  [('2', [':', '/', '/']), ('0', ['.']), ('1', ['/']), ('3', ['#']), ('4', [':'])]

/-- The identifier that an encoded one stands for. -/
def decode (cs : List Char) : List Char :=
  marks.foldl (fun cs mark ↦ replaceMark mark.1 mark.2 cs) cs

/-- The form-safe form of an identifier, made in one pass. -/
def encode : List Char → List Char
  | ':' :: '/' :: '/' :: rest => ['_', '2', '_'] ++ encode rest
  | '.' :: rest => ['_', '0', '_'] ++ encode rest
  | '/' :: rest => ['_', '1', '_'] ++ encode rest
  | '#' :: rest => ['_', '3', '_'] ++ encode rest
  | ':' :: rest => ['_', '4', '_'] ++ encode rest
  | c :: rest => c :: encode rest
  | [] => []

/-- Whether a text is the encoded form of an identifier, or an identifier itself. -/
def isEncoded (cs : List Char) : Bool :=
  isIdentifier (decode cs)

end ResourceSearch.Query.Identifier
