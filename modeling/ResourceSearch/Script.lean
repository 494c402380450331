import ResourceSearch.Json.Basic

/-!
# Update scripts

What the engine does to a document when a property changes: it copies a field, removes one, or
assigns a list of strings to one. A script is a list of such statements. As text, every name and
value stands in single quotes, with quotes and backslashes escaped, so that no name can end its
literal; `run` says what the statements do to the fields of a document.
-/

namespace ResourceSearch

/-- A step of a script. -/
inductive Statement where
  /-- Stores the value of one field under another name. -/
  | copy (source target : String)
  | remove (name : String)
  /-- Overwrites a field with a list of strings. -/
  | assign (name : String) (values : List String)
deriving DecidableEq, Repr

/-- The statements of a script, in the order in which they run. -/
abbrev Script := List Statement

namespace Script

/-! ## Scripts as text -/

/-- A character as it stands between single quotes. -/
def quoteChar (c : Char) : List Char :=
  if c = '\\' || c = '\'' then ['\\', c] else [c]

/-- A text as a literal. -/
def literal (text : String) : String :=
  String.ofList ('\'' :: text.toList.flatMap quoteChar ++ ['\''])

/-- The field with a name, as an expression. -/
def fieldText (name : String) : String :=
  "ctx._source[" ++ literal name ++ "]"

end Script

/-- A statement as text. -/
def Statement.text : Statement → String
  | copy source target => Script.fieldText target ++ " = " ++ Script.fieldText source ++ ";"
  | remove name => "ctx._source.remove(" ++ Script.literal name ++ ");"
  | assign name values =>
    Script.fieldText name ++ " = [" ++ ", ".intercalate (values.map Script.literal) ++ "];"

/-- A script as text. -/
def Script.text (script : Script) : String :=
  " ".intercalate (script.map Statement.text)

/-! ## Running scripts -/

/-- What a statement does to the fields of a document. A field that is not there has the value
`null`. -/
def Statement.run (statement : Statement) (fields : Dict String Json) : Dict String Json :=
  match statement with
  | copy source target => fields.insert target ((fields.get? source).getD .null)
  | remove name => fields.erase name
  | assign name values => fields.insert name (.strings values)

/-- What a script does to the fields of a document. -/
def Script.run (script : Script) (fields : Dict String Json) : Dict String Json :=
  script.foldl (fun fields statement ↦ statement.run fields) fields

theorem Script.run_append (first second : Script) (fields : Dict String Json) :
    Script.run (first ++ second) fields = second.run (first.run fields) := by
  simp [Script.run]

end ResourceSearch
