import ResourceSearch.Query.Block
import ResourceSearch.Query.Slug
import ResourceSearch.Routing

/-!
# Conditions

What a block asks of a document, in the engine's own query syntax. Every term stands in a quoted
phrase, every condition in parentheses. A standard field is asked for by its name. Any other
field is a property that the host's users have defined, which is stored under its slug behind the
name of the widget that edits it; since the widget is not known, all of them are asked for.
-/

namespace ResourceSearch.Query

/-- The fields that every index stores under their own names. -/
def standardFields : List String :=
  ["class", "parent_classes", "content", "label", "model", "login", "delivery", "test_taker",
    "test_taker_name", "delivery_execution", "custom_tag", "context_id", "context_label",
    "resource_link_id"]

/-- The widgets that edit the properties users define. -/
def widgets : List String :=
  ["HTMLArea", "TextArea", "TextBox", "ComboBox", "CheckBox", "RadioBox", "SearchTextBox",
    "SearchDropdown"]

/-- Whether a field is stored under its own name, whatever its letter case. -/
def isStandardField (field : String) : Bool :=
  String.ofList (Text.lowercase field.toList) ∈ standardFields

/-- A quoted phrase. -/
def phrase (term : String) : String :=
  "\"" ++ term ++ "\""

/-- A field with a phrase to be found in it. -/
def fieldPhrase (field term : String) : String :=
  field ++ ":" ++ phrase term

/-- A condition stands in parentheses. -/
def parenthesized (text : String) : String :=
  "(" ++ text ++ ")"

/-- The name under which a property is stored, apart from its widget: an encoded identifier is
safe as it is, a label has a slug. -/
def propertyName (field : String) : String :=
  if Identifier.isEncoded field.toList then field else slug field

/-- The fields in which a property may be stored, one for each widget. -/
def propertyFields (field : String) : List String :=
  widgets.map fun widget ↦ widget ++ "_" ++ propertyName field

/-- The condition of a block on resources. -/
def Block.condition (block : Block) : String :=
  match block.field with
  | none => parenthesized (phrase block.term)
  | some field =>
    if isStandardField field then parenthesized (fieldPhrase field block.term)
    else
      parenthesized
        (" OR ".intercalate ((propertyFields field).map (fieldPhrase · block.term)))

/-- The field that is not asked for among delivery results. -/
def parentClassesField : String := "parent_classes"

/-- The conditions of blocks on delivery results, which carry plain text only: fields do not
count, and a block about ancestor classes asks for nothing. -/
def resultConditions (blocks : List Block) : List String :=
  (blocks.filter (·.field ≠ some parentClassesField)).map fun block ↦
    parenthesized (phrase block.term)

/-- The conditions of blocks on the documents of an index. -/
def conditions (index : String) (blocks : List Block) : List String :=
  if index = Index.deliveryResults then resultConditions blocks
  else blocks.map Block.condition

/-- The query text in which all conditions have to hold. -/
def conjunction (conditions : List String) : String :=
  " AND ".intercalate conditions

end ResourceSearch.Query
