import ResourceSearch.Access
import ResourceSearch.Config.Basic
import ResourceSearch.Document
import ResourceSearch.Engine

/-!
# Built-in index definitions

The definition of every index that a routing table names, for hosts that bring none of their own.
The standard fields have explicit mappings; the fields of properties follow templates by the
widget that edits them. An index has the field for readers exactly when its queries are filtered.
-/

namespace ResourceSearch

namespace Mapping

/-- A field that is matched as a whole. -/
def keyword : Json :=
  .ofFields [("type", .string "keyword"), ("ignore_above", .nat 256)]

/-- A field that is searched by its words. -/
def text : Json :=
  .object [("type", .string "text")]

/-- A field that is searched by its words and by their beginnings. -/
def label : Json :=
  .ofFields
    [("type", .string "text"),
      ("store", .bool true),
      ("fields", .object [("autocomplete",
        .ofFields [("type", .string "text"), ("analyzer", .string "autocomplete")])])]

/-- The fields that every index has. -/
def base : List (String × Json) :=
  [("class", keyword), ("parent_classes", keyword), ("label", label), (typeField, keyword)]

/-- The fields of one of the built-in indices besides those that every index has. -/
def ofIndex (index : String) : List (String × Json) :=
  if index = Index.items then [("content", text), ("model", keyword)]
  else if index = Index.testTakers then [("login", keyword)]
  else if index = Index.deliveries then [("comment", text)]
  else if index = Index.deliveryResults then
    (["delivery", "test_taker", "delivery_execution", "custom_tag", "context_id",
      "resource_link_id"].map (·, keyword)) ++
      [("test_taker_name", text), ("context_label", text)]
  else []

/-- The fields of an index, by name. -/
def properties (routing : RoutingTable) (index : String) : Dict String Json :=
  .ofList (base ++ ofIndex index ++
    if routing.isAccessControlled index then [(readAccessField, keyword)] else [])

/-- The widgets whose values are searched by their words. -/
def textWidgets : List String := ["HTMLArea", "TextArea", "TextBox", "SearchTextBox"]

/-- The widgets whose values are matched as a whole. -/
def keywordWidgets : List String := ["CheckBox", "ComboBox", "RadioBox", "SearchDropdown"]

/-- The template for the fields that one widget edits. -/
def widgetTemplate (widget type : String) : Json :=
  .object [(widget, .ofFields
    [("match", .string (widget ++ "_*")),
      ("match_mapping_type", .string "string"),
      ("mapping", .object [("type", .string type)])])]

/-- The templates for the fields of properties. -/
def templates : Json :=
  .array ((textWidgets.map (widgetTemplate · "text")) ++
    keywordWidgets.map (widgetTemplate · "keyword"))

end Mapping

namespace Config

/-- The settings of every index: how it is spread, and how word beginnings are found. -/
def indexSettings (config : Config) : Json :=
  .ofFields
    [("index", .ofFields
      [("number_of_shards", .nat config.numberOfShards.toNat),
        ("number_of_replicas", .nat config.numberOfReplicas.toNat)]),
      ("analysis", .ofFields
        [("filter", .object [("autocomplete_filter", .ofFields
          [("type", .string "edge_ngram"),
            ("min_gram", .nat config.autocomplete.minGram.toNat),
            ("max_gram", .nat config.autocomplete.maxGram.toNat)])]),
          ("analyzer", .object [("autocomplete", .ofFields
            [("type", .string "custom"),
              ("tokenizer", .string "standard"),
              ("filter", .strings ["lowercase", "autocomplete_filter"])])])])]

/-- The built-in definition of an index. -/
def definition (config : Config) (index : String) : IndexDefinition where
  index := index
  body := .ofFields
    [("mappings", .ofFields
      [("properties", .ofDict (Mapping.properties config.routing index)),
        ("dynamic_templates", Mapping.templates)]),
      ("settings", config.indexSettings)]

/-- The built-in definitions of all indices that exist. -/
def definitions (config : Config) : List IndexDefinition :=
  config.routing.physicalIndices.map config.definition

end Config

end ResourceSearch
