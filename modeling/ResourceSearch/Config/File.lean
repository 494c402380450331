import ResourceSearch.Config.Record
import ResourceSearch.Engine
import ResourceSearch.Json.Printer

/-!
# Configuration files

A configuration is saved as indented JSON. It is loaded only if it is valid, so a file can hold a
configuration that was saved and cannot be loaded.
-/

namespace ResourceSearch.Config

/-- The text that a configuration is saved as. -/
def text (config : Config) : String :=
  config.toJson.render .indented

/-- The configuration in a file with this text. -/
def ofFileText (path text : String) : Except ConfigError Config :=
  match (Json.Tree.ofText? text).bind ofTree? with
  | none => .error (.malformed path)
  | some config => config.validate.map fun _ ↦ config

variable {σ : Type}

/-- Loads the configuration in a file. -/
def load (path : String) : Run σ (Except ConfigError Config) := do
  match ← Run.readFile? path with
  | none => return .error (.inaccessible path)
  | some text => return ofFileText path text

/-- Saves a configuration to a file. -/
def save (config : Config) (path : String) : Run σ (Except ConfigError Unit) := do
  return if ← Run.writeFile path config.text then .ok () else .error (.inaccessible path)

end ResourceSearch.Config
