import ResourceSearch.Json.Basic

/-!
# Log events

What an operation reports about itself while it runs: a level, a message, and named values. They
are part of what an operation does, so a run of the service records them in order.
-/

namespace ResourceSearch

inductive Level where
  | trace
  | debug
  | info
  | warn
  | error
deriving DecidableEq, Repr

def Level.name : Level → String
  | trace => "TRACE"
  | debug => "DEBUG"
  | info => "INFO"
  | warn => "WARN"
  | error => "ERROR"

/-- One line of a log. -/
structure Event where
  level : Level
  message : String
  /-- Named values: texts and counts. -/
  fields : List (String × Json)

end ResourceSearch
