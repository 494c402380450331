import ResourceSearch.Json.Record

/-!
# Reports

What an administrative operation tells about its outcome: a message of some kind, with reports on
its parts below it.
-/

namespace ResourceSearch

inductive ReportKind where
  | info
  | success
  | error
deriving DecidableEq, Repr

namespace ReportKind

def name : ReportKind → String
  | info => "info"
  | success => "success"
  | error => "error"

def all : List ReportKind := [info, success, error]

/-- The kind that a name names. -/
def ofString? (name : String) : Option ReportKind :=
  all.find? (·.name = name)

end ReportKind

/-- The outcome of an operation, with the outcomes of its parts. -/
inductive Report where
  | node (kind : ReportKind) (message : String) (children : List Report)

namespace Report

def info (message : String) : Report := node .info message []

def success (message : String) : Report := node .success message []

def error (message : String) : Report := node .error message []

def kind : Report → ReportKind
  | node kind _ _ => kind

def children : Report → List Report
  | node _ _ children => children

/-- Adds a report on one more part, after the others. -/
def add : Report → Report → Report
  | node kind message children, child => node kind message (children ++ [child])

mutual

/-- Whether a report or one below it is an error. -/
def containsError : Report → Bool
  | node kind _ children => kind = .error || anyContainsError children

def anyContainsError : List Report → Bool
  | [] => false
  | report :: reports => report.containsError || anyContainsError reports

end

mutual

/-- The lines of a report at a depth, each level two blanks deeper than the one above. -/
def textAt (depth : Nat) : Report → String
  | node kind message children =>
    String.ofList (List.replicate (2 * depth) ' ') ++ "[" ++ kind.name ++ "] " ++ message ++ "\n" ++
      textsAt (depth + 1) children

def textsAt (depth : Nat) : List Report → String
  | [] => ""
  | report :: reports => report.textAt depth ++ textsAt depth reports

end

/-- A report as text. -/
def text (report : Report) : String := report.textAt 0

mutual

/-- A report as a value; a report without parts does not mention them. -/
def toJson : Report → Json
  | node kind message [] => .object [("kind", .string kind.name), ("message", .string message)]
  | node kind message (child :: children) =>
    .object
      [("kind", .string kind.name), ("message", .string message),
        ("children", .array (child.toJson :: toJsons children))]

def toJsons : List Report → List Json
  | [] => []
  | report :: reports => report.toJson :: toJsons reports

end

/-- The report that a value describes, with at most `depth` levels of parts. -/
def ofTreeWithin? : Nat → Json.Tree → Option Report
  | 0, _ => none
  | depth + 1, tree => do
    let record ← tree.record? ["kind", "message", "children"]
    let kind ← record.required "kind" <|
      Json.Tree.choice? (ReportKind.all.map fun kind ↦ (kind.name, kind))
    let message ← record.required "message" Json.Tree.string?
    let children ← record.withDefault "children" (Json.Tree.list? (ofTreeWithin? depth)) []
    return .node kind message children

/-- The report that a value describes. No value is nested more deeply than the bound. -/
def ofTree? (tree : Json.Tree) : Option Report :=
  ofTreeWithin? Json.maxDepth tree

end Report

end ResourceSearch
