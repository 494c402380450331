import ResourceSearch.Access
import ResourceSearch.Access.Record
import ResourceSearch.Activation
import ResourceSearch.CommandLine.Command
import ResourceSearch.CommandLine.Execution
import ResourceSearch.CommandLine.Scan
import ResourceSearch.Config.Basic
import ResourceSearch.Config.File
import ResourceSearch.Config.Record
import ResourceSearch.Definition.BuiltIn
import ResourceSearch.Definition.File
import ResourceSearch.Diagnostics
import ResourceSearch.Dict
import ResourceSearch.Document
import ResourceSearch.Document.Kind
import ResourceSearch.Engine
import ResourceSearch.Engine.Response
import ResourceSearch.Engine.Store
import ResourceSearch.Event
import ResourceSearch.Files
import ResourceSearch.Indexing
import ResourceSearch.Json.Basic
import ResourceSearch.Json.Binary64
import ResourceSearch.Json.Literal
import ResourceSearch.Json.Printer
import ResourceSearch.Json.Reader
import ResourceSearch.Json.Record
import ResourceSearch.Json.Tree
import ResourceSearch.Lookup
import ResourceSearch.Main
import ResourceSearch.Proofs.Activation
import ResourceSearch.Proofs.Config.Hosts
import ResourceSearch.Proofs.Config.Saving
import ResourceSearch.Proofs.Definition.Agreement
import ResourceSearch.Proofs.Definition.Creation
import ResourceSearch.Proofs.Definition.Failures
import ResourceSearch.Proofs.Definition.Layouts
import ResourceSearch.Proofs.Definition.Loading
import ResourceSearch.Proofs.Definition.Readers
import ResourceSearch.Proofs.Dict
import ResourceSearch.Proofs.Document.Choice
import ResourceSearch.Proofs.Document.Kinds
import ResourceSearch.Proofs.Document.Readers
import ResourceSearch.Proofs.Document.Routes
import ResourceSearch.Proofs.Document.Types
import ResourceSearch.Proofs.Document.Typing
import ResourceSearch.Proofs.Engine.Calls
import ResourceSearch.Proofs.Engine.Deletion
import ResourceSearch.Proofs.Engine.Holders
import ResourceSearch.Proofs.Engine.Plans
import ResourceSearch.Proofs.Indexing.Accounting
import ResourceSearch.Proofs.Indexing.Batches
import ResourceSearch.Proofs.Indexing.Evolution
import ResourceSearch.Proofs.Indexing.Flushing
import ResourceSearch.Proofs.Indexing.Removal
import ResourceSearch.Proofs.Indexing.Upserts
import ResourceSearch.Proofs.Json.Decoding
import ResourceSearch.Proofs.Json.Literals
import ResourceSearch.Proofs.Json.Records
import ResourceSearch.Proofs.Json.Reordering
import ResourceSearch.Proofs.Json.RoundTrip
import ResourceSearch.Proofs.Query.Colons
import ResourceSearch.Proofs.Query.Conjuncts
import ResourceSearch.Proofs.Query.Cuts
import ResourceSearch.Proofs.Query.EncodedFields
import ResourceSearch.Proofs.Query.Encoding
import ResourceSearch.Proofs.Query.Fields
import ResourceSearch.Proofs.Query.Filtering
import ResourceSearch.Proofs.Query.Isolation
import ResourceSearch.Proofs.Query.Joining
import ResourceSearch.Proofs.Query.Labels
import ResourceSearch.Proofs.Query.Names
import ResourceSearch.Proofs.Query.ParsedFields
import ResourceSearch.Proofs.Query.Principals
import ResourceSearch.Proofs.Query.Printing
import ResourceSearch.Proofs.Query.Reading
import ResourceSearch.Proofs.Query.References
import ResourceSearch.Proofs.Query.Sanitized
import ResourceSearch.Proofs.Query.Slugs
import ResourceSearch.Proofs.Query.Spelling
import ResourceSearch.Proofs.Query.Splitting
import ResourceSearch.Proofs.Routing
import ResourceSearch.Proofs.Routing.Priority
import ResourceSearch.Proofs.Script.Changes
import ResourceSearch.Proofs.Script.Grammar
import ResourceSearch.Proofs.Script.Outcomes
import ResourceSearch.Proofs.Script.Renaming
import ResourceSearch.Proofs.Text.ByteOrder
import ResourceSearch.Proofs.Text.Lowercase
import ResourceSearch.Proofs.Text.SmallForms
import ResourceSearch.Query.Block
import ResourceSearch.Query.CharacterReference
import ResourceSearch.Query.Compiler
import ResourceSearch.Query.Condition
import ResourceSearch.Query.Identifier
import ResourceSearch.Query.Slug
import ResourceSearch.Query.Sort
import ResourceSearch.Report
import ResourceSearch.Resource
import ResourceSearch.Routing
import ResourceSearch.SchemaChange
import ResourceSearch.Script
import ResourceSearch.Service
import ResourceSearch.Text.Alphanumeric
import ResourceSearch.Text.Blank
import ResourceSearch.Text.Cased
import ResourceSearch.Text.Lowercase
import ResourceSearch.Text.Printable
import ResourceSearch.Text.Quoted
import ResourceSearch.Text.Ranges
import ResourceSearch.Proofs.Files
